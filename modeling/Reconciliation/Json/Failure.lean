import Reconciliation.Text.Bytes

/-!
# What is wrong with a JSON text

A failure names a reason and a place. The place is kept as the number of bytes that are
left after it; `place` turns that into a line and a column, where a column counts the
bytes since the last line break. A text may hold another JSON text, and a failure in that
one has its place there.

Reasons fall into three classes: the text ends too early, it is not JSON, or it is JSON
with the wrong content.
-/

namespace Reconciliation.Json

open Text

/-- Why reading a JSON text stopped. -/
inductive Reason where
  | endInValue
  | endInList
  | endInObject
  | endInString
  | expectedValue
  | expectedWord
  | expectedColon
  | expectedCommaOrBracket
  | expectedCommaOrBrace
  | trailingComma
  | trailingCharacters
  | keyNotString
  | controlCharacter
  | invalidNumber
  | numberOutOfRange
  | invalidEscape
  | loneSurrogate
  | unfinishedPair
  | tooDeep
  /-- Something else stands where an embedded text is due. -/
  | notText (found : String)
  /-- The text is well formed so far, but its content is not what is asked for. -/
  | content
deriving DecidableEq, Repr

/-- The wording of a reason. -/
def Reason.message : Reason → String
  | endInValue => "EOF while parsing a value"
  | endInList => "EOF while parsing a list"
  | endInObject => "EOF while parsing an object"
  | endInString => "EOF while parsing a string"
  | expectedValue => "expected value"
  | expectedWord => "expected ident"
  | expectedColon => "expected `:`"
  | expectedCommaOrBracket => "expected `,` or `]`"
  | expectedCommaOrBrace => "expected `,` or `\x7d`"
  | trailingComma => "trailing comma"
  | trailingCharacters => "trailing characters"
  | keyNotString => "key must be a string"
  | controlCharacter => "control character (\\u0000-\\u001F) found while parsing a string"
  | invalidNumber => "invalid number"
  | numberOutOfRange => "number out of range"
  | invalidEscape => "invalid escape"
  | loneSurrogate => "lone leading surrogate in hex escape"
  | unfinishedPair => "unexpected end of hex escape"
  | tooDeep => "recursion limit exceeded"
  | notText found => "invalid type: " ++ found ++ ", expected raw value"
  | content => "invalid content"

/-- The classes of reasons. -/
inductive Kind where
  /-- The text is not JSON. -/
  | malformed
  /-- The text ends too early. -/
  | ended
  /-- The text is JSON with the wrong content. -/
  | content
deriving DecidableEq, Repr

def Reason.kind : Reason → Kind
  | endInValue | endInList | endInObject | endInString => .ended
  | content | notText .. => .content
  | _ => .malformed

/-- A reason, and how many bytes of the text are left after the place where it arose. -/
structure Failure where
  reason : Reason
  left : Nat
  /-- The embedded text in which it arose, if it arose in one. -/
  inside : Option (List Char) := none
deriving DecidableEq, Repr

/-- A failure in an embedded text, as one of the text around it. -/
def Failure.embedded (f : Failure) (text : List Char) : Failure :=
  { f with inside := some (f.inside.getD text) }

/-- Line and column after the first `offset` bytes, from a line and column at the front. -/
def placeFrom (line column : Nat) : (offset : Nat) → List Char → Nat × Nat
  | _, [] => (line, column)
  | offset, c :: r =>
    if offset < c.utf8Size then (line, column + offset)
    else if c = '\n' then placeFrom (line + 1) 0 (offset - 1) r
    else placeFrom line (column + c.utf8Size) (offset - c.utf8Size) r

/-- Line, from 1, and column of a failure in the text that was read. -/
def Failure.place (text : List Char) (f : Failure) : Nat × Nat :=
  let text := f.inside.getD text
  placeFrom 1 0 (byteLength text - f.left) text

/-- The wording of a failure in the text that was read. -/
def Failure.message (text : List Char) (f : Failure) : String :=
  let (line, column) := f.place text
  f.reason.message ++ " at line " ++ Nat.repr line ++ " column " ++ Nat.repr column

end Reconciliation.Json
