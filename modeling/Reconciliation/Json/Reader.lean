import Reconciliation.Json.Real
import Reconciliation.Text.Numeral

/-!
# Reading JSON

A reader takes what it needs from the front of a text and hands back the rest, or says what
is wrong and where. Strings are read character by character, with the state of an escape
in hand (`Spot`); values by recursion, bounded by the length of the text.

A value that is kept may be nested 127 deep, has finite numbers and paired surrogates. A
value that is passed over needs its form alone. Where embedded texts are resolved, an object
whose first member is called `embeddedName` stands for the value in the text of that
member, and may have no other.
-/

namespace Reconciliation.Json

open Text

/-- The four characters that may stand between tokens. -/
def isSpace (c : Char) : Bool := c == ' ' || c == '\t' || c == '\n' || c == '\r'

/-- The text without the white space at its front. -/
def skipSpace (s : List Char) : List Char := s.dropWhile isSpace

/-! ## Strings -/

/-- Where the reader stands inside a string. -/
inductive Spot where
  /-- Between characters. -/
  | plain
  /-- After a backslash. -/
  | escape
  /-- Inside the four digits of an escape, `seen` of them read; `high` is the first half of a
  surrogate pair. -/
  | digits (high : Option Nat) (seen value : Nat)
  /-- After the first half of a pair: a backslash is due. -/
  | second (high : Nat)
  /-- After the first half of a pair and a backslash: the letter `u` is due. -/
  | secondU (high : Nat)

/-- The character that a letter after a backslash stands for. -/
def shortEscape? : Char → Option Char
  | '"' => some '"'
  | '\\' => some '\\'
  | '/' => some '/'
  | 'b' => some '\x08'
  | 'f' => some '\x0c'
  | 'n' => some '\n'
  | 'r' => some '\r'
  | 't' => some '\t'
  | _ => none

def isHighSurrogate (n : Nat) : Bool := 0xD800 ≤ n && n ≤ 0xDBFF

def isLowSurrogate (n : Nat) : Bool := 0xDC00 ≤ n && n ≤ 0xDFFF

/-- The character of a surrogate pair. -/
def pairChar (high low : Nat) : Char :=
  Char.ofNat ((high - 0xD800) * 0x400 + (low - 0xDC00) + 0x10000)

/-- The characters of a string up to its closing quote, from a spot inside it. -/
def stringChars (care : Care) : Spot → Front (List Char)
  | .plain, '"' :: r => .ok ([], r)
  | .plain, '\\' :: r => stringChars care .escape r
  | .plain, c :: r =>
    if c.toNat < 0x20 then .error (failAt .controlCharacter r)
    else (stringChars care .plain r).map fun (cs, rest) => (c :: cs, rest)
  | .escape, 'u' :: r => stringChars care (.digits none 0 0) r
  | .escape, c :: r =>
    match shortEscape? c with
    | some e => (stringChars care .plain r).map fun (cs, rest) => (e :: cs, rest)
    | none => .error (failAfter .invalidEscape (c :: r))
  | .digits high seen value, c :: r =>
    match hexValue? c with
    | none =>
      -- four digits are taken at once, so the text has to have as many bytes left
      if byteLength (c :: r) < 4 - seen then .error (failAt .endInString [])
      else .error { reason := .invalidEscape, left := byteLength (c :: r) - (4 - seen) }
    | some d =>
      let n := 16 * value + d
      if seen < 3 then stringChars care (.digits high (seen + 1) n) r
      -- who passes over a text puts no pairs together
      else if care = .skip then
        (stringChars care .plain r).map fun (cs, rest) => (Char.ofNat n :: cs, rest)
      else
        match high with
        | some h =>
          if isLowSurrogate n then
            (stringChars care .plain r).map fun (cs, rest) => (pairChar h n :: cs, rest)
          else .error (failAt .loneSurrogate r)
        | none =>
          if isLowSurrogate n then .error (failAt .loneSurrogate r)
          else if isHighSurrogate n then stringChars care (.second n) r
          else (stringChars care .plain r).map fun (cs, rest) => (Char.ofNat n :: cs, rest)
  | .second high, '\\' :: r => stringChars care (.secondU high) r
  | .second _, c :: r => .error (failAfter .unfinishedPair (c :: r))
  | .secondU high, 'u' :: r => stringChars care (.digits (some high) 0 0) r
  | .secondU _, c :: r => .error (failAfter .unfinishedPair (c :: r))
  | _, [] => .error (failAt .endInString [])

/-- The string whose opening quote has been read. -/
def stringTail (care : Care) (s : List Char) : Except Failure (String × List Char) :=
  (stringChars care .plain s).map fun (cs, rest) => (String.ofList cs, rest)

/-! ## Values -/

/-- The rest of a word whose first letter has been read. -/
def word (letters : List Char) (s : List Char) : Except Failure (Unit × List Char) :=
  match letters, s with
  | [], s => .ok ((), s)
  | _ :: _, [] => .error (failAt .endInValue [])
  | l :: ls, c :: r => if c = l then word ls r else .error (failAfter .expectedWord (c :: r))

/-- The colon after a key. -/
def colon (s : List Char) : Except Failure (Unit × List Char) :=
  match skipSpace s with
  | [] => .error (failAt .endInObject [])
  | ':' :: r => .ok ((), r)
  | s => .error (failAfter .expectedColon s)

/-- How an object goes on: with the opening quote of a key, which is read, or with its end,
which is left to be read. -/
def nextKey (first : Bool) (s : List Char) : Except Failure (Bool × List Char) :=
  match skipSpace s with
  | [] => .error (failAt .endInObject [])
  | '\x7d' :: r => .ok (false, '\x7d' :: r)
  | c :: r =>
    if first then
      if c = '"' then .ok (true, r) else .error (failAfter .keyNotString (c :: r))
    else if c = ',' then
      match skipSpace r with
      | [] => .error (failAt .endInValue [])
      | '"' :: r => .ok (true, r)
      | '\x7d' :: r => .error (failAfter .trailingComma ('\x7d' :: r))
      | s => .error (failAfter .keyNotString s)
    else .error (failAfter .expectedCommaOrBrace (c :: r))

/-- How an array goes on: with an item, or with its end; either is left to be read. -/
def nextItem (first : Bool) (s : List Char) : Except Failure (Bool × List Char) :=
  match skipSpace s with
  | [] => .error (failAt .endInList [])
  | ']' :: r => .ok (false, ']' :: r)
  | c :: r =>
    if first then .ok (true, c :: r)
    else if c = ',' then
      match skipSpace r with
      | [] => .error (failAt .endInValue [])
      | ']' :: r => .error (failAfter .trailingComma (']' :: r))
      | s => .ok (true, s)
    else .error (failAfter .expectedCommaOrBracket (c :: r))

/-! ## Embedded texts -/

/-- How deep a value may be nested. -/
def depthLimit : Nat := 127

/-- The end of the text. -/
def finish (s : List Char) : Except Failure Unit :=
  match skipSpace s with
  | [] => .ok ()
  | s => .error (failAfter .trailingCharacters s)

/-- The name of the member that holds an embedded text. -/
def embeddedName : String := "$serde_json::private::RawValue"

/-- What follows the name, if the first member of an object is called `embeddedName`. -/
def embedding? (s : List Char) : Option (List Char) :=
  match skipSpace s with
  | '"' :: r =>
    match stringTail .keep r with
    | .ok (name, rest) => if name = embeddedName then some rest else none
    | .error _ => none
  | _ => none

/-- The embedded text, from the colon on. Anything but a list or an object is read to its end
before it is refused. -/
def embeddedText (s : List Char) : Except Failure (List Char × List Char) := do
  let ((), s) ← colon s
  match skipSpace s with
  | [] => .error (failAt .endInValue [])
  | '"' :: r => (stringTail .keep r).map fun (t, r) => (t.toList, r)
  | '[' :: r => .error (failAt (.notText "sequence") ('[' :: r))
  | '\x7b' :: r => .error (failAt (.notText "map") ('\x7b' :: r))
  | 'n' :: r => do
    let ((), r) ← word ['u', 'l', 'l'] r
    .error (failAt (.notText "null") r)
  | 't' :: r => do
    let ((), r) ← word ['r', 'u', 'e'] r
    .error (failAt (.notText "boolean `true`") r)
  | 'f' :: r => do
    let ((), r) ← word ['a', 'l', 's', 'e'] r
    .error (failAt (.notText "boolean `false`") r)
  | c :: r =>
    if c = '-' ∨ isDigit c then do
      let (l, rest) ← literal .keep (c :: r)
      match l.overflow? rest with
      | some failure => .error failure
      | none => .error (failAt (.notText l.described) rest)
    else .error (failAfter .expectedValue (c :: r))

/-- The closing brace after the only member of an object. -/
def closeObject (s : List Char) : Except Failure (List Char) :=
  match skipSpace s with
  | [] => .error (failAt .endInObject [])
  | '\x7d' :: r => .ok r
  | ',' :: r => .error (failAfter .trailingComma (',' :: r))
  | s => .error (failAfter .trailingCharacters s)

mutual

/-- The value at the front; `room` is how deep arrays and objects may still be nested. -/
def value (care : Care) (fuel room : Nat) (s : List Char) : Except Failure (Value × List Char) :=
  match fuel with
  | 0 => .error (failAt .endInValue s)
  | fuel + 1 =>
    match skipSpace s with
    | [] => .error (failAt .endInValue [])
    | 'n' :: r => (word ['u', 'l', 'l'] r).map fun (_, r) => (.null, r)
    | 't' :: r => (word ['r', 'u', 'e'] r).map fun (_, r) => (.bool true, r)
    | 'f' :: r => (word ['a', 'l', 's', 'e'] r).map fun (_, r) => (.bool false, r)
    | '"' :: r => (stringTail care r).map fun (t, r) => (.string t, r)
    | '[' :: r =>
      if care ≠ .skip ∧ room = 0 then .error (failAfter .tooDeep ('[' :: r))
      else (items care fuel (room - 1) true r).map fun (vs, r) => (.array vs, r)
    | '\x7b' :: r =>
      if care ≠ .skip ∧ room = 0 then .error (failAfter .tooDeep ('\x7b' :: r))
      else
        match care, embedding? r with
        | .resolve, some r => do
          let (text, r) ← embeddedText r
          -- the embedded text has the whole depth to itself
          match value care fuel depthLimit text with
          | .error f => .error (f.embedded text)
          | .ok (v, rest) =>
            ((finish rest).mapError fun f => f.embedded text)
            return (v, ← closeObject r)
        | _, _ => (members care fuel (room - 1) true r).map fun (ms, r) => (.object ms, r)
    | c :: r =>
      if c = '-' ∨ isDigit c then (number care (c :: r)).map fun (n, r) => (.number n, r)
      else .error (failAfter .expectedValue (c :: r))

/-- The items of an array up to its closing bracket. -/
def items (care : Care) (fuel room : Nat) (first : Bool) (s : List Char) :
    Except Failure (List Value × List Char) :=
  match fuel with
  | 0 => .error (failAt .endInList s)
  | fuel + 1 => do
    match ← nextItem first s with
    | (false, s) => return ([], s.drop 1)
    | (true, s) =>
      let (v, s) ← value care fuel room s
      let (vs, s) ← items care fuel room false s
      return (v :: vs, s)

/-- The members of an object up to its closing brace. -/
def members (care : Care) (fuel room : Nat) (first : Bool) (s : List Char) :
    Except Failure (List (String × Value) × List Char) :=
  match fuel with
  | 0 => .error (failAt .endInObject s)
  | fuel + 1 => do
    match ← nextKey first s with
    | (false, s) => return ([], s.drop 1)
    | (true, s) =>
      let (k, s) ← stringTail care s
      let ((), s) ← colon s
      let (v, s) ← value care fuel room s
      let (ms, s) ← members care fuel room false s
      return ((k, v) :: ms, s)

end

/-- Enough steps for any value in a text. -/
def enough (s : List Char) : Nat := 2 * s.length + 2

/-- The value at the front, kept. -/
def keepValue (room : Nat) (s : List Char) : Except Failure (Value × List Char) :=
  value .keep (enough s) room s

/-- Passes over the value at the front. -/
def skipValue (s : List Char) : Except Failure (Unit × List Char) :=
  (value .skip (enough s) 0 s).map fun (_, r) => ((), r)

/-- The value that a whole text denotes, embedded texts resolved. -/
def read (s : List Char) : Except Failure Value := do
  let (v, rest) ← value .resolve (enough s) depthLimit s
  finish rest
  return v

end Reconciliation.Json
