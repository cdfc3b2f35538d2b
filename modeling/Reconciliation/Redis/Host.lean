import Reconciliation.Text.Numeral

/-!
# Hosts

A host in an address is a name or, in brackets, a network number: eight groups of one to
four hexadecimal digits with colons between them. Once in a number two colons may stand
for one or more groups of zeros, and the last two groups may be written as four decimal
bytes with full stops between them.
-/

namespace Reconciliation.Redis.Host

open Text

/-- Whether a text is a number up to 255 without needless zeros. -/
def isDecimalByte (s : List Char) : Bool :=
  !s.isEmpty && s.all isDigit && (s.length == 1 || s.head? != some '0') &&
    decide (digitsValue 0 s ≤ 255)

/-- Whether a text is four decimal bytes with full stops between them. -/
def isDottedQuad (s : List Char) : Bool :=
  let bytes := s.splitOnP (· == '.')
  bytes.length == 4 && bytes.all isDecimalByte

/-- Whether a text is a group of hexadecimal digits. -/
def isGroup (s : List Char) : Bool := !s.isEmpty && decide (s.length ≤ 4) && s.all isHex

/-- The texts between the colons; none in an empty text. -/
def groups (s : List Char) : List (List Char) :=
  if s.isEmpty then [] else s.splitOnP (· == ':')

/-- How many groups some texts make; decimal bytes at the end count as two. -/
def groupCount? : List (List Char) → Option Nat
  | [] => some 0
  | [last] => if isGroup last then some 1 else if isDottedQuad last then some 2 else none
  | g :: gs => if isGroup g then (groupCount? gs).map (· + 1) else none

/-- What stands before and after the first two adjacent colons, if there are any. -/
def splitAtGap? : List Char → Option (List Char × List Char)
  | [] => none
  | ':' :: ':' :: r => some ([], r)
  | c :: r => (splitAtGap? r).map fun (front, back) => (c :: front, back)

/-- Whether a text is a network number. -/
def isNetworkNumber (s : List Char) : Bool :=
  match splitAtGap? s with
  | none => groupCount? (groups s) == some 8
  | some (front, back) =>
    (groups front).all isGroup &&
      (groupCount? (groups back)).any fun n => decide ((groups front).length + n < 8)

/-- Whether a character may stand in a name. -/
def isNameChar (c : Char) : Bool := !"\x00\t\n\r #/:<>?@[\\]^|".toList.contains c

/-- Whether a text may stand for a host, or for the lack of one. -/
def isHost : List Char → Bool
  | '[' :: r => r.getLast? == some ']' && isNetworkNumber r.dropLast
  | s => s.all isNameChar

/-- A text split before the first colon that is not within brackets. -/
def splitAtColon (inBrackets : Bool) : List Char → List Char × List Char
  | [] => ([], [])
  | c :: r =>
    if c = ':' ∧ ¬inBrackets then ([], c :: r)
    else
      let (host, rest) := splitAtColon (c == '[' || (inBrackets && c != ']')) r
      (c :: host, rest)

end Reconciliation.Redis.Host
