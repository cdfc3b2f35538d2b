import Reconciliation.Decimal.Shortest
import Reconciliation.Json.Failure
import Reconciliation.Json.Value
import Reconciliation.Text.Numeral

/-!
# JSON numbers

Reading a number from the front of a text. A literal that is a plain integer of at most 64
bits is that integer; every other literal is a real number, which has to be finite: the
first digits that fit 64 bits and the power of ten are each rounded to 53 bits, and their
product must stay below the largest power of two that such numbers have.

When a number is only passed over, its size is not looked at.
-/

namespace Reconciliation.Json

open Text Decimal

/-- A reader of the front of a text: a value and the rest, or a failure. -/
abbrev Front (α : Type) := List Char → Except Failure (α × List Char)

/-- What is done with what is read. -/
inductive Care where
  /-- It is kept, so it has to be sound throughout, and embedded texts are read in their turn. -/
  | resolve
  /-- It is kept as it is, and has to be sound throughout. -/
  | keep
  /-- It is only passed over. -/
  | skip
deriving DecidableEq, Repr

/-- The failure right at the front of what is left. -/
def failAt (reason : Reason) (s : List Char) : Failure := { reason, left := byteLength s }

/-- The failure one byte into what is left, or at its end. -/
def failAfter (reason : Reason) (s : List Char) : Failure := { reason, left := byteLength s - 1 }

/-- The parts of a number literal. -/
structure Literal where
  negative : Bool
  whole : List Char
  fraction : Option (List Char)
  /-- Whether the exponent is negative, and its digits. -/
  exponent : Option (Bool × List Char)
deriving Repr

/-- Where a digit is due: what stands there instead is a failure after its first byte; the end
of the text is one of its own if the number is kept. -/
def digitDue (care : Care) : List Char → Failure
  | [] => failAt (if care = .skip then .invalidNumber else .endInValue) []
  | s => failAfter .invalidNumber s

/-- The digits before the point: one zero, or a run that does not begin with zero. -/
def wholeDigits (care : Care) : Front (List Char)
  | '0' :: r =>
    if (r.head?.map isDigit).getD false then .error (failAfter .invalidNumber r)
    else .ok (['0'], r)
  | s =>
    let ds := s.takeWhile isDigit
    if ds = [] then .error (digitDue care s) else .ok (ds, s.drop ds.length)

/-- The digits after the point, if there is one. -/
def fractionDigits (care : Care) : Front (Option (List Char))
  | '.' :: r =>
    let ds := r.takeWhile isDigit
    if ds = [] then .error (digitDue care r) else .ok (some ds, r.drop ds.length)
  | s => .ok (none, s)

/-- Sign and digits of the exponent, if there is one. -/
def exponentDigits (care : Care) (s : List Char) :
    Except Failure (Option (Bool × List Char) × List Char) :=
  let after (r : List Char) : Except Failure (Option (Bool × List Char) × List Char) :=
    let (negative, r) := match r with
      | '-' :: r => (true, r)
      | '+' :: r => (false, r)
      | r => (false, r)
    let ds := r.takeWhile isDigit
    if ds = [] then .error (digitDue care r) else .ok (some (negative, ds), r.drop ds.length)
  match s with
  | 'e' :: r => after r
  | 'E' :: r => after r
  | s => .ok (none, s)

/-- The literal at the front, by its form alone. -/
def literal (care : Care) (s : List Char) : Except Failure (Literal × List Char) := do
  let (negative, s) := match s with
    | '-' :: r => (true, r)
    | s => (false, s)
  let (whole, s) ← wholeDigits care s
  let (fraction, s) ← fractionDigits care s
  let (exponent, s) ← exponentDigits care s
  return (⟨negative, whole, fraction, exponent⟩, s)

/-- Adds digits to a number as long as it stays within the limit; the digits that are left. -/
def accumulate (limit : Nat) (n : Nat) : List Char → Nat × List Char
  | [] => (n, [])
  | c :: r =>
    let next := 10 * n + (digit? c).getD 0
    if next ≤ limit then accumulate limit next r else (n, c :: r)

/-- The largest number of 64 bits. -/
def largestWord : Nat := 18446744073709551615

/-- The largest exponent that is counted out. -/
def largestPower : Nat := 2147483647

/-- Whether digits and a power of ten make a number beyond all that have 53 binary digits and
an exponent of eleven. Without a power of ten no digits of 64 bits do. -/
def tooLarge (significand : Nat) (power : Int) : Bool :=
  if significand = 0 ∨ power ≤ 0 then false
  else if 308 < power then true
  else decide (pow2 1024 ≤ nearest (nearest significand * nearest (pow10 power)))

/-- The digits that count, and the power of ten that they are multiplied by before the
exponent: digits before the point that no longer fit raise it, digits after the point that
fit lower it. -/
def Literal.significand (l : Literal) : Nat × Int :=
  let (n, dropped) := accumulate largestWord 0 l.whole
  let places := l.fraction.getD []
  let (n, ignored) := accumulate largestWord n places
  (n, (dropped.length : Int) - (places.length - ignored.length : Nat))

/-- The failure of a number that is too large, if it is: right after the digit that makes the
exponent uncountable, or at its end. -/
def Literal.overflow? (l : Literal) (rest : List Char) : Option Failure :=
  let (n, power) := l.significand
  match l.exponent with
  | none => if tooLarge n power then some (failAt .numberOutOfRange rest) else none
  | some (negative, ds) =>
    match accumulate largestPower 0 ds with
    | (_, _ :: beyond) =>
      if n ≠ 0 ∧ ¬negative then some (failAt .numberOutOfRange (beyond ++ rest)) else none
    | (e, []) =>
      if tooLarge n (if negative then power - e else power + e) then
        some (failAt .numberOutOfRange rest)
      else none

/-- The characters of a literal. -/
def Literal.characters (l : Literal) : List Char :=
  (if l.negative then ['-'] else []) ++ l.whole ++
    (match l.fraction with
      | some ds => '.' :: ds
      | none => []) ++
    (match l.exponent with
      | some (negative, ds) => 'e' :: ((if negative then ['-'] else []) ++ ds)
      | none => [])

/-- The number that a literal denotes. -/
def Literal.number (l : Literal) : Number :=
  let n := digitsValue 0 l.whole
  if l.fraction.isSome ∨ l.exponent.isSome then .real l.characters
  else if l.negative then
    if 0 < n ∧ n ≤ 9223372036854775808 then .integer (-(n : Int)) else .real l.characters
  else if n ≤ largestWord then .integer n
  else .real l.characters

/-- The number at the front. -/
def number (care : Care) (s : List Char) : Except Failure (Number × List Char) := do
  let (l, rest) ← literal care s
  match care, l.overflow? rest with
  | .skip, _ | _, none => .ok (l.number, rest)
  | _, some failure => .error failure

end Reconciliation.Json
