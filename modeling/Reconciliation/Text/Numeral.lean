/-!
# Numerals

Reading a whole number from its decimal digits, within bounds, and saying why a text
is no such number. Digits are taken from left to right, so of a bad character and an
overflow the one that comes first is reported. A sign may stand in front: `+` always,
`-` where the bounds go below zero.

`digitsValue` is the number that a run of digits denotes; `magnitude` reads it under a
limit, and agrees with it whenever it succeeds.

Of hexadecimal numerals there are the sixteen digits in lower case, the value of a digit
written in either case, and numbers with a fixed count of digits to any base.
-/

namespace Reconciliation.Text

/-! ## Decimal numerals -/

/-- Why a text is no numeral within its bounds. -/
inductive NumeralError where
  /-- The text is empty. -/
  | empty
  /-- A character is no digit, or a sign stands alone. -/
  | invalidDigit
  /-- The number passes the upper bound. -/
  | tooLarge
  /-- The number passes the lower bound. -/
  | tooSmall
deriving DecidableEq, Repr

/-- The wording of a numeral error. -/
def NumeralError.message : NumeralError → String
  | .empty => "cannot parse integer from empty string"
  | .invalidDigit => "invalid digit found in string"
  | .tooLarge => "number too large to fit in target type"
  | .tooSmall => "number too small to fit in target type"

/-- The value of an ASCII decimal digit. -/
def digit? (c : Char) : Option Nat :=
  if '0' ≤ c ∧ c ≤ '9' then some (c.toNat - '0'.toNat) else none

/-- Whether the character is an ASCII decimal digit. -/
def isDigit (c : Char) : Bool := (digit? c).isSome

/-- The number denoted by `start` followed by further digits; other characters count as zero. -/
def digitsValue (start : Nat) (s : List Char) : Nat :=
  s.foldl (fun n c => 10 * n + (digit? c).getD 0) start

/-- Reads digits onto `start`, failing at the first character that is no digit or takes the
number past `limit`. -/
def magnitude (limit : Nat) (beyond : NumeralError) (start : Nat) :
    List Char → Except NumeralError Nat
  | [] => .ok start
  | c :: r =>
    match digit? c with
    | none => .error .invalidDigit
    | some d =>
      if 10 * start + d ≤ limit then magnitude limit beyond (10 * start + d) r else .error beyond

/-- A number from zero to `limit`: an optional `+` and at least one digit. -/
def readNatural (limit : Nat) : List Char → Except NumeralError Nat
  | [] => .error .empty
  | ['+'] => .error .invalidDigit
  | '+' :: r => magnitude limit .tooLarge 0 r
  | s => magnitude limit .tooLarge 0 s

/-- A number from `-below` to `above`: an optional sign and at least one digit. -/
def readInteger (below above : Nat) : List Char → Except NumeralError Int
  | [] => .error .empty
  | ['+'] | ['-'] => .error .invalidDigit
  | '+' :: r => (magnitude above .tooLarge 0 r).map Int.ofNat
  | '-' :: r => (magnitude below .tooSmall 0 r).map (fun n => -(n : Int))
  | s => (magnitude above .tooLarge 0 s).map Int.ofNat

/-- The decimal numeral of a number, with a minus sign below zero. -/
def decimal (n : Int) : List Char :=
  if n < 0 then '-' :: Nat.toDigits 10 n.natAbs else Nat.toDigits 10 n.natAbs

/-- The decimal numeral of a number as a string. -/
def decimalText (n : Int) : String := String.ofList (decimal n)

/-- A natural number in at least `width` digits, filled up with zeros at the front. -/
def padded (width n : Nat) : List Char :=
  let ds := Nat.toDigits 10 n
  List.replicate (width - ds.length) '0' ++ ds

/-- A numeral that reads denotes the number its digits denote, within the limit. -/
theorem magnitude_eq_ok {limit : Nat} {beyond : NumeralError} {start n : Nat} {s : List Char}
    (h : magnitude limit beyond start s = .ok n) :
    s.all isDigit = true ∧ n = digitsValue start s ∧ (s ≠ [] → n ≤ limit) := by
  induction s generalizing start with
  | nil => simp only [magnitude, Except.ok.injEq] at h; simp [digitsValue, h]
  | cons c r ih =>
    unfold magnitude at h
    split at h
    · cases h
    · rename_i d hd
      split at h
      · rename_i hle
        obtain ⟨h1, h2, h3⟩ := ih h
        refine ⟨?_, ?_, fun _ => ?_⟩
        · simp [isDigit, hd, h1]
        · simp [digitsValue, hd, h2]
        · cases r with
          | nil => simp only [magnitude, Except.ok.injEq] at h; omega
          | cons c' r' => exact h3 (by simp)
      · cases h

/-! ## Hexadecimal digits -/

/-- The lower-case digit for a value below sixteen. -/
def hexDigit (n : Nat) : Char :=
  if n < 10 then Char.ofNat (48 + n) else Char.ofNat (87 + n)

/-- The value of a hexadecimal digit in either case. -/
def hexValue? (c : Char) : Option Nat :=
  if '0' ≤ c ∧ c ≤ '9' then some (c.toNat - 48)
  else if 'a' ≤ c ∧ c ≤ 'f' then some (c.toNat - 87)
  else if 'A' ≤ c ∧ c ≤ 'F' then some (c.toNat - 55)
  else none

/-- Whether the character is a hexadecimal digit in either case. -/
def isHex (c : Char) : Bool := (hexValue? c).isSome

/-- The number in lower-case hexadecimal without leading zeros. -/
def hexNumber (n : Nat) : List Char := Nat.toDigits 16 n

/-- The lowest `width` digits of a number to a base, highest first. -/
def lowDigits (base : Nat) : (width n : Nat) → List Nat
  | 0, _ => []
  | width + 1, n => lowDigits base width (n / base) ++ [n % base]

@[simp] theorem length_lowDigits (base width n : Nat) :
    (lowDigits base width n).length = width := by
  induction width generalizing n with
  | zero => rfl
  | succ w ih => simp [lowDigits, ih]

/-- A lower-case digit has the value that it was made from. -/
theorem hexValue?_hexDigit : ∀ n < 16, hexValue? (hexDigit n) = some n := by decide

end Reconciliation.Text
