/-!
# Shortest decimals

A binary fraction of 53 digits is shown as the decimal with the fewest digits that denotes no
other such fraction. Everything is exact: a value is a rational number, `nearest` rounds a
rational to 53 binary digits, and `shortest` tries the decimal grids from coarse to fine
until a point of one lies among the rationals that round to the value.
-/

namespace Reconciliation.Decimal

/-- Two to an integer power. -/
def pow2 (e : Int) : Rat := (2 : Rat) ^ e

/-- Ten to an integer power. -/
def pow10 (e : Int) : Rat := (10 : Rat) ^ e

/-- The exponent of the last of 53 binary digits of a positive number, or the smallest exponent that
there is. -/
def unitExponent (x : Rat) : Int :=
  let e : Int := (Nat.log2 x.num.natAbs : Int) - (Nat.log2 x.den : Int) - 53
  max (-1074) (if pow2 (e + 53) ≤ x then e + 1 else e)

/-- The nearest integer to a rational, a half going to the even neighbour. -/
def roundEven (x : Rat) : Int :=
  let q := x.floor
  let twice := 2 * (x - (q : Rat))
  if twice < 1 then q
  else if 1 < twice then q + 1
  else if q % 2 = 0 then q else q + 1

/-- A rational from zero on rounded to 53 binary digits. -/
def nearest (x : Rat) : Rat :=
  let e := unitExponent x
  (roundEven (x / pow2 e) : Rat) * pow2 e

/-- How many decimal digits a positive number has before the point; zero or less below one
tenth of one. -/
def decimalExponent (x : Rat) : Int :=
  let estimate : Int := (Nat.toDigits 10 x.num.natAbs).length - (Nat.toDigits 10 x.den).length
  if pow10 estimate ≤ x then estimate + 1
  else if pow10 (estimate - 1) ≤ x then estimate
  else estimate - 1

/-- Which of two decimals that are equally near is taken. -/
inductive Tie where
  /-- The larger. -/
  | up
  /-- The one whose last digit is even. -/
  | even
deriving DecidableEq

/-- The neighbour of `x` on the grid of tens to the power `e` that rounds to `x`, the nearer if
both do. -/
def onGrid (tie : Tie) (x : Rat) (e : Int) : Option Int :=
  let below := (x / pow10 e).floor
  let fits (k : Int) : Bool := decide (0 < k) && decide (nearest ((k : Rat) * pow10 e) = x)
  let excess := 2 * (x / pow10 e - (below : Rat))
  let nearer : Int :=
    if excess < 1 ∨ (excess = 1 ∧ tie = .even ∧ below % 2 = 0) then below else below + 1
  let other := if nearer = below then below + 1 else below
  if fits nearer then some nearer else if fits other then some other else none

/-- The shortest decimal of a positive value, as digits and a power of ten: the first of the
grids from the next power of ten down to seventeen digits that has a point for it. -/
def shortest (tie : Tie) (x : Rat) : Int × Int :=
  let top := decimalExponent x
  ((List.range 18).findSome? fun (i : Nat) =>
    let e := top - (i : Nat)
    (onGrid tie x e).map fun k => (k, e)).getD (0, 0)

/-- Digits times a power of ten without exponent, with at least one place after the point. -/
def positional (digits : Nat) (e : Int) : List Char :=
  let ds := Nat.toDigits 10 digits
  if 0 ≤ e then ds ++ List.replicate e.toNat '0' ++ ['.', '0']
  else
    let places := e.natAbs
    let ds := List.replicate (places + 1 - ds.length) '0' ++ ds
    ds.take (ds.length - places) ++ '.' :: ds.drop (ds.length - places)

end Reconciliation.Decimal
