import Reconciliation.Json.Number

/-!
# JSON numbers as binary fractions

The binary fraction that stands for a number literal, and how a number is described where
another value is due. The digits that count are rounded to 53 binary digits first; then they
are multiplied or divided by a power of ten, which is rounded as well, in steps of at most
308 powers.
-/

namespace Reconciliation.Json

open Text Decimal

/-- A binary fraction times a power of ten. Powers too low for one step are taken in up to
`steps` of them, after which nothing is left. -/
def scaled : (steps : Nat) → Rat → Int → Rat
  | 0, _, _ => 0
  | steps + 1, x, power =>
    if 0 ≤ power then nearest (x * nearest (pow10 power))
    else if -308 ≤ power then nearest (x / nearest (pow10 (-power)))
    else scaled steps (nearest (x / nearest (pow10 308))) (power + 308)

/-- The binary fraction of a literal that is not too large, without its sign. -/
def Literal.magnitude (l : Literal) : Rat :=
  let (n, power) := l.significand
  match l.exponent with
  | none => scaled 4 (nearest n) power
  | some (negative, ds) =>
    match accumulate largestPower 0 ds with
    | (_, _ :: _) => 0
    | (e, []) => scaled 4 (nearest n) (if negative then power - e else power + e)

/-- Digits times a power of ten, with an exponent behind the first digit's place. -/
def scientific (digits : Nat) (e : Int) : List Char :=
  match Nat.toDigits 10 digits with
  | [] => []
  | d :: ds =>
    let point := if ds = [] then [] else '.' :: ds
    d :: point ++ 'e' :: decimal (e + (ds.length : Int))

/-- The shortest decimal of a binary fraction, of two that are equally near the even one: without
an exponent where the point lies within the first sixteen digits or at most five places in
front of them. -/
def realDigits (x : Rat) : List Char :=
  if x = 0 then ['0', '.', '0']
  else
    let (k, e) := shortest .even x
    let place := (Nat.toDigits 10 k.toNat).length + e
    if -5 < place ∧ place ≤ 16 then positional k.toNat e else scientific k.toNat e

/-- How a number is described. -/
def Literal.described (l : Literal) : String :=
  match l.number with
  | .integer n => "integer `" ++ decimalText n ++ "`"
  | .real _ =>
    let digits := (if l.negative then ['-'] else []) ++ realDigits l.magnitude
    "floating point `" ++ String.ofList digits ++ "`"

end Reconciliation.Json
