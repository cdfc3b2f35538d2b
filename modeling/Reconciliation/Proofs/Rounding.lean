import Mathlib.Data.Rat.Floor
import Mathlib.Tactic.Linarith
import Mathlib.Tactic.Positivity
import Reconciliation.Json.Real
import Reconciliation.Proofs.Json

/-!
# Which numbers are finite

A number literal is rounded three times on its way to a binary fraction: its digits, the power
of ten and their product. Each rounding changes a number by a unit of its 53rd binary digit
at most (`Decimal.abs_nearest_sub_le`), so what the literal denotes exactly and what it comes
to are never far apart (`Json.scaled_bounds`).

* `Json.Literal.Finite`: the binary fraction is below the largest power of two there is.
* `Json.Literal.Finite.overflow?`: the reader does not refuse such a literal.
* `Json.Literal.Finite.of_exact`: it is enough that the exact number is not beyond the limit or
  right below it. Of those right below some are refused, as roundings may add up.
-/

namespace Reconciliation.Decimal

variable {x : Rat} {e f : Int}

/-! ## Powers of two -/

/-- Powers of two are positive, also those below one. -/
theorem pow2_pos (e : Int) : 0 < pow2 e := zpow_pos (by norm_num) e

/-- To add exponents is to multiply. -/
theorem pow2_add (e f : Int) : pow2 (e + f) = pow2 e * pow2 f := zpow_add₀ (by norm_num) e f

/-- Powers of two grow with the exponent. -/
theorem pow2_le (h : e ≤ f) : pow2 e ≤ pow2 f := zpow_le_zpow_right₀ (by norm_num) h

/-- So they are compared by comparing exponents. -/
theorem lt_of_pow2_lt (h : pow2 e < pow2 f) : e < f := (zpow_lt_zpow_iff_right₀ (by norm_num)).1 h

/-- Those from one upwards are the powers of natural numbers. -/
theorem pow2_natCast (n : Nat) : pow2 n = ((2 ^ n : Nat) : Rat) := by
  rw [pow2, zpow_natCast]
  exact (Nat.cast_pow 2 n).symm

/-! ## Rounding -/

/-- The nearest integer is at most one half away. -/
theorem abs_roundEven_sub_le (y : Rat) : |(roundEven y : Rat) - y| ≤ 1 / 2 := by
  have hle : (y.floor : Rat) ≤ y := Int.floor_le y
  have hlt : y < y.floor + 1 := Int.lt_floor_add_one y
  rw [abs_le, roundEven]
  split_ifs with hsmall hlarge heven
  · constructor <;> linarith
  · push_cast
    constructor <;> linarith
  · constructor <;> linarith
  · push_cast
    constructor <;> linarith

/-- A number of so many binary digits. -/
theorem log2_bounds {n : Nat} (hn : n ≠ 0) :
    pow2 (Nat.log2 n) ≤ n ∧ (n : Rat) < pow2 (Nat.log2 n + 1) := by
  have hsucc : pow2 (Nat.log2 n + 1) = ((2 ^ (Nat.log2 n + 1) : Nat) : Rat) :=
    pow2_natCast (Nat.log2 n + 1)
  rw [pow2_natCast, hsucc]
  exact ⟨Nat.cast_le.2 (Nat.log2_self_le hn), Nat.cast_lt.2 Nat.lt_log2_self⟩

/-- A quotient lies between powers of two by the digits of its parts. -/
theorem quotient_bounds (hx : 0 < x) :
    pow2 ((Nat.log2 x.num.natAbs : Int) - Nat.log2 x.den - 1) < x ∧
      x < pow2 ((Nat.log2 x.num.natAbs : Int) - Nat.log2 x.den + 1) := by
  have hnum : x.num.natAbs ≠ 0 := by
    have hpos := Rat.num_pos.2 hx
    omega
  have hden : (0 : Rat) < x.den := Nat.cast_pos.2 x.den_pos
  have hx' : x * x.den = (x.num.natAbs : Rat) := by
    rw [Rat.mul_den_eq_num, ← Int.cast_natCast x.num.natAbs,
      Int.natAbs_of_nonneg (Rat.num_pos.2 hx).le]
  obtain ⟨hlow, hhigh⟩ := log2_bounds hnum
  obtain ⟨hlow', hhigh'⟩ := log2_bounds x.den_nz
  -- what is left is about the two lengths, and is shown with the denominator multiplied out
  generalize (Nat.log2 x.num.natAbs : Int) = a at *
  generalize (Nat.log2 x.den : Int) = b at *
  constructor
  · have hpow : pow2 a = pow2 (a - b - 1) * pow2 (b + 1) := by
      rw [← pow2_add]
      congr 1
      omega
    have hmul : pow2 (a - b - 1) * x.den < x * x.den := by
      rw [hx']
      refine lt_of_lt_of_le ?_ hlow
      rw [hpow]
      exact mul_lt_mul_of_pos_left hhigh' (pow2_pos _)
    exact lt_of_mul_lt_mul_right hmul hden.le
  · have hpow : pow2 (a + 1) = pow2 (a - b + 1) * pow2 b := by
      rw [← pow2_add]
      congr 1
      omega
    have hmul : x * x.den < pow2 (a - b + 1) * x.den := by
      rw [hx']
      refine lt_of_lt_of_le hhigh ?_
      rw [hpow]
      exact mul_le_mul_of_nonneg_left hlow' (pow2_pos _).le
    exact lt_of_mul_lt_mul_right hmul hden.le

/-- From one on the last of 53 digits has the place that it should have. -/
theorem unitExponent_bounds (hx : 1 ≤ x) :
    pow2 (unitExponent x + 52) ≤ x ∧ x < pow2 (unitExponent x + 53) := by
  obtain ⟨hlow, hhigh⟩ := quotient_bounds (lt_of_lt_of_le one_pos hx)
  have hone : (1 : Rat) = pow2 0 := rfl
  have hexp : (-1 : Int) ≤ (Nat.log2 x.num.natAbs : Int) - Nat.log2 x.den := by
    have h := lt_of_le_of_lt (hone ▸ hx) hhigh
    have := lt_of_pow2_lt h
    omega
  rw [unitExponent]
  split_ifs with h
  · rw [max_eq_right (by omega)]
    refine ⟨?_, ?_⟩
    · convert h using 2
      omega
    · convert hhigh using 2
      omega
  · rw [max_eq_right (by omega)]
    refine ⟨?_, ?_⟩
    · refine le_of_eq_of_le ?_ hlow.le
      congr 1
      omega
    · exact not_le.1 h

/-- Below one it is no nearer than the 52nd place. -/
theorem unitExponent_le (hx : 0 < x) (hone : x < 1) : unitExponent x ≤ -52 := by
  obtain ⟨hlow, -⟩ := quotient_bounds hx
  have hexp := lt_of_pow2_lt (f := 0) (hlow.trans hone)
  rw [unitExponent]
  split_ifs <;> omega

/-- Rounding moves a number by at most half a unit in its last place. -/
theorem abs_nearest_sub_le_unit (x : Rat) : |nearest x - x| ≤ pow2 (unitExponent x) * (1 / 2) := by
  have hpos := pow2_pos (unitExponent x)
  have hdiff : nearest x - x = ((roundEven (x / pow2 (unitExponent x)) : Rat) -
      x / pow2 (unitExponent x)) * pow2 (unitExponent x) := by
    rw [nearest, sub_mul, div_mul_cancel₀ _ hpos.ne']
  rw [hdiff, abs_mul, abs_of_pos hpos, mul_comm]
  exact mul_le_mul_of_nonneg_left (abs_roundEven_sub_le _) hpos.le

/-- **Rounding** changes a number from one on by one unit of its 53rd binary digit at most. -/
theorem abs_nearest_sub_le (hx : 1 ≤ x) : |nearest x - x| ≤ x * pow2 (-53) := by
  have hunit : pow2 (unitExponent x) * (1 / 2) = pow2 (unitExponent x + 52) * pow2 (-53) := by
    have hhalf : (1 / 2 : Rat) = pow2 (-1) := by norm_num [pow2]
    rw [hhalf, ← pow2_add, ← pow2_add]
    congr 1
    omega
  refine (abs_nearest_sub_le_unit x).trans ?_
  rw [hunit]
  exact mul_le_mul_of_nonneg_right (unitExponent_bounds hx).1 (pow2_pos _).le

/-- A number from one upwards is rounded down by one unit of its fifty-third binary digit at most.
-/
theorem le_nearest (hx : 1 ≤ x) : x * (1 - pow2 (-53)) ≤ nearest x := by
  have h := (abs_le.1 (abs_nearest_sub_le hx)).1
  linarith

/-- It is rounded up by no more than that. -/
theorem nearest_le (hx : 1 ≤ x) : nearest x ≤ x * (1 + pow2 (-53)) := by
  have h := (abs_le.1 (abs_nearest_sub_le hx)).2
  linarith

/-- A number that is not negative is not rounded to one that is. -/
theorem nearest_nonneg (hx : 0 ≤ x) : 0 ≤ nearest x := by
  have hpos := pow2_pos (unitExponent x)
  have hquotient : 0 ≤ x / pow2 (unitExponent x) := div_nonneg hx hpos.le
  have hround := (abs_le.1 (abs_roundEven_sub_le (x / pow2 (unitExponent x)))).1
  have hlt : (-1 : Rat) < (roundEven (x / pow2 (unitExponent x)) : Rat) := by linarith
  have hnat : (0 : Int) ≤ roundEven (x / pow2 (unitExponent x)) := by
    have hint : (-1 : Int) < roundEven (x / pow2 (unitExponent x)) := by exact_mod_cast hlt
    omega
  rw [nearest]
  exact mul_nonneg (Int.cast_nonneg hnat) hpos.le

/-- A coarse bound for numbers of any size. -/
theorem nearest_le_double (hx : 0 ≤ x) : nearest x ≤ 2 * x + 1 := by
  rcases hx.eq_or_lt with rfl | hpos
  · have hzero : nearest 0 = 0 := by decide +kernel
    rw [hzero]
    norm_num
  by_cases hone : 1 ≤ x
  · have hpow : pow2 (-53) ≤ 1 := by norm_num [pow2]
    have hle := mul_le_mul_of_nonneg_left hpow hx
    have h := nearest_le hone
    linarith
  · have hunit : pow2 (unitExponent x) ≤ 1 := pow2_le (f := 0) (by
      have := unitExponent_le hpos (not_le.1 hone)
      omega)
    have h := (abs_le.1 (abs_nearest_sub_le_unit x)).2
    linarith

end Reconciliation.Decimal

namespace Reconciliation.Json

open Text Decimal

variable {x : Rat} {n : Nat} {p : Int} {l : Literal} {ds rest : List Char}

/-! ## Powers of ten -/

/-- A power of ten is never rounded below one half. -/
theorem half_le_nearest_pow10 (hp : 0 ≤ p) : 1 / 2 ≤ nearest (pow10 p) := by
  have hone : 1 ≤ pow10 p := one_le_zpow₀ (by norm_num) hp
  have hpow : pow2 (-53) ≤ 1 / 2 := by norm_num [pow2]
  have h := le_nearest hone
  nlinarith

/-- Division by powers of ten makes nothing much larger. -/
theorem scaled_le (steps : Nat) (hx : 0 ≤ x) (hp : p ≤ 0) :
    scaled steps x p + 1 ≤ 5 ^ steps * (x + 1) := by
  have hdivide : ∀ {x : Rat} {q : Int}, 0 ≤ x → 0 ≤ q →
      0 ≤ nearest (x / nearest (pow10 q)) ∧ nearest (x / nearest (pow10 q)) + 1 ≤ 5 * (x + 1) := by
    intro x q hx hq
    have hhalf := half_le_nearest_pow10 hq
    have hpos : 0 < nearest (pow10 q) := by linarith
    have hquotient : x / nearest (pow10 q) ≤ 2 * x := by
      rw [div_le_iff₀ hpos]
      nlinarith
    have hnonneg : 0 ≤ x / nearest (pow10 q) := div_nonneg hx hpos.le
    have h := nearest_le_double hnonneg
    exact ⟨nearest_nonneg hnonneg, by linarith⟩
  induction steps generalizing x p with
  | zero =>
    rw [scaled, pow_zero]
    linarith
  | succ steps ih =>
    have hfive : (1 : Rat) ≤ 5 ^ steps := one_le_pow₀ (by norm_num)
    have hgrow : 5 * (x + 1) ≤ 5 ^ (steps + 1) * (x + 1) := by
      rw [pow_succ, mul_assoc]
      exact le_mul_of_one_le_left (by linarith) hfive
    rw [scaled]
    split_ifs with hzero hone
    · have hone : nearest (pow10 0) = 1 := by decide +kernel
      obtain rfl : p = 0 := le_antisymm hp hzero
      rw [hone, mul_one]
      have h := nearest_le_double hx
      linarith
    · exact (hdivide hx (by omega)).2.trans hgrow
    · obtain ⟨hnonneg, hle⟩ := hdivide hx (q := 308) (by norm_num)
      refine (ih hnonneg (by omega)).trans ?_
      rw [pow_succ, mul_assoc]
      exact mul_le_mul_of_nonneg_left hle (by positivity)


/-- A positive power of ten changes by three roundings. -/
theorem scaled_bounds (hn : n ≠ 0) (hp : 0 < p) :
    n * pow10 p * (1 - pow2 (-53)) ^ 3 ≤ scaled 4 (nearest n) p ∧
      scaled 4 (nearest n) p ≤ n * pow10 p * (1 + pow2 (-53)) ^ 3 := by
  have hn1 : (1 : Rat) ≤ n := Nat.one_le_cast.2 (Nat.one_le_iff_ne_zero.2 hn)
  have hten : (10 : Rat) ≤ pow10 p := by
    have h := zpow_le_zpow_right₀ (a := (10 : Rat)) (by norm_num) (show 1 ≤ p by omega)
    rwa [zpow_one] at h
  have hscaled : scaled 4 (nearest n) p = nearest (nearest n * nearest (pow10 p)) :=
    if_pos hp.le
  have hd : pow2 (-53) ≤ 1 / 2 := by norm_num [pow2]
  have hd0 := pow2_pos (-53)
  have hlow := le_nearest hn1
  have hhigh := nearest_le hn1
  have hlow' := le_nearest (show 1 ≤ pow10 p by linarith)
  have hhigh' := nearest_le (show 1 ≤ pow10 p by linarith)
  have hproduct : n * pow10 p * (1 - pow2 (-53)) ^ 2 ≤ nearest n * nearest (pow10 p) := by
    have h := mul_le_mul hlow hlow' (by nlinarith) (nearest_nonneg (by linarith))
    linarith
  have hproduct' : nearest n * nearest (pow10 p) ≤ n * pow10 p * (1 + pow2 (-53)) ^ 2 := by
    have h := mul_le_mul hhigh hhigh' (nearest_nonneg (by linarith)) (by nlinarith)
    linarith
  have hone : 1 ≤ nearest n * nearest (pow10 p) := by
    refine le_trans ?_ hproduct
    have hsquare : (1 / 4 : Rat) ≤ (1 - pow2 (-53)) ^ 2 := by nlinarith
    nlinarith
  rw [hscaled]
  constructor
  · refine le_trans ?_ (le_nearest hone)
    rw [pow_succ, ← mul_assoc]
    exact mul_le_mul_of_nonneg_right hproduct (by linarith)
  · refine (nearest_le hone).trans ?_
    rw [pow_succ, ← mul_assoc]
    exact mul_le_mul_of_nonneg_right hproduct' (by linarith)

/-- Digits and a power of ten that make a finite number are not too large. -/
theorem tooLarge_eq_false (h : scaled 4 (nearest n) p < pow2 1024) : tooLarge n p = false := by
  rw [tooLarge]
  split_ifs with hsmall hlarge
  · rfl
  · -- from the power 309 on the number is beyond the limit, whatever its digits are
    exfalso
    obtain ⟨hn, hp⟩ := not_or.1 hsmall
    have hbounds := (scaled_bounds hn (not_le.1 hp)).1
    have hn1 : (1 : Rat) ≤ n := Nat.one_le_cast.2 (Nat.one_le_iff_ne_zero.2 hn)
    have hpow : pow10 309 ≤ pow10 p := zpow_le_zpow_right₀ (by norm_num) (by omega)
    have hlimit : pow2 1024 ≤ pow10 309 * (1 - pow2 (-53)) ^ 3 := by decide +kernel
    have hd : (0 : Rat) ≤ (1 - pow2 (-53)) ^ 3 := by norm_num [pow2]
    have hpos : (0 : Rat) ≤ pow10 309 := by norm_num [pow10]
    have hle : pow10 309 * (1 - pow2 (-53)) ^ 3 ≤ n * pow10 p * (1 - pow2 (-53)) ^ 3 := by
      refine mul_le_mul_of_nonneg_right ?_ hd
      nlinarith
    linarith
  · obtain ⟨hn, hp⟩ := not_or.1 hsmall
    have hscaled : scaled 4 (nearest n) p = nearest (nearest n * nearest (pow10 p)) :=
      if_pos (not_le.1 hp).le
    rw [hscaled] at h
    exact decide_eq_false (not_le.2 h)

/-! ## Finite literals -/

namespace Literal

/-- A literal whose number is finite as a binary fraction, and whose exponent can be counted out,
which matters only if it is positive. -/
structure Finite (l : Literal) : Prop where
  countable : ∀ ds, l.exponent = some (false, ds) → l.significand.1 ≠ 0 →
    digitsValue 0 ds ≤ largestPower
  bounded : l.magnitude < pow2 1024

/-- **A finite literal** is not too large. -/
theorem Finite.overflow? (h : l.Finite) (rest : List Char) : l.overflow? rest = none := by
  have hbounded := h.bounded
  rw [magnitude] at hbounded
  rw [Literal.overflow?]
  rcases hexponent : l.exponent with _ | ⟨negative, ds⟩ <;>
    simp only [hexponent] at hbounded ⊢
  · rw [if_neg (Bool.eq_false_iff.1 (tooLarge_eq_false hbounded))]
  · rcases haccumulate : accumulate largestPower 0 ds with ⟨e, _ | ⟨c, beyond⟩⟩ <;>
      simp only [haccumulate] at hbounded ⊢
    · rw [if_neg (Bool.eq_false_iff.1 (tooLarge_eq_false hbounded))]
    · -- an exponent that cannot be counted out is negative, or behind zeros
      refine if_neg fun ⟨hn, hnegative⟩ => ?_
      obtain rfl := Bool.eq_false_iff.2 hnegative
      have hcount := accumulate_eq (h.countable ds hexponent hn)
      rw [haccumulate] at hcount
      cases hcount

/-- The number that a literal denotes exactly, without its sign. -/
def exact (l : Literal) : Rat :=
  (digitsValue (digitsValue 0 l.whole) (l.fraction.getD []) : Rat) *
    pow10 ((match l.exponent with
      | none => 0
      | some (negative, ds) =>
        if negative then -(digitsValue 0 ds : Int) else digitsValue 0 ds) -
      (l.fraction.getD []).length)

end Literal

/-- Digits are counted up to the first that takes the number past the limit. -/
theorem accumulate_cases {limit start m : Nat} (h : start ≤ limit)
    (hm : accumulate limit start ds = (m, rest)) :
    ∃ taken, ds = taken ++ rest ∧ m = digitsValue start taken ∧ m ≤ limit ∧
      ∀ c r, rest = c :: r → limit < 10 * m + (digit? c).getD 0 := by
  induction ds generalizing start with
  | nil =>
    obtain ⟨rfl, rfl⟩ := Prod.mk.inj hm
    exact ⟨[], rfl, rfl, h, fun c r hr => by cases hr⟩
  | cons c ds ih =>
    rw [accumulate] at hm
    split_ifs at hm with hfits
    · obtain ⟨taken, rfl, hvalue, hlimit, hstop⟩ := ih hfits hm
      exact ⟨c :: taken, rfl, hvalue, hlimit, hstop⟩
    · obtain ⟨rfl, rfl⟩ := Prod.mk.inj hm
      refine ⟨[], rfl, rfl, h, fun c' r hr => ?_⟩
      obtain ⟨rfl, rfl⟩ := List.cons.inj hr
      exact not_le.1 hfits

/-- The digits that count, with a zero for each digit that does not, never make more than all the
digits do. -/
theorem accumulate_le {whole places dropped ignored : List Char} {m n : Nat}
    (hm : accumulate largestWord 0 whole = (m, dropped))
    (hn : accumulate largestWord m places = (n, ignored)) :
    n * 10 ^ (dropped.length + ignored.length) ≤ digitsValue (digitsValue 0 whole) places := by
  obtain ⟨taken, rfl, rfl, hlimit, hstop⟩ := accumulate_cases (Nat.zero_le _) hm
  obtain ⟨taken', rfl, rfl, hlimit', -⟩ := accumulate_cases hlimit hn
  rw [Nat.pow_add]
  rcases dropped with _ | ⟨c, dropped⟩
  · rw [List.append_nil, digitsValue_append _ taken' ignored, List.length_nil, Nat.pow_zero,
      Nat.one_mul]
    exact mul_pow_le_digitsValue _ ignored
  · have hover := hstop c dropped rfl
    have hwhole : (10 * digitsValue 0 taken + (digit? c).getD 0) * 10 ^ dropped.length ≤
        digitsValue 0 (taken ++ c :: dropped) := by
      rw [digitsValue_append]
      exact mul_pow_le_digitsValue _ dropped
    refine le_trans ?_ (mul_pow_le_digitsValue _ (taken' ++ ignored))
    refine le_trans ?_ (Nat.mul_le_mul_right _ hwhole)
    rw [List.length_append, Nat.pow_add, List.length_cons, Nat.pow_succ]
    generalize 10 ^ dropped.length = a
    generalize 10 ^ ignored.length = b
    -- what counts behind dropped digits is a digit at least, so it is worth a factor of ten
    rcases taken' with _ | ⟨x, taken'⟩
    · have hnone : digitsValue (digitsValue 0 taken) [] = digitsValue 0 taken := rfl
      calc
        digitsValue (digitsValue 0 taken) [] * (a * 10 * b) =
            10 * digitsValue 0 taken * a * (10 ^ 0 * b) := by
          rw [hnone]
          ring
        _ ≤ _ := Nat.mul_le_mul_right _ (Nat.mul_le_mul_right _ (Nat.le_add_right _ _))
    · have hten : 10 ≤ 10 ^ (x :: taken').length := Nat.le_self_pow (Nat.succ_ne_zero _) 10
      calc
        digitsValue (digitsValue 0 taken) (x :: taken') * (a * 10 * b) =
            digitsValue (digitsValue 0 taken) (x :: taken') * a * (10 * b) := by ring
        _ ≤ _ := Nat.mul_le_mul (Nat.mul_le_mul_right _ (hlimit'.trans hover.le))
          (Nat.mul_le_mul_right _ hten)

/-- So they stand for no more than the literal denotes exactly. -/
theorem Literal.significand_le (l : Literal) :
    l.significand.1 * pow10 (l.significand.2 + (l.fraction.getD []).length) ≤
      (digitsValue (digitsValue 0 l.whole) (l.fraction.getD []) : Rat) ∧
      l.significand.1 ≤ largestWord := by
  -- digits that find no room are dropped, from the whole part and then from the fraction
  rcases hm : accumulate largestWord 0 l.whole with ⟨m, dropped⟩
  rcases hn : accumulate largestWord m (l.fraction.getD []) with ⟨n, ignored⟩
  obtain ⟨-, -, -, hlimit, -⟩ := accumulate_cases (Nat.zero_le _) hm
  obtain ⟨taken, hplaces, -, hlimit', -⟩ := accumulate_cases hlimit hn
  have hsignificand : l.significand = (n, (dropped.length : Int) -
      ((l.fraction.getD []).length - ignored.length : Nat)) := by
    simp only [Literal.significand, hm, hn]
  rw [hsignificand]
  refine ⟨?_, hlimit'⟩
  have hle := accumulate_le hm hn
  have hpower : pow10 ((dropped.length : Int) -
      ((l.fraction.getD []).length - ignored.length : Nat) + (l.fraction.getD []).length) =
      ((10 ^ (dropped.length + ignored.length) : Nat) : Rat) := by
    have hlength : (l.fraction.getD []).length = taken.length + ignored.length := by
      rw [hplaces, List.length_append]
    have hexp : (dropped.length : Int) - ((l.fraction.getD []).length - ignored.length : Nat) +
        (l.fraction.getD []).length = ((dropped.length + ignored.length : Nat) : Int) := by
      omega
    rw [hexp, pow10, zpow_natCast, Nat.cast_pow]
    rfl
  dsimp only
  rw [hpower]
  exact_mod_cast hle

/-- Digits of 64 bits times a power of ten stay finite if the product is not close to the limit. -/
theorem scaled_lt (hn : n ≤ largestWord) (hp : n * pow10 p ≤ pow2 1024 - pow2 973) :
    scaled 4 (nearest n) p < pow2 1024 := by
  have hnonneg : (0 : Rat) ≤ n := Nat.cast_nonneg n
  rcases le_or_gt p 0 with hsmall | hpos
  · have h := scaled_le 4 (nearest_nonneg hnonneg) hsmall
    have hdouble := nearest_le_double hnonneg
    have hword : (n : Rat) ≤ largestWord := Nat.cast_le.2 hn
    have hlimit : 5 ^ 4 * (2 * (largestWord : Rat) + 2) < pow2 1024 := by decide +kernel
    linarith
  · by_cases hzero : n = 0
    · subst hzero
      have h : scaled 4 (nearest (0 : Nat)) p = nearest (nearest (0 : Nat) * nearest (pow10 p)) :=
        if_pos hpos.le
      have hnone : nearest ((0 : Nat) : Rat) = 0 := by decide +kernel
      rw [h, hnone, zero_mul]
      decide +kernel
    · have h := (scaled_bounds hzero hpos).2
      have hd : (0 : Rat) ≤ (1 + pow2 (-53)) ^ 3 := by norm_num [pow2]
      have hle := mul_le_mul_of_nonneg_right hp hd
      have hlimit : (pow2 1024 - pow2 973) * (1 + pow2 (-53)) ^ 3 < pow2 1024 := by decide +kernel
      linarith

/-- **Whatever does not denote a number close to the limit**, or beyond it, is finite. -/
theorem Literal.Finite.of_exact
    (hcount : ∀ ds, l.exponent = some (false, ds) → digitsValue 0 ds ≤ largestPower)
    (hexact : l.exact ≤ pow2 1024 - pow2 973) : l.Finite := by
  refine ⟨fun ds hds _ => hcount ds hds, ?_⟩
  obtain ⟨hle, hword⟩ := l.significand_le
  have hscaled : ∀ e : Int, (digitsValue (digitsValue 0 l.whole) (l.fraction.getD []) : Rat) *
      pow10 (e - (l.fraction.getD []).length) ≤ pow2 1024 - pow2 973 →
      scaled 4 (nearest l.significand.1) (l.significand.2 + e) < pow2 1024 := by
    intro e he
    refine scaled_lt hword (le_trans ?_ he)
    have hsplit : pow10 (l.significand.2 + e) =
        pow10 (l.significand.2 + (l.fraction.getD []).length) *
          pow10 (e - (l.fraction.getD []).length) := by
      rw [pow10, pow10, pow10, ← zpow_add₀ (by norm_num)]
      congr 1
      omega
    rw [hsplit, ← mul_assoc]
    exact mul_le_mul_of_nonneg_right hle (zpow_nonneg (by norm_num) _)
  rw [Literal.exact] at hexact
  rw [Literal.magnitude]
  rcases hexponent : l.exponent with _ | ⟨negative, ds⟩ <;>
    simp only [hexponent] at hexact ⊢
  · have h := hscaled 0 hexact
    rwa [Int.add_zero] at h
  · rcases haccumulate : accumulate largestPower 0 ds with ⟨e, _ | ⟨c, beyond⟩⟩ <;> dsimp only
    · obtain ⟨taken, htaken, rfl, -, -⟩ := accumulate_cases (Nat.zero_le _) haccumulate
      rw [List.append_nil] at htaken
      subst htaken
      cases negative with
      | true => exact hscaled _ hexact
      | false => exact hscaled _ hexact
    · exact pow2_pos _

/-- Whole digits that fit 64 bits make a finite literal. -/
theorem Literal.Finite.of_whole {negative : Bool} {ds : List Char}
    (h : digitsValue 0 ds ≤ largestWord) : (⟨negative, ds, none, none⟩ : Literal).Finite := by
  refine .of_exact nofun ?_
  have hexact : (⟨negative, ds, none, none⟩ : Literal).exact = digitsValue 0 ds := mul_one _
  have hle : (digitsValue 0 ds : Rat) ≤ largestWord := Nat.cast_le.2 h
  rw [hexact]
  exact hle.trans (by decide +kernel)

/-- What denotes an integer of 64 bits is finite. -/
theorem Literal.Finite.of_integer {n : Int} (h : l.number = .integer n) : l.Finite := by
  obtain ⟨negative, ds, fraction, exponent⟩ := l
  rw [number] at h
  dsimp only at h
  split_ifs at h with hreal hnegative hbounds hfits
  all_goals
    rw [not_or, Bool.not_eq_true, Option.isSome_eq_false_iff, Option.isNone_iff_eq_none,
      Bool.not_eq_true, Option.isSome_eq_false_iff, Option.isNone_iff_eq_none] at hreal
    obtain ⟨rfl, rfl⟩ := hreal
  · exact .of_whole (Nat.le_trans hbounds.2 (by decide))
  · exact .of_whole hfits

/-- What is not too large stays finite. -/
theorem scaled_lt_of_tooLarge (hn : n ≤ largestWord) (h : tooLarge n p = false) :
    scaled 4 (nearest n) p < pow2 1024 := by
  by_cases hsmall : n = 0 ∨ p ≤ 0
  · refine scaled_lt hn ?_
    have hword : (n : Rat) ≤ largestWord := Nat.cast_le.2 hn
    have hlimit : (largestWord : Rat) ≤ pow2 1024 - pow2 973 := by decide +kernel
    have hle : n * pow10 p ≤ n := by
      rcases hsmall with rfl | hp
      · simp
      · have hone : pow10 p ≤ 1 := zpow_le_one_of_nonpos₀ (by norm_num) hp
        exact mul_le_of_le_one_right (Nat.cast_nonneg n) hone
    linarith
  · rw [tooLarge, if_neg hsmall] at h
    split_ifs at h with hlarge
    have hscaled : scaled 4 (nearest n) p = nearest (nearest n * nearest (pow10 p)) :=
      if_pos (not_le.1 (not_or.1 hsmall).2).le
    rw [hscaled]
    exact not_le.1 (of_decide_eq_false h)

/-- **The reader refuses no other literals** than those that are not finite. -/
theorem Literal.finite_of_overflow? (h : l.overflow? rest = none) : l.Finite := by
  obtain ⟨-, hword⟩ := l.significand_le
  rw [Literal.overflow?] at h
  rcases hexponent : l.exponent with _ | ⟨negative, ds⟩ <;> simp only [hexponent] at h
  · have hsmall : tooLarge l.significand.1 l.significand.2 = false := by simpa using h
    refine ⟨fun ds hds => ?_, ?_⟩
    · rw [hexponent] at hds
      cases hds
    · rw [magnitude]
      simp only [hexponent]
      exact scaled_lt_of_tooLarge hword hsmall
  · rcases haccumulate : accumulate largestPower 0 ds with ⟨e, _ | ⟨c, beyond⟩⟩ <;>
      simp only [haccumulate] at h
    · obtain ⟨taken, htaken, rfl, hlimit, -⟩ := accumulate_cases (Nat.zero_le _) haccumulate
      rw [List.append_nil] at htaken
      subst htaken
      refine ⟨fun ds hds _ => ?_, ?_⟩
      · rw [hexponent] at hds
        cases hds
        exact hlimit
      · rw [magnitude, hexponent]
        simp only [haccumulate]
        exact scaled_lt_of_tooLarge hword (by simpa using h)
    · -- an exponent that cannot be counted out does no harm to zero, or if it is negative
      have hharmless : l.significand.1 ≠ 0 → negative = true := by simpa using h
      refine ⟨fun ds hds hn => ?_, ?_⟩
      · rw [hexponent] at hds
        cases hds
        cases hharmless hn
      · rw [magnitude, hexponent]
        simp only [haccumulate]
        exact pow2_pos _

end Reconciliation.Json
