import Reconciliation.Proofs.Spelling

/-!
# Shortest decimals are finite

A written binary fraction is its shortest decimal, which is one of the texts that spell it. So it
is read if it is not refused as too large.

A shortest decimal denotes a number beside the binary fraction that it stands for, if it is near
the limit perhaps one above it. It is finite nevertheless (`Json.realLiteral_finite`): the
decimals of the four largest fractions are looked at one by one, and those of all others are
far enough from the limit.
-/

namespace Reconciliation.Json

open Text Decimal

variable {x : Rat} {k n : Nat} {e : Int} {negative : Bool} {l : Literal} {ds : List Char}

/-! ## Literals -/

/-- The literal of digits times a power of ten without exponent. -/
def positionalLiteral (negative : Bool) (digits : Nat) (e : Int) : Literal :=
  let ds := Nat.toDigits 10 digits
  if 0 ≤ e then ⟨negative, ds ++ List.replicate e.toNat '0', some ['0'], none⟩
  else
    let places := e.natAbs
    let ds := List.replicate (places + 1 - ds.length) '0' ++ ds
    ⟨negative, ds.take (ds.length - places), some (ds.drop (ds.length - places)), none⟩

/-- The literal of digits times a power of ten with an exponent behind the first digit's place. -/
def scientificLiteral (negative : Bool) (digits : Nat) (e : Int) : Literal :=
  match Nat.toDigits 10 digits with
  | [] => ⟨negative, [], none, none⟩
  | d :: ds => ⟨negative, [d], if ds = [] then none else some ds,
      some (decide (e + (ds.length : Int) < 0), Nat.toDigits 10 (e + (ds.length : Int)).natAbs)⟩

/-- The literal of a binary fraction. -/
def realLiteral (negative : Bool) (x : Rat) : Literal :=
  if x = 0 then ⟨negative, ['0'], some ['0'], none⟩
  else
    let (k, e) := shortest .even x
    let place := (Nat.toDigits 10 k.toNat).length + e
    if -5 < place ∧ place ≤ 16 then positionalLiteral negative k.toNat e
    else scientificLiteral negative k.toNat e

/-- A number written without an exponent, as characters. -/
theorem characters_positionalLiteral (negative : Bool) (k : Nat) (e : Int) :
    (positionalLiteral negative k e).characters =
      (if negative then ['-'] else []) ++ positional k e := by
  rw [positionalLiteral, positional]
  by_cases he : 0 ≤ e
  · simp only [if_pos he, Literal.characters, List.append_assoc, List.append_nil]
  · simp only [if_neg he, Literal.characters, List.append_assoc, List.append_nil]

/-- A number written with one, as characters. -/
theorem characters_scientificLiteral (negative : Bool) (k : Nat) (e : Int) :
    (scientificLiteral negative k e).characters =
      (if negative then ['-'] else []) ++ scientific k e := by
  rw [scientificLiteral, scientific]
  cases hds : Nat.toDigits 10 k with
  | nil => exact absurd hds Nat.toDigits_ne_nil
  | cons d ds =>
    have hdecimal : decimal (e + (ds.length : Int)) =
        (if decide (e + (ds.length : Int) < 0) then ['-'] else []) ++
          Nat.toDigits 10 (e + (ds.length : Int)).natAbs := by
      by_cases hneg : e + (ds.length : Int) < 0
      · simp only [decimal, hneg, decide_true, if_true, List.singleton_append]
      · simp only [decimal, hneg, decide_false, Bool.false_eq_true, if_false, List.nil_append]
    by_cases hnil : ds = []
    · simp only [Literal.characters, hdecimal, if_pos hnil, List.append_assoc,
        List.append_nil, List.singleton_append]
    · simp only [Literal.characters, hdecimal, if_neg hnil, List.append_assoc,
        List.cons_append, List.nil_append]

/-- What is written for a number is its sign and the digits of its magnitude, in whichever of the
two ways is chosen. -/
theorem characters_realLiteral (negative : Bool) (x : Rat) :
    (realLiteral negative x).characters =
      (if negative then ['-'] else []) ++ realDigits x := by
  rw [realLiteral, realDigits]
  by_cases hx : x = 0
  · simp only [if_pos hx, Literal.characters, List.append_assoc, List.append_nil]
    rfl
  · simp only [if_neg hx]
    by_cases hplace : -5 < ((Nat.toDigits 10 (shortest .even x).1.toNat).length : Int) +
        (shortest .even x).2 ∧ ((Nat.toDigits 10 (shortest .even x).1.toNat).length : Int) +
        (shortest .even x).2 ≤ 16
    · simp only [if_pos hplace]
      exact characters_positionalLiteral _ _ _
    · simp only [if_neg hplace]
      exact characters_scientificLiteral _ _ _

/-- The characters of a literal, with or without the sign of a positive exponent. -/
def Literal.written (plus : Bool) (l : Literal) : List Char :=
  (if l.negative then ['-'] else []) ++ (l.whole ++ (point l.fraction ++
    (match l.exponent with
      | some (negative, ds) =>
        'e' :: ((if negative then ['-'] else if plus then ['+'] else []) ++ ds)
      | none => [])))

/-- A binary fraction is written as its sign and its shortest decimal. -/
theorem written_realLiteral (negative : Bool) (x : Rat) :
    (realLiteral negative x).written false = (if negative then ['-'] else []) ++ realDigits x := by
  rw [← characters_realLiteral, Literal.written, Literal.characters, List.append_assoc,
    List.append_assoc]
  rfl

/-- A literal whose digits are runs is spelled by its characters. -/
structure Literal.Shaped (l : Literal) : Prop where
  whole : IsRun l.whole
  zero : ∀ ds, l.whole = '0' :: ds → ds = []
  fraction : ∀ ds, l.fraction = some ds → IsRun ds
  exponent : ∀ x, l.exponent = some x → IsRun x.2

/-- A literal with a whole part that has no needless zero, and runs of digits behind the point and
in the exponent, spells itself. A plus sign in the exponent is left to the writer. -/
theorem Literal.Shaped.spells (h : l.Shaped) (plus : Bool) : l.Spells (l.written plus) := by
  refine ⟨h.whole, h.zero, h.fraction, ?_⟩
  rw [written]
  cases hexponent : l.exponent with
  | none => exact ⟨[], .none, rfl⟩
  | some x =>
    obtain ⟨negative, ds⟩ := x
    have hds := h.exponent _ hexponent
    cases negative with
    | true => exact ⟨_, .minus (.inl rfl) hds, rfl⟩
    | false =>
      cases plus with
      | true => exact ⟨_, .plus (.inl rfl) hds, rfl⟩
      | false => exact ⟨_, .bare (.inl rfl) hds, rfl⟩

/-- The decimal digits of a number are a run, also of zero, which has one. -/
theorem isRun_toDigits (n : Nat) : IsRun (Nat.toDigits 10 n) :=
  ⟨Nat.toDigits_ne_nil, fun _ => isDigit_of_mem_toDigits⟩

/-- Zeros that fill up a place are digits. -/
theorem isDigit_of_mem_zeros {c : Char} (n : Nat) (h : c ∈ List.replicate n '0') :
    isDigit c = true := by
  rw [(List.mem_replicate.1 h).2]
  exact isDigit_zero

/-- A numeral that begins with zero is zero. -/
theorem toDigits_eq_zero_cons {r : List Char} (h : Nat.toDigits 10 n = '0' :: r) : n = 0 := by
  by_contra hn
  obtain ⟨c, ds, hds, hc⟩ := head_toDigits hn
  exact hc (List.cons.inj (hds.symm.trans h)).1

/-- The digits in front of the point and behind it, of a number with so many places. -/
theorem split_places (k : Nat) {p : Nat} (hp : 0 < p) :
    let ds := List.replicate (p + 1 - (Nat.toDigits 10 k).length) '0' ++ Nat.toDigits 10 k
    IsRun (ds.take (ds.length - p)) ∧ IsRun (ds.drop (ds.length - p)) ∧
      (∀ r, ds.take (ds.length - p) = '0' :: r → r = []) ∧
      (ds.drop (ds.length - p)).length = p ∧ digitsValue 0 ds = k := by
  intro ds
  have hpos : 0 < (Nat.toDigits 10 k).length := List.length_pos_iff.2 Nat.toDigits_ne_nil
  have hlength : ds.length = p + 1 - (Nat.toDigits 10 k).length + (Nat.toDigits 10 k).length := by
    rw [List.length_append, List.length_replicate]
  have hdigits : ∀ c ∈ ds, isDigit c = true := by
    intro c hc
    rcases List.mem_append.1 hc with hc | hc
    · exact isDigit_of_mem_zeros _ hc
    · exact isDigit_of_mem_toDigits hc
  have htake : (ds.take (ds.length - p)).length = ds.length - p := by
    rw [List.length_take]
    omega
  have hdrop : (ds.drop (ds.length - p)).length = p := by
    rw [List.length_drop]
    omega
  refine ⟨⟨?_, fun c hc => hdigits c (List.mem_of_mem_take hc)⟩,
    ⟨?_, fun c hc => hdigits c (List.mem_of_mem_drop hc)⟩, fun r hr => ?_, hdrop, ?_⟩
  · exact List.ne_nil_of_length_pos (by omega)
  · exact List.ne_nil_of_length_pos (by omega)
  · rw [hr, List.length_cons] at htake
    rcases Nat.lt_or_ge p (Nat.toDigits 10 k).length with hlong | hshort
    · -- no zero was filled in, so the numeral itself begins with the zero
      have hsame : ds = Nat.toDigits 10 k := by
        have hnone : p + 1 - (Nat.toDigits 10 k).length = 0 := by omega
        change List.replicate _ '0' ++ _ = _
        rw [hnone]
        rfl
      obtain ⟨c, cs, hcs⟩ := List.exists_cons_of_ne_nil (Nat.toDigits_ne_nil (n := k) (b := 10))
      have hc : c = '0' := by
        rw [← htake, hsame, hcs] at hr
        exact (List.cons.inj hr).1
      subst hc
      obtain rfl := toDigits_eq_zero_cons hcs
      have hone : (Nat.toDigits 10 0).length = 1 := rfl
      omega
    · exact List.eq_nil_of_length_eq_zero (by omega)
  · exact (digitsValue_zeros _ _).trans (digitsValue_toDigits k)

/-- Without an exponent it is well shaped, unless zeros would be put behind the digit zero. -/
theorem shaped_positionalLiteral (negative : Bool) (hk : 0 < e → k ≠ 0) :
    (positionalLiteral negative k e).Shaped := by
  rw [positionalLiteral]
  by_cases he : 0 ≤ e
  · simp only [if_pos he]
    refine ⟨⟨List.append_ne_nil_of_left_ne_nil Nat.toDigits_ne_nil _, ?_⟩, ?_, ?_, nofun⟩
    · intro c hc
      rcases List.mem_append.1 hc with hc | hc
      · exact isDigit_of_mem_toDigits hc
      · exact isDigit_of_mem_zeros _ hc
    · intro r hr
      obtain ⟨c, cs, hcs⟩ := List.exists_cons_of_ne_nil (Nat.toDigits_ne_nil (n := k) (b := 10))
      have hr' := hr
      rw [hcs] at hr'
      obtain rfl := (List.cons.inj hr').1
      obtain rfl := toDigits_eq_zero_cons hcs
      obtain rfl : e = 0 := by
        by_contra hne
        exact hk (by omega) rfl
      exact (List.cons.inj hr).2.symm
    · rintro _ ⟨⟩
      decide
  · simp only [if_neg he]
    obtain ⟨htake, hdrop, hzero, -, -⟩ := split_places k (show 0 < e.natAbs by omega)
    refine ⟨htake, hzero, ?_, nofun⟩
    rintro _ ⟨⟩
    exact hdrop

/-- And it is exactly the digits moved by the power of ten. -/
theorem exact_positionalLiteral (negative : Bool) (k : Nat) (e : Int) :
    (positionalLiteral negative k e).exact = k * pow10 e := by
  rw [positionalLiteral, Literal.exact]
  by_cases he : 0 ≤ e
  · simp only [if_pos he, Option.getD_some]
    have hvalue : digitsValue (digitsValue 0 (Nat.toDigits 10 k ++ List.replicate e.toNat '0'))
        ['0'] = k * 10 ^ (e.toNat + 1) := by
      rw [← digitsValue_append, List.append_assoc, ← List.replicate_succ',
        digitsValue_append_zeros, digitsValue_toDigits]
    obtain ⟨m, rfl⟩ := Int.eq_ofNat_of_zero_le he
    have hone : pow10 (0 - (['0'].length : Int)) = 1 / 10 := by norm_num [pow10]
    have hpow : pow10 (m : Int) = 10 ^ m := zpow_natCast 10 m
    rw [hvalue, hone, hpow, Int.toNat_natCast, Nat.cast_mul, Nat.cast_pow, pow_succ]
    push_cast
    ring
  · simp only [if_neg he, Option.getD_some]
    obtain ⟨-, -, -, hlength, hvalue⟩ := split_places k (show 0 < e.natAbs by omega)
    rw [hlength, ← digitsValue_append, List.take_append_drop, hvalue]
    congr 2
    omega

/-- With an exponent it is well shaped if it is not zero: the first digit then stands alone in front
of the point, and it is none of the zeros. -/
theorem shaped_scientificLiteral (negative : Bool) (hk : k ≠ 0) (e : Int) :
    (scientificLiteral negative k e).Shaped := by
  rw [scientificLiteral]
  obtain ⟨d, ds, hds, hd⟩ := head_toDigits hk
  have hdigits : ∀ c ∈ d :: ds, isDigit c = true := fun c hc => isDigit_of_mem_toDigits (hds ▸ hc)
  simp only [hds]
  refine ⟨⟨List.cons_ne_nil _ _, ?_⟩, ?_, ?_, ?_⟩
  · exact fun c hc => hdigits c (List.mem_singleton.1 hc ▸ List.mem_cons_self)
  · rintro r ⟨⟩
    rfl
  · intro fs hfs
    split_ifs at hfs with hnil
    obtain rfl := Option.some.inj hfs
    exact ⟨hnil, fun c hc => hdigits c (List.mem_cons_of_mem _ hc)⟩
  · rintro _ ⟨⟩
    exact isRun_toDigits _

/-- And it is the same number. -/
theorem exact_scientificLiteral (negative : Bool) (k : Nat) (e : Int) :
    (scientificLiteral negative k e).exact = k * pow10 e := by
  rw [scientificLiteral]
  cases hds : Nat.toDigits 10 k with
  | nil => exact absurd hds Nat.toDigits_ne_nil
  | cons d ds =>
    have hfraction : (if ds = [] then none else some ds).getD [] = ds := by
      split_ifs with hnil
      · exact hnil.symm
      · rfl
    have hvalue : digitsValue (digitsValue 0 [d]) ds = k := by
      rw [← digitsValue_append, List.singleton_append, ← hds, digitsValue_toDigits]
    simp only [Literal.exact, hfraction, hvalue, digitsValue_toDigits]
    congr 2
    split_ifs with hneg
    · simp only [decide_eq_true_eq] at hneg
      omega
    · simp only [decide_eq_true_eq] at hneg
      omega

/-! ## Binary fractions -/

/-- A binary fraction of 53 digits below the limit, without its sign. -/
structure IsBinaryFraction (x : Rat) : Prop where
  nonneg : 0 ≤ x
  rounded : nearest x = x
  bounded : x < pow2 1024

/-- A point of a grid that is taken rounds to the number. -/
theorem onGrid_eq_some {tie : Tie} {k : Int} (h : onGrid tie x e = some k) :
    0 < k ∧ nearest (k * pow10 e) = x := by
  have hchoose : ∀ (fits : Int → Bool) (a b : Int),
      (if fits a then some a else if fits b then some b else none) = some k → fits k = true := by
    intro fits a b h
    split_ifs at h with ha hb
    · exact Option.some.inj h ▸ ha
    · exact Option.some.inj h ▸ hb
  have hfits := hchoose (fun m => decide (0 < m) && decide (nearest (m * pow10 e) = x)) _ _ h
  simpa only [Bool.and_eq_true, decide_eq_true_eq] using hfits

/-- A shortest decimal rounds to what it stands for. -/
theorem shortest_cases (tie : Tie) (x : Rat) :
    shortest tie x = (0, 0) ∨ ∃ (k : Nat) (e : Int), k ≠ 0 ∧ shortest tie x = ((k : Int), e) ∧
      nearest (k * pow10 e) = x := by
  rw [shortest]
  dsimp only
  rcases hfind : (List.range 18).findSome? fun (i : Nat) =>
      (onGrid tie x (decimalExponent x - (i : Nat))).map fun k =>
        (k, decimalExponent x - (i : Nat)) with _ | found
  · exact .inl rfl
  · obtain ⟨i, -, hi⟩ := List.exists_of_findSome?_eq_some hfind
    obtain ⟨k, hk, rfl⟩ := Option.map_eq_some_iff.1 hi
    obtain ⟨hpos, hround⟩ := onGrid_eq_some hk
    refine .inr ⟨k.toNat, decimalExponent x - (i : Nat), by omega, ?_, ?_⟩
    · rw [Int.toNat_of_nonneg hpos.le]
      rfl
    · have hcast : ((k.toNat : Nat) : Rat) = (k : Rat) := by
        exact_mod_cast congrArg (Int.cast (R := Rat)) (Int.toNat_of_nonneg hpos.le)
      rw [hcast]
      exact hround
/-- A power of ten that stands as the exponent is no more than the whole number. -/
theorem exponent_scientificLiteral (hk : k ≠ 0)
    (hds : (scientificLiteral negative k e).exponent = some (false, ds)) :
    pow10 (digitsValue 0 ds) ≤ k * pow10 e := by
  rw [scientificLiteral] at hds
  obtain ⟨c, cs, hcs, -⟩ := head_toDigits hk
  rw [hcs] at hds
  obtain ⟨hsign, rfl⟩ := Prod.mk.inj (Option.some.inj hds)
  have hnonneg : 0 ≤ e + (cs.length : Int) := not_lt.1 (of_decide_eq_false hsign)
  have hdigits : 10 ^ cs.length ≤ k := by
    rcases Nat.eq_zero_or_pos cs.length with hnil | hpos
    · rw [hnil]
      exact Nat.one_le_iff_ne_zero.2 hk
    · by_contra hlt
      have hlength := (Nat.length_toDigits_le_iff (b := 10) (by decide) hpos).2 (not_le.1 hlt)
      rw [hcs, List.length_cons] at hlength
      omega
  have hsplit : pow10 ((e + (cs.length : Int)).natAbs : Nat) = ((10 ^ cs.length : Nat) : Rat) *
      pow10 e := by
    rw [Int.natAbs_of_nonneg hnonneg, Int.add_comm, pow10, pow10, zpow_add₀ (by norm_num),
      zpow_natCast, Nat.cast_pow]
    rfl
  rw [digitsValue_toDigits, hsplit]
  exact mul_le_mul_of_nonneg_right (Nat.cast_le.2 hdigits) (zpow_nonneg (by norm_num) _)

/-- A literal that stands for a fraction: it denotes zero or a number that rounds to the fraction,
and its exponent is no more than that number. -/
structure Literal.Stands (x : Rat) (l : Literal) : Prop where
  shaped : l.Shaped
  exact : l.exact = 0 ∨ nearest l.exact = x
  exponent : ∀ ds, l.exponent = some (false, ds) → pow10 (digitsValue 0 ds) ≤ l.exact

/-- So it stands for a number that is the nearest to it. For zero there is nothing to be rounded. -/
theorem stands_positionalLiteral (negative : Bool) (hk : 0 < e → k ≠ 0)
    (h : k = 0 ∨ nearest (k * pow10 e) = x) : (positionalLiteral negative k e).Stands x := by
  refine ⟨shaped_positionalLiteral negative hk, ?_, fun ds hds => ?_⟩
  · rw [exact_positionalLiteral]
    refine h.imp_left ?_
    rintro rfl
    exact zero_mul _
  · rw [positionalLiteral] at hds
    split_ifs at hds

/-- With an exponent likewise. -/
theorem stands_scientificLiteral (negative : Bool) (hk : k ≠ 0) (h : nearest (k * pow10 e) = x) :
    (scientificLiteral negative k e).Stands x := by
  refine ⟨shaped_scientificLiteral negative hk e, ?_, fun ds hds => ?_⟩
  · rw [exact_scientificLiteral]
    exact .inr h
  · rw [exact_scientificLiteral]
    exact exponent_scientificLiteral hk hds

/-- The literal of a binary fraction stands for it. -/
theorem stands_realLiteral (negative : Bool) (x : Rat) : (realLiteral negative x).Stands x := by
  rw [realLiteral]
  by_cases hx : x = 0
  · have hrun : IsRun ['0'] := by decide
    rw [if_pos hx]
    refine ⟨⟨hrun, fun ds hds => (List.cons.inj hds).2.symm, ?_, nofun⟩, .inl (zero_mul _), nofun⟩
    rintro _ ⟨⟩
    exact hrun
  · rw [if_neg hx]
    rcases shortest_cases .even x with h | ⟨k, e, hk, h, hround⟩
    · -- no grid has a point for the fraction, so it is written as zero
      rw [h]
      exact stands_positionalLiteral negative (fun h => absurd h (lt_irrefl 0)) (.inl rfl)
    · rw [h]
      dsimp only
      rw [Int.toNat_natCast]
      split_ifs with hplace
      · exact stands_positionalLiteral negative (fun _ => hk) (.inr hround)
      · exact stands_scientificLiteral negative hk hround

/-! ## Near the limit -/

/-- A number is hardly larger than what it rounds to. -/
theorem Literal.Stands.exact_le (h : l.Stands x) :
    l.exact ≤ 1 ∨ l.exact * (1 - pow2 (-53)) ≤ x := by
  rcases h.exact with hzero | hround
  · exact .inl (hzero ▸ zero_le_one)
  · rcases le_total l.exact 1 with hone | hone
    · exact .inl hone
    · exact .inr (hround ▸ le_nearest hone)

/-- The exponent of a literal that stands for a binary fraction is one that the reader can count,
since the number itself is not beyond the fractions. -/
theorem Literal.Stands.countable (h : l.Stands x) (hx : IsBinaryFraction x) :
    ∀ ds, l.exponent = some (false, ds) → digitsValue 0 ds ≤ largestPower := by
  intro ds hds
  -- the exponent is no more than the decimal, which is hardly larger than the fraction
  have hlimit : l.exact < pow10 309 := by
    rcases h.exact_le with hone | hle
    · exact lt_of_le_of_lt hone (by decide +kernel)
    · have hlarge : pow2 1024 ≤ pow10 309 * (1 - pow2 (-53)) := by decide +kernel
      have hpos : (0 : Rat) < 1 - pow2 (-53) := by norm_num [pow2]
      exact lt_of_mul_lt_mul_right (lt_of_le_of_lt hle (hx.bounded.trans_le hlarge)) hpos.le
  have hpower := (zpow_lt_zpow_iff_right₀ (by norm_num)).1 ((h.exponent ds hds).trans_lt hlimit)
  rw [largestPower]
  omega

/-- The literals of the four largest fractions do not exceed the limit. -/
theorem magnitude_realLiteral_largest (negative : Bool) :
    ∀ i ∈ List.range 4, (realLiteral negative
      (((2 ^ 53 - 4 + i : Nat) : Int) * pow2 971)).magnitude < pow2 1024 := by
  revert negative
  decide +kernel

/-- A fraction right below the limit is one of the four largest. -/
theorem IsBinaryFraction.eq_largest (hx : IsBinaryFraction x) (h : pow2 1024 - 5 * pow2 971 < x) :
    ∃ i ∈ List.range 4, x = ((2 ^ 53 - 4 + i : Nat) : Int) * pow2 971 := by
  have hhalf : pow2 1023 ≤ pow2 1024 - 5 * pow2 971 := by decide +kernel
  have hone : 1 ≤ x := le_trans (by decide +kernel) (hhalf.trans h.le)
  obtain ⟨hlow, hhigh⟩ := unitExponent_bounds hone
  -- between the last two powers of two the 53rd digit counts 2 ^ 971
  have hunit : unitExponent x = 971 := by
    have hlt := lt_of_pow2_lt (lt_of_le_of_lt hlow hx.bounded)
    have hgt := lt_of_pow2_lt (lt_of_le_of_lt (hhalf.trans h.le) hhigh)
    omega
  have hvalue : x = (roundEven (x / pow2 971) : Rat) * pow2 971 := by
    have hround := hx.rounded
    rw [nearest, hunit] at hround
    exact hround.symm
  generalize roundEven (x / pow2 971) = m at hvalue
  have hpos := pow2_pos 971
  have hbelow : m < 2 ^ 53 := by
    have hlimit : pow2 1024 = ((2 ^ 53 : Int) : Rat) * pow2 971 := by decide +kernel
    have hlt := hx.bounded
    rw [hvalue, hlimit] at hlt
    exact Int.cast_lt.1 (lt_of_mul_lt_mul_right hlt hpos.le)
  have habove : 2 ^ 53 - 5 < m := by
    have hlimit : pow2 1024 - 5 * pow2 971 = ((2 ^ 53 - 5 : Int) : Rat) * pow2 971 := by
      decide +kernel
    rw [hvalue, hlimit] at h
    exact Int.cast_lt.1 (lt_of_mul_lt_mul_right h hpos.le)
  have hm : m = ((2 ^ 53 - 4 + (m - (2 ^ 53 - 4)).toNat : Nat) : Int) := by omega
  refine ⟨(m - (2 ^ 53 - 4)).toNat, List.mem_range.2 (by omega), ?_⟩
  rw [hvalue, ← hm]

/-- **The shortest decimal of a binary fraction** is finite. -/
theorem realLiteral_finite (negative : Bool) (hx : IsBinaryFraction x) :
    (realLiteral negative x).Finite := by
  have hstands := stands_realLiteral negative x
  have hcount := hstands.countable hx
  rcases le_or_gt x (pow2 1024 - 5 * pow2 971) with hfar | hnear
  · -- five units below the limit leave room for the half unit by which the decimal may be larger
    refine .of_exact hcount ?_
    rcases hstands.exact_le with hone | hle
    · exact hone.trans (by decide +kernel)
    · have hlimit : pow2 1024 - 5 * pow2 971 ≤ (pow2 1024 - pow2 973) * (1 - pow2 (-53)) := by
        decide +kernel
      have hpos : (0 : Rat) < 1 - pow2 (-53) := by norm_num [pow2]
      exact le_of_mul_le_mul_right (hle.trans (hfar.trans hlimit)) hpos
  · -- here the exact decimal says too little, so the reader's roundings are carried out
    obtain ⟨i, hi, rfl⟩ := hx.eq_largest hnear
    exact ⟨fun ds hds _ => hcount ds hds, magnitude_realLiteral_largest negative i hi⟩

end Reconciliation.Json
