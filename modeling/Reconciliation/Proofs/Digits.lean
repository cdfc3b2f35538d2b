import Mathlib.Algebra.Ring.Nat
import Mathlib.Data.List.Induction
import Mathlib.Data.List.TakeWhile
import Reconciliation.Text.Classes
import Reconciliation.Text.Numeral

/-!
# Decimal digits

A numeral is written in digits alone, without a leading zero, and its digits denote the number
(`digitsValue_toDigits`). So does a numeral that is filled up with zeros at the front
(`digitsValue_padded`), or of which a fraction is filled up with zeros at its end
(`digitsValue_append_zeros`).

Readers take the longest run of digits. A text `Stops` such a run if it does not begin with a
character of it.
-/

namespace Reconciliation.Text

variable {c : Char} {p : Char → Bool} {ds rest : List Char} {n width : Nat}

/-! ## Runs -/

/-- A text that does not begin with a character of a class. Behind such a text a reader that takes
characters of the class takes no more of them. -/
def Stops (p : Char → Bool) (s : List Char) : Prop := ∀ c ∈ s.head?, p c = false

theorem stops_nil : Stops p [] := fun _ hc => by cases hc

theorem stops_cons : Stops p (c :: rest) ↔ p c = false :=
  ⟨fun h => h c rfl, fun h _ hx => Option.some.inj hx ▸ h⟩

/-- Nothing is taken where a run stops at once. -/
theorem Stops.takeWhile_eq_nil (h : Stops p rest) : rest.takeWhile p = [] := by
  cases rest with
  | nil => rfl
  | cons c rest => exact List.takeWhile_cons_of_neg (by simp [stops_cons.1 h])

/-- Nothing is dropped there either. -/
theorem Stops.dropWhile_eq (h : Stops p rest) : rest.dropWhile p = rest := by
  cases rest with
  | nil => rfl
  | cons c rest => exact List.dropWhile_cons_of_neg (by simp [stops_cons.1 h])

/-- A run is taken up to where it stops. -/
theorem takeWhile_run (hds : ∀ c ∈ ds, p c = true) (hrest : Stops p rest) :
    (ds ++ rest).takeWhile p = ds := by
  rw [List.takeWhile_append_of_pos hds, hrest.takeWhile_eq_nil, List.append_nil]

/-- What is behind a run is left when the run is dropped. -/
theorem dropWhile_run (hds : ∀ c ∈ ds, p c = true) (hrest : Stops p rest) :
    (ds ++ rest).dropWhile p = rest := by
  rw [List.dropWhile_append_of_pos hds, hrest.dropWhile_eq]

/-! ## Digits -/

/-- A digit has a value, its distance from zero. -/
theorem digit?_of_isDigit (h : c.isDigit = true) : digit? c = some (c.toNat - '0'.toNat) := by
  simp only [Char.isDigit, Bool.and_eq_true, decide_eq_true_eq] at h
  exact if_pos h

/-- The digits stand one after another, from 48 to 57. -/
theorem isDigit_iff : isDigit c = true ↔ 48 ≤ c.toNat ∧ c.toNat ≤ 57 := by
  rw [isDigit, digit?]
  split
  · rename_i h
    exact iff_of_true rfl h
  · rename_i h
    exact iff_of_false Bool.false_ne_true h

/-- The decimal of a number consists of digits. -/
theorem isDigit_of_mem_toDigits (h : c ∈ Nat.toDigits 10 n) : isDigit c = true := by
  rw [isDigit, digit?_of_isDigit (Nat.isDigit_of_mem_toDigits (by decide) (by decide) h)]
  rfl

theorem isDigit_zero : isDigit '0' = true := by decide

/-- No digit is white space. -/
theorem isBlank_of_isDigit (h : isDigit c = true) : isBlank c = false := by
  rw [isDigit_iff] at h
  simp [isBlank]
  omega

/-- Digits are read on from the value of those before them. -/
theorem digitsValue_append (start : Nat) (ds es : List Char) :
    digitsValue start (ds ++ es) = digitsValue (digitsValue start ds) es := List.foldl_append

/-- One digit more multiplies the value by ten and adds its own. -/
theorem digitsValue_cons (start : Nat) (c : Char) (ds : List Char) :
    digitsValue start (c :: ds) = digitsValue (10 * start + (digit? c).getD 0) ds := rfl

/-- Further digits make a number at least as many times ten larger. -/
theorem mul_pow_le_digitsValue (start : Nat) (ds : List Char) :
    start * 10 ^ ds.length ≤ digitsValue start ds := by
  induction ds generalizing start with
  | nil => exact Nat.le_of_eq (Nat.mul_one start)
  | cons c ds ih =>
    rw [digitsValue_cons, List.length_cons, Nat.pow_succ, Nat.mul_comm _ 10, ← Nat.mul_assoc,
      Nat.mul_comm start 10]
    exact Nat.le_trans (Nat.mul_le_mul_right _ (Nat.le_add_right _ _)) (ih _)

/-- A value that is read on does not become smaller. -/
theorem le_digitsValue (start : Nat) (ds : List Char) : start ≤ digitsValue start ds :=
  Nat.le_trans (Nat.le_mul_of_pos_right start (Nat.pow_pos (by decide)))
    (mul_pow_le_digitsValue start ds)

/-- Read from the left, digits have the value that the library gives them. -/
theorem digitsValue_eq_ofDigitChars (h : ∀ c ∈ ds, c.isDigit = true) (start : Nat) :
    digitsValue start ds = Nat.ofDigitChars 10 ds start := by
  induction ds generalizing start with
  | nil => rfl
  | cons c ds ih =>
    rw [digitsValue_cons, digit?_of_isDigit (h c List.mem_cons_self), Option.getD_some]
    exact ih (fun x hx => h x (List.mem_cons_of_mem c hx)) _

/-- The digits of a numeral denote its number. -/
theorem digitsValue_toDigits (n : Nat) : digitsValue 0 (Nat.toDigits 10 n) = n := by
  rw [digitsValue_eq_ofDigitChars fun c hc =>
    Nat.isDigit_of_mem_toDigits (by decide) (by decide) hc]
  exact Nat.ofDigitChars_toDigits (by decide) (by decide)

/-- Zeros at the front count for nothing. -/
theorem digitsValue_zeros (k : Nat) (ds : List Char) :
    digitsValue 0 (List.replicate k '0' ++ ds) = digitsValue 0 ds := by
  induction k with
  | zero => rfl
  | succ k ih => exact ih

/-- Each zero at the end counts for a factor of ten. -/
theorem digitsValue_append_zeros (start : Nat) (ds : List Char) (k : Nat) :
    digitsValue start (ds ++ List.replicate k '0') = digitsValue start ds * 10 ^ k := by
  rw [digitsValue_append]
  induction k with
  | zero => exact (Nat.mul_one _).symm
  | succ k ih =>
    have hzero : ∀ m, digitsValue m ['0'] = 10 * m := fun _ => rfl
    rw [List.replicate_succ', digitsValue_append, ih, hzero, Nat.pow_succ, Nat.mul_comm 10,
      Nat.mul_assoc]

/-- A numeral of more than one digit has no leading zero. -/
theorem head_toDigits (h : n ≠ 0) : ∃ c ds, Nat.toDigits 10 n = c :: ds ∧ c ≠ '0' := by
  induction n using Nat.strongRecOn with
  | ind n ih =>
    rw [Nat.toDigits_eq_if (by decide)]
    split
    · rename_i hlt
      refine ⟨n.digitChar, [], rfl, fun hzero => h ?_⟩
      have hnat := Nat.toNat_digitChar_of_lt_ten hlt
      rw [hzero] at hnat
      simpa using hnat.symm
    · rename_i hge
      obtain ⟨c, ds, hds, hc⟩ := ih (n / 10) (by omega) (by omega)
      exact ⟨c, ds ++ [(n % 10).digitChar], by rw [hds]; rfl, hc⟩

/-- A character is the digit of its value. -/
theorem digit?_eq_some (h : isDigit c = true) :
    ∃ d, digit? c = some d ∧ d < 10 ∧ d.digitChar = c := by
  have hrange := isDigit_iff.1 h
  have hten : c.toNat - 48 < 10 := by omega
  refine ⟨c.toNat - 48, if_pos hrange, hten, Char.toNat_inj.1 ?_⟩
  rw [Nat.toNat_digitChar_of_lt_ten hten]
  omega

/-- **Digits without a leading zero** are the numeral of the number that they denote. -/
theorem toDigits_digitsValue (hds : ∀ c ∈ ds, isDigit c = true) (hne : ds ≠ [])
    (hzero : ∀ r, ds = '0' :: r → r = []) : Nat.toDigits 10 (digitsValue 0 ds) = ds := by
  induction ds using List.reverseRecOn with
  | nil => exact absurd rfl hne
  | append_singleton ds c ih =>
    obtain ⟨d, hd, hten, rfl⟩ := digit?_eq_some (hds c (by simp))
    have hlast : ∀ n, digitsValue n [d.digitChar] = 10 * n + d := fun n => by
      rw [digitsValue_cons, hd]
      rfl
    rcases eq_or_ne ds [] with rfl | hne
    · rw [List.nil_append, hlast, Nat.mul_zero, Nat.zero_add, Nat.toDigits_of_lt_base hten]
    · have hfront : ∀ r, ds ≠ '0' :: r := by
        rintro r rfl
        cases List.append_eq_nil_iff.1 (hzero (r ++ [d.digitChar]) rfl) |>.2
      have hnumeral := ih (fun c hc => hds c (List.mem_append_left _ hc)) hne
        fun r hr => absurd hr (hfront r)
      have hpos : 0 < digitsValue 0 ds := Nat.pos_of_ne_zero fun hnone => by
        rw [hnone] at hnumeral
        exact hfront [] hnumeral.symm
      rw [digitsValue_append, hlast, ← Nat.toDigits_append_toDigits (by decide) hpos hten, hnumeral,
        Nat.toDigits_of_lt_base hten]

/-! ## Numerals filled up with zeros -/

/-- A padded number consists of digits too. -/
theorem isDigit_of_mem_padded (h : c ∈ padded width n) : isDigit c = true := by
  rw [padded] at h
  rcases List.mem_append.1 h with h | h
  · rw [(List.mem_replicate.1 h).2]
    exact isDigit_zero
  · exact isDigit_of_mem_toDigits h

/-- Padding does not change what a number is. -/
theorem digitsValue_padded (width n : Nat) : digitsValue 0 (padded width n) = n := by
  rw [padded]
  exact (digitsValue_zeros _ _).trans (digitsValue_toDigits n)

/-- A padded number is never empty. -/
theorem padded_ne_nil (width n : Nat) : padded width n ≠ [] := by
  rw [padded]
  exact List.append_ne_nil_of_right_ne_nil _ Nat.toDigits_ne_nil

/-- A number that fits the width has just so many digits. -/
theorem length_padded (hw : 0 < width) (h : n < 10 ^ width) : (padded width n).length = width := by
  have hle := (Nat.length_toDigits_le_iff (b := 10) (by decide) hw).2 h
  rw [padded, List.length_append, List.length_replicate]
  omega

/-- A padded numeral begins with a digit. -/
theorem padded_eq_cons (width n : Nat) : ∃ c ds, padded width n = c :: ds ∧ isDigit c = true := by
  obtain ⟨c, ds, h⟩ := List.exists_cons_of_ne_nil (padded_ne_nil width n)
  exact ⟨c, ds, h, isDigit_of_mem_padded (h ▸ List.mem_cons_self)⟩

end Reconciliation.Text
