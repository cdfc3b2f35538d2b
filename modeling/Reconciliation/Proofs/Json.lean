import Reconciliation.Proofs.Digits
import Reconciliation.Record.Json

/-!
# Written JSON is read back

A reader that is given a written value, with something after it, gives the value and hands back
what comes after. For strings and null nothing is asked of what comes after; a number has to
stop there.

* `Json.stringTail_escaped`: a written string, whatever characters it has.
* `Json.number_decimal`: a written integer of at most 64 bits, with or without sign.
* `Json.readString_write`, `Json.readInteger_decimal`, `Json.readOption_write`: the same for the
  readers of fields.
-/

namespace Reconciliation.Json

open Text

variable {care : Care} {c : Char} {r rest : List Char} {n : Int}

/-- A reader that succeeds goes on with what it gives. -/
theorem ok_bind {ε α β : Type} (a : α) (f : α → Except ε β) : (Except.ok a >>= f) = f a := rfl

/-- A step that succeeds goes on with its value. -/
theorem ok_of_bind {ε α β : Type} {x : Except ε α} {f : α → Except ε β} {b : β}
    (h : x >>= f = .ok b) : ∃ a, x = .ok a ∧ f a = .ok b := by
  cases x with
  | error e => cases h
  | ok a => exact ⟨a, rfl, h⟩

/-- What is mapped and went well went well before. -/
theorem ok_of_map {ε α β : Type} {x : Except ε α} {f : α → β} {b : β} (h : x.map f = .ok b) :
    ∃ a, x = .ok a ∧ f a = b := by
  cases x with
  | error e => cases h
  | ok a => exact ⟨a, rfl, Except.ok.inj h⟩

/-! ## Strings -/

/-- The first three digits of an escape are kept in hand. -/
theorem stringChars_digit {high : Option Nat} {seen value d : Nat} (hseen : seen < 3)
    (hc : hexValue? c = some d) :
    stringChars care (.digits high seen value) (c :: r) =
      stringChars care (.digits high (seen + 1) (16 * value + d)) r := by
  rw [stringChars, hc]
  exact if_pos hseen

/-- The fourth digit of an escape makes a character, unless that is half of a pair. -/
theorem stringChars_lastDigit {value d : Nat} (hc : hexValue? c = some d)
    (hn : 16 * value + d < 0xD800) :
    stringChars care (.digits none 3 value) (c :: r) =
      (stringChars care .plain r).map fun (cs, rest) =>
        (Char.ofNat (16 * value + d) :: cs, rest) := by
  have hlow : isLowSurrogate (16 * value + d) = false := by
    simp only [isLowSurrogate, Bool.and_eq_false_iff, decide_eq_false_iff_not]
    omega
  have hhigh : isHighSurrogate (16 * value + d) = false := by
    simp only [isHighSurrogate, Bool.and_eq_false_iff, decide_eq_false_iff_not]
    omega
  rw [stringChars, hc]
  simp only [Nat.lt_irrefl, if_false, hlow, hhigh, Bool.false_eq_true, ite_self]

/-- A control is read from its number. -/
theorem stringChars_control (h : c.toNat < 0x20) :
    stringChars care .plain
        (['\\', 'u', '0', '0', hexDigit (c.toNat / 16), hexDigit (c.toNat % 16)] ++ r) =
      (stringChars care .plain r).map fun (cs, rest) => (c :: cs, rest) := by
  have hzero : hexValue? '0' = some 0 := by decide
  have hfirst := hexValue?_hexDigit (c.toNat / 16) (by omega)
  have hsecond := hexValue?_hexDigit (c.toNat % 16) (by omega)
  have hsum : 16 * (16 * (16 * (16 * 0 + 0) + 0) + c.toNat / 16) + c.toNat % 16 = c.toNat := by
    omega
  have hstart : stringChars care .plain
      (['\\', 'u', '0', '0', hexDigit (c.toNat / 16), hexDigit (c.toNat % 16)] ++ r) =
      stringChars care (.digits none 0 0)
        ('0' :: '0' :: hexDigit (c.toNat / 16) :: hexDigit (c.toNat % 16) :: r) := rfl
  -- a control is below every surrogate, so its four digits are a character alone
  rw [hstart, stringChars_digit (by decide) hzero, stringChars_digit (by decide) hzero,
    stringChars_digit (by decide) hfirst, stringChars_lastDigit hsecond (by omega), hsum,
    Char.ofNat_toNat]

/-- One character, with or without an escape, is read as itself. -/
theorem stringChars_escapeChar (care : Care) (c : Char) (r : List Char) :
    stringChars care .plain (escapeChar c ++ r) =
      (stringChars care .plain r).map fun (cs, rest) => (c :: cs, rest) := by
  rw [escapeChar]
  split_ifs with hquote hback hb hf hn hr ht hcontrol
  · subst hquote
    rfl
  · subst hback
    rfl
  · subst hb
    rfl
  · subst hf
    rfl
  · subst hn
    rfl
  · subst hr
    rfl
  · subst ht
    rfl
  · exact stringChars_control hcontrol
  · rw [List.singleton_append, stringChars]
    · exact if_neg hcontrol
    · exact hquote
    · exact hback

/-- A written string is read up to its closing quote. -/
theorem stringTail_escaped (care : Care) (s : String) (rest : List Char) :
    stringTail care (s.toList.flatMap escapeChar ++ '"' :: rest) = .ok (s, rest) := by
  have hchars : ∀ cs : List Char,
      stringChars care .plain (cs.flatMap escapeChar ++ '"' :: rest) = .ok (cs, rest) := by
    intro cs
    induction cs with
    | nil => rw [List.flatMap_nil, List.nil_append, stringChars]
    | cons c cs ih =>
      rw [List.flatMap_cons, List.append_assoc, stringChars_escapeChar, ih]
      rfl
  rw [stringTail, hchars]
  change Except.ok (String.ofList s.toList, rest) = _
  rw [String.ofList_toList]

/-- What does not begin with white space is read from its first character on. -/
theorem skipSpace_eq (h : isSpace c = false) (r : List Char) : skipSpace (c :: r) = c :: r :=
  List.dropWhile_cons_of_neg (by simp [h])

/-! ## Integers -/

/-- A character that a number can go on with after its first digit. -/
def continuesNumber (c : Char) : Bool := isDigit c || c == '.' || c == 'e' || c == 'E'

/-- A character that a number begins with. -/
def beginsNumber (c : Char) : Bool := c == '-' || isDigit c

/-- No number begins with white space. -/
theorem isSpace_of_beginsNumber (h : beginsNumber c = true) : isSpace c = false := by
  simp only [isSpace, Bool.or_eq_false_iff, beq_eq_false_iff_ne]
  refine ⟨⟨⟨?_, ?_⟩, ?_⟩, ?_⟩ <;> rintro rfl <;> exact absurd h (by decide)

/-- A decimal begins as a number does. -/
theorem decimal_eq_cons (n : Int) : ∃ c ds, decimal n = c :: ds ∧ beginsNumber c = true := by
  rw [decimal]
  split
  · exact ⟨'-', _, rfl, rfl⟩
  · obtain ⟨c, ds, h⟩ := List.exists_cons_of_ne_nil (Nat.toDigits_ne_nil (n := n.natAbs) (b := 10))
    refine ⟨c, ds, h, ?_⟩
    rw [beginsNumber, isDigit_of_mem_toDigits (h ▸ List.mem_cons_self), Bool.or_true]

/-- A run of digits is read as a whole, if a zero in front stands alone. -/
theorem wholeDigits_run {ds : List Char} (care : Care) (hne : ds ≠ [])
    (hds : ∀ c ∈ ds, isDigit c = true) (hzero : ∀ r, ds = '0' :: r → r = [])
    (hrest : Stops isDigit rest) : wholeDigits care (ds ++ rest) = .ok (ds, rest) := by
  obtain ⟨c, r, rfl⟩ := List.exists_cons_of_ne_nil hne
  by_cases hc : c = '0'
  · subst hc
    obtain rfl := hzero r rfl
    change wholeDigits care ('0' :: rest) = _
    rw [wholeDigits]
    cases rest with
    | nil => rfl
    | cons x rest =>
      rw [List.head?_cons, Option.map_some, Option.getD_some, stops_cons.1 hrest]
      rfl
  · have hrun : (c :: r ++ rest).takeWhile isDigit = c :: r := takeWhile_run hds hrest
    have hcase : wholeDigits care (c :: r ++ rest) =
        (let ds := (c :: r ++ rest).takeWhile isDigit
        if ds = [] then .error (digitDue care (c :: r ++ rest))
        else .ok (ds, (c :: r ++ rest).drop ds.length)) := by
      rw [List.cons_append, wholeDigits]
      intro x hx
      exact hc (List.cons.inj hx).1
    rw [hcase, hrun]
    simp only [if_neg hne, List.drop_left]

/-- What a number does not go on with is no digit. -/
theorem stops_isDigit (hrest : Stops continuesNumber rest) : Stops isDigit rest := by
  intro c hc
  have h := hrest c hc
  simp only [continuesNumber, Bool.or_eq_false_iff] at h
  exact h.1.1.1

/-- The digits of a number are read up to where they stop. -/
theorem wholeDigits_toDigits (care : Care) (n : Nat) (hrest : Stops continuesNumber rest) :
    wholeDigits care (Nat.toDigits 10 n ++ rest) = .ok (Nat.toDigits 10 n, rest) := by
  refine wholeDigits_run care Nat.toDigits_ne_nil (fun _ => isDigit_of_mem_toDigits) ?_
    (stops_isDigit hrest)
  intro r hr
  by_cases hn : n = 0
  · subst hn
    exact (List.cons.inj hr).2.symm
  · obtain ⟨c, ds, hds, hc⟩ := head_toDigits hn
    exact absurd (List.cons.inj (hds.symm.trans hr)).1 hc

section Literal

variable {s s₁ s₂ s₃ whole : List Char} {fraction : Option (List Char)}
  {exponent : Option (Bool × List Char)}

/-- A literal behind a minus sign is read part by part. -/
theorem literal_minus (hwhole : wholeDigits care s = .ok (whole, s₁))
    (hfraction : fractionDigits care s₁ = .ok (fraction, s₂))
    (hexponent : exponentDigits care s₂ = .ok (exponent, s₃)) :
    literal care ('-' :: s) = .ok (⟨true, whole, fraction, exponent⟩, s₃) := by
  simp only [literal, hwhole, ok_bind, hfraction, hexponent]
  rfl

/-- A literal without a sign is read part by part. -/
theorem literal_plain (hsign : ∀ r, s ≠ '-' :: r) (hwhole : wholeDigits care s = .ok (whole, s₁))
    (hfraction : fractionDigits care s₁ = .ok (fraction, s₂))
    (hexponent : exponentDigits care s₂ = .ok (exponent, s₃)) :
    literal care s = .ok (⟨false, whole, fraction, exponent⟩, s₃) := by
  rw [literal]
  · simp only [hwhole, ok_bind, hfraction, hexponent]
    rfl
  · exact hsign

end Literal

/-- A whole number is read as a sign and digits, without a fraction or an exponent. -/
theorem literal_decimal (care : Care) (n : Int) (hrest : Stops continuesNumber rest) :
    literal care (decimal n ++ rest) =
      .ok (⟨decide (n < 0), Nat.toDigits 10 n.natAbs, none, none⟩, rest) := by
  have hwhole := wholeDigits_toDigits care n.natAbs hrest
  -- the rest continues no number, so neither a fraction nor an exponent begins there
  have hfraction : fractionDigits care rest = .ok (none, rest) := by
    rw [fractionDigits]
    rintro r rfl
    exact absurd (stops_cons.1 hrest) (by decide)
  have hexponent : exponentDigits care rest = .ok (none, rest) := by
    rw [exponentDigits]
    · rintro r rfl
      exact absurd (stops_cons.1 hrest) (by decide)
    · rintro r rfl
      exact absurd (stops_cons.1 hrest) (by decide)
  rw [decimal]
  split
  · rename_i hneg
    rw [decide_eq_true hneg]
    exact literal_minus hwhole hfraction hexponent
  · rename_i hpos
    rw [decide_eq_false hpos]
    refine literal_plain (fun r hr => ?_) hwhole hfraction hexponent
    obtain ⟨c, ds, hds⟩ :=
      List.exists_cons_of_ne_nil (Nat.toDigits_ne_nil (n := n.natAbs) (b := 10))
    rw [hds] at hr
    obtain ⟨rfl, -⟩ := List.cons.inj hr
    exact absurd (isDigit_of_mem_toDigits (hds ▸ List.mem_cons_self)) (by decide)

/-- Digits whose number is within the limit are all counted. -/
theorem accumulate_eq {limit start : Nat} {ds : List Char} (h : digitsValue start ds ≤ limit) :
    accumulate limit start ds = (digitsValue start ds, []) := by
  induction ds generalizing start with
  | nil => rfl
  | cons c ds ih =>
    rw [digitsValue_cons] at h ⊢
    rw [accumulate]
    rw [if_pos (Nat.le_trans (le_digitsValue _ ds) h)]
    exact ih h

/-- Digits of at most 64 bits are not too large. -/
theorem overflow?_whole {negative : Bool} {ds : List Char} (h : digitsValue 0 ds ≤ largestWord)
    (rest : List Char) : (⟨negative, ds, none, none⟩ : Literal).overflow? rest = none := by
  have hcount : (⟨negative, ds, none, none⟩ : Literal).significand = (digitsValue 0 ds, 0) := by
    rw [Literal.significand]
    rw [accumulate_eq h]
    rfl
  have hpower : tooLarge (digitsValue 0 ds) 0 = false := if_pos (.inr (Int.le_refl 0))
  rw [Literal.overflow?]
  rw [hcount]
  exact if_neg (Bool.eq_false_iff.1 hpower)

/-- The literal of an integer of at most 64 bits, with or without sign, denotes it. -/
theorem number_integerLiteral (hleast : -9223372036854775808 ≤ n)
    (hgreatest : n ≤ 18446744073709551615) :
    (⟨decide (n < 0), Nat.toDigits 10 n.natAbs, none, none⟩ : Literal).number = .integer n := by
  have hfits : n.natAbs ≤ largestWord := by
    rw [largestWord]
    omega
  rw [Literal.number]
  simp only [digitsValue_toDigits, Option.isSome_none, Bool.false_eq_true, or_self, if_false,
    if_pos hfits, decide_eq_true_eq]
  split
  · rw [if_pos (by omega)]
    congr 1
    omega
  · congr 1
    omega

/-- **A written integer** of at most 64 bits, with or without sign, is read as itself. -/
theorem number_decimal (care : Care) (hleast : -9223372036854775808 ≤ n)
    (hgreatest : n ≤ 18446744073709551615) (hrest : Stops continuesNumber rest) :
    number care (decimal n ++ rest) = .ok (.integer n, rest) := by
  have hfits : digitsValue 0 (Nat.toDigits 10 n.natAbs) ≤ largestWord := by
    rw [digitsValue_toDigits, largestWord]
    omega
  rw [number, literal_decimal care n hrest, ok_bind]
  dsimp only
  rw [overflow?_whole hfits, number_integerLiteral hleast hgreatest]
  cases care <;> rfl

/-! ## Fields -/

/-- A number is kept as a value. -/
theorem value_number (care : Care) (fuel room : Nat) (hc : beginsNumber c = true) :
    value care (fuel + 1) room (c :: r) =
      (number care (c :: r)).map fun (n, r) => (.number n, r) := by
  have hnumber : c = '-' ∨ isDigit c = true := by
    simpa [beginsNumber] using hc
  rw [value, skipSpace_eq (isSpace_of_beginsNumber hc)]
  split
  case h_1 heq => cases heq
  case h_8 heq =>
    obtain ⟨rfl, rfl⟩ := List.cons.inj heq
    exact if_pos hnumber
  -- no other value begins like a number
  all_goals
    rename_i heq
    obtain ⟨rfl, -⟩ := List.cons.inj heq
    exact absurd hc (by decide)

/-- A number of 64 bits, with or without a sign, is read as it was written. -/
theorem keepValue_decimal (room : Nat) (hleast : -9223372036854775808 ≤ n)
    (hgreatest : n ≤ 18446744073709551615) (hrest : Stops continuesNumber rest) :
    keepValue room (decimal n ++ rest) = .ok (.number (.integer n), rest) := by
  obtain ⟨c, ds, hds, hc⟩ := decimal_eq_cons n
  have hvalue : keepValue room (decimal n ++ rest) =
      (number .keep (decimal n ++ rest)).map fun (n, r) => (.number n, r) := by
    rw [hds]
    exact value_number .keep _ room hc
  rw [hvalue, number_decimal .keep hleast hgreatest hrest]
  rfl

/-- **A written integer** is read by the reader of an integer field. -/
theorem readInteger_decimal {α : Type} {meaning : Int → Option α} {a : α}
    (hleast : -9223372036854775808 ≤ n) (hgreatest : n ≤ 18446744073709551615)
    (hmeaning : meaning n = some a) (hrest : Stops continuesNumber rest) :
    readInteger meaning (decimal n ++ rest) = .ok (a, rest) := by
  obtain ⟨c, ds, hds, hc⟩ := decimal_eq_cons n
  have hskip : skipSpace (decimal n ++ rest) = decimal n ++ rest := by
    rw [hds]
    exact skipSpace_eq (isSpace_of_beginsNumber hc) _
  have hkeep := keepValue_decimal depthLimit hleast hgreatest hrest
  rw [readInteger, hskip]
  rw [hds] at hkeep ⊢
  split
  case h_3 =>
    rw [hkeep, ok_bind]
    dsimp only
    rw [hmeaning]
    rfl
  -- neither an array nor an object begins like a number
  all_goals
    rename_i heq
    obtain ⟨rfl, -⟩ := List.cons.inj heq
    exact absurd hc (by decide)

/-- **A written string** is read by the reader of a string field. -/
theorem readString_write (s : String) (rest : List Char) :
    readString (writeString s ++ rest) = .ok (s, rest) := by
  have htail := stringTail_escaped .keep s rest
  rw [← List.singleton_append, ← List.append_assoc] at htail
  exact htail

/-- A text that is written and means something is read as what it means. -/
theorem readMeaning_write {α : Type} {meaning : String → Option α} {s : String} {a : α}
    (hmeaning : meaning s = some a) (rest : List Char) :
    readMeaning meaning (writeString s ++ rest) = .ok (a, rest) := by
  rw [readMeaning, readString_write, ok_bind]
  dsimp only
  rw [hmeaning]
  rfl

/-- **What may be missing** is read by its reader, or as null. -/
theorem readOption_write {α : Type} {read : List Char → Except Failure (α × List Char)}
    {write : α → List Char} {o : Option α} (hquote : ∀ a, ∃ s, write a = writeString s)
    (hread : ∀ a ∈ o, ∀ rest, read (write a ++ rest) = .ok (a, rest)) (rest : List Char) :
    readOption read (writeOption write o ++ rest) = .ok (o, rest) := by
  cases o with
  | none => rfl
  | some a =>
    obtain ⟨s, hs⟩ := hquote a
    have hstart : readOption read (write a ++ rest) =
        (read (write a ++ rest)).map fun p => (some p.1, p.2) := by
      rw [hs]
      rfl
    change readOption read (write a ++ rest) = _
    rw [hstart, hread a rfl]
    rfl

end Reconciliation.Json
