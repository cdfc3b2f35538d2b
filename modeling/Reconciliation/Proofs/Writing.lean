import Reconciliation.Json.Value
import Reconciliation.Proofs.RealText

/-!
# What is written is one spelling

A writer escapes in a string what has to be escaped and nothing else, and shows an integer in
decimal and a binary fraction as its shortest decimal. Some writers give a positive exponent its
sign, and some put white space between tokens. What is written that way is one of the texts that
spell the value (`Json.Spelled.of_written`), so it is read back.
-/

namespace Reconciliation.Json

open Text Decimal

variable {c : Char} {cs : List Char} {n : Int}

/-! ## Strings -/

/-- The four digits of a control. -/
theorem fourDigits_control (h : c.toNat < 0x20) :
    FourDigits c.toNat ['0', '0', hexDigit (c.toNat / 16), hexDigit (c.toNat % 16)] := by
  have hsum : c.toNat = 16 * (16 * (16 * (16 * 0 + 0) + 0) + c.toNat / 16) + c.toNat % 16 := by
    omega
  have hzero : hexValue? '0' = some 0 := by decide
  have hdigits := FourDigits.intro hzero hzero (hexValue?_hexDigit (c.toNat / 16) (by omega))
    (hexValue?_hexDigit (c.toNat % 16) (by omega))
  rwa [← hsum] at hdigits

/-- What is written for a character is one of its spellings: itself, a short escape, or an escape by
a number. -/
theorem spellsChar_escapeChar (c : Char) : SpellsChar c (escapeChar c) := by
  rw [escapeChar]
  split_ifs with hquote hback hb hf hn hr ht hcontrol
  · subst hquote
    exact .letter rfl
  · subst hback
    exact .letter rfl
  · subst hb
    exact .letter rfl
  · subst hf
    exact .letter rfl
  · subst hn
    exact .letter rfl
  · subst hr
    exact .letter rfl
  · subst ht
    exact .letter rfl
  · exact .number (fourDigits_control hcontrol)
  · exact .itself (not_lt.1 hcontrol) hquote hback

/-- A written string is spelled. -/
theorem spellsText_escaped (cs : List Char) : SpellsText cs (cs.flatMap escapeChar) := by
  induction cs with
  | nil => exact .nil
  | cons c cs ih =>
    rw [List.flatMap_cons]
    exact .cons (spellsChar_escapeChar c) ih

/-! ## Integers -/

/-- The literal of an integer. -/
def integerLiteral (n : Int) : Literal := ⟨decide (n < 0), Nat.toDigits 10 n.natAbs, none, none⟩

/-- The decimal digits of an integer are a literal without point and exponent. -/
theorem integerLiteral_spells (n : Int) : (integerLiteral n).Spells (decimal n) := by
  have hshaped : (integerLiteral n).Shaped := by
    refine ⟨isRun_toDigits _, fun r hr => ?_, nofun, nofun⟩
    have hzero := toDigits_eq_zero_cons hr
    rw [integerLiteral, hzero] at hr
    exact (List.cons.inj hr).2.symm
  have hwritten : (integerLiteral n).written false = decimal n := by
    rw [Literal.written, integerLiteral, decimal]
    by_cases hn : n < 0
    · simp only [hn, decide_true, if_true, point, List.append_nil, List.singleton_append]
    · simp only [hn, decide_false, Bool.false_eq_true, if_false, point, List.append_nil,
        List.nil_append]
  exact hwritten ▸ hshaped.spells false

/-- It is a number for the reader, within the signed and unsigned integers of sixty-four bits. -/
theorem integerLiteral_finite (hleast : -9223372036854775808 ≤ n)
    (hgreatest : n ≤ 18446744073709551615) : (integerLiteral n).Finite := by
  refine .of_whole ?_
  rw [digitsValue_toDigits, largestWord]
  omega

/-- **An integer has one text**, its numeral. -/
theorem Literal.Spells.eq_decimal {l : Literal} {t : List Char} (h : l.Spells t)
    (hn : l.number = .integer n) :
    t = decimal n := by
  obtain ⟨x, hx, rfl⟩ := h.text
  have hdigits := toDigits_digitsValue h.whole.2 h.whole.1 h.zero
  obtain ⟨negative, whole, fraction, exponent⟩ := l
  rw [Literal.number] at hn
  dsimp only at hn hdigits hx ⊢
  split_ifs at hn with hreal hnegative hfits hfits
  all_goals
    obtain ⟨hfraction, hexponent⟩ := not_or.1 hreal
    obtain rfl := Option.not_isSome_iff_eq_none.1 hfraction
    obtain rfl := Option.not_isSome_iff_eq_none.1 hexponent
    obtain rfl := Number.integer.inj hn
    cases hx
  · obtain rfl := hnegative
    have hbelow : -(digitsValue 0 whole : Int) < 0 := by omega
    rw [decimal, if_pos hbelow, Int.natAbs_neg, Int.natAbs_natCast, hdigits]
    simp [point]
  · obtain rfl := Bool.eq_false_iff.2 hnegative
    rw [decimal, if_neg (by omega), Int.natAbs_natCast, hdigits]
    simp [point]

/-! ## Values -/

/-- The written texts of numbers: integers of at most 64 bits, with or without sign, and binary
fractions. -/
inductive WritesNumber : Number → List Char → Prop
  | integer {n : Int} (hleast : -9223372036854775808 ≤ n) (hgreatest : n ≤ 18446744073709551615) :
      WritesNumber (.integer n) (decimal n)
  | real {x : Rat} (negative plus : Bool) (hx : IsBinaryFraction x) :
      WritesNumber (realLiteral negative x).number ((realLiteral negative x).written plus)

/-- The style of a writer. -/
def Style.written : Style where
  string s t := s.toList.flatMap escapeChar = t
  number := WritesNumber

/-- A written number is finite. -/
theorem WritesNumber.free {n : Number} {t : List Char} (h : WritesNumber n t) :
    Style.free.number n t := by
  cases h with
  | integer hleast hgreatest =>
    exact ⟨_, integerLiteral_spells _, integerLiteral_finite hleast hgreatest,
      number_integerLiteral hleast hgreatest⟩
  | real negative plus hx =>
    exact ⟨_, (stands_realLiteral negative _).shaped.spells plus, realLiteral_finite negative hx,
      rfl⟩

/-- **What is written** is one of the texts that spell the value that it is written from. -/
theorem Spelled.of_written {d : Nat} {v : Value} {s : List Char} (h : Spelled .written d v s) :
    Spelled .free d v s := by
  obtain ⟨t, ws, ht, hws, rfl⟩ := h
  refine ⟨t, ws, ht.mono ?_ (fun _ _ => WritesNumber.free), hws, rfl⟩
  rintro s _ rfl
  exact spellsText_escaped s.toList

/-! ## Arrays and objects -/

section Nested

variable {σ : Style} {d : Nat} {ms : List (String × Value)} {ts : List (String × List Char)}

/-- Between texts stand commas. -/
theorem flatten_intersperse (x : List Char) (xs : List (List Char)) :
    ((x :: xs).intersperse [',']).flatten = x ++ (xs.map (',' :: ·)).flatten := by
  induction xs generalizing x with
  | nil => simp
  | cons y ys ih => simp [ih]

/-- **An array of texts of its items** is spelled. -/
theorem spells_items {vs : List Value} {us : List (List Char)}
    (h : List.Forall₂ (fun v u => Spells σ d (.value v) u) vs us) :
    Spells σ d (.items true vs) ((us.intersperse [',']).flatten ++ [']']) := by
  have hlater : ∀ {vs : List Value} {us : List (List Char)},
      List.Forall₂ (fun v u => Spells σ d (.value v) u) vs us →
      Spells σ d (.items false vs) ((us.map (',' :: ·)).flatten ++ [']']) := by
    intro vs us h
    induction h with
    | nil => exact .noItem isSpaces_nil
    | cons hv _ ih =>
      have hitem := Spells.item (.next isSpaces_nil isSpaces_nil) hv ih
      simpa using hitem
  cases h with
  | nil => exact .noItem isSpaces_nil
  | cons hv hvs =>
    have hitem := Spells.item (.first isSpaces_nil) hv (hlater hvs)
    rw [flatten_intersperse, List.append_assoc]
    exact hitem

/-- Texts, with their names, of the members of an object. -/
def SpellsMembers (σ : Style) (d : Nat) (ms : List (String × Value))
    (ts : List (String × List Char)) : Prop :=
  List.Forall₂ (fun m t => m.1 = t.1 ∧ Spells σ d (.value m.2) t.2) ms ts

/-- Members behind the first, each behind a comma. -/
theorem spells_laterMembers (hstring : ∀ s, σ.string s (s.toList.flatMap escapeChar))
    (h : SpellsMembers σ d ms ts) : Spells σ d (.members false ms)
      ((ts.map fun t => ',' :: (writeString t.1 ++ ':' :: t.2)).flatten ++ ['\x7d']) := by
  have hnone : IsSpaces [] := nofun
  induction h with
  | nil => exact .noMember hnone
  | @cons m t ms ts hm _ ih =>
    obtain ⟨k, v⟩ := m
    obtain ⟨rfl, ht⟩ := hm
    have hmember := Spells.member (.next hnone hnone) (hstring t.1) hnone ht ih
    simpa [writeString] using hmember

/-- **An object written from texts of its members** is spelled, if names may be spelled as strings
are written. -/
theorem spells_writeObject (hstring : ∀ s, σ.string s (s.toList.flatMap escapeChar))
    (h : SpellsMembers σ d ms ts) : Spells σ (d + 1) (.value (.object ms)) (writeObject ts) := by
  have hnone : IsSpaces [] := nofun
  cases h with
  | nil => exact Spells.object hnone (.noMember hnone)
  | @cons m t ms ts hm hms =>
    obtain ⟨k, v⟩ := m
    obtain ⟨rfl, ht⟩ := hm
    have hmember := Spells.object hnone (Spells.member (.first hnone) (hstring t.1) hnone ht
      (spells_laterMembers hstring hms))
    simpa [writeObject, writeString, flatten_intersperse, Function.comp_def] using hmember

end Nested

/-! ### Any escapes -/

/-- What is written for a text is one of its spellings in the free style. -/
theorem Style.free_string (x : String) : Style.free.string x (x.toList.flatMap escapeChar) :=
  spellsText_escaped x.toList

/-- So a written text is a value in that style. -/
theorem spells_writeString {d : Nat} (x : String) :
    Spells .free d (.value (.string x)) (writeString x) :=
  .string isSpaces_nil (Style.free_string x)

/-- And an object that is written from spelled members is spelled. -/
theorem spelled_writeObject {d : Nat} {ms : List (String × Value)} {ts : List (String × List Char)}
    (h : SpellsMembers .free d ms ts) : Spelled .free (d + 1) (.object ms) (writeObject ts) :=
  ⟨_, [], spells_writeObject Style.free_string h, isSpaces_nil, (List.append_nil _).symm⟩

end Reconciliation.Json
