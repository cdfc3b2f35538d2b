import Reconciliation.Proofs.Rounding

/-!
# Every spelling of a value is read

One value has many texts: blanks may stand between tokens, a character of a string may be
escaped or not, a number may have zeros at the end of its fraction. `Spells` relates a value
to each of them, token by token as the grammar has it, and says how deep arrays and objects
are nested in it.

Reading is complete for the grammar: whatever is nested no deeper than the reader allows, has
numbers that are finite, and has no object that begins with the reserved name is read as the
value that it spells, whatever comes after it. Where a value is only passed over, it is enough
that its text has the form of one, to any depth and with numbers of any size.

* `Json.SpellsText.stringTail`, `Json.IsQuoted.stringTail`: strings, with any escapes.
* `Json.Literal.Spells.number`: numbers.
* `Json.Spells.reads`: values; `Json.Spelled.read`: whole texts.
-/

namespace Reconciliation.Json

open Text

/-! ## Strings -/

/-- Four hexadecimal digits, in either case, and the number that they denote. -/
inductive FourDigits : Nat → List Char → Prop
  | intro {a b c d : Char} {w x y z : Nat} (ha : hexValue? a = some w) (hb : hexValue? b = some x)
      (hc : hexValue? c = some y) (hd : hexValue? d = some z) :
      FourDigits (16 * (16 * (16 * (16 * 0 + w) + x) + y) + z) [a, b, c, d]

/-- The texts of a character inside a string: itself, an escape by a letter, an escape by its number
or, beyond what four digits denote, by a pair of numbers. -/
inductive SpellsChar : Char → List Char → Prop
  | itself {c : Char} (hcontrol : 0x20 ≤ c.toNat) (hquote : c ≠ '"') (hback : c ≠ '\\') :
      SpellsChar c [c]
  | letter {c e : Char} (h : shortEscape? e = some c) : SpellsChar c ['\\', e]
  | number {c : Char} {t : List Char} (h : FourDigits c.toNat t) : SpellsChar c ('\\' :: 'u' :: t)
  | pair {high low : Nat} {t u : List Char} (h : FourDigits high t) (k : FourDigits low u)
      (hhigh : isHighSurrogate high = true) (hlow : isLowSurrogate low = true) :
      SpellsChar (pairChar high low) ('\\' :: 'u' :: (t ++ '\\' :: 'u' :: u))

/-- The texts of some characters between the quotes. -/
inductive SpellsText : List Char → List Char → Prop
  | nil : SpellsText [] []
  | cons {c : Char} {cs t u : List Char} (hc : SpellsChar c t) (hcs : SpellsText cs u) :
      SpellsText (c :: cs) (t ++ u)

/-- The texts between the quotes that have the form of a string: the number in an escape may be
half of a pair and stand alone. -/
inductive IsQuoted : List Char → Prop
  | nil : IsQuoted []
  | itself {c : Char} {u : List Char} (hcontrol : 0x20 ≤ c.toNat) (hquote : c ≠ '"')
      (hback : c ≠ '\\') (h : IsQuoted u) : IsQuoted (c :: u)
  | letter {c e : Char} {u : List Char} (he : shortEscape? e = some c) (h : IsQuoted u) :
      IsQuoted ('\\' :: e :: u)
  | number {n : Nat} {t u : List Char} (ht : FourDigits n t) (h : IsQuoted u) :
      IsQuoted ('\\' :: 'u' :: (t ++ u))

variable {care : Care} {c e : Char} {cs ds t u rest : List Char} {n : Nat}

/-- A character that stands for itself is read as it is. -/
theorem stringChars_itself (hcontrol : 0x20 ≤ c.toNat) (hquote : c ≠ '"') (hback : c ≠ '\\')
    (r : List Char) : stringChars care .plain (c :: r) =
      (stringChars care .plain r).map fun (cs, rest) => (c :: cs, rest) := by
  rw [stringChars]
  · exact if_neg (Nat.not_lt.2 hcontrol)
  · exact hquote
  · exact hback

/-- An escape by a letter is read as what the letter stands for. -/
theorem stringChars_letter (he : shortEscape? e = some c) (r : List Char) :
    stringChars care .plain ('\\' :: e :: r) =
      (stringChars care .plain r).map fun (cs, rest) => (c :: cs, rest) := by
  rw [stringChars, stringChars, he]
  rintro rfl
  cases he

/-- The four digits of an escape are read one after another. -/
theorem FourDigits.stringChars (h : FourDigits n t) (hcare : care ≠ .skip) (high : Option Nat)
    (r : List Char) :
    stringChars care (.digits high 0 0) (t ++ r) =
      match high with
      | some h =>
        if isLowSurrogate n then
          (stringChars care .plain r).map fun (cs, rest) => (pairChar h n :: cs, rest)
        else .error (failAt .loneSurrogate r)
      | none =>
        if isLowSurrogate n then .error (failAt .loneSurrogate r)
        else if isHighSurrogate n then stringChars care (.second n) r
        else (stringChars care .plain r).map fun (cs, rest) => (Char.ofNat n :: cs, rest) := by
  cases h with
  | intro ha hb hc hd =>
    simp only [List.cons_append, List.nil_append]
    rw [stringChars_digit (by decide) ha, stringChars_digit (by decide) hb,
      stringChars_digit (by decide) hc, Json.stringChars, hd]
    refine (if_neg (Nat.lt_irrefl 3)).trans ((if_neg hcare).trans ?_)
    cases high <;> rfl

/-- No character is half of a pair. -/
theorem surrogate_toNat (c : Char) :
    isLowSurrogate c.toNat = false ∧ isHighSurrogate c.toNat = false := by
  have hvalid : c.toNat < 0xD800 ∨ 0xDFFF < c.toNat ∧ c.toNat < 0x110000 := c.valid
  simp only [isLowSurrogate, isHighSurrogate, Bool.and_eq_false_iff, decide_eq_false_iff_not]
  omega

/-- **A spelled character** is read as the character. -/
theorem SpellsChar.stringChars (h : SpellsChar c t) (hcare : care ≠ .skip) (r : List Char) :
    stringChars care .plain (t ++ r) =
      (stringChars care .plain r).map fun (cs, rest) => (c :: cs, rest) := by
  cases h with
  | itself hcontrol hquote hback => exact stringChars_itself hcontrol hquote hback r
  | letter h => exact stringChars_letter h r
  | number h =>
    obtain ⟨hlow, hhigh⟩ := surrogate_toNat c
    have hread := h.stringChars hcare none r
    simp only [hlow, hhigh, Bool.false_eq_true, if_false, Char.ofNat_toNat] at hread
    exact hread
  | @pair high low t u h k hhigh hlow =>
    have hnone : isLowSurrogate high = false := by
      simp only [isHighSurrogate, isLowSurrogate, Bool.and_eq_true, decide_eq_true_eq,
        Bool.and_eq_false_iff, decide_eq_false_iff_not] at hhigh ⊢
      omega
    have hfirst := h.stringChars hcare none ('\\' :: 'u' :: (u ++ r))
    have hsecond := k.stringChars hcare (some high) r
    simp only [hnone, hhigh, hlow, Bool.false_eq_true, if_true, if_false] at hfirst hsecond
    rw [← hsecond]
    simp only [List.cons_append, List.append_assoc]
    exact hfirst

/-- The characters of a spelled string are read up to its closing quote. -/
theorem SpellsText.stringChars (h : SpellsText cs t) (hcare : care ≠ .skip) (rest : List Char) :
    stringChars care .plain (t ++ '"' :: rest) = .ok (cs, rest) := by
  induction h with
  | nil => rw [List.nil_append, Json.stringChars]
  | cons hc _ ih =>
    rw [List.append_assoc, hc.stringChars hcare, ih]
    rfl

/-- **A spelled string** is read up to its closing quote. -/
theorem SpellsText.stringTail {s : String} (h : SpellsText s.toList t) (hcare : care ≠ .skip)
    (rest : List Char) : stringTail care (t ++ '"' :: rest) = .ok (s, rest) := by
  rw [Json.stringTail, h.stringChars hcare]
  change Except.ok (String.ofList s.toList, rest) = _
  rw [String.ofList_toList]

/-! ### Strings that are passed over -/

/-- The texts of characters have the form of a string. -/
theorem SpellsText.isQuoted (h : SpellsText cs t) : IsQuoted t := by
  induction h with
  | nil => exact .nil
  | cons hc _ ih =>
    cases hc with
    | itself hcontrol hquote hback => exact .itself hcontrol hquote hback ih
    | letter he => exact .letter he ih
    | number ht => exact .number ht ih
    | pair ht hu =>
      rw [List.cons_append, List.cons_append, List.append_assoc, List.cons_append, List.cons_append]
      exact .number ht (.number hu ih)

/-- Who passes over a text reads an escape by a number as any other character, also if it is half of
a pair without the other half. -/
theorem FourDigits.stringChars_skip (h : FourDigits n t) (r : List Char) :
    Json.stringChars .skip (.digits none 0 0) (t ++ r) =
      (Json.stringChars .skip .plain r).map fun (cs, rest) => (Char.ofNat n :: cs, rest) := by
  cases h with
  | intro ha hb hc hd =>
    simp only [List.cons_append, List.nil_append]
    rw [stringChars_digit (by decide) ha, stringChars_digit (by decide) hb,
      stringChars_digit (by decide) hc, Json.stringChars, hd]
    exact (if_neg (Nat.lt_irrefl 3)).trans (if_pos rfl)

/-- **What has the form of a string** is passed over up to its closing quote. -/
theorem IsQuoted.stringTail (h : IsQuoted t) (rest : List Char) :
    ∃ s, stringTail .skip (t ++ '"' :: rest) = .ok (s, rest) := by
  have hchars : ∃ cs, stringChars .skip .plain (t ++ '"' :: rest) = .ok (cs, rest) := by
    induction h with
    | nil => exact ⟨[], by rw [List.nil_append, stringChars]⟩
    | @itself c u hcontrol hquote hback _ ih =>
      obtain ⟨cs, hcs⟩ := ih
      refine ⟨c :: cs, ?_⟩
      rw [List.cons_append, stringChars_itself hcontrol hquote hback, hcs]
      rfl
    | @letter c e u he _ ih =>
      obtain ⟨cs, hcs⟩ := ih
      refine ⟨c :: cs, ?_⟩
      rw [List.cons_append, List.cons_append, stringChars_letter he, hcs]
      rfl
    | @number n t u ht _ ih =>
      obtain ⟨cs, hcs⟩ := ih
      refine ⟨Char.ofNat n :: cs, ?_⟩
      have hescape := ht.stringChars_skip (u ++ '"' :: rest)
      rw [hcs] at hescape
      simp only [List.cons_append, List.append_assoc]
      exact hescape
  obtain ⟨cs, hcs⟩ := hchars
  exact ⟨String.ofList cs, by rw [Json.stringTail, hcs]; rfl⟩

/-! ## Numbers -/

/-- A run of digits, where digits are due. -/
def IsRun (ds : List Char) : Prop := ds ≠ [] ∧ ∀ c ∈ ds, isDigit c = true

instance (ds : List Char) : Decidable (IsRun ds) :=
  decidable_of_iff (ds ≠ [] ∧ ds.all isDigit = true) (by rw [IsRun, List.all_eq_true])

/-- The texts of an exponent: either letter, and a plus sign or none. -/
inductive SpellsExponent : Option (Bool × List Char) → List Char → Prop
  | none : SpellsExponent none []
  | minus {e : Char} {ds : List Char} (he : e = 'e' ∨ e = 'E') (hds : IsRun ds) :
      SpellsExponent (some (true, ds)) (e :: '-' :: ds)
  | plus {e : Char} {ds : List Char} (he : e = 'e' ∨ e = 'E') (hds : IsRun ds) :
      SpellsExponent (some (false, ds)) (e :: '+' :: ds)
  | bare {e : Char} {ds : List Char} (he : e = 'e' ∨ e = 'E') (hds : IsRun ds) :
      SpellsExponent (some (false, ds)) (e :: ds)

/-- The text of a fraction. -/
def point : Option (List Char) → List Char
  | some ds => '.' :: ds
  | none => []

/-- The texts of a literal: digits where they are due, and no zero in front of further ones. -/
structure Literal.Spells (l : Literal) (t : List Char) : Prop where
  whole : IsRun l.whole
  zero : ∀ ds, l.whole = '0' :: ds → ds = []
  fraction : ∀ ds, l.fraction = some ds → IsRun ds
  text : ∃ x, SpellsExponent l.exponent x ∧
    t = (if l.negative then ['-'] else []) ++ (l.whole ++ (point l.fraction ++ x))

/-- A run of digits is taken whole, and nothing of what comes after it. -/
theorem IsRun.takeWhile (h : IsRun ds) (hrest : Stops isDigit rest) :
    (ds ++ rest).takeWhile isDigit = ds :=
  takeWhile_run h.2 hrest

/-- A run has a first digit. -/
theorem IsRun.eq_cons (h : IsRun ds) : ∃ c r, ds = c :: r ∧ isDigit c = true := by
  obtain ⟨c, r, rfl⟩ := List.exists_cons_of_ne_nil h.1
  exact ⟨c, r, rfl, h.2 c List.mem_cons_self⟩

/-- A text that begins with a character that belongs to no run stops the run before it. -/
theorem stops_point {f : Option (List Char)} (hrest : Stops isDigit rest) :
    Stops isDigit (point f ++ rest) := by
  cases f with
  | none => exact hrest
  | some ds => exact stops_cons.2 (by decide)

/-- What stops the digits of a whole number, and those of a fraction. -/
def stopsFraction (c : Char) : Bool := isDigit c || c == '.'

/-- What ends a fraction ends the digits of it. -/
theorem stops_isDigit_of_fraction (hrest : Stops stopsFraction rest) : Stops isDigit rest := by
  intro c hc
  exact (Bool.or_eq_false_iff.1 (hrest c hc)).1

/-- An exponent, or what comes after a number without one, is no part of the fraction in front. -/
theorem SpellsExponent.stops {x : Option (Bool × List Char)} (h : SpellsExponent x t)
    (hrest : Stops continuesNumber rest) : Stops stopsFraction (t ++ rest) := by
  cases h with
  | none =>
    intro c hc
    have hcontinues := hrest c hc
    simp only [continuesNumber, stopsFraction, Bool.or_eq_false_iff] at hcontinues ⊢
    exact hcontinues.1.1
  | minus he _ => exact stops_cons.2 (by rcases he with rfl | rfl <;> decide)
  | plus he _ => exact stops_cons.2 (by rcases he with rfl | rfl <;> decide)
  | bare he _ => exact stops_cons.2 (by rcases he with rfl | rfl <;> decide)

/-- A fraction is read as its digits, and a number without a point as having none. -/
theorem fractionDigits_point {f : Option (List Char)} (h : ∀ ds, f = some ds → IsRun ds)
    (hrest : Stops stopsFraction rest) :
    fractionDigits care (point f ++ rest) = .ok (f, rest) := by
  cases f with
  | none =>
    rw [point, List.nil_append, fractionDigits]
    rintro r rfl
    exact absurd (stops_cons.1 hrest) (by decide)
  | some ds =>
    have hrun := (h ds rfl).takeWhile (stops_isDigit_of_fraction hrest)
    rw [point, List.cons_append, fractionDigits, hrun]
    simp only [if_neg (h ds rfl).1, List.drop_left]

/-- The digits of an exponent, behind its letter and sign. -/
theorem IsRun.exponentDigits {e : Char} {negative : Bool} {r : List Char} (hds : IsRun ds)
    (he : e = 'e' ∨ e = 'E') (hrest : Stops isDigit rest)
    (hr : (match r with
      | '-' :: r => (true, r)
      | '+' :: r => (false, r)
      | r => (false, r)) = (negative, ds ++ rest)) :
    exponentDigits care (e :: r) = .ok (some (negative, ds), rest) := by
  have hafter : ∀ p : Bool × List Char, p = (negative, ds ++ rest) →
      (if p.2.takeWhile isDigit = [] then .error (digitDue care p.2)
        else .ok (some (p.1, p.2.takeWhile isDigit),
          p.2.drop (p.2.takeWhile isDigit).length) : Except Failure _) =
        .ok (some (negative, ds), rest) := by
    rintro _ rfl
    simp only [hds.takeWhile hrest, if_neg hds.1, List.drop_left]
  rcases he with rfl | rfl <;> exact hafter _ hr

/-- An exponent is read as its sign and digits in any of its spellings. -/
theorem SpellsExponent.exponentDigits {x : Option (Bool × List Char)} (h : SpellsExponent x t)
    (hrest : Stops continuesNumber rest) :
    exponentDigits care (t ++ rest) = .ok (x, rest) := by
  have hstop := stops_isDigit hrest
  cases h with
  | none =>
    rw [List.nil_append, Json.exponentDigits]
    · rintro r rfl
      exact absurd (stops_cons.1 hrest) (by decide)
    · rintro r rfl
      exact absurd (stops_cons.1 hrest) (by decide)
  | minus he hds => exact hds.exponentDigits he hstop rfl
  | plus he hds => exact hds.exponentDigits he hstop rfl
  | @bare e ds he hds =>
    refine hds.exponentDigits he hstop ?_
    obtain ⟨c, r, rfl, hc⟩ := hds.eq_cons
    -- a digit is no sign, so there is none to be read off
    split
    · rename_i heq
      obtain ⟨rfl, -⟩ := List.cons.inj heq
      exact absurd hc (by decide)
    · rename_i heq
      obtain ⟨rfl, -⟩ := List.cons.inj heq
      exact absurd hc (by decide)
    · rfl

/-- **A spelled literal** is read by its form. -/
theorem Literal.Spells.literal {l : Literal} (h : l.Spells t) (hrest : Stops continuesNumber rest) :
    Json.literal care (t ++ rest) = .ok (l, rest) := by
  obtain ⟨x, hx, rfl⟩ := h.text
  have hpoint := hx.stops hrest
  have hwhole := wholeDigits_run care h.whole.1 h.whole.2 h.zero
    (stops_point (f := l.fraction) (stops_isDigit_of_fraction hpoint))
  have hfraction : fractionDigits care (point l.fraction ++ (x ++ rest)) =
      .ok (l.fraction, x ++ rest) := fractionDigits_point h.fraction hpoint
  have hexponent : exponentDigits care (x ++ rest) = .ok (l.exponent, rest) :=
    hx.exponentDigits hrest
  simp only [List.append_assoc]
  obtain ⟨negative, whole, fraction, exponent⟩ := l
  cases negative with
  | true => exact literal_minus hwhole hfraction hexponent
  | false =>
    refine literal_plain (fun r hr => ?_) hwhole hfraction hexponent
    obtain ⟨c, ds, rfl, hc⟩ := h.whole.eq_cons
    obtain ⟨rfl, -⟩ := List.cons.inj hr
    exact absurd hc (by decide)

/-- A number begins with a sign or a digit. -/
theorem Literal.Spells.eq_cons {l : Literal} (h : l.Spells t) :
    ∃ c r, t = c :: r ∧ beginsNumber c = true := by
  obtain ⟨x, -, rfl⟩ := h.text
  cases l.negative with
  | true => exact ⟨'-', _, rfl, rfl⟩
  | false =>
    obtain ⟨c, r, hr, hc⟩ := h.whole.eq_cons
    exact ⟨c, r ++ (point l.fraction ++ x), by rw [hr]; rfl, by rw [beginsNumber, hc, Bool.or_true]⟩

/-- **A spelled number** that is finite is read. -/
theorem Literal.Spells.number {l : Literal} (h : l.Spells t) (hfinite : l.Finite)
    (hrest : Stops continuesNumber rest) :
    Json.number care (t ++ rest) = .ok (l.number, rest) := by
  rw [Json.number, h.literal hrest, ok_bind]
  dsimp only
  rw [hfinite.overflow?]
  cases care <;> rfl

/-- Where a number is passed over its size is not looked at. -/
theorem Literal.Spells.number_skip {l : Literal} (h : l.Spells t)
    (hrest : Stops continuesNumber rest) :
    Json.number .skip (t ++ rest) = .ok (l.number, rest) := by
  rw [Json.number, h.literal hrest, ok_bind]

/-! ## Values -/

/-- White space between tokens. -/
def IsSpaces (ws : List Char) : Prop := ∀ c ∈ ws, isSpace c = true

instance (ws : List Char) : Decidable (IsSpaces ws) :=
  List.decidableBAll (isSpace · = true) ws

/-- No white space is white space. -/
theorem isSpaces_nil : IsSpaces [] := nofun

/-- White space behind white space is one piece of it. -/
theorem IsSpaces.append {a b : List Char} (ha : IsSpaces a) (hb : IsSpaces b) :
    IsSpaces (a ++ b) :=
  List.forall_mem_append.2 ⟨ha, hb⟩

/-- What stands before an item or a member: a comma, unless it is the first. -/
inductive Leads : (first : Bool) → List Char → Prop
  | first {ws : List Char} (hws : IsSpaces ws) : Leads true ws
  | next {ws ws' : List Char} (hws : IsSpaces ws) (hws' : IsSpaces ws') :
      Leads false (ws ++ ',' :: ws')

/-- What a piece of a text stands for: a value, or what is left of an array or an object, from its
beginning or after an item or a member. -/
inductive Part where
  | value (v : Value)
  | items (first : Bool) (vs : List Value)
  | members (first : Bool) (ms : List (String × Value))

/-- How strings, between their quotes, and numbers are spelled. A reader accepts some of the texts
that have the form of a value, and a style says which. -/
structure Style where
  string : String → List Char → Prop
  number : Number → List Char → Prop

/-- Any escapes, and any literal of a number that is finite. -/
def Style.free : Style where
  string s t := SpellsText s.toList t
  number n t := ∃ l : Literal, l.Spells t ∧ l.Finite ∧ l.number = n

/-- What has the form of a string, whatever it denotes, and any literal. -/
def Style.form : Style where
  string _ t := IsQuoted t
  number n t := ∃ l : Literal, l.Spells t ∧ l.number = n

/-- The style of what is read with some care. -/
def Care.style : Care → Style
  | .skip => .form
  | .resolve | .keep => .free

/-- The texts of a part, in a style, in which arrays and objects are nested at most so deep. -/
inductive Spells (σ : Style) : (depth : Nat) → Part → List Char → Prop
  | null {d : Nat} {ws : List Char} (hws : IsSpaces ws) :
      Spells σ d (.value .null) (ws ++ ['n', 'u', 'l', 'l'])
  | yes {d : Nat} {ws : List Char} (hws : IsSpaces ws) :
      Spells σ d (.value (.bool true)) (ws ++ ['t', 'r', 'u', 'e'])
  | no {d : Nat} {ws : List Char} (hws : IsSpaces ws) :
      Spells σ d (.value (.bool false)) (ws ++ ['f', 'a', 'l', 's', 'e'])
  | number {d : Nat} {ws t : List Char} {n : Number} (hws : IsSpaces ws) (h : σ.number n t) :
      Spells σ d (.value (.number n)) (ws ++ t)
  | string {d : Nat} {ws t : List Char} {s : String} (hws : IsSpaces ws) (h : σ.string s t) :
      Spells σ d (.value (.string s)) (ws ++ '"' :: (t ++ ['"']))
  | array {d : Nat} {ws t : List Char} {vs : List Value} (hws : IsSpaces ws)
      (h : Spells σ d (.items true vs) t) : Spells σ (d + 1) (.value (.array vs)) (ws ++ '[' :: t)
  | object {d : Nat} {ws t : List Char} {ms : List (String × Value)} (hws : IsSpaces ws)
      (h : Spells σ d (.members true ms) t) :
      Spells σ (d + 1) (.value (.object ms)) (ws ++ '\x7b' :: t)
  | noItem {d : Nat} {first : Bool} {ws : List Char} (hws : IsSpaces ws) :
      Spells σ d (.items first []) (ws ++ [']'])
  | item {d : Nat} {first : Bool} {lead t u : List Char} {v : Value} {vs : List Value}
      (hlead : Leads first lead) (hv : Spells σ d (.value v) t)
      (hvs : Spells σ d (.items false vs) u) :
      Spells σ d (.items first (v :: vs)) (lead ++ (t ++ u))
  | noMember {d : Nat} {first : Bool} {ws : List Char} (hws : IsSpaces ws) :
      Spells σ d (.members first []) (ws ++ ['\x7d'])
  | member {d : Nat} {first : Bool} {lead key ws t u : List Char} {k : String} {v : Value}
      {ms : List (String × Value)} (hlead : Leads first lead) (hkey : σ.string k key)
      (hws : IsSpaces ws) (hv : Spells σ d (.value v) t) (hms : Spells σ d (.members false ms) u) :
      Spells σ d (.members first ((k, v) :: ms))
        (lead ++ '"' :: (key ++ '"' :: (ws ++ ':' :: (t ++ u))))

/-- A value in which no object begins with the reserved name, so that it stands for itself. -/
inductive Value.Plain : Value → Prop
  | null : Plain .null
  | bool {b : Bool} : Plain (.bool b)
  | number {n : Number} : Plain (.number n)
  | string {s : String} : Plain (.string s)
  | array {vs : List Value} (h : ∀ v ∈ vs, v.Plain) : Plain (.array vs)
  | object {ms : List (String × Value)} (hfirst : ∀ m ∈ ms.head?, m.1 ≠ embeddedName)
      (h : ∀ m ∈ ms, m.2.Plain) : Plain (.object ms)

variable {d fuel room : Nat} {first : Bool} {ws lead : List Char} {v : Value} {vs : List Value}
  {ms : List (String × Value)}

/-! ### Styles -/

/-- A text in one style is one in another that allows more. -/
theorem Spells.mono {σ τ : Style} {p : Part} (hstring : ∀ s t, σ.string s t → τ.string s t)
    (hnumber : ∀ n t, σ.number n t → τ.number n t) (h : Spells σ d p t) : Spells τ d p t := by
  induction h with
  | null hws => exact .null hws
  | yes hws => exact .yes hws
  | no hws => exact .no hws
  | number hws h => exact .number hws (hnumber _ _ h)
  | string hws h => exact .string hws (hstring _ _ h)
  | array hws _ ih => exact .array hws ih
  | object hws _ ih => exact .object hws ih
  | noItem hws => exact .noItem hws
  | item hlead _ _ ih ih' => exact .item hlead ih ih'
  | noMember hws => exact .noMember hws
  | member hlead hkey hws _ _ ih ih' => exact .member hlead (hstring _ _ hkey) hws ih ih'

/-- What is spelled has the form of a value. -/
theorem Spells.form {p : Part} (h : Spells .free d p t) : Spells .form d p t := by
  refine h.mono (fun _ _ hstring => SpellsText.isQuoted hstring) ?_
  rintro n t ⟨l, hl, -, hn⟩
  exact ⟨l, hl, hn⟩

/-- A string in the style of some care is read with that care, and unless it is passed over it is
read as what is spelled. -/
theorem Care.stringTail {s : String} (h : care.style.string s t) (rest : List Char) :
    ∃ s', Json.stringTail care (t ++ '"' :: rest) = .ok (s', rest) ∧ (care ≠ .skip → s' = s) := by
  cases care with
  | resolve => exact ⟨s, SpellsText.stringTail h (by decide) rest, fun _ => rfl⟩
  | keep => exact ⟨s, SpellsText.stringTail h (by decide) rest, fun _ => rfl⟩
  | skip =>
    obtain ⟨s', hs'⟩ := IsQuoted.stringTail h rest
    exact ⟨s', hs', fun hskip => absurd rfl hskip⟩

/-- A number in the style of some care is read with that care, likewise. -/
theorem Care.number {n : Number} (h : care.style.number n t) (hrest : Stops continuesNumber rest) :
    ∃ n', Json.number care (t ++ rest) = .ok (n', rest) ∧ (care ≠ .skip → n' = n) := by
  cases care with
  | resolve =>
    obtain ⟨l, hl, hfinite, rfl⟩ := h
    exact ⟨_, hl.number hfinite hrest, fun _ => rfl⟩
  | keep =>
    obtain ⟨l, hl, hfinite, rfl⟩ := h
    exact ⟨_, hl.number hfinite hrest, fun _ => rfl⟩
  | skip =>
    obtain ⟨l, hl, rfl⟩ := h
    exact ⟨_, hl.number_skip hrest, fun _ => rfl⟩

/-- A number begins with a digit or a sign, with whatever care it is read. -/
theorem Care.number_eq_cons {n : Number} (h : care.style.number n t) :
    ∃ c r, t = c :: r ∧ beginsNumber c = true := by
  cases care with
  | resolve =>
    obtain ⟨l, hl, -, -⟩ := h
    exact hl.eq_cons
  | keep =>
    obtain ⟨l, hl, -, -⟩ := h
    exact hl.eq_cons
  | skip =>
    obtain ⟨l, hl, -⟩ := h
    exact hl.eq_cons

/-! ### Tokens -/

/-- White space at the front is passed over as if it were not there. -/
theorem skipSpace_append (hws : IsSpaces ws) (s : List Char) : skipSpace (ws ++ s) = skipSpace s :=
  List.dropWhile_append_of_pos hws

/-- White space ends a number. -/
theorem continuesNumber_of_isSpace (h : isSpace c = true) : continuesNumber c = false := by
  simp only [isSpace, Bool.or_eq_true, beq_iff_eq] at h
  rcases h with ((rfl | rfl) | rfl) | rfl <;> decide

/-- Neither white space nor what follows it is part of the number in front. -/
theorem stops_spaces (hws : IsSpaces ws) (hrest : Stops continuesNumber rest) :
    Stops continuesNumber (ws ++ rest) := by
  cases ws with
  | nil => exact hrest
  | cons c ws => exact stops_cons.2 (continuesNumber_of_isSpace (hws c List.mem_cons_self))

/-- White space at the end of a text is no part of a number in front of it. -/
theorem IsSpaces.stops (hws : IsSpaces ws) : Stops continuesNumber ws := by
  have happend := stops_spaces hws stops_nil
  rwa [List.append_nil] at happend

/-- White space in front of what is read counts with what leads to it. -/
theorem Leads.append (h : Leads first lead) (hws : IsSpaces ws) : Leads first (lead ++ ws) := by
  cases h with
  | first h => exact .first (h.append hws)
  | next h h' =>
    rw [List.append_assoc, List.cons_append]
    exact .next h (h'.append hws)

/-- A comma is no part of a number in front of it. -/
theorem Leads.stops (h : Leads false lead) (s : List Char) : Stops continuesNumber (lead ++ s) := by
  cases h with
  | next hws _ =>
    rw [List.append_assoc]
    exact stops_spaces hws (stops_cons.2 (by decide))

/-- A closing bracket ends an array, whether an item was read before it or not. -/
theorem nextItem_end (hws : IsSpaces ws) :
    nextItem first (ws ++ ']' :: rest) = .ok (false, ']' :: rest) := by
  rw [nextItem, skipSpace_append hws, skipSpace_eq (by decide)]
  rfl

/-- Behind a comma an item is due. -/
theorem nextItem_comma (hws : IsSpaces ws) (s : List Char) : nextItem false (ws ++ ',' :: s) =
    match skipSpace s with
    | [] => .error (failAt .endInValue [])
    | ']' :: r => .error (failAfter .trailingComma (']' :: r))
    | s => .ok (true, s) := by
  rw [nextItem, skipSpace_append hws, skipSpace_eq (by decide)]
  rfl

/-- An item is left to be read, from its first character on. -/
theorem nextItem_item (h : Leads first lead) (hc : isSpace c = false) (hend : c ≠ ']') :
    nextItem first (lead ++ c :: rest) = .ok (true, c :: rest) := by
  cases h with
  | first h =>
    rw [nextItem, skipSpace_append h, skipSpace_eq hc]
    split
    · rename_i heq
      cases heq
    · rename_i heq
      exact absurd (List.cons.inj heq).1 hend
    · rename_i heq
      obtain ⟨rfl, rfl⟩ := List.cons.inj heq
      rfl
  | @next ws ws' h h' =>
    rw [List.append_assoc, List.cons_append, nextItem_comma h, skipSpace_append h', skipSpace_eq hc]
    split
    · rename_i heq
      cases heq
    · rename_i heq
      exact absurd (List.cons.inj heq).1 hend
    · rfl

/-- A closing brace ends an object likewise. -/
theorem nextKey_end (hws : IsSpaces ws) :
    nextKey first (ws ++ '\x7d' :: rest) = .ok (false, '\x7d' :: rest) := by
  rw [nextKey, skipSpace_append hws, skipSpace_eq (by decide)]
  rfl

/-- Behind a comma a key is due. -/
theorem nextKey_comma (hws : IsSpaces ws) (s : List Char) : nextKey false (ws ++ ',' :: s) =
    match skipSpace s with
    | [] => .error (failAt .endInValue [])
    | '"' :: r => .ok (true, r)
    | '\x7d' :: r => .error (failAfter .trailingComma ('\x7d' :: r))
    | s => .error (failAfter .keyNotString s) := by
  rw [nextKey, skipSpace_append hws, skipSpace_eq (by decide)]
  rfl

/-- A quote begins a key, at the first member without a comma and at the others behind one. -/
theorem nextKey_key (h : Leads first lead) :
    nextKey first (lead ++ '"' :: rest) = .ok (true, rest) := by
  cases h with
  | first h =>
    rw [nextKey, skipSpace_append h, skipSpace_eq (by decide)]
    rfl
  | @next ws ws' h h' =>
    rw [List.append_assoc, List.cons_append, nextKey_comma h, skipSpace_append h',
      skipSpace_eq (by decide)]
    rfl

/-- Between a key and its value there may be white space before the colon. -/
theorem colon_spaces (hws : IsSpaces ws) : colon (ws ++ ':' :: rest) = .ok ((), rest) := by
  rw [colon, skipSpace_append hws, skipSpace_eq (by decide)]
  rfl

/-- A value is read past the white space in front of it. -/
theorem value_spaces (hws : IsSpaces ws) (s : List Char) :
    value care (fuel + 1) room (ws ++ s) = value care (fuel + 1) room s := by
  rw [value, value, skipSpace_append hws]

/-- What begins a value ends no array. -/
theorem Spells.value_eq_cons (h : Spells care.style d (.value v) t) :
    ∃ ws c r, t = ws ++ c :: r ∧ IsSpaces ws ∧ isSpace c = false ∧ c ≠ ']' := by
  cases h with
  | @null _ ws hws => exact ⟨ws, _, _, rfl, hws, by decide, by decide⟩
  | @yes _ ws hws => exact ⟨ws, _, _, rfl, hws, by decide, by decide⟩
  | @no _ ws hws => exact ⟨ws, _, _, rfl, hws, by decide, by decide⟩
  | @number _ ws t n hws h =>
    obtain ⟨c, r, rfl, hc⟩ := Care.number_eq_cons h
    refine ⟨ws, c, r, rfl, hws, isSpace_of_beginsNumber hc, ?_⟩
    rintro rfl
    exact absurd hc (by decide)
  | @string _ ws t s hws h => exact ⟨ws, _, _, rfl, hws, by decide, by decide⟩
  | @array _ ws t vs hws h => exact ⟨ws, _, _, rfl, hws, by decide, by decide⟩
  | @object _ ws t ms hws h => exact ⟨ws, _, _, rfl, hws, by decide, by decide⟩

/-- The rest of an array or an object is no part of a number in front of it. -/
theorem Spells.stops_items {σ : Style} (h : Spells σ d (.items false vs) t) :
    Stops continuesNumber (t ++ rest) := by
  cases h with
  | noItem hws =>
    rw [List.append_assoc]
    exact stops_spaces hws (stops_cons.2 (by decide))
  | item hlead _ _ =>
    rw [List.append_assoc]
    exact hlead.stops _

/-- For an object this is the comma or the closing brace. -/
theorem Spells.stops_members {σ : Style} (h : Spells σ d (.members false ms) t) :
    Stops continuesNumber (t ++ rest) := by
  cases h with
  | noMember hws =>
    rw [List.append_assoc]
    exact stops_spaces hws (stops_cons.2 (by decide))
  | member hlead _ _ _ _ =>
    rw [List.append_assoc]
    exact hlead.stops _

/-- An object that begins with a key embeds a text if the key is the reserved name. -/
theorem embedding?_key {key : List Char} {k : String} (hws : IsSpaces ws)
    (hkey : SpellsText k.toList key) (s : List Char) :
    embedding? (ws ++ '"' :: (key ++ '"' :: s)) = if k = embeddedName then some s else none := by
  rw [embedding?, skipSpace_append hws, skipSpace_eq (by decide)]
  simp only [hkey.stringTail (show Care.keep ≠ .skip by decide)]

/-- An object that does not begin with the reserved name stands for itself. -/
theorem Spells.embedding? (h : Spells .free d (.members true ms) t)
    (hfirst : ∀ m ∈ ms.head?, m.1 ≠ embeddedName) (rest : List Char) :
    embedding? (t ++ rest) = none := by
  cases h with
  | noMember hws =>
    rw [List.append_assoc, Json.embedding?, skipSpace_append hws]
    rfl
  | member hlead hkey hws hv hms =>
    cases hlead with
    | first hlead =>
      simp only [List.append_assoc, List.cons_append]
      rw [embedding?_key hlead hkey, if_neg (hfirst _ rfl)]

/-! ### Reading -/

/-- A text from which a part is read with some care, whatever comes after it: there is room for what
is nested in it, unless it is passed over, and fuel for every character. Where embedded texts are
resolved, what is read has to stand for itself; what is passed over may be read as anything. -/
def Part.ReadBy (care : Care) (d : Nat) (t : List Char) : Part → Prop
  | value v => (care = .resolve → v.Plain) → ∀ fuel room rest, 2 * t.length ≤ fuel + 1 →
      (care ≠ .skip → d ≤ room) → Stops continuesNumber rest →
      ∃ w, Json.value care fuel room (t ++ rest) = .ok (w, rest) ∧ (care ≠ .skip → w = v)
  | items first vs => (care = .resolve → ∀ v ∈ vs, v.Plain) → ∀ fuel room rest,
      2 * t.length ≤ fuel → (care ≠ .skip → d ≤ room) →
      ∃ ws, Json.items care fuel room first (t ++ rest) = .ok (ws, rest) ∧ (care ≠ .skip → ws = vs)
  | members first ms => (care = .resolve → ∀ m ∈ ms, m.2.Plain) → ∀ fuel room rest,
      2 * t.length ≤ fuel → (care ≠ .skip → d ≤ room) →
      ∃ ns, Json.members care fuel room first (t ++ rest) = .ok (ns, rest) ∧
        (care ≠ .skip → ns = ms)

/-- A value that is one token is read past the white space in front of it. -/
theorem reads_token {r : List Char} (hws : IsSpaces ws)
    (h : ∀ fuel room rest, Stops continuesNumber rest →
      ∃ w, Json.value care (fuel + 1) room (c :: (r ++ rest)) = .ok (w, rest) ∧
        (care ≠ .skip → w = v)) :
    (Part.value v).ReadBy care d (ws ++ c :: r) := by
  intro _ fuel room rest hfuel _ hrest
  rw [List.length_append, List.length_cons] at hfuel
  obtain ⟨fuel, rfl⟩ := Nat.exists_eq_succ_of_ne_zero (show fuel ≠ 0 by omega)
  rw [List.append_assoc, value_spaces hws]
  exact h fuel room rest hrest

/-- An array is read if its items are, one level further down. -/
theorem reads_array (hws : IsSpaces ws) (h : (Part.items true vs).ReadBy care d t) :
    (Part.value (.array vs)).ReadBy care (d + 1) (ws ++ '[' :: t) := by
  intro hplain fuel room rest hfuel hroom _
  rw [List.length_append, List.length_cons] at hfuel
  obtain ⟨fuel, rfl⟩ := Nat.exists_eq_succ_of_ne_zero (show fuel ≠ 0 by omega)
  have hinside : care = .resolve → ∀ v ∈ vs, v.Plain := by
    intro hcare
    cases hplain hcare with
    | array hplain => exact hplain
  obtain ⟨us, hus, hsame⟩ := h hinside fuel (room - 1) rest (by omega)
    fun hcare => Nat.le_sub_one_of_lt (hroom hcare)
  refine ⟨.array us, ?_, fun hcare => by rw [hsame hcare]⟩
  rw [List.append_assoc, value_spaces hws, List.cons_append, value, skipSpace_eq (by decide)]
  change (if _ ∧ room = 0 then _ else _) = _
  rw [if_neg fun hfull => Nat.ne_of_gt (Nat.zero_lt_of_lt (hroom hfull.1)) hfull.2, hus]
  rfl

/-- An object is read member by member, unless it stands for an embedded text. -/
theorem value_object (hroom : care ≠ .skip → room ≠ 0) (s : List Char)
    (hself : care = .resolve → Json.embedding? s = none) :
    Json.value care (fuel + 1) room ('\x7b' :: s) =
      (Json.members care fuel (room - 1) true s).map fun p => (.object p.1, p.2) := by
  rw [value, skipSpace_eq (by decide)]
  change (if _ ∧ room = 0 then _ else _) = _
  rw [if_neg fun hfull => hroom hfull.1 hfull.2]
  cases care with
  | resolve => rw [hself rfl]
  | keep => rfl
  | skip => rfl

/-- An object is read if its members are. Where texts may be embedded, it has to stand for itself:
otherwise the first key could be the reserved name. -/
theorem reads_object (hws : IsSpaces ws) (hspells : Spells care.style d (.members true ms) t)
    (h : (Part.members true ms).ReadBy care d t) :
    (Part.value (.object ms)).ReadBy care (d + 1) (ws ++ '\x7b' :: t) := by
  intro hplain fuel room rest hfuel hroom _
  rw [List.length_append, List.length_cons] at hfuel
  obtain ⟨fuel, rfl⟩ := Nat.exists_eq_succ_of_ne_zero (show fuel ≠ 0 by omega)
  have hinside : care = .resolve → ∀ m ∈ ms, m.2.Plain := by
    intro hcare
    cases hplain hcare with
    | object _ hplain => exact hplain
  have hself : care = .resolve → Json.embedding? (t ++ rest) = none := by
    rintro rfl
    cases hplain rfl with
    | object hfirst _ => exact hspells.embedding? hfirst rest
  obtain ⟨ns, hns, hsame⟩ := h hinside fuel (room - 1) rest (by omega)
    fun hcare => Nat.le_sub_one_of_lt (hroom hcare)
  refine ⟨.object ns, ?_, fun hcare => by rw [hsame hcare]⟩
  rw [List.append_assoc, value_spaces hws, List.cons_append, value_object _ _ hself, hns]
  · rfl
  · exact fun hcare => Nat.ne_of_gt (Nat.zero_lt_of_lt (hroom hcare))

/-- An item is read, and then those behind it. -/
theorem items_item {s : List Char} (hlead : Leads first lead)
    (ht : ∃ ws c r, t = ws ++ c :: r ∧ IsSpaces ws ∧ isSpace c = false ∧ c ≠ ']')
    (hv : Json.value care (fuel + 1) room (t ++ s) = .ok (v, s)) :
    items care (fuel + 2) room first (lead ++ (t ++ s)) =
      (items care (fuel + 1) room false s).map fun p => (v :: p.1, p.2) := by
  obtain ⟨ws, c, r, rfl, hws, hc, hend⟩ := ht
  have hnext : nextItem first (lead ++ ((ws ++ c :: r) ++ s)) = .ok (true, c :: r ++ s) := by
    have hleads := hlead.append hws
    simpa using nextItem_item hleads hc hend
  rw [List.append_assoc, value_spaces hws] at hv
  rw [items, hnext, ok_bind]
  dsimp only
  rw [hv, ok_bind]
  dsimp only
  cases items care (fuel + 1) room false s <;> rfl

/-- A member is read, and then those behind it. -/
theorem members_member {key s : List Char} {k : String} (hlead : Leads first lead)
    (hkey : Json.stringTail care (key ++ '"' :: (ws ++ ':' :: s)) = .ok (k, ws ++ ':' :: s))
    (hws : IsSpaces ws) :
    members care (fuel + 1) room first (lead ++ '"' :: (key ++ '"' :: (ws ++ ':' :: s))) =
      (Json.value care fuel room s >>= fun p => (members care fuel room false p.2).map
        fun q => ((k, p.1) :: q.1, q.2)) := by
  rw [members, nextKey_key hlead, ok_bind]
  dsimp only
  rw [hkey, ok_bind]
  dsimp only
  rw [colon_spaces hws, ok_bind]
  dsimp only
  cases Json.value care fuel room s with
  | error e => rfl
  | ok p =>
    rw [ok_bind, ok_bind]
    cases members care fuel room false p.2 <;> rfl

/-- An item and those behind it are read one after the other. There is fuel for both, as the texts
together are as long as the whole. -/
theorem reads_item {u : List Char} (hlead : Leads first lead)
    (hspells : Spells care.style d (.value v) t)
    (hspells' : Spells care.style d (.items false vs) u) (hv : (Part.value v).ReadBy care d t)
    (hvs : (Part.items false vs).ReadBy care d u) :
    (Part.items first (v :: vs)).ReadBy care d (lead ++ (t ++ u)) := by
  intro hplain fuel room rest hfuel hroom
  have hbegins := hspells.value_eq_cons
  have hpos : t ≠ [] := by
    obtain ⟨ws, c, r, rfl, -⟩ := hbegins
    simp
  have hlength := List.length_pos_iff.2 hpos
  simp only [List.length_append] at hfuel
  obtain ⟨fuel, rfl⟩ := Nat.exists_eq_add_of_le' (show 2 ≤ fuel by omega)
  -- two steps for each character: one step of the items, and the item has enough of its own
  obtain ⟨w, hvalue, hw⟩ := hv (fun hcare => hplain hcare v List.mem_cons_self) (fuel + 1) room
    (u ++ rest) (by omega) hroom hspells'.stops_items
  obtain ⟨us, hitems, hus⟩ := hvs (fun hcare x hx => hplain hcare x (List.mem_cons_of_mem v hx))
    (fuel + 1) room rest (by omega) hroom
  refine ⟨w :: us, ?_, fun hcare => by rw [hw hcare, hus hcare]⟩
  simp only [List.append_assoc]
  rw [items_item hlead hbegins hvalue, hitems]
  rfl

/-- A member likewise, where the key is read before the value. -/
theorem reads_member {key u : List Char} {k : String} (hlead : Leads first lead)
    (hkey : care.style.string k key) (hws : IsSpaces ws)
    (hspells : Spells care.style d (.members false ms) u)
    (hv : (Part.value v).ReadBy care d t) (hms : (Part.members false ms).ReadBy care d u) :
    (Part.members first ((k, v) :: ms)).ReadBy care d
      (lead ++ '"' :: (key ++ '"' :: (ws ++ ':' :: (t ++ u)))) := by
  intro hplain fuel room rest hfuel hroom
  simp only [List.length_append, List.length_cons] at hfuel
  obtain ⟨fuel, rfl⟩ := Nat.exists_eq_succ_of_ne_zero (show fuel ≠ 0 by omega)
  obtain ⟨k', hname, hk⟩ := Care.stringTail hkey (ws ++ ':' :: (t ++ (u ++ rest)))
  obtain ⟨w, hvalue, hw⟩ := hv (fun hcare => hplain hcare _ List.mem_cons_self) fuel room
    (u ++ rest) (by omega) hroom hspells.stops_members
  obtain ⟨ns, hmembers, hns⟩ := hms
    (fun hcare x hx => hplain hcare x (List.mem_cons_of_mem _ hx)) fuel room rest (by omega) hroom
  refine ⟨(k', w) :: ns, ?_, fun hcare => by rw [hk hcare, hw hcare, hns hcare]⟩
  simp only [List.append_assoc, List.cons_append]
  rw [members_member hlead hname hws, hvalue, ok_bind, hmembers]
  rfl

/-- **What is spelled is read**, in the style of the care that it is read with. -/
theorem Spells.reads {p : Part} (h : Spells care.style d p t) : p.ReadBy care d t := by
  generalize hσ : care.style = σ at h
  -- one case for each rule of the grammar
  induction h with
  | null hws => exact reads_token hws fun _ _ _ _ => ⟨_, rfl, fun _ => rfl⟩
  | yes hws => exact reads_token hws fun _ _ _ _ => ⟨_, rfl, fun _ => rfl⟩
  | no hws => exact reads_token hws fun _ _ _ _ => ⟨_, rfl, fun _ => rfl⟩
  | @number _ ws t n hws h =>
    subst hσ
    obtain ⟨c, r, rfl, hc⟩ := Care.number_eq_cons h
    refine reads_token hws fun fuel room rest hrest => ?_
    obtain ⟨n', hn, hsame⟩ := Care.number h hrest
    refine ⟨.number n', ?_, fun hcare => by rw [hsame hcare]⟩
    rw [value_number _ _ _ hc, ← List.cons_append, hn]
    rfl
  | @string _ ws t s hws h =>
    subst hσ
    refine reads_token hws fun fuel room rest _ => ?_
    obtain ⟨s', htail, hsame⟩ := Care.stringTail h rest
    have hstart : Json.value care (fuel + 1) room ('"' :: (t ++ '"' :: rest)) =
        (Json.stringTail care (t ++ '"' :: rest)).map fun p => (.string p.1, p.2) := rfl
    refine ⟨.string s', ?_, fun hcare => by rw [hsame hcare]⟩
    rw [List.append_assoc, List.singleton_append, hstart, htail]
    rfl
  | array hws _ ih => exact reads_array hws ih
  | object hws h ih => exact reads_object hws (hσ ▸ h) ih
  | noItem hws =>
    intro _ fuel room rest hfuel _
    simp only [List.length_append, List.length_cons] at hfuel
    obtain ⟨fuel, rfl⟩ := Nat.exists_eq_succ_of_ne_zero (show fuel ≠ 0 by omega)
    refine ⟨[], ?_, fun _ => rfl⟩
    rw [List.append_assoc, items]
    rw [List.singleton_append, nextItem_end hws]
    rfl
  | item hlead hv hvs ih ih' => exact reads_item hlead (hσ ▸ hv) (hσ ▸ hvs) ih ih'
  | noMember hws =>
    intro _ fuel room rest hfuel _
    simp only [List.length_append, List.length_cons] at hfuel
    obtain ⟨fuel, rfl⟩ := Nat.exists_eq_succ_of_ne_zero (show fuel ≠ 0 by omega)
    refine ⟨[], ?_, fun _ => rfl⟩
    rw [List.append_assoc, members]
    rw [List.singleton_append, nextKey_end hws]
    rfl
  | member hlead hkey hws _ hms ih ih' =>
    exact reads_member hlead (hσ ▸ hkey) hws (hσ ▸ hms) ih ih'

/-- **A spelled value is kept** as what it spells, if there is room for it. -/
theorem Spells.keepValue (h : Spells .free d (.value v) t) (hroom : d ≤ room)
    (hrest : Stops continuesNumber rest) : keepValue room (t ++ rest) = .ok (v, rest) := by
  obtain ⟨w, hw, hsame⟩ := @Spells.reads .keep t d (.value v) h nofun (enough (t ++ rest)) room rest
    (by rw [enough, List.length_append]; omega) (fun _ => hroom) hrest
  rw [Json.keepValue, hw, hsame (by decide)]

/-- **What has the form of a value is passed over**, however deep it is nested. -/
theorem Spells.skipValue (h : Spells .form d (.value v) t) (hrest : Stops continuesNumber rest) :
    skipValue (t ++ rest) = .ok ((), rest) := by
  obtain ⟨w, hw, -⟩ := @Spells.reads .skip t d (.value v) h nofun (enough (t ++ rest)) 0 rest
    (by rw [enough, List.length_append]; omega) (fun hcare => absurd rfl hcare) hrest
  rw [Json.skipValue, hw]
  rfl

/-! ### Whole texts -/

/-- The texts of a value in a style, with white space around it. It is how a whole text may be
written of which the reader gives the value. -/
def Spelled (σ : Style) (d : Nat) (v : Value) (s : List Char) : Prop :=
  ∃ t ws, Spells σ d (.value v) t ∧ IsSpaces ws ∧ s = t ++ ws

/-- A text may end in white space. -/
theorem finish_spaces (hws : IsSpaces ws) : finish ws = .ok () := by
  have hskip := skipSpace_append hws []
  rw [List.append_nil] at hskip
  rw [finish, hskip]
  rfl

/-- **Every text of a value** that stands for itself is read as the value. -/
theorem Spelled.read {s : List Char} (h : Spelled .free d v s) (hd : d ≤ depthLimit)
    (hv : v.Plain) : read s = .ok v := by
  obtain ⟨t, ws, ht, hws, rfl⟩ := h
  obtain ⟨w, hvalue, hsame⟩ := @Spells.reads .resolve t d (.value v) ht (fun _ => hv)
    (enough (t ++ ws)) depthLimit ws (by rw [enough, List.length_append]; omega) (fun _ => hd)
    hws.stops
  rw [Json.read, hvalue, ok_bind, hsame (by decide)]
  dsimp only
  rw [finish_spaces hws]
  rfl

end Reconciliation.Json
