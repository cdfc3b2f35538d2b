import Reconciliation.Proofs.Digits
import Reconciliation.Record.Identifier

/-!
# Numerals

A numeral is a sign, or none, and digits, of which any number may be zeros at the front. What it
spells is told by `SpellsNatural` and `SpellsInteger`, and what is wrong with another text by
`Misspells`: the first problem in it from left to right. Both say nothing of how a text is read.

* `Text.trimmed_iff`: what is left of a text when the blanks at its ends are gone.
* `Text.magnitude_append`: digits within the limit are taken one after another, so a reader stops
  where they end. What it does there is all there is to its errors (`Text.magnitude_eq_error_iff`).
* `Text.readNatural_eq_ok_iff`, `Text.readInteger_eq_ok_iff`: exactly the numerals of numbers
  within the bounds are read.
* `EntityId.reads_numerals`: the same for entities, with blanks around the numeral.
-/

namespace Reconciliation

namespace Text

variable {limit start n below above : Nat} {beyond why : NumeralError} {c : Char}
  {ds rest s t : List Char} {i : Int}

/-! ## Blanks at the ends -/

/-- A text and what is left of it: blanks at its ends are gone, and it neither begins nor ends
with another one. -/
structure Trimmed (s t : List Char) : Prop where
  split : ∃ front back, s = front ++ t ++ back ∧
    (∀ c ∈ front, isBlank c = true) ∧ ∀ c ∈ back, isBlank c = true
  start : Stops isBlank t
  stop : Stops isBlank t.reverse

/-- What is trimmed is what stands between the white space at both ends. -/
theorem trimmed_trim (s : List Char) : Trimmed s (trim s) := by
  have hblank : ∀ t : List Char, ∀ c ∈ t.takeWhile isBlank, isBlank c = true :=
    fun t c hc => List.mem_takeWhile_imp hc
  -- what is cut off the end is the front of the reversed text
  have hend : trim s ++ ((trimStart s).reverse.takeWhile isBlank).reverse = trimStart s := by
    rw [trim, trimEnd, ← List.reverse_append, List.takeWhile_append_dropWhile, List.reverse_reverse]
  refine ⟨⟨s.takeWhile isBlank, ((trimStart s).reverse.takeWhile isBlank).reverse, ?_, hblank s,
    fun c hc => hblank _ c (List.mem_reverse.1 hc)⟩, ?_, ?_⟩
  · rw [List.append_assoc, hend, trimStart, List.takeWhile_append_dropWhile]
  · intro c hc
    refine head_trimStart s c ?_
    rw [← hend, List.head?_append, Option.mem_def.1 hc]
    rfl
  · rw [trim, trimEnd, List.reverse_reverse]
    exact head_trimStart _

/-- What is left of a text is determined by it. -/
theorem trimmed_iff : Trimmed s t ↔ trim s = t := by
  refine ⟨fun h => ?_, fun h => h ▸ trimmed_trim s⟩
  obtain ⟨front, back, rfl, hfront, hback⟩ := h.split
  rcases t with _ | ⟨c, r⟩
  · have hnone : trimStart (front ++ [] ++ back) = [] := by
      rw [List.append_nil, ← List.append_nil (front ++ back)]
      refine dropWhile_run (fun c hc => ?_) stops_nil
      exact (List.mem_append.1 hc).elim (hfront c) (hback c)
    rw [trim, hnone]
    rfl
  · have hstart : trimStart (front ++ c :: r ++ back) = c :: r ++ back := by
      rw [List.append_assoc]
      exact dropWhile_run hfront (stops_cons.2 (stops_cons.1 h.start))
    have hrest : (back.reverse ++ (c :: r).reverse).dropWhile isBlank = (c :: r).reverse :=
      dropWhile_run (fun c hc => hback c (List.mem_reverse.1 hc)) h.stop
    rw [trim, hstart, trimEnd, List.reverse_append, hrest, List.reverse_reverse]

/-- A text without blanks stays as it is. -/
theorem trim_eq (h : ∀ c ∈ s, isBlank c = false) : trim s = s :=
  trimmed_iff.1 ⟨⟨[], [], by simp, by simp, by simp⟩, fun c hc => h c (List.mem_of_mem_head? hc),
    fun c hc => h c (List.mem_reverse.1 (List.mem_of_mem_head? hc))⟩

/-! ## Digits within a limit -/

/-- The value of digits, one digit at a time from the front. -/
theorem digitsValue_digit {d : Nat} (hd : digit? c = some d) (start : Nat) (r : List Char) :
    digitsValue start (c :: r) = digitsValue (10 * start + d) r := by
  rw [digitsValue_cons, hd, Option.getD_some]

/-- Digits that stay within the limit are taken, and what comes after them is read onto their
number. -/
theorem magnitude_append (hds : ∀ c ∈ ds, isDigit c = true) (h : digitsValue start ds ≤ limit)
    (rest : List Char) :
    magnitude limit beyond start (ds ++ rest) =
      magnitude limit beyond (digitsValue start ds) rest := by
  induction ds generalizing start with
  | nil => rfl
  | cons c r ih =>
    obtain ⟨d, hd⟩ := Option.isSome_iff_exists.1 (hds c List.mem_cons_self)
    rw [digitsValue_digit hd] at h ⊢
    simp only [List.cons_append, magnitude, hd]
    rw [if_pos (Nat.le_trans (le_digitsValue _ r) h)]
    exact ih (fun c hc => hds c (List.mem_cons_of_mem _ hc)) h

/-- Digits that stay within the limit read as the number they denote. -/
theorem magnitude_digits (hs : ∀ c ∈ s, isDigit c = true) (h : digitsValue start s ≤ limit) :
    magnitude limit beyond start s = .ok (digitsValue start s) := by
  have happend : magnitude limit beyond start (s ++ []) = _ := magnitude_append hs h []
  rwa [List.append_nil] at happend

/-- The first problem, from left to right, in a text whose digits are read onto a number: a
character that is no digit, or a digit with which the number passes the limit. All before it are
digits with which it did not. -/
inductive FirstProblem (limit : Nat) (beyond : NumeralError) (start : Nat) :
    List Char → NumeralError → Prop
  | character {ds : List Char} {c : Char} {rest : List Char} (hds : ∀ d ∈ ds, isDigit d = true)
      (hle : digitsValue start ds ≤ limit) (hc : isDigit c = false) :
      FirstProblem limit beyond start (ds ++ c :: rest) .invalidDigit
  | range {ds : List Char} {c : Char} {rest : List Char} (hds : ∀ d ∈ ds, isDigit d = true)
      (hle : digitsValue start ds ≤ limit) (hc : isDigit c = true)
      (hlt : limit < digitsValue start (ds ++ [c])) :
      FirstProblem limit beyond start (ds ++ c :: rest) beyond

/-- There is no problem with the empty run of digits; that it is empty is noticed before the digits
are looked at. -/
theorem FirstProblem.ne_nil (h : FirstProblem limit beyond start s why) : s ≠ [] := by
  cases h <;> exact List.append_ne_nil_of_right_ne_nil _ (List.cons_ne_nil _ _)

/-- A problem is no nearer with one more digit in front. -/
theorem FirstProblem.cons {d : Nat} (hd : digit? c = some d)
    (h : FirstProblem limit beyond (10 * start + d) s why) :
    FirstProblem limit beyond start (c :: s) why := by
  have hdigit : isDigit c = true := by rw [isDigit, hd]; rfl
  have hall : ∀ {ds : List Char}, (∀ x ∈ ds, isDigit x = true) → ∀ x ∈ c :: ds, isDigit x = true :=
    fun hds => List.forall_mem_cons.2 ⟨hdigit, hds⟩
  cases h with
  | character hds hle hc => exact .character (hall hds) (by rwa [digitsValue_digit hd]) hc
  | range hds hle hc hlt =>
    exact .range (hall hds) (by rwa [digitsValue_digit hd]) hc
      (by rwa [List.cons_append, digitsValue_digit hd])

/-- **Reading digits fails** exactly for the first problem in them. -/
theorem magnitude_eq_error_iff (hstart : start ≤ limit) :
    magnitude limit beyond start s = .error why ↔ FirstProblem limit beyond start s why := by
  constructor
  · intro h
    -- the digits are read from the left onto a number, so the induction is for every such number
    induction s generalizing start with
    | nil => cases h
    | cons c r ih =>
      rw [magnitude] at h
      split at h
      · rename_i hc
        cases h
        exact .character (List.forall_mem_nil _) hstart (by rw [isDigit, hc]; rfl)
      · rename_i d hd
        split at h
        · rename_i hle
          exact (ih hle h).cons hd
        · rename_i hgt
          cases h
          refine .range (List.forall_mem_nil _) hstart (by rw [isDigit, hd]; rfl) ?_
          rw [List.nil_append, digitsValue_digit hd]
          exact Nat.lt_of_not_le hgt
  · intro h
    cases h with
    | character hds hle hc =>
      rw [magnitude_append hds hle, magnitude, Option.isNone_iff_eq_none.1
        (Option.isSome_eq_false_iff.1 hc)]
    | range hds hle hc hlt =>
      obtain ⟨d, hd⟩ := Option.isSome_iff_exists.1 hc
      rw [digitsValue_append, digitsValue_digit hd] at hlt
      rw [magnitude_append hds hle, magnitude, hd]
      exact if_neg (Nat.not_le_of_lt hlt)

/-! ## Signs -/

/-- Decimal digits, with zeros at the front or without, denote a number. -/
structure Denotes (ds : List Char) (n : Nat) : Prop where
  nonempty : ds ≠ []
  digits : ∀ c ∈ ds, isDigit c = true
  value : digitsValue 0 ds = n

/-- The numerals of a natural number: its digits, perhaps behind a plus sign. There may be zeros at
the front, and there is always a digit. -/
inductive SpellsNatural (n : Nat) : List Char → Prop
  | plain {ds : List Char} (h : Denotes ds n) : SpellsNatural n ds
  | plus {ds : List Char} (h : Denotes ds n) : SpellsNatural n ('+' :: ds)

/-- The numerals of an integer: those of a natural number, or digits behind a minus sign. -/
inductive SpellsInteger : Int → List Char → Prop
  | natural {n : Nat} {s : List Char} (h : SpellsNatural n s) : SpellsInteger n s
  | minus {n : Nat} {ds : List Char} (h : Denotes ds n) : SpellsInteger (-n) ('-' :: ds)

/-- A text that does not begin with a sign. -/
def Unsigned (s : List Char) : Prop := Stops (fun c => c == '+' || c == '-') s

/-- What is wrong with a text as a numeral of a number from `-below` to `above`. -/
inductive Misspells (below above : Nat) : List Char → NumeralError → Prop
  | empty : Misspells below above [] .empty
  | plusAlone : Misspells below above ['+'] .invalidDigit
  | minusAlone : Misspells below above ['-'] .invalidDigit
  | plain {s : List Char} {why : NumeralError} (hs : Unsigned s)
      (h : FirstProblem above .tooLarge 0 s why) : Misspells below above s why
  | plus {s : List Char} {why : NumeralError} (h : FirstProblem above .tooLarge 0 s why) :
      Misspells below above ('+' :: s) why
  | minus {s : List Char} {why : NumeralError} (h : FirstProblem below .tooSmall 0 s why) :
      Misspells below above ('-' :: s) why

/-- Digits have no sign in front of them. -/
theorem Denotes.unsigned (h : Denotes ds n) : Unsigned ds := by
  intro c hc
  have hdigit := isDigit_iff.1 (h.digits c (List.mem_of_mem_head? hc))
  rw [Bool.or_eq_false_iff, beq_eq_false_iff_ne, beq_eq_false_iff_ne]
  constructor <;> rintro rfl <;> exact absurd hdigit (by decide)

/-- Digits that are read within a limit. -/
theorem magnitude_eq_ok_iff (hs : s ≠ []) :
    magnitude limit beyond 0 s = .ok n ↔ Denotes s n ∧ n ≤ limit := by
  constructor
  · intro h
    obtain ⟨hdigits, hvalue, hle⟩ := magnitude_eq_ok h
    exact ⟨⟨hs, List.all_eq_true.1 hdigits, hvalue.symm⟩, hle hs⟩
  · rintro ⟨⟨-, hdigits, rfl⟩, hle⟩
    exact magnitude_digits hdigits hle

/-- A text is empty, begins with a sign, which may stand alone, or is read without one. -/
theorem sign_cases (s : List Char) :
    s = [] ∨ s = ['+'] ∨ s = ['-'] ∨ (∃ r, r ≠ [] ∧ s = '+' :: r) ∨ (∃ r, r ≠ [] ∧ s = '-' :: r) ∨
      (s ≠ [] ∧ Unsigned s) := by
  rcases s with _ | ⟨c, _ | ⟨d, r⟩⟩
  · exact .inl rfl
  all_goals
    by_cases hplus : c = '+'
    · simp [hplus]
    · by_cases hminus : c = '-'
      · simp [hminus]
      · simp [hplus, hminus, Unsigned, stops_cons]

/-- Behind a plus sign there is a magnitude up to the bound above. -/
theorem readInteger_plus (hs : s ≠ []) :
    readInteger below above ('+' :: s) = (magnitude above .tooLarge 0 s).map Int.ofNat := by
  obtain ⟨c, r, rfl⟩ := List.exists_cons_of_ne_nil hs
  rfl

/-- Behind a minus sign there is one up to the bound below, which is one more than that above, so
the least integer is read without being negated. -/
theorem readInteger_minus (hs : s ≠ []) :
    readInteger below above ('-' :: s) =
      (magnitude below .tooSmall 0 s).map fun n : Nat => -(n : Int) := by
  obtain ⟨c, r, rfl⟩ := List.exists_cons_of_ne_nil hs
  simp only [readInteger]
  cases magnitude below .tooSmall 0 (c :: r) <;> rfl

/-- Without a sign the digits are read as behind a plus sign. -/
theorem readInteger_plain (hs : s ≠ []) (hsign : Unsigned s) :
    readInteger below above s = (magnitude above .tooLarge 0 s).map Int.ofNat := by
  obtain ⟨c, r, rfl⟩ := List.exists_cons_of_ne_nil hs
  have hc := stops_cons.1 hsign
  rw [Bool.or_eq_false_iff, beq_eq_false_iff_ne, beq_eq_false_iff_ne] at hc
  unfold readInteger
  split <;> simp_all

/-- A natural number may have a plus sign. It has no case for a minus sign, which is refused as no
digit. -/
theorem readNatural_plus (hs : s ≠ []) :
    readNatural limit ('+' :: s) = magnitude limit .tooLarge 0 s := by
  obtain ⟨c, r, rfl⟩ := List.exists_cons_of_ne_nil hs
  rfl

/-- A minus sign is no exception where no sign but a plus is known: it is no digit. -/
theorem readNatural_plain (hs : s ≠ []) (hplus : s.head? ≠ some '+') :
    readNatural limit s = magnitude limit .tooLarge 0 s := by
  obtain ⟨c, r, rfl⟩ := List.exists_cons_of_ne_nil hs
  unfold readNatural
  split <;> simp_all

/-- **A natural number is read** exactly from its numerals, if it is within the limit. -/
theorem readNatural_eq_ok_iff :
    readNatural limit s = .ok n ↔ SpellsNatural n s ∧ n ≤ limit := by
  constructor
  · intro h
    by_cases hplus : s.head? = some '+'
    · obtain ⟨r, rfl⟩ := List.head?_eq_some_iff.1 hplus
      rcases eq_or_ne r [] with rfl | hr
      · cases h
      · rw [readNatural_plus hr, magnitude_eq_ok_iff hr] at h
        exact ⟨.plus h.1, h.2⟩
    · rcases eq_or_ne s [] with rfl | hs
      · cases h
      · rw [readNatural_plain hs hplus, magnitude_eq_ok_iff hs] at h
        exact ⟨.plain h.1, h.2⟩
  · rintro ⟨h | h, hle⟩
    · have hplus : s.head? ≠ some '+' := fun hc => absurd (h.unsigned _ hc) (by decide)
      rw [readNatural_plain h.nonempty hplus, magnitude_eq_ok_iff h.nonempty]
      exact ⟨h, hle⟩
    · rw [readNatural_plus h.nonempty, magnitude_eq_ok_iff h.nonempty]
      exact ⟨h, hle⟩

/-- What a mapped result is, if it is one. -/
theorem map_eq_ok_iff {ε α β : Type} {x : Except ε α} {f : α → β} {b : β} :
    x.map f = .ok b ↔ ∃ a, x = .ok a ∧ f a = b := by
  cases x <;> simp [Except.map]

/-- To map a result changes no error. -/
theorem map_eq_error_iff {ε α β : Type} {x : Except ε α} {f : α → β} {e : ε} :
    x.map f = .error e ↔ x = .error e := by
  cases x <;> simp [Except.map]

/-- **An integer is read** exactly from its numerals, if it is within the bounds. -/
theorem readInteger_eq_ok_iff :
    readInteger below above s = .ok i ↔ SpellsInteger i s ∧ -(below : Int) ≤ i ∧ i ≤ above := by
  constructor
  · intro h
    rcases sign_cases s with rfl | rfl | rfl | ⟨r, hr, rfl⟩ | ⟨r, hr, rfl⟩ | ⟨hs, hsign⟩
    · cases h
    · cases h
    · cases h
    · rw [readInteger_plus hr, map_eq_ok_iff] at h
      obtain ⟨n, hn, rfl⟩ := h
      obtain ⟨hdenotes, hle⟩ := (magnitude_eq_ok_iff hr).1 hn
      exact ⟨.natural (.plus hdenotes), by simp; omega⟩
    · rw [readInteger_minus hr, map_eq_ok_iff] at h
      obtain ⟨n, hn, rfl⟩ := h
      obtain ⟨hdenotes, hle⟩ := (magnitude_eq_ok_iff hr).1 hn
      exact ⟨.minus hdenotes, by omega⟩
    · rw [readInteger_plain hs hsign, map_eq_ok_iff] at h
      obtain ⟨n, hn, rfl⟩ := h
      obtain ⟨hdenotes, hle⟩ := (magnitude_eq_ok_iff hs).1 hn
      exact ⟨.natural (.plain hdenotes), by simp; omega⟩
  · rintro ⟨(h | h) | h, hleast, hgreatest⟩
    · rw [readInteger_plain h.nonempty h.unsigned, map_eq_ok_iff]
      exact ⟨_, (magnitude_eq_ok_iff h.nonempty).2 ⟨h, Int.ofNat_le.1 hgreatest⟩, rfl⟩
    · rw [readInteger_plus h.nonempty, map_eq_ok_iff]
      exact ⟨_, (magnitude_eq_ok_iff h.nonempty).2 ⟨h, Int.ofNat_le.1 hgreatest⟩, rfl⟩
    · rw [readInteger_minus h.nonempty, map_eq_ok_iff]
      exact ⟨_, (magnitude_eq_ok_iff h.nonempty).2 ⟨h, by omega⟩, rfl⟩

/-- **An integer is not read** exactly for the first problem in the text. -/
theorem readInteger_eq_error_iff :
    readInteger below above s = .error why ↔ Misspells below above s why := by
  have habove : ∀ {r}, magnitude above .tooLarge 0 r = .error why ↔
      FirstProblem above .tooLarge 0 r why := magnitude_eq_error_iff (Nat.zero_le _)
  have hbelow : ∀ {r}, magnitude below .tooSmall 0 r = .error why ↔
      FirstProblem below .tooSmall 0 r why := magnitude_eq_error_iff (Nat.zero_le _)
  constructor
  · intro h
    rcases sign_cases s with rfl | rfl | rfl | ⟨r, hr, rfl⟩ | ⟨r, hr, rfl⟩ | ⟨hs, hsign⟩
    · cases h
      exact .empty
    · cases h
      exact .plusAlone
    · cases h
      exact .minusAlone
    · rw [readInteger_plus hr, map_eq_error_iff, habove] at h
      exact .plus h
    · rw [readInteger_minus hr, map_eq_error_iff, hbelow] at h
      exact .minus h
    · rw [readInteger_plain hs hsign, map_eq_error_iff, habove] at h
      exact .plain hsign h
  · intro h
    cases h with
    | empty => rfl
    | plusAlone => rfl
    | minusAlone => rfl
    | plain hsign h => rwa [readInteger_plain h.ne_nil hsign, map_eq_error_iff, habove]
    | plus h => rwa [readInteger_plus h.ne_nil, map_eq_error_iff, habove]
    | minus h => rwa [readInteger_minus h.ne_nil, map_eq_error_iff, hbelow]

/-! ## Written numerals -/

/-- The digits of a number denote it. -/
theorem denotes_toDigits (n : Nat) : Denotes (Nat.toDigits 10 n) n :=
  ⟨Nat.toDigits_ne_nil, fun _ => isDigit_of_mem_toDigits, digitsValue_toDigits n⟩

/-- The decimal digits of a natural number within the limit are read as that number. -/
theorem readNatural_toDigits (h : n ≤ limit) : readNatural limit (Nat.toDigits 10 n) = .ok n :=
  readNatural_eq_ok_iff.2 ⟨.plain (denotes_toDigits n), h⟩

/-- The numeral that is written for an integer spells it. -/
theorem spellsInteger_decimal (i : Int) : SpellsInteger i (decimal i) := by
  rw [decimal]
  split
  · have hminus := SpellsInteger.minus (denotes_toDigits i.natAbs)
    rwa [show -(i.natAbs : Int) = i by omega] at hminus
  · have hnatural := SpellsInteger.natural (.plain (denotes_toDigits i.natAbs))
    rwa [show (i.natAbs : Int) = i by omega] at hnatural

/-- There is no white space in a number that is written, so trimming leaves it as it is. -/
theorem isBlank_of_mem_decimal (h : c ∈ decimal i) : isBlank c = false := by
  have hdigits : ∀ n, c ∈ Nat.toDigits 10 n → isBlank c = false :=
    fun n hc => isBlank_of_isDigit (isDigit_of_mem_toDigits hc)
  rw [decimal] at h
  split at h
  · rcases List.mem_cons.1 h with rfl | h
    · decide
    · exact hdigits _ h
  · exact hdigits _ h

end Text

open Text

namespace EntityId

/-- An identifier is its number: that the number is within the bounds is no further data. -/
theorem val_inj {a b : EntityId} : a.val = b.val ↔ a = b := by
  refine ⟨fun h => ?_, fun h => h ▸ rfl⟩
  cases a
  cases b
  cases h
  rfl

/-- What the digits give within 64 bits is the number of an entity, so reading an entity can only
go wrong where reading its number does. -/
theorem read_cases (s : List Char) :
    (∃ e : EntityId, readInteger 9223372036854775808 9223372036854775807 (trim s) = .ok e.val ∧
      read s = .ok e) ∨
    ∃ why, readInteger 9223372036854775808 9223372036854775807 (trim s) = .error why ∧
      read s = .error why := by
  cases h : readInteger 9223372036854775808 9223372036854775807 (trim s) with
  | error why => exact .inr ⟨why, rfl, by rw [read, h]⟩
  | ok i =>
    obtain ⟨-, hleast, hgreatest⟩ := readInteger_eq_ok_iff.1 h
    refine .inl ⟨⟨i, hleast, hgreatest⟩, rfl, ?_⟩
    rw [read, h]
    dsimp only
    rw [of?, dif_pos ⟨hleast, hgreatest⟩]

/-- An entity is read exactly from the numerals of its number, with blanks around them or not. -/
theorem read_eq_ok_iff {s : List Char} {e : EntityId} :
    read s = .ok e ↔ SpellsInteger e.val (trim s) := by
  have hnumber : readInteger 9223372036854775808 9223372036854775807 (trim s) = .ok e.val ↔
      SpellsInteger e.val (trim s) := by
    rw [readInteger_eq_ok_iff]
    exact and_iff_left ⟨e.least_le, e.le_greatest⟩
  rw [← hnumber]
  rcases read_cases s with ⟨e', hnumber', hread⟩ | ⟨why, hnumber', hread⟩
  · rw [hread, hnumber', Except.ok.injEq, Except.ok.injEq, val_inj]
  · simp only [hread, hnumber', reduceCtorEq]

/-- An entity is not read exactly for the first problem in the text. -/
theorem read_eq_error_iff {s : List Char} {why : NumeralError} :
    read s = .error why ↔ Misspells 9223372036854775808 9223372036854775807 (trim s) why := by
  rw [← readInteger_eq_error_iff]
  rcases read_cases s with ⟨e, hnumber, hread⟩ | ⟨why', hnumber, hread⟩
  · simp only [hread, hnumber, reduceCtorEq]
  · rw [hread, hnumber, Except.error.injEq, Except.error.injEq]

/-- Of a number that is too large and a character that is no digit the first is reported. -/
example : read "9223372036854775808x".toList = .error .tooLarge := by decide +kernel

/-- An identifier is read from those texts that spell its number as an integer between white space.
-/
theorem parse_eq_ok_iff {s : String} {e : EntityId} :
    parse s = .ok e ↔ SpellsInteger e.val (trim s.toList) := by
  rw [← read_eq_ok_iff, parse]
  split <;> simp [*]

/-- **Numerals name entities.** A text names an entity exactly when, without the blanks at its
ends, it is a numeral of the entity's number, which has 64 bits. Any other text is refused for the
first problem in what is left of it. The numeral that is written for an entity names it. -/
theorem reads_numerals :
    (∀ (s : String) (n : Int), (∃ e, parse s = .ok e ∧ e.val = n) ↔
      (∃ t, Trimmed s.toList t ∧ SpellsInteger n t) ∧
        -9223372036854775808 ≤ n ∧ n ≤ 9223372036854775807) ∧
    (∀ (s : String) (error : DomainError), parse s = .error error ↔
      ∃ t why, Trimmed s.toList t ∧ Misspells 9223372036854775808 9223372036854775807 t why ∧
        error = .invalidId ("EntityId: " ++ why.message)) ∧
    ∀ e : EntityId, parse e.text = .ok e := by
  have htrimmed : ∀ {s : List Char} {p : List Char → Prop},
      (∃ t, Trimmed s t ∧ p t) ↔ p (trim s) := fun {s p} =>
    ⟨fun ⟨t, ht, hp⟩ => trimmed_iff.1 ht ▸ hp, fun hp => ⟨_, trimmed_trim s, hp⟩⟩
  refine ⟨fun s n => ?_, fun s error => ?_, fun e => ?_⟩
  · rw [htrimmed]
    constructor
    · rintro ⟨e, he, rfl⟩
      exact ⟨parse_eq_ok_iff.1 he, e.least_le, e.le_greatest⟩
    · rintro ⟨hspells, hleast, hgreatest⟩
      exact ⟨⟨n, hleast, hgreatest⟩, parse_eq_ok_iff.2 hspells, rfl⟩
  · simp only [exists_and_left, htrimmed, ← read_eq_error_iff, parse]
    cases read s.toList <;> simp [eq_comm]
  · have hblank : trim (decimal e.val) = decimal e.val := trim_eq fun c => isBlank_of_mem_decimal
    rw [parse_eq_ok_iff, text, decimalText, String.toList_ofList, hblank]
    exact spellsInteger_decimal e.val

end EntityId

end Reconciliation
