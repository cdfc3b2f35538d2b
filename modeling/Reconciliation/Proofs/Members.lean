import Reconciliation.Proofs.Scanning
import Reconciliation.Record.Json

/-!
# Members of objects, and the scalars in them

A reader of records takes an object member by member, so its texts are described in that way: each
value has a text that its name allows (`Json.SpellsEach`), whatever the order, the white space and
the escapes. What a reader of a field says of a spelled value depends on the value alone: it gives
what the value means and leaves the text behind it, or refuses the content (`Json.Answers`).

* `Json.readString_answers`, `Json.readMeaning_answers`, `Json.readInteger_answers`,
  `Json.readOption_answers`: the readers of fields.
* `Json.scalarStands_of_readString` and the like: what they read was spelled.
-/

namespace Reconciliation.Json

open Text

variable {d : Nat} {first : Bool} {c : Char} {v : Value} {ms : List (String × Value)}
  {ws s t r rest : List Char} {α β : Type} {a : α}

/-! ## Objects, member by member -/

/-- The members of an object from its beginning on, or after a member, up to the closing brace: any
text of the name, and a text of the value as the name allows it. -/
inductive SpellsEach (V : String → Value → List Char → Prop) :
    (first : Bool) → List (String × Value) → List Char → Prop
  | nil {first : Bool} {ws : List Char} (hws : IsSpaces ws) : SpellsEach V first [] (ws ++ ['\x7d'])
  | cons {first : Bool} {lead key ws t u : List Char} {k : String} {v : Value}
      {ms : List (String × Value)} (hlead : Leads first lead) (hkey : SpellsText k.toList key)
      (hws : IsSpaces ws) (hv : V k v t) (hms : SpellsEach V false ms u) :
      SpellsEach V first ((k, v) :: ms) (lead ++ '"' :: (key ++ '"' :: (ws ++ ':' :: (t ++ u))))

/-- The texts of an object with these members in this order. What is asked of the text of a value is
a parameter, so that each reader asks for no more than it needs. -/
def ObjectText (V : String → Value → List Char → Prop) (ms : List (String × Value))
    (s : List Char) : Prop :=
  ∃ ws t ws', IsSpaces ws ∧ SpellsEach V true ms t ∧ IsSpaces ws' ∧ s = ws ++ '\x7b' :: (t ++ ws')

variable {V W : String → Value → List Char → Prop}

/-- A weaker demand on the values of the members is met by the same text. It is how what is known of
one reader is handed to another. -/
theorem SpellsEach.mono (hvw : ∀ k v t, V k v t → W k v t) (h : SpellsEach V first ms t) :
    SpellsEach W first ms t := by
  induction h with
  | nil hws => exact .nil hws
  | cons hlead hkey hws hv _ ih => exact .cons hlead hkey hws (hvw _ _ _ hv) ih

/-- The same for the text of a whole object, with the braces and the white space around them. -/
theorem ObjectText.mono (hvw : ∀ k v t, V k v t → W k v t) (h : ObjectText V ms s) :
    ObjectText W ms s := by
  obtain ⟨ws, t, ws', hws, ht, hws', rfl⟩ := h
  exact ⟨ws, t, ws', hws, ht.mono hvw, hws', rfl⟩

/-- The members behind a number are no part of it. -/
theorem SpellsEach.stops (h : SpellsEach V false ms t) : Stops continuesNumber (t ++ rest) := by
  cases h with
  | nil hws =>
    rw [List.append_assoc]
    exact stops_spaces hws (stops_cons.2 (by decide))
  | cons hlead _ _ _ _ =>
    rw [List.append_assoc]
    exact hlead.stops _

/-- There is a character for each member, and the brace. -/
theorem SpellsEach.length_lt (h : SpellsEach V first ms t) : ms.length < t.length := by
  induction h with
  | nil => simp
  | cons _ _ _ _ _ ih =>
    simp only [List.length_cons, List.length_append] at ih ⊢
    omega

/-- A reader has fuel for all members. -/
theorem SpellsEach.length_lt_enough (h : SpellsEach V first ms t) (rest : List Char) :
    ms.length < enough (t ++ rest) := by
  have hlength := h.length_lt
  rw [enough, List.length_append]
  omega

/-- A spelled object is one member by member. -/
theorem Spells.each (h : Spells .free d (.members first ms) t) :
    SpellsEach (fun _ v t => Spells .free d (.value v) t) first ms t := by
  generalize hp : Part.members first ms = p at h
  induction h generalizing first ms with
  | noMember hws =>
    cases hp
    exact .nil hws
  | member hlead hkey hws hv _ _ ih =>
    cases hp
    exact .cons hlead hkey hws hv (ih rfl)
  | _ => cases hp

/-- A text in which an object is spelled is one of an object whose values are spelled; from here on
only the form of the braces matters, not the depth. -/
theorem Spelled.objectText (h : Spelled .free (d + 1) (.object ms) s) :
    ObjectText (fun _ v t => Spells .free d (.value v) t) ms s := by
  obtain ⟨t, ws', ht, hws', rfl⟩ := h
  cases ht with
  | @object _ ws t _ hws h => exact ⟨ws, t, ws', hws, h.each, hws', by simp⟩

/-! ## What values mean -/

/-- The integer that a value is. -/
def Value.integer? : Value → Option Int
  | number (.integer n) => some n
  | _ => none

/-- What a value means that may be null. -/
def Value.orNull? (meaning : Value → Option α) : Value → Option (Option α)
  | null => some none
  | v => (meaning v).map some

/-- What a reader says of a value that means this or nothing, in front of a text. -/
inductive Answers (rest : List Char) : Option α → Except Failure (α × List Char) → Prop
  | given {a : α} : Answers rest (some a) (.ok (a, rest))
  | refused {e : Failure} (h : e.reason.kind = .content) : Answers rest none (.error e)

namespace Answers

variable {o : Option α} {x : Except Failure (α × List Char)}

/-- What is read may be wrapped up in something else, such as a field of a draft. -/
theorem map (h : Answers rest o x) (f : α → β) :
    Answers rest (o.map f) (x.map fun (a, r) => (f a, r)) := by
  cases h with
  | given => exact .given
  | refused h => exact .refused h

/-- A reader that goes on with what another has given answers for the value that has both meanings.
The second may leave another text than the first. -/
theorem bind {rest' : List Char} {f : α → Option β}
    {g : α × List Char → Except Failure (β × List Char)} (h : Answers rest o x)
    (hg : ∀ a, Answers rest' (f a) (g (a, rest))) : Answers rest' (o.bind f) (x >>= g) := by
  cases h with
  | given => exact hg _
  | refused h => exact .refused h

/-- A reader that answers for a value with a meaning gives that meaning. -/
theorem eq_ok (h : Answers rest o x) (ho : o = some a) : x = .ok (a, rest) := by
  cases h with
  | given =>
    obtain rfl := Option.some.inj ho
    rfl
  | refused => cases ho

/-- A meaning that is looked up, or refused. -/
theorem of_option (o : Option α) : Answers rest o (match o with
    | some a => pure (a, rest)
    | none => .error (failAt .content rest)) := by
  cases o with
  | none => exact .refused rfl
  | some a => exact .given

end Answers

/-- The first character of a value tells strings, null, and arrays and objects, and ends no
array. -/
structure Value.Begins (v : Value) (c : Char) : Prop where
  visible : isSpace c = false
  opens : c ≠ ']'
  quote : c = '"' ↔ v.string?.isSome
  null : c = 'n' ↔ v = .null
  nested : c = '[' ∨ c = '\x7b' → v.integer? = none

/-- A value is spelled from its first character on, behind white space. -/
theorem Spells.begins (h : Spells .free d (.value v) t) :
    ∃ ws c r, t = ws ++ c :: r ∧ IsSpaces ws ∧ v.Begins c ∧ Spells .free d (.value v) (c :: r) := by
  cases h with
  | @null _ ws hws =>
    exact ⟨ws, _, _, rfl, hws, ⟨by decide, by decide, by decide, by simp, by decide⟩,
      .null isSpaces_nil⟩
  | @yes _ ws hws =>
    exact ⟨ws, _, _, rfl, hws, ⟨by decide, by decide, by decide, by simp, by decide⟩,
      .yes isSpaces_nil⟩
  | @no _ ws hws =>
    exact ⟨ws, _, _, rfl, hws, ⟨by decide, by decide, by decide, by simp, by decide⟩,
      .no isSpaces_nil⟩
  | @number _ ws t n hws h =>
    obtain ⟨c, r, rfl, hc⟩ := @Care.number_eq_cons .keep t n h
    have hne : ∀ x : Char, beginsNumber x = false → c ≠ x := by
      rintro x hx rfl
      exact Bool.eq_false_iff.1 hx hc
    refine ⟨ws, c, r, rfl, hws, ⟨isSpace_of_beginsNumber hc, hne ']' (by decide), ?_, ?_, ?_⟩,
      .number isSpaces_nil h⟩
    · exact iff_of_false (hne '"' (by decide)) nofun
    · exact iff_of_false (hne 'n' (by decide)) nofun
    · exact fun h => h.elim (fun h => absurd h (hne '[' (by decide)))
        fun h => absurd h (hne '\x7b' (by decide))
  | @string _ ws t s hws h =>
    exact ⟨ws, _, _, rfl, hws, ⟨by decide, by decide, by simp [Value.string?], by simp,
      fun _ => rfl⟩, .string isSpaces_nil h⟩
  | @array _ ws t vs hws h =>
    exact ⟨ws, _, _, rfl, hws, ⟨by decide, by decide, by simp [Value.string?], by simp,
      fun _ => rfl⟩, .array isSpaces_nil h⟩
  | @object _ ws t ms hws h =>
    exact ⟨ws, _, _, rfl, hws, ⟨by decide, by decide, by simp [Value.string?], by simp,
      fun _ => rfl⟩, .object isSpaces_nil h⟩

/-! ## Readers of fields -/

section Readers

variable {meaning : String → Option α} {number : Int → Option α}

/-- A value that begins with a quote is the text behind it, whatever room is left for nesting. -/
theorem keepValue_quote (room : Nat) (s : List Char) :
    keepValue room ('"' :: s) = (stringTail .keep s).map fun (x, r) => (.string x, r) := rfl

/-- A value that begins like the word for nothing is that word, or else it is none. -/
theorem keepValue_null (room : Nat) (s : List Char) :
    keepValue room ('n' :: s) = (word ['u', 'l', 'l'] s).map fun (_, r) => (.null, r) := rfl

/-- **The reader of a string** gives the string that is spelled. -/
theorem readString_answers (h : Spells .free d (.value v) t) (hd : d ≤ depthLimit)
    (hrest : Stops continuesNumber rest) : Answers rest v.string? (readString (t ++ rest)) := by
  obtain ⟨ws, c, r, rfl, hws, hbegins, hspells⟩ := h.begins
  have hkeep := hspells.keepValue hd hrest
  rw [List.cons_append] at hkeep
  rw [readString, List.append_assoc, skipSpace_append hws, List.cons_append,
    skipSpace_eq hbegins.visible]
  by_cases hquote : c = '"'
  · subst hquote
    rw [keepValue_quote] at hkeep
    obtain ⟨x, hx, rfl⟩ := front_of_map hkeep
    change Answers rest (some x) (stringTail .keep (r ++ rest))
    rw [hx]
    exact .given
  have hother : v.string? = none :=
    Option.not_isSome_iff_eq_none.1 fun hsome => hquote (hbegins.quote.2 hsome)
  rw [hother]
  split
  · rename_i heq
    exact absurd (List.cons.inj heq).1 hquote
  · exact .refused rfl
  · exact .refused rfl
  · rw [hkeep]
    exact .refused rfl

/-- A reader of texts with a meaning, such as instants and identifiers, answers for every value: a
text without a meaning and a value that is no text are refused as content, not as syntax. -/
theorem readMeaning_answers (h : Spells .free d (.value v) t) (hd : d ≤ depthLimit)
    (hrest : Stops continuesNumber rest) :
    Answers rest (v.string?.bind meaning) (readMeaning meaning (t ++ rest)) :=
  (readString_answers h hd hrest).bind fun x => .of_option (meaning x)

/-- **The reader of an integer** gives what the integer means that is spelled. -/
theorem readInteger_answers (h : Spells .free d (.value v) t) (hd : d ≤ depthLimit)
    (hrest : Stops continuesNumber rest) :
    Answers rest (v.integer?.bind number) (readInteger number (t ++ rest)) := by
  obtain ⟨ws, c, r, rfl, hws, hbegins, hspells⟩ := h.begins
  have hkeep := hspells.keepValue hd hrest
  rw [List.cons_append] at hkeep
  rw [readInteger, List.append_assoc, skipSpace_append hws, List.cons_append,
    skipSpace_eq hbegins.visible]
  split
  · rename_i heq
    rw [hbegins.nested (.inl (List.cons.inj heq).1)]
    exact .refused rfl
  · rename_i heq
    rw [hbegins.nested (.inr (List.cons.inj heq).1)]
    exact .refused rfl
  · rw [hkeep, ok_bind]
    dsimp only
    split
    · exact .of_option _
    · rename_i hother
      have hother' : v.integer? = none := by
        rw [Value.integer?.eq_def]
        split
        · exact absurd rfl (hother _)
        · rfl
      rw [hother']
      exact .refused rfl

/-- **The reader of what may be null** gives nothing for null. -/
theorem readOption_answers {read : List Char → Except Failure (α × List Char)}
    {means : Value → Option α} (h : Spells .free d (.value v) t) (hd : d ≤ depthLimit)
    (hrest : Stops continuesNumber rest)
    (hread : ∀ t, Spells .free d (.value v) t → Answers rest (means v) (read (t ++ rest))) :
    Answers rest (v.orNull? means) (readOption read (t ++ rest)) := by
  obtain ⟨ws, c, r, rfl, hws, hbegins, hspells⟩ := h.begins
  have hanswer := hread _ hspells
  have hkeep := hspells.keepValue hd hrest
  rw [List.cons_append] at hanswer hkeep
  rw [readOption, List.append_assoc, skipSpace_append hws, List.cons_append,
    skipSpace_eq hbegins.visible]
  split
  · rename_i heq
    obtain ⟨rfl, rfl⟩ := List.cons.inj heq
    obtain rfl := hbegins.null.1 rfl
    rw [keepValue_null] at hkeep
    obtain ⟨⟨_, r'⟩, hword, hp⟩ := ok_of_map hkeep
    obtain ⟨-, rfl⟩ := Prod.mk.inj hp
    rw [hword]
    exact .given
  · rename_i hother
    -- another first character than that of null means another value than null
    have hvalue : v.orNull? means = (means v).map some := by
      rw [Value.orNull?.eq_def]
      split
      · obtain rfl := hbegins.null.2 rfl
        exact absurd rfl (hother _)
      · rfl
    rw [hvalue]
    exact hanswer.map some

/-! ### What they read -/

/-- A scalar stands in front of a text, up to what is left. -/
def ScalarStands (s rest : List Char) : Prop :=
  ∃ v t, s = t ++ rest ∧ Spells .free 0 (.value v) t

/-- White space in front of a scalar is passed over. -/
theorem ScalarStands.spaces (hws : IsSpaces ws) (h : ScalarStands s rest) :
    ScalarStands (ws ++ s) rest := by
  obtain ⟨v, t, rfl, ht⟩ := h
  exact ⟨v, ws ++ t, (List.append_assoc ..).symm, ht.spaces hws⟩

/-- A text is read only where one stands. -/
theorem scalarStands_of_readString {x : String} (h : readString s = .ok (x, rest)) :
    ScalarStands s rest := by
  obtain ⟨ws, hws, hs⟩ := spaces_of_skipSpace (s := s) rfl
  rw [readString] at h
  split at h
  · rename_i r heq
    obtain ⟨t, rfl, -, ht⟩ := spellsText_of_stringTail h
    rw [hs, heq]
    exact .spaces hws
      ⟨.string x, '"' :: (t ++ ['"']), by simp, .string isSpaces_nil (ht (by decide))⟩
  · cases h
  · cases h
  · obtain ⟨_, -, h⟩ := ok_of_bind h
    cases h

/-- What has a meaning as a text is read only where a text stands. -/
theorem scalarStands_of_readMeaning (h : readMeaning meaning s = .ok (a, rest)) :
    ScalarStands s rest := by
  rw [readMeaning] at h
  obtain ⟨⟨x, r⟩, hx, h⟩ := ok_of_bind h
  dsimp only at h
  split at h
  · obtain ⟨-, rfl⟩ := Prod.mk.inj (Except.ok.inj h)
    exact scalarStands_of_readString hx
  · cases h

/-- An integer is read only where a number stands. -/
theorem scalarStands_of_readInteger (h : readInteger number s = .ok (a, rest)) :
    ScalarStands s rest := by
  obtain ⟨ws, hws, hs⟩ := spaces_of_skipSpace (s := s) rfl
  rw [readInteger] at h
  split at h
  · cases h
  · cases h
  · obtain ⟨⟨v, r⟩, hkeep, h⟩ := ok_of_bind h
    dsimp only at h
    split at h
    · split at h
      · obtain ⟨-, rfl⟩ := Prod.mk.inj (Except.ok.inj h)
        obtain ⟨d, t, ht, hspells⟩ := stands_of_keepValue hkeep
        cases hspells with
        | number hus hl =>
          obtain ⟨l, hl, hn⟩ := hl
          rw [hs]
          exact .spaces hws ⟨_, _, ht, .number hus ⟨l, hl, .of_integer hn, hn⟩⟩
      · cases h
    · cases h

/-- What may be null is read where null stands, or where the reader of the others finds a scalar. -/
theorem scalarStands_of_readOption {read : List Char → Except Failure (α × List Char)}
    {o : Option α} (hread : ∀ {s a}, read s = .ok (a, rest) → ScalarStands s rest)
    (h : readOption read s = .ok (o, rest)) : ScalarStands s rest := by
  obtain ⟨ws, hws, hs⟩ := spaces_of_skipSpace (s := s) rfl
  rw [readOption] at h
  split at h
  · rename_i r heq
    obtain ⟨hr, -⟩ := eq_of_word_map h
    rw [hs, heq, hr]
    exact .spaces hws ⟨.null, ['n', 'u', 'l', 'l'], rfl, .null isSpaces_nil⟩
  · obtain ⟨x, hx, -⟩ := front_of_map h
    rw [hs]
    exact .spaces hws (hread hx)

end Readers

end Reconciliation.Json
