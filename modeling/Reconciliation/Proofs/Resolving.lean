import Reconciliation.Proofs.Members

/-!
# A piece of a text is read for itself

Where embedded texts are resolved, what is read of a text is what stands there, as everywhere else,
but it need not be the value that is spelled: an object may stand for the value in an embedded text
(`Json.Embeds`). What a piece of a text is read as is therefore told by reading it. It does not
depend on what stands around the piece, or on how much fuel there is (`Json.Resolves`).

* `Json.resolves`: whatever is read as a value is a piece of that sort.
* `Json.SpellsEach.reads_each`: an object of such pieces is read member by member.
* `Json.read_eq_ok_iff_resolves`, `Json.Embeds.read_iff`: whole texts, and texts that embed another.
-/

namespace Reconciliation.Json

open Text

variable {c : Char} {d fuel room : Nat} {first : Bool} {k : String} {v w : Value} {vs : List Value}
  {ms : List (String × Value)} {ws lead key s t u r rest : List Char}

/-! ## Pieces -/

/-- A text that has the form of a value. Which value that is does not matter, since another may be
read in its place where texts are embedded. -/
def HasForm (t : List Char) : Prop := ∃ d v, Spells .form d (.value v) t

/-- A value begins with a character that ends no array. -/
theorem HasForm.begins (h : HasForm t) :
    ∃ ws c r, t = ws ++ c :: r ∧ IsSpaces ws ∧ isSpace c = false ∧ c ≠ ']' := by
  obtain ⟨d, v, hform⟩ := h
  exact @Spells.value_eq_cons .skip t d v hform

/-- No value is the empty text, which is why the fuel of a reader goes down with what is left. -/
theorem HasForm.length_pos (h : HasForm t) : 0 < t.length := by
  obtain ⟨ws, c, r, rfl, -⟩ := h.begins
  simp

/-- A piece of a text that has the form of a value, and is read as one wherever it stands. -/
structure Resolves (room : Nat) (v : Value) (t : List Char) : Prop where
  form : HasForm t
  reads : ∀ fuel rest, 2 * t.length ≤ fuel + 1 → Stops continuesNumber rest →
    value .resolve fuel room (t ++ rest) = .ok (v, rest)

/-- The rest of an array, likewise. -/
structure ResolvesItems (room : Nat) (first : Bool) (vs : List Value) (t : List Char) : Prop where
  form : ∃ d ws, Spells .form d (.items first ws) t
  reads : ∀ fuel rest, 2 * t.length ≤ fuel →
    items .resolve fuel room first (t ++ rest) = .ok (vs, rest)

/-- What is spelled and stands for itself is read wherever it stands. -/
theorem Resolves.of_spells (h : Spells .free d (.value v) t) (hv : v.Plain) (hd : d ≤ room) :
    Resolves room v t where
  form := ⟨d, v, h.form⟩
  reads := by
    intro fuel rest hfuel hrest
    obtain ⟨w, hw, hsame⟩ := @Spells.reads .resolve t d (.value v) h (fun _ => hv) fuel room rest
      hfuel (fun _ => hd) hrest
    rw [hw, hsame (by decide)]

/-- White space in front of a piece is part of it. -/
theorem Resolves.spaces (hws : IsSpaces ws) (h : Resolves room v t) :
    Resolves room v (ws ++ t) where
  form := by
    obtain ⟨d, w, hform⟩ := h.form
    exact ⟨d, w, hform.spaces hws⟩
  reads := by
    intro fuel rest hfuel hrest
    have hlength := h.form.length_pos
    rw [List.length_append] at hfuel
    obtain ⟨fuel, rfl⟩ := Nat.exists_eq_succ_of_ne_zero (show fuel ≠ 0 by omega)
    rw [List.append_assoc, value_spaces hws]
    exact h.reads _ rest (by omega) hrest

/-- The end of an array is read as no further items. -/
theorem ResolvesItems.nil (hws : IsSpaces ws) : ResolvesItems room first [] (ws ++ [']']) where
  form := ⟨0, [], .noItem hws⟩
  reads := by
    intro fuel rest hfuel
    simp only [List.length_append, List.length_cons] at hfuel
    obtain ⟨fuel, rfl⟩ := Nat.exists_eq_succ_of_ne_zero (show fuel ≠ 0 by omega)
    rw [List.append_assoc, items, List.singleton_append, nextItem_end hws]
    rfl

/-- An item in front of others that are read is read with them, if its text leaves no doubt about
where it ends. -/
theorem ResolvesItems.cons (hlead : Leads first lead) (ht : Resolves room v t)
    (hu : ResolvesItems room false vs u) :
    ResolvesItems room first (v :: vs) (lead ++ (t ++ u)) := by
  obtain ⟨d, w, hform⟩ := ht.form
  obtain ⟨e, ws, hrest⟩ := hu.form
  have hlength := ht.form.length_pos
  refine ⟨⟨max d e, w :: ws, .item hlead (hform.deeper (Nat.le_max_left d e))
    (hrest.deeper (Nat.le_max_right d e))⟩, fun fuel rest hfuel => ?_⟩
  simp only [List.length_append] at hfuel
  obtain ⟨fuel, rfl⟩ := Nat.exists_eq_add_of_le' (show 2 ≤ fuel by omega)
  have hvalue := ht.reads (fuel + 1) (u ++ rest) (by omega) hrest.stops_items
  simp only [List.append_assoc]
  rw [items_item hlead ht.form.begins hvalue, hu.reads (fuel + 1) rest (by omega)]
  rfl

/-- Members that have the form of values make an object that has. -/
theorem SpellsEach.form {V : String → Value → List Char → Prop} (hV : ∀ k v t, V k v t → HasForm t)
    (h : SpellsEach V first ms t) : ∃ d ns, Spells .form d (.members first ns) t := by
  induction h with
  | nil hws => exact ⟨0, [], .noMember hws⟩
  | cons hlead hkey hws hv _ ih =>
    obtain ⟨d, v, hform⟩ := hV _ _ _ hv
    obtain ⟨e, ns, hrest⟩ := ih
    exact ⟨max d e, _, .member (k := "") hlead hkey.isQuoted hws
      (hform.deeper (Nat.le_max_left d e)) (hrest.deeper (Nat.le_max_right d e))⟩

/-- **An object of such pieces** is read member by member. -/
theorem SpellsEach.reads_each (h : SpellsEach (fun _ v t => Resolves room v t) first ms t)
    (hfuel : 2 * t.length ≤ fuel) (rest : List Char) :
    members .resolve fuel room first (t ++ rest) = .ok (ms, rest) := by
  induction h generalizing fuel with
  | nil hws =>
    simp only [List.length_append, List.length_cons] at hfuel
    obtain ⟨fuel, rfl⟩ := Nat.exists_eq_succ_of_ne_zero (show fuel ≠ 0 by omega)
    rw [List.append_assoc, members, List.singleton_append, nextKey_end hws]
    rfl
  | @cons first lead key ws t u k v ms hlead hkey hws hv hms ih =>
    simp only [List.length_append, List.length_cons] at hfuel
    obtain ⟨fuel, rfl⟩ := Nat.exists_eq_succ_of_ne_zero (show fuel ≠ 0 by omega)
    simp only [List.append_assoc, List.cons_append]
    rw [members_member hlead (hkey.stringTail (by decide) _) hws,
      hv.reads fuel (u ++ rest) (by omega) hms.stops, ok_bind, ih (by omega)]
    rfl

/-! ## Embedded texts -/

/-- The texts of an object that stands for what another text is read as: its only member has the
reserved name, and holds that text. -/
inductive Embeds (s : List Char) : List Char → Prop
  | intro {ws ws₁ ws₂ ws₃ ws₄ key u : List Char} (hws : IsSpaces ws) (hws₁ : IsSpaces ws₁)
      (hkey : SpellsText embeddedName.toList key) (hws₂ : IsSpaces ws₂) (hws₃ : IsSpaces ws₃)
      (hu : SpellsText s u) (hws₄ : IsSpaces ws₄) :
      Embeds s (ws ++ '\x7b' :: (ws₁ ++ '"' :: (key ++ '"' :: (ws₂ ++ ':' :: (ws₃ ++
        '"' :: (u ++ '"' :: (ws₄ ++ ['\x7d'])))))))

/-- Where a reader finds an embedded text, the object begins with the reserved name, in whatever
spelling; what it gives is the text behind that name. -/
theorem eq_of_embedding? (h : embedding? s = some r) :
    ∃ ws key, IsSpaces ws ∧ SpellsText embeddedName.toList key ∧
      s = ws ++ '"' :: (key ++ '"' :: r) := by
  rw [embedding?] at h
  split at h
  · rename_i heq
    obtain ⟨ws, hws, rfl⟩ := spaces_of_skipSpace heq
    split at h
    · rename_i htail
      split_ifs at h with hname
      obtain rfl := Option.some.inj h
      obtain ⟨key, rfl, -, hkey⟩ := spellsText_of_stringTail htail
      exact ⟨ws, key, hws, hname ▸ hkey (by decide), rfl⟩
    · cases h
  · cases h

/-- The text that is embedded may be spelled in any way. -/
theorem embeddedText_spells {ws' : List Char} (hws : IsSpaces ws) (hws' : IsSpaces ws')
    (hu : SpellsText s u) (r : List Char) :
    embeddedText (ws ++ ':' :: (ws' ++ '"' :: (u ++ '"' :: r))) = .ok (s, r) := by
  have hstring : SpellsText (String.ofList s).toList u := by rwa [String.toList_ofList]
  rw [embeddedText, colon_spaces hws, ok_bind]
  dsimp only
  rw [skipSpace_append hws', skipSpace_eq (by decide)]
  simp only [hstring.stringTail (show Care.keep ≠ .skip by decide)]
  change Except.ok ((String.ofList s).toList, r) = _
  rw [String.toList_ofList]

/-- And nothing else than a spelled text is taken for one. -/
theorem eq_of_embeddedText (h : embeddedText s = .ok (t, r)) :
    ∃ ws ws' u, IsSpaces ws ∧ IsSpaces ws' ∧ SpellsText t u ∧
      s = ws ++ ':' :: (ws' ++ '"' :: (u ++ '"' :: r)) := by
  rw [embeddedText] at h
  obtain ⟨⟨_, s'⟩, hcolon, hgo⟩ := ok_of_bind h
  obtain ⟨ws, hws, rfl⟩ := spaces_of_colon hcolon
  dsimp only at hgo
  split at hgo
  case h_2 =>
    rename_i heq
    obtain ⟨ws', hws', rfl⟩ := spaces_of_skipSpace heq
    obtain ⟨⟨x, r'⟩, htail, hp⟩ := ok_of_map hgo
    obtain ⟨rfl, rfl⟩ := Prod.mk.inj hp
    obtain ⟨u, rfl, -, hu⟩ := spellsText_of_stringTail htail
    exact ⟨ws, ws', u, hws, hws', hu (by decide), rfl⟩
  -- whatever else stands there is read to its end and then refused
  case h_5 =>
    obtain ⟨_, -, hgo⟩ := ok_of_bind hgo
    cases hgo
  case h_6 =>
    obtain ⟨_, -, hgo⟩ := ok_of_bind hgo
    cases hgo
  case h_7 =>
    obtain ⟨_, -, hgo⟩ := ok_of_bind hgo
    cases hgo
  case h_8 =>
    split_ifs at hgo
    obtain ⟨p, -, hgo⟩ := ok_of_bind hgo
    split at hgo <;> cases hgo
  all_goals cases hgo

/-- The end of an embedded text is white space. -/
theorem spaces_of_embedded_finish {f : Failure → Failure} {x : Unit}
    (h : (finish s).mapError f = .ok x) : IsSpaces s := by
  refine spaces_of_finish ?_
  cases hfinish : finish s with
  | ok => rfl
  | error e =>
    rw [hfinish] at h
    cases h

/-- White space in front of the closing brace is passed over. -/
theorem closeObject_spaces (hws : IsSpaces ws) (r : List Char) :
    closeObject (ws ++ '}' :: r) = .ok r := by
  rw [closeObject, skipSpace_append hws, skipSpace_eq (by decide)]
  rfl

/-- What is taken for the end of an object is a closing brace behind white space. -/
theorem spaces_of_closeObject (h : closeObject s = .ok r) :
    ∃ ws, IsSpaces ws ∧ s = ws ++ '}' :: r := by
  rw [closeObject] at h
  split at h
  · cases h
  · rename_i heq
    obtain rfl := Except.ok.inj h
    exact spaces_of_skipSpace heq
  · cases h
  · cases h

/-- An object that embeds a text is read by reading that text, up to its end and that of the
object. -/
theorem value_embedded (hroom : room ≠ 0) (h : embedding? s = some r) :
    value .resolve (fuel + 1) room ('\x7b' :: s) =
      (embeddedText r >>= fun p => match value .resolve fuel depthLimit p.1 with
        | .error f => .error (f.embedded p.1)
        | .ok (v, rest) => ((finish rest).mapError fun f => f.embedded p.1) >>= fun _ =>
          closeObject p.2 >>= fun r => .ok (v, r)) := by
  rw [value, skipSpace_eq (by decide)]
  change (if _ ∧ room = 0 then _ else _) = _
  rw [if_neg fun hfull => hroom hfull.2, h]
  rfl

/-- There is a character at least in the text of a character. -/
theorem SpellsChar.length_pos (h : SpellsChar c t) : 0 < t.length := by
  cases h <;> simp

namespace Embeds

/-- Such an object has the form of one. -/
theorem form (h : Embeds s t) : HasForm t := by
  cases h with
  | @intro ws ws₁ ws₂ ws₃ ws₄ key u hws hws₁ hkey hws₂ hws₃ hu hws₄ =>
    have hvalue : Spells .form 0 (.value (.string "")) (ws₃ ++ '"' :: (u ++ ['"'])) :=
      .string hws₃ hu.isQuoted
    have hmember := Spells.member (k := "") (.first hws₁) hkey.isQuoted hws₂ hvalue (.noMember hws₄)
    have hobject := Spells.object hws hmember
    exact ⟨1, .object [("", .string "")], by simpa using hobject⟩

/-- **Such an object is read** by reading the text in it, with room of its own. -/
theorem value_eq (h : Embeds s t) (hroom : room ≠ 0) (rest : List Char) :
    value .resolve (fuel + 1) room (t ++ rest) = match value .resolve fuel depthLimit s with
      | .error f => .error (f.embedded s)
      | .ok (v, r) => ((finish r).mapError fun f => f.embedded s).map fun _ => (v, rest) := by
  cases h with
  | @intro ws ws₁ ws₂ ws₃ ws₄ key u hws hws₁ hkey hws₂ hws₃ hu hws₄ =>
    simp only [List.append_assoc, List.cons_append, List.nil_append]
    rw [value_spaces hws, value_embedded hroom ((embedding?_key hws₁ hkey _).trans (if_pos rfl)),
      embeddedText_spells hws₂ hws₃ hu, ok_bind]
    rcases value .resolve fuel depthLimit s with f | ⟨v, r⟩
    · rfl
    · dsimp only
      cases (finish r).mapError fun f => f.embedded s with
      | error f => rfl
      | ok p => rw [ok_bind, closeObject_spaces hws₄]; rfl

/-- There are at least as many characters in a text as it spells. -/
theorem length_le_of_spellsText {cs : List Char} (h : SpellsText cs t) : cs.length ≤ t.length := by
  induction h with
  | nil => exact Nat.le_refl 0
  | cons hc _ ih =>
    have hpos : 0 < List.length _ := hc.length_pos
    rw [List.length_cons, List.length_append]
    omega

/-- A text is shorter than what embeds it, so the texts within texts come to an end. -/
theorem length_lt (h : Embeds s t) : s.length < t.length := by
  cases h with
  | intro _ _ _ _ _ hu _ =>
    have hle := length_le_of_spellsText hu
    simp only [List.length_append, List.length_cons]
    omega

/-- What the text in it is read as, it is read as wherever it stands. -/
theorem resolves (h : Embeds (s ++ ws) t) (hroom : room ≠ 0) (hs : Resolves depthLimit v s)
    (hws : IsSpaces ws) : Resolves room v t where
  form := h.form
  reads := by
    intro fuel rest hfuel _
    have hlength := h.length_lt
    rw [List.length_append] at hlength
    obtain ⟨fuel, rfl⟩ := Nat.exists_eq_succ_of_ne_zero (show fuel ≠ 0 by omega)
    rw [h.value_eq hroom, hs.reads fuel ws (by omega) hws.stops]
    dsimp only
    rw [finish_spaces hws]
    rfl

end Embeds

/-! ## What is read -/

/-- What is read as a number, and kept, is one of the texts of its literal, which is finite. -/
theorem free_of_number {n : Number} (h : number .resolve s = .ok (n, rest)) :
    ∃ t, s = t ++ rest ∧ Style.free.number n t := by
  rw [number] at h
  obtain ⟨⟨l, r⟩, hliteral, hgo⟩ := ok_of_bind h
  obtain ⟨t, rfl, ht⟩ := spells_of_literal hliteral
  dsimp only at hgo
  split at hgo
  · rename_i hcare
    cases hcare
  · rename_i hnone _
    obtain ⟨rfl, rfl⟩ := Prod.mk.inj (Except.ok.inj hgo)
    exact ⟨t, rfl, l, ht, Literal.finite_of_overflow? hnone, rfl⟩
  · cases hgo

/-- An array of pieces that are read is one, with one level less of room inside. -/
theorem Resolves.array (hroom : room ≠ 0) (h : ResolvesItems (room - 1) true vs t) :
    Resolves room (.array vs) ('[' :: t) := by
  obtain ⟨d, ws, hform⟩ := h.form
  refine ⟨⟨d + 1, _, .array isSpaces_nil hform⟩, fun fuel rest hfuel _ => ?_⟩
  rw [List.length_cons] at hfuel
  obtain ⟨fuel, rfl⟩ := Nat.exists_eq_succ_of_ne_zero (show fuel ≠ 0 by omega)
  rw [List.cons_append, value, skipSpace_eq (by decide)]
  change (if _ ∧ room = 0 then _ else _) = _
  rw [if_neg fun hfull => hroom hfull.2, h.reads fuel rest (by omega)]
  rfl

/-- An object embeds a text if its first key is the reserved name. -/
theorem SpellsEach.embedding?_eq_none_iff {V : String → Value → List Char → Prop}
    (h : SpellsEach V true ms t) (rest : List Char) :
    embedding? (t ++ rest) = none ↔ ∀ m ∈ ms.head?, m.1 ≠ embeddedName := by
  cases h with
  | nil hws =>
    rw [List.append_assoc, embedding?, skipSpace_append hws]
    exact iff_of_true rfl fun m hm => by cases hm
  | cons hlead hkey hws hv hms =>
    cases hlead with
    | first hlead =>
      simp only [List.append_assoc, List.cons_append]
      rw [embedding?_key hlead hkey]
      simp

/-- And so is an object that does not begin with the reserved name. -/
theorem Resolves.object (hroom : room ≠ 0)
    (h : SpellsEach (fun _ v t => Resolves (room - 1) v t) true ms t)
    (hself : ∀ m ∈ ms.head?, m.1 ≠ embeddedName) : Resolves room (.object ms) ('\x7b' :: t) := by
  obtain ⟨d, ns, hform⟩ := h.form fun _ _ _ h => h.form
  refine ⟨⟨d + 1, _, .object isSpaces_nil hform⟩, fun fuel rest hfuel _ => ?_⟩
  rw [List.length_cons] at hfuel
  obtain ⟨fuel, rfl⟩ := Nat.exists_eq_succ_of_ne_zero (show fuel ≠ 0 by omega)
  rw [List.cons_append, value_object (fun _ => hroom) _
    fun _ => (h.embedding?_eq_none_iff rest).2 hself, h.reads_each (by omega)]
  rfl

/-- What is read in so many steps is a piece that is read wherever it stands. Values, items and
members are read by each other, so the three are shown together, by induction on the steps. -/
structure Settles (fuel : Nat) : Prop where
  value : ∀ {room s v rest}, Json.value .resolve fuel room s = .ok (v, rest) →
    ∃ t, s = t ++ rest ∧ Resolves room v t
  items : ∀ {room first s vs rest}, Json.items .resolve fuel room first s = .ok (vs, rest) →
    ∃ t, s = t ++ rest ∧ ResolvesItems room first vs t
  members : ∀ {room first s ms rest}, Json.members .resolve fuel room first s = .ok (ms, rest) →
    ∃ t, s = t ++ rest ∧ SpellsEach (fun _ v t => Resolves room v t) first ms t

/-- The step for arrays: with one more unit of fuel, what is read as items is made of pieces that
are. -/
theorem Settles.items_succ (h : Settles fuel)
    (hitems : Json.items .resolve (fuel + 1) room first s = .ok (vs, rest)) :
    ∃ t, s = t ++ rest ∧ ResolvesItems room first vs t := by
  obtain ⟨rfl, ws, hws, rfl⟩ | ⟨lead, r, v, r', us, hlead, rfl, hv, hus, rfl⟩ := items_cases hitems
  · exact ⟨ws ++ [']'], by simp, .nil hws⟩
  · obtain ⟨t, rfl, ht⟩ := h.value hv
    obtain ⟨u, rfl, hu⟩ := h.items hus
    exact ⟨lead ++ (t ++ u), by simp only [List.append_assoc], .cons hlead ht hu⟩

/-- The step for objects, member by member. -/
theorem Settles.members_succ (h : Settles fuel)
    (hmembers : Json.members .resolve (fuel + 1) room first s = .ok (ms, rest)) :
    ∃ t, s = t ++ rest ∧ SpellsEach (fun _ v t => Resolves room v t) first ms t := by
  obtain ⟨rfl, ws, hws, rfl⟩ |
    ⟨lead, key, ws, r, k, v, r', ns, hlead, -, hkey, hws, rfl, hv, hns, rfl⟩ :=
      members_cases hmembers
  · exact ⟨ws ++ ['\x7d'], by simp, .nil hws⟩
  · obtain ⟨t, rfl, ht⟩ := h.value hv
    obtain ⟨u, rfl, hu⟩ := h.members hns
    exact ⟨lead ++ '"' :: (key ++ '"' :: (ws ++ ':' :: (t ++ u))), by simp,
      .cons hlead (hkey (by decide)) hws ht hu⟩

/-- What is read from an opening brace on is an object of pieces, or embeds a piece. -/
inductive Braced (room : Nat) (s rest : List Char) : Value → Prop
  | members {ms : List (String × Value)} {t : List Char} (ht : s = t ++ rest)
      (h : SpellsEach (fun _ v t => Resolves (room - 1) v t) true ms t)
      (hself : ∀ m ∈ ms.head?, m.1 ≠ embeddedName) : Braced room s rest (.object ms)
  | embedded {v : Value} {t ws u : List Char} (hu : '\x7b' :: s = u ++ rest)
      (hembeds : Embeds (t ++ ws) u) (hws : IsSpaces ws) (h : Resolves depthLimit v t) :
      Braced room s rest v

/-- What was read behind a brace is a piece that is read, in each of the ways in which that can
happen. -/
theorem Braced.resolves (h : Braced room s rest v) (hroom : room ≠ 0) :
    ∃ t, '\x7b' :: s = t ++ rest ∧ Resolves room v t := by
  cases h with
  | members ht h hself => exact ⟨_, congrArg _ ht, .object hroom h hself⟩
  | embedded hu hembeds hws h => exact ⟨_, hu, hembeds.resolves hroom h hws⟩

/-- Behind a brace there is a text that is embedded, and what is embedded in it in turn, or there
are members. -/
theorem Settles.braced (h : Settles fuel) (hroom : room ≠ 0)
    (hvalue : Json.value .resolve (fuel + 1) room ('\x7b' :: s) = .ok (v, rest)) :
    Braced room s rest v := by
  cases hembedding : embedding? s with
  | none =>
    rw [value_object (fun _ => hroom) s fun _ => hembedding] at hvalue
    obtain ⟨us, hus, rfl⟩ := front_of_map hvalue
    obtain ⟨t, rfl, ht⟩ := h.members hus
    exact .members rfl ht ((ht.embedding?_eq_none_iff rest).1 hembedding)
  | some r =>
    obtain ⟨ws₁, key, hws₁, hkey, rfl⟩ := eq_of_embedding? hembedding
    rw [value_embedded hroom hembedding] at hvalue
    obtain ⟨⟨text, s₂⟩, htext, hgo⟩ := ok_of_bind hvalue
    obtain ⟨ws₂, ws₃, u, hws₂, hws₃, hu, rfl⟩ := eq_of_embeddedText htext
    dsimp only at hgo
    split at hgo
    · cases hgo
    · rename_i w r' hinner
      obtain ⟨_, hfinish, hgo⟩ := ok_of_bind hgo
      obtain ⟨r₄, hclose, hgo⟩ := ok_of_bind hgo
      obtain ⟨rfl, rfl⟩ := Prod.mk.inj (Except.ok.inj hgo)
      obtain ⟨ws₄, hws₄, rfl⟩ := spaces_of_closeObject hclose
      obtain ⟨t, rfl, ht⟩ := h.value hinner
      exact .embedded (by simp) (.intro isSpaces_nil hws₁ hkey hws₂ hws₃ hu hws₄)
        (spaces_of_embedded_finish hfinish) ht

/-- The step for values, one case for each character with which a value can begin. -/
theorem Settles.value_succ (h : Settles fuel)
    (hvalue : Json.value .resolve (fuel + 1) room s = .ok (v, rest)) :
    ∃ t, s = t ++ rest ∧ Resolves room v t := by
  obtain ⟨ws, s, hws, rfl, hcase⟩ := value_cases hvalue
  suffices hpiece : ∃ t, s = t ++ rest ∧ Resolves room v t by
    obtain ⟨t, rfl, ht⟩ := hpiece
    exact ⟨ws ++ t, (List.append_assoc ..).symm, ht.spaces hws⟩
  cases hcase with
  | null hs => exact ⟨_, hs, .of_spells (d := 0) (.null isSpaces_nil) .null (Nat.zero_le _)⟩
  | yes hs => exact ⟨_, hs, .of_spells (d := 0) (.yes isSpaces_nil) .bool (Nat.zero_le _)⟩
  | no hs => exact ⟨_, hs, .of_spells (d := 0) (.no isSpaces_nil) .bool (Nat.zero_le _)⟩
  | number hnumber =>
    obtain ⟨t, rfl, hfree⟩ := free_of_number hnumber
    exact ⟨t, rfl, .of_spells (d := 0) (.number isSpaces_nil hfree) .number (Nat.zero_le _)⟩
  | @string x t hs _ ht =>
    refine ⟨'"' :: (t ++ ['"']), by rw [hs]; simp, ?_⟩
    exact .of_spells (d := 0) (.string isSpaces_nil (ht (by decide))) .string (Nat.zero_le _)
  | array hs hroom hitems =>
    obtain ⟨t, rfl, ht⟩ := h.items hitems
    exact ⟨'[' :: t, hs, .array (hroom (by decide)) ht⟩
  | brace hs hroom hbrace =>
    rw [hs]
    exact (h.braced (hroom (by decide)) hbrace).resolves (hroom (by decide))

/-- **Whatever is read is a piece that is read wherever it stands.** -/
theorem settles (fuel : Nat) : Settles fuel := by
  induction fuel with
  | zero => exact ⟨nofun, nofun, nofun⟩
  | succ fuel ih => exact ⟨ih.value_succ, ih.items_succ, ih.members_succ⟩

/-- **What is read once is read everywhere.** A text that a reader took for a value is a piece that
it takes for that value in front of any rest. -/
theorem resolves_of_value (h : value .resolve fuel room s = .ok (v, rest)) :
    ∃ t, s = t ++ rest ∧ Resolves room v t :=
  (settles fuel).value h

/-! ## Whole texts -/

/-- A whole text is read as a value with white space behind it. -/
theorem value_of_read (h : read s = .ok v) :
    ∃ rest, value .resolve (enough s) depthLimit s = .ok (v, rest) ∧ IsSpaces rest := by
  rw [read] at h
  obtain ⟨⟨w, rest⟩, hvalue, hgo⟩ := ok_of_bind h
  obtain ⟨_, hfinish, hgo⟩ := ok_of_bind hgo
  obtain rfl := Except.ok.inj hgo
  exact ⟨rest, hvalue, spaces_of_finish hfinish⟩

/-- **A text is read** as what the piece at its front is, up to white space. -/
theorem read_eq_ok_iff_resolves :
    read s = .ok v ↔ ∃ t ws, s = t ++ ws ∧ Resolves depthLimit v t ∧ IsSpaces ws := by
  constructor
  · intro h
    obtain ⟨rest, hvalue, hrest⟩ := value_of_read h
    obtain ⟨t, rfl, ht⟩ := resolves_of_value hvalue
    exact ⟨t, rest, rfl, ht, hrest⟩
  · rintro ⟨t, ws, rfl, ht, hws⟩
    rw [read, ht.reads _ ws (by rw [enough, List.length_append]; omega) hws.stops, ok_bind]
    dsimp only
    rw [finish_spaces hws]
    rfl

/-- **A text that embeds another** is read as that one is. -/
theorem Embeds.read_iff (h : Embeds s t) (hws : IsSpaces ws) :
    read (t ++ ws) = .ok v ↔ read s = .ok v := by
  constructor
  · intro hread
    obtain ⟨rest, hvalue, -⟩ := value_of_read hread
    rw [enough, h.value_eq (by decide)] at hvalue
    split at hvalue
    · cases hvalue
    · rename_i w' r hinner
      obtain ⟨u, hend, hp⟩ := ok_of_map hvalue
      obtain ⟨rfl, -⟩ := Prod.mk.inj hp
      obtain ⟨t', rfl, ht'⟩ := resolves_of_value hinner
      exact read_eq_ok_iff_resolves.2 ⟨t', r, rfl, ht', spaces_of_embedded_finish hend⟩
  · intro hread
    obtain ⟨t', ws', rfl, ht', hws'⟩ := read_eq_ok_iff_resolves.1 hread
    exact read_eq_ok_iff_resolves.2 ⟨t, ws, rfl, h.resolves (by decide) ht' hws', hws⟩

end Reconciliation.Json
