import Reconciliation.Proofs.Resolving
import Reconciliation.Proofs.Writing

/-!
# The place of a member

The value of a member stands at one place in the text of an object: behind the last key of that
name, whatever the order, the white space and the escapes. Another value can be put there, and what
the rest of the text is read as stays the same. If the object stands in a text that another text
embeds, then the other text is changed so that it embeds the changed one.

* `Json.Swaps`: two texts that differ in the value of a member.
* `Json.LeadsTo.members_of`, `Json.memberFrom_of`: what is read in front of the place, at the place
  and behind it.
* `Json.Swaps.read_object`, `Json.Swaps.read_ne_ok`: what is read of the changed text; if what is
  put there is no value, nothing is.
* `Json.exists_swaps`: an object that has the member has the place.
-/

namespace Reconciliation.Json

open Text

variable {d fuel room : Nat} {first : Bool} {name : String} {v w : Value}
  {ms : List (String × Value)} {ws front back s s' t t' r rest : List Char}

/-! ## Places -/

/-- What stands in front of the value of a member, from the beginning of the object on or from
behind another member: members that have the form of some value, and then the name, a colon and
white space. An object that begins with the reserved name has no other members, so none begins with
it here. -/
inductive LeadsTo (name : String) : (first : Bool) → List Char → Prop
  | here {first : Bool} {lead key ws ws' : List Char} (hlead : Leads first lead)
      (hkey : SpellsText name.toList key) (hws : IsSpaces ws) (hws' : IsSpaces ws') :
      LeadsTo name first (lead ++ '"' :: (key ++ '"' :: (ws ++ ':' :: ws')))
  | after {first : Bool} {lead key ws t front : List Char} {k : String} (hlead : Leads first lead)
      (hkey : SpellsText k.toList key) (hself : first = true → k ≠ embeddedName)
      (hws : IsSpaces ws) (ht : HasForm t) (hfront : LeadsTo name false front) :
      LeadsTo name first (lead ++ '"' :: (key ++ '"' :: (ws ++ ':' :: (t ++ front))))

/-- What stands behind the value of a member: members of other names that have the form of some
value, and the closing brace. -/
def Behind (name : String) (back : List Char) : Prop :=
  ∃ ms, SpellsEach (fun k _ t => k ≠ name ∧ HasForm t) false ms back

/-- Two texts of objects that differ in the value of a member: where the one has the first piece the
other has the second. -/
inductive Swaps (name : String) (t t' : List Char) : List Char → List Char → Prop
  | member {ws front back ws' : List Char} (hws : IsSpaces ws) (hfront : LeadsTo name true front)
      (ht : HasForm t) (hback : Behind name back) (hws' : IsSpaces ws') :
      Swaps name t t' (ws ++ '\x7b' :: (front ++ (t ++ (back ++ ws'))))
        (ws ++ '\x7b' :: (front ++ (t' ++ (back ++ ws'))))
  | embedded {s s' u u' ws ws' : List Char} (h : Swaps name t t' s s') (hu : Embeds s u)
      (hws : IsSpaces ws) (hu' : Embeds s' u') (hws' : IsSpaces ws') :
      Swaps name t t' (u ++ ws) (u' ++ ws')

/-- What leads to a place that is not the first begins with a comma, so it is no part of a number in
front of it. -/
theorem LeadsTo.stops (h : LeadsTo name false front) (s : List Char) :
    Stops continuesNumber (front ++ s) := by
  cases h with
  | here hlead _ _ _ =>
    rw [List.append_assoc]
    exact hlead.stops _
  | after hlead _ _ _ _ _ =>
    rw [List.append_assoc]
    exact hlead.stops _

/-- A text in which something leads to a place of another name embeds no text: that would take the
reserved name at the first member. -/
theorem LeadsTo.embedding? (h : LeadsTo name true front) (hname : name ≠ embeddedName)
    (s : List Char) : embedding? (front ++ s) = none := by
  cases h with
  | here hlead hkey _ _ =>
    cases hlead with
    | first hlead =>
      simp only [List.append_assoc, List.cons_append]
      rw [embedding?_key hlead hkey, if_neg hname]
  | after hlead hkey hself _ _ _ =>
    cases hlead with
    | first hlead =>
      simp only [List.append_assoc, List.cons_append]
      rw [embedding?_key hlead hkey, if_neg (hself rfl)]

/-! ## What is read there -/

/-- The members from the value of one on. -/
def memberFrom (name : String) (fuel room : Nat) (s : List Char) :
    Except Failure (List (String × Value) × List Char) :=
  value .resolve fuel room s >>= fun p => (members .resolve fuel room false p.2).map
    fun q => ((name, p.1) :: q.1, q.2)

/-- What has the form of a value is the piece that is read. -/
theorem HasForm.resolves (ht : HasForm t) (hs : Stops continuesNumber s)
    (h : value .resolve fuel room (t ++ s) = .ok (v, r)) (hr : Stops continuesNumber r) :
    r = s ∧ Resolves room v t := by
  obtain ⟨u, hu, hresolves⟩ := resolves_of_value h
  obtain ⟨d, w, hform⟩ := ht
  obtain ⟨e, x, hform'⟩ := hresolves.form
  have hstands : (Part.value w).Stands (t ++ s) s := ⟨d, t, rfl, hform⟩
  have hstands' : (Part.value x).Stands (t ++ s) r := ⟨e, u, hu, hform'⟩
  obtain rfl := hstands'.unique hstands hr hs
  obtain rfl := List.append_cancel_right hu
  exact ⟨rfl, hresolves⟩

/-- Members are no part of a number in front of them. -/
theorem stops_of_members (h : members .resolve fuel room false s = .ok (ms, rest)) :
    Stops continuesNumber s := by
  obtain ⟨t, rfl, ht⟩ := (settles fuel).members h
  exact ht.stops

/-- A value and the members behind it. -/
theorem memberFrom_eq_ok (h : memberFrom name fuel room s = .ok (ms, rest)) :
    ∃ v r later, value .resolve fuel room s = .ok (v, r) ∧
      members .resolve fuel room false r = .ok (later, rest) ∧ ms = (name, v) :: later := by
  obtain ⟨⟨v, r⟩, hv, hgo⟩ := ok_of_bind h
  obtain ⟨⟨later, rest'⟩, hlater, hp⟩ := ok_of_map hgo
  obtain ⟨rfl, rfl⟩ := Prod.mk.inj hp
  exact ⟨v, r, later, hv, hlater, rfl⟩

/-- **In front of the place** the same is read whatever stands there. -/
theorem LeadsTo.members_of (h : LeadsTo name first front)
    (hread : members .resolve fuel room first (front ++ s) = .ok (ms, rest)) :
    ∃ before ms' fuel', ms = before ++ ms' ∧ memberFrom name fuel' room s = .ok (ms', rest) ∧
      ∀ fuel s', 2 * front.length ≤ fuel → ∃ fuel', fuel ≤ fuel' + front.length ∧
        members .resolve fuel room first (front ++ s') =
          (memberFrom name fuel' room s').map fun p => (before ++ p.1, p.2) := by
  induction h generalizing fuel ms with
  | @here first lead key ws ws' hlead hkey hws hws' =>
    -- both runs take this step, the given one and the one with another text in the place
    have hstep : ∀ fuel s, members .resolve (fuel + 2) room first
        ((lead ++ '"' :: (key ++ '"' :: (ws ++ ':' :: ws'))) ++ s) =
          memberFrom name (fuel + 1) room s := by
      intro fuel s
      simp only [List.append_assoc, List.cons_append]
      rw [members_member hlead (hkey.stringTail (by decide) _) hws, value_spaces hws']
      rfl
    rcases fuel with _ | _ | fuel
    · cases hread
    · simp only [List.append_assoc, List.cons_append] at hread
      rw [members_member hlead (hkey.stringTail (by decide) _) hws] at hread
      cases hread
    · rw [hstep] at hread
      refine ⟨[], ms, fuel + 1, rfl, hread, fun fuel s' hfuel => ?_⟩
      simp only [List.length_append, List.length_cons] at hfuel
      obtain ⟨fuel, rfl⟩ := Nat.exists_eq_add_of_le' (show 2 ≤ fuel by omega)
      refine ⟨fuel + 1, by simp only [List.length_append, List.length_cons]; omega, ?_⟩
      rw [hstep]
      cases memberFrom name (fuel + 1) room s' <;> rfl
  | @after first lead key ws t front k hlead hkey hself hws ht hfront ih =>
    have hstep : ∀ fuel s, members .resolve (fuel + 1) room first
        ((lead ++ '"' :: (key ++ '"' :: (ws ++ ':' :: (t ++ front)))) ++ s) =
          memberFrom k fuel room (t ++ (front ++ s)) := by
      intro fuel s
      simp only [List.append_assoc, List.cons_append]
      exact members_member hlead (hkey.stringTail (by decide) _) hws
    cases fuel with
    | zero => cases hread
    | succ fuel =>
      rw [hstep] at hread
      -- what is read in front of the place is read wherever it stands, so the other run reads it
      -- too
      obtain ⟨v, r, later, hv, hlater, rfl⟩ := memberFrom_eq_ok hread
      obtain ⟨rfl, hresolves⟩ := ht.resolves (hfront.stops s) hv (stops_of_members hlater)
      obtain ⟨before, ms', fuel', rfl, hfrom, hagain⟩ := ih hlater
      refine ⟨(k, v) :: before, ms', fuel', rfl, hfrom, fun fuel s' hfuel => ?_⟩
      simp only [List.length_append, List.length_cons] at hfuel
      obtain ⟨fuel, rfl⟩ := Nat.exists_eq_succ_of_ne_zero (show fuel ≠ 0 by omega)
      obtain ⟨fuel₂, hfuel₂, hmembers⟩ := hagain fuel s' (by omega)
      refine ⟨fuel₂, by simp only [List.length_append, List.length_cons]; omega, ?_⟩
      rw [hstep, memberFrom, hresolves.reads fuel _ (by omega) (hfront.stops s'), ok_bind, hmembers]
      cases memberFrom name fuel₂ room s' <;> rfl

/-- **Behind the place** there is no member of the name. -/
theorem Behind.names (h : Behind name back)
    (hread : members .resolve fuel room false (back ++ s) = .ok (ms, rest)) :
    ∀ m ∈ ms, m.1 ≠ name := by
  obtain ⟨ns, hback⟩ := h
  generalize false = first at hback hread
  induction hback generalizing fuel ms with
  | nil hws =>
    cases fuel with
    | zero => cases hread
    | succ fuel =>
      rw [List.append_assoc, members, List.singleton_append, nextKey_end hws, ok_bind] at hread
      obtain ⟨rfl, -⟩ := Prod.mk.inj (Except.ok.inj hread)
      intro m hm
      cases hm
  | @cons first lead key ws t u k x ns hlead hkey hws hv hms ih =>
    cases fuel with
    | zero => cases hread
    | succ fuel =>
      simp only [List.append_assoc, List.cons_append] at hread
      rw [members_member hlead (hkey.stringTail (by decide) _) hws] at hread
      obtain ⟨v, r, later, hv', hlater, rfl⟩ := memberFrom_eq_ok hread
      obtain ⟨rfl, -⟩ := hv.2.resolves hms.stops hv' (stops_of_members hlater)
      exact List.forall_mem_cons.2 ⟨hv.1, ih hlater⟩

/-- What is behind the place is no part of a number there. -/
theorem Behind.stops (h : Behind name back) (s : List Char) :
    Stops continuesNumber (back ++ s) := by
  obtain ⟨ms, hback⟩ := h
  exact hback.stops

/-- **From the place on** a value and members of other names are read, and the members are read the
same whatever the value is. -/
theorem memberFrom_of (ht : HasForm t) (hback : Behind name back)
    (h : memberFrom name fuel room (t ++ (back ++ s)) = .ok (ms, rest)) :
    ∃ w later, ms = (name, w) :: later ∧ (∀ m ∈ later, m.1 ≠ name) ∧
      ∀ fuel, 2 * (back ++ s).length ≤ fuel →
        members .resolve fuel room false (back ++ s) = .ok (later, rest) := by
  obtain ⟨w, r, later, hw, hlater, rfl⟩ := memberFrom_eq_ok h
  obtain ⟨rfl, -⟩ := ht.resolves (hback.stops s) hw (stops_of_members hlater)
  refine ⟨w, later, rfl, hback.names hlater, fun fuel hfuel => ?_⟩
  obtain ⟨u, hu, heach⟩ := (settles _).members hlater
  rw [hu, List.length_append] at hfuel
  rw [hu, heach.reads_each (by omega)]

/-! ## Whole texts -/

/-- An object that does not begin with the reserved name is read member by member. -/
theorem read_members (hws : IsSpaces ws) (hself : embedding? s = none) :
    read (ws ++ '\x7b' :: s) =
      (members .resolve (2 * (ws.length + s.length) + 3) (depthLimit - 1) true s >>= fun p =>
        (finish p.2).map fun _ => .object p.1) := by
  have hfuel : enough (ws ++ '\x7b' :: s) = 2 * (ws.length + s.length) + 3 + 1 := by
    rw [enough, List.length_append, List.length_cons]
    omega
  rw [read, hfuel, value_spaces hws, value_object (fun _ => by decide) s fun _ => hself]
  rcases members .resolve (2 * (ws.length + s.length) + 3) (depthLimit - 1) true s with e | p
  · rfl
  · change (finish p.2 >>= fun _ => .ok (Value.object p.1)) =
      (finish p.2).map fun _ => Value.object p.1
    cases finish p.2 <;> rfl

/-- What is read of an object that does not begin with the reserved name. -/
theorem members_of_read (hws : IsSpaces ws) (hself : embedding? s = none)
    (h : read (ws ++ '\x7b' :: s) = .ok v) :
    ∃ fuel ms rest, members .resolve fuel (depthLimit - 1) true s = .ok (ms, rest) ∧
      finish rest = .ok () ∧ v = .object ms := by
  rw [read_members hws hself] at h
  obtain ⟨⟨ms, rest⟩, hmembers, hgo⟩ := ok_of_bind h
  obtain ⟨_, hfinish, rfl⟩ := ok_of_map hgo
  exact ⟨_, ms, rest, hmembers, hfinish, rfl⟩

/-- **The changed text** is read as the same object with the other value in the place. -/
theorem Swaps.read_object (h : Swaps name t t' s s') (hname : name ≠ embeddedName)
    (hread : read s = .ok v) :
    ∃ before w later, v = .object (before ++ (name, w) :: later) ∧ (∀ m ∈ later, m.1 ≠ name) ∧
      ∀ w', (∀ room, Resolves room w' t') →
        read s' = .ok (.object (before ++ (name, w') :: later)) := by
  induction h with
  | @member ws front back ws' hws hfront ht hback hws' =>
    obtain ⟨fuel, ms, rest, hmembers, hfinish, rfl⟩ :=
      members_of_read hws (hfront.embedding? hname _) hread
    obtain ⟨before, ms', fuel', rfl, hfrom, hagain⟩ := hfront.members_of hmembers
    obtain ⟨w, later, rfl, hlater, hbehind⟩ := memberFrom_of ht hback hfrom
    refine ⟨before, w, later, rfl, hlater, fun w' hw' => ?_⟩
    rw [read_members hws (hfront.embedding? hname _)]
    obtain ⟨fuel₂, hfuel₂, hmembers'⟩ := hagain
      (2 * (ws.length + (front ++ (t' ++ (back ++ ws'))).length) + 3) (t' ++ (back ++ ws'))
      (by simp only [List.length_append]; omega)
    simp only [List.length_append] at hfuel₂
    rw [hmembers', memberFrom, (hw' _).reads fuel₂ _ (by omega) (hback.stops ws'), ok_bind,
      hbehind fuel₂ (by rw [List.length_append]; omega)]
    change (finish rest).map _ = _
    rw [hfinish]
    rfl
  | embedded _ hu hws hu' hws' ih =>
    obtain ⟨before, w, later, rfl, hlater, hagain⟩ := ih ((hu.read_iff hws).1 hread)
    exact ⟨before, w, later, rfl, hlater, fun w' hw' => (hu'.read_iff hws').2 (hagain w' hw')⟩

/-- A text is not read if what stands in the place is never read as a value. -/
theorem Swaps.read_ne_ok (h : Swaps name t t' s s') (hname : name ≠ embeddedName)
    (ht' : ∀ fuel room rest p, Stops continuesNumber rest →
      value .resolve fuel room (t' ++ rest) ≠ .ok p) : read s' ≠ .ok v := by
  intro hread
  induction h with
  | @member ws front back ws' hws hfront ht hback hws' =>
    obtain ⟨fuel, ms, rest, hmembers, -, rfl⟩ :=
      members_of_read hws (hfront.embedding? hname _) hread
    obtain ⟨before, ms', fuel', rfl, hfrom, -⟩ := hfront.members_of hmembers
    obtain ⟨w, r, later, hw, -, -⟩ := memberFrom_eq_ok hfrom
    exact ht' _ _ _ _ (hback.stops ws') hw
  | embedded _ _ _ hu' hws' ih => exact ih ((hu'.read_iff hws').1 hread)

/-! ## What is looked up -/

/-- The value in the place is found under its name. -/
theorem Value.member?_place {before later : List (String × Value)}
    (hlater : ∀ m ∈ later, m.1 ≠ name) :
    (Value.object (before ++ (name, w) :: later)).member? name = some w := by
  have hnone : later.reverse.find? (·.1 == name) = none := by
    rw [List.find?_eq_none]
    intro m hm hname
    exact hlater m (List.mem_reverse.1 hm) (eq_of_beq hname)
  simp [Value.member?, hnone]

/-- What is found under another name does not depend on it. -/
theorem Value.member?_otherPlace {k : String} (hk : k ≠ name) (before later : List (String × Value))
    (w w' : Value) : (Value.object (before ++ (name, w) :: later)).member? k =
      (Value.object (before ++ (name, w') :: later)).member? k := by
  have hskip : (name == k) = false := beq_false_of_ne hk.symm
  simp [Value.member?, hskip]

/-! ## Where there is a place -/

/-- What is known of the names of all members is known of each as it is spelled. -/
theorem SpellsEach.and_names {V : String → Value → List Char → Prop} {P : String → Prop}
    (h : SpellsEach V first ms t) (hP : ∀ m ∈ ms, P m.1) :
    SpellsEach (fun k v t => P k ∧ V k v t) first ms t := by
  induction h with
  | nil hws => exact .nil hws
  | cons hlead hkey hws hv _ ih =>
    obtain ⟨hk, hms⟩ := List.forall_mem_cons.1 hP
    exact .cons hlead hkey hws ⟨hk, hv⟩ (ih hms)

/-- **Members have the place** of each name among them. -/
theorem SpellsEach.exists_place {V : String → Value → List Char → Prop}
    (hV : ∀ k v t, V k v t → HasForm t) (h : SpellsEach V first ms s)
    (hself : first = true → ∀ m ∈ ms.head?, m.1 ≠ embeddedName) (hmem : ∃ m ∈ ms, m.1 = name) :
    ∃ front t back, s = front ++ (t ++ back) ∧ LeadsTo name first front ∧ HasForm t ∧
      Behind name back := by
  induction h with
  | nil => exact absurd hmem (by simp)
  | @cons first lead key ws t u k v ms hlead hkey hws hv hms ih =>
    by_cases hlater : ∃ m ∈ ms, m.1 = name
    · -- the last member of the name is further behind
      obtain ⟨front, x, back, rfl, hfront, hx, hback⟩ := ih nofun hlater
      refine ⟨lead ++ '"' :: (key ++ '"' :: (ws ++ ':' :: (t ++ front))), x, back, by simp,
        .after hlead hkey (fun hfirst => hself hfirst _ rfl) hws (hV _ _ _ hv) hfront, hx, hback⟩
    · have hnames : ∀ m ∈ ms, m.1 ≠ name := fun m hm hname => hlater ⟨m, hm, hname⟩
      obtain rfl : k = name := by
        obtain ⟨m, hm, hname⟩ := hmem
        rcases List.mem_cons.1 hm with rfl | hm
        · exact hname
        · exact absurd hname (hnames m hm)
      exact ⟨lead ++ '"' :: (key ++ '"' :: (ws ++ [':'])), t, u, by simp,
        .here hlead hkey hws isSpaces_nil, hV _ _ _ hv, ms, (hms.mono hV).and_names hnames⟩

/-- Every text can be embedded. -/
theorem exists_embeds (s : List Char) : ∃ u, Embeds s u :=
  ⟨_, .intro isSpaces_nil isSpaces_nil (spellsText_escaped _) isSpaces_nil isSpaces_nil
    (spellsText_escaped s) isSpaces_nil⟩

/-- A text may be embedded behind white space as well. -/
theorem Embeds.spaces (hws : IsSpaces ws) (h : Embeds s t) : Embeds s (ws ++ t) := by
  cases h with
  | @intro ws' ws₁ ws₂ ws₃ ws₄ key u hws' hws₁ hkey hws₂ hws₃ hu hws₄ =>
    rw [← List.append_assoc]
    exact .intro (hws.append hws') hws₁ hkey hws₂ hws₃ hu hws₄

/-- A value that is found under a name is that of one of the members. -/
theorem mem_of_member? (h : (Value.object ms).member? name = some w) : ∃ m ∈ ms, m.1 = name := by
  obtain ⟨m, hm, -⟩ := Option.map_eq_some_iff.1 h
  have hname := List.find?_some hm
  exact ⟨m, List.mem_reverse.1 (List.mem_of_find?_eq_some hm), eq_of_beq hname⟩

/-- **An object that has the member has the place**, and anything can be put there. -/
theorem exists_swaps (hread : read s = .ok v) (hw : v.member? name = some w) :
    ∃ t, ∀ t', ∃ s', Swaps name t t' s s' := by
  -- by the length of the text: one that embeds another is longer
  induction hs : s.length using Nat.strong_induction_on generalizing s with
  | _ n ih =>
  subst hs
  obtain ⟨rest, hvalue, hrest⟩ := value_of_read hread
  obtain ⟨ws, s, hws, rfl, hcase⟩ := value_cases hvalue
  obtain ⟨r, rfl, hroom, hbrace⟩ : ∃ r, s = '\x7b' :: r ∧ depthLimit ≠ 0 ∧
      value .resolve _ depthLimit ('\x7b' :: r) = .ok (v, rest) := by
    cases hcase with
    | brace hs hroom h => exact ⟨_, hs, hroom (by decide), h⟩
    | _ => cases hw
  have hbraced := (settles _).braced hroom hbrace
  cases hbraced with
  | @members ms t ht h hself =>
    obtain ⟨front, x, back, rfl, hfront, hx, hback⟩ := h.exists_place (fun _ _ _ h => h.form)
      (fun _ => hself) (mem_of_member? hw)
    subst ht
    simp only [List.append_assoc]
    exact ⟨x, fun t' => ⟨_, .member hws hfront hx hback hrest⟩⟩
  | @embedded _ t ws' u hu hembeds hws' h =>
    have hinner := read_eq_ok_iff_resolves.2 ⟨t, ws', rfl, h, hws'⟩
    have hlength : (t ++ ws').length < (ws ++ '\x7b' :: r).length := by
      have hlt := hembeds.length_lt
      rw [hu]
      simp only [List.length_append] at hlt ⊢
      omega
    obtain ⟨x, hx⟩ := ih _ hlength hinner rfl
    refine ⟨x, fun t' => ?_⟩
    obtain ⟨s', hs'⟩ := hx t'
    obtain ⟨u', hu'⟩ := exists_embeds s'
    refine ⟨u' ++ [], ?_⟩
    rw [hu, ← List.append_assoc]
    exact .embedded hs' (hembeds.spaces hws) hrest hu' isSpaces_nil

end Reconciliation.Json
