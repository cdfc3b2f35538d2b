import Reconciliation.Proofs.Envelopes
import Reconciliation.Proofs.Members
import Reconciliation.Proofs.RecordText
import Reconciliation.Record.OutcomeJson

/-!
# Outcomes are read by their tag

Which outcome an object holds is known only when its tag has been read, so the reader keeps the
members before it as they are, and those behind it too, and looks afterwards for the one that the
tag asks for. What comes out depends neither on where the tag stands nor on members that the tag
does not ask for. These are kept all the same, so they have to be sound: the numbers among them
finite as the reader rounds them, and nested no deeper than it allows.

* `Outcome.readMembers_tagged`: the tag and the other members, whatever their order.
* `Outcome.tags_of_readMembers`: how many tags there were.
* `Outcome.reads_by_tag`: an outcome is read from every object with its members and one tag.
* `Outcome.refuses_rounded`: it may be refused for a number in a member that nothing asks for.
-/

namespace Reconciliation.Outcome

open Json Text

variable {o : Outcome} {first : Bool} {found found' : Option Tag} {g : Tag} {fuel : Nat}
  {ms ns : List (String × Value)} {s t rest : List Char}

/-! ## Members -/

/-- The tag of an outcome. -/
def tag : Outcome → Tag
  | completed _ => .completed
  | retry _ => .retry

/-- The value that goes with the tag. -/
def value : Outcome → Value
  | completed status => .string status
  | retry until? => (until?.map fun t => Value.string t.text).getD .null

/-- The members of an outcome as it is written. -/
def members (o : Outcome) : List (String × Value) :=
  [(tagName, .string o.tag.name), (o.tag.field, o.value)]

/-- Whether a member is the tag. -/
def isTag (m : String × Value) : Bool := m.1 == tagName

/-- A member is a tag by its name alone, whatever its value is. -/
theorem isTag_iff {k : String} {v : Value} : isTag (k, v) = true ↔ k = tagName := beq_iff_eq

/-- No two tags have one name. -/
theorem ofName?_name (g : Tag) : Tag.ofName? g.name = some g := by
  cases g <;> decide

/-- The field that a tag asks for is not called like the tag. -/
theorem field_ne_tagName (g : Tag) : g.field ≠ tagName := by
  cases g <;> decide

/-- The value of an outcome gives it back. -/
theorem ofValue?_value (o : Outcome) : ofValue? o.tag o.value = some o := by
  cases o with
  | completed status => rfl
  | retry until? =>
    cases until? with
    | none => rfl
    | some t =>
      change (Instant.ofText? t.text).map (fun t => Outcome.retry (some t)) = _
      rw [WorkRecord.ofText?_instant]
      rfl

/-! ## Reading members -/

/-- At the closing brace what was found so far is given back, and no member is kept. -/
theorem readMembers_end {ws : List Char} (hws : IsSpaces ws) (fuel : Nat) (found : Option Tag) :
    readMembers (fuel + 1) first found (ws ++ '\x7d' :: rest) =
      .ok ((found, []), '\x7d' :: rest) := by
  rw [readMembers, nextKey_end hws]
  rfl

/-- One member is the tag, or is kept. -/
theorem readMembers_cons {lead key ws : List Char} {k : String} (hlead : Leads first lead)
    (hkey : SpellsText k.toList key) (hws : IsSpaces ws) (fuel : Nat) (found : Option Tag)
    (s : List Char) :
    readMembers (fuel + 1) first found (lead ++ '"' :: (key ++ '"' :: (ws ++ ':' :: s))) =
      if k = tagName then
        if found.isSome then .error (failAt .content (ws ++ ':' :: s))
        else readMeaning Tag.ofName? s >>= fun p => readMembers fuel false (some p.1) p.2
      else keepValue (depthLimit - 1) s >>= fun p =>
        readMembers fuel false found p.2 >>= fun q => .ok ((q.1.1, (k, p.1) :: q.1.2), q.2) := by
  rw [readMembers, nextKey_key hlead, ok_bind]
  dsimp only
  rw [hkey.stringTail (by decide), ok_bind]
  dsimp only
  rw [colon_spaces hws, ok_bind]
  rfl

/-- A member that can be kept, whatever its name. It is kept inside of the object, so it has one
level less to be nested in. -/
def KeptText (_ : String) (v : Value) (t : List Char) : Prop :=
  Spells .free (depthLimit - 1) (.value v) t

/-- Without a tag all members are kept. -/
theorem readMembers_untagged (h : SpellsEach KeptText first ms t) (hfuel : ms.length < fuel)
    (hms : ms.filter isTag = []) (found : Option Tag) (rest : List Char) :
    readMembers fuel first found (t ++ rest) = .ok ((found, ms), '\x7d' :: rest) := by
  induction h generalizing fuel with
  | nil hws =>
    obtain ⟨fuel, rfl⟩ := Nat.exists_eq_add_one_of_ne_zero (Nat.ne_of_gt hfuel)
    rw [List.append_assoc, List.singleton_append, readMembers_end hws]
  | @cons first lead key ws t u k v ms hlead hkey hws hv hlater ih =>
    obtain ⟨fuel, rfl⟩ := Nat.exists_eq_add_one_of_ne_zero (Nat.ne_of_gt (Nat.zero_lt_of_lt hfuel))
    have hnone := List.filter_eq_nil_iff.1 hms
    have hk : k ≠ tagName := fun heq => hnone (k, v) List.mem_cons_self (isTag_iff.2 heq)
    have hrest : ms.filter isTag = [] :=
      List.filter_eq_nil_iff.2 fun m hm => hnone m (List.mem_cons_of_mem _ hm)
    simp only [List.append_assoc, List.cons_append]
    rw [readMembers_cons hlead hkey hws, if_neg hk,
      Spells.keepValue hv (Nat.le_refl _) hlater.stops, ok_bind]
    dsimp only
    rw [ih (Nat.lt_of_succ_lt_succ hfuel) hrest, ok_bind]

/-- **With one tag** the other members are kept, those before it and those behind it. -/
theorem readMembers_tagged (h : SpellsEach KeptText first ms t) (hfuel : ms.length < fuel)
    (hms : ms.filter isTag = [(tagName, .string g.name)]) (rest : List Char) :
    readMembers fuel first none (t ++ rest) =
      .ok ((some g, ms.filter (!isTag ·)), '\x7d' :: rest) := by
  induction h generalizing fuel with
  | nil => cases hms
  | @cons first lead key ws t u k v ms hlead hkey hws hv hlater ih =>
    obtain ⟨fuel, rfl⟩ := Nat.exists_eq_add_one_of_ne_zero (Nat.ne_of_gt (Nat.zero_lt_of_lt hfuel))
    simp only [List.append_assoc, List.cons_append]
    rw [readMembers_cons hlead hkey hws]
    by_cases hk : k = tagName
    · -- the tag is here, so all members behind it are kept
      have htag : isTag (k, v) = true := isTag_iff.2 hk
      rw [List.filter_cons_of_pos htag] at hms
      obtain ⟨hfirst, hrest⟩ := List.cons.inj hms
      obtain ⟨-, rfl⟩ := Prod.mk.inj hfirst
      have hread : readMeaning Tag.ofName? (t ++ (u ++ rest)) = .ok (g, u ++ rest) :=
        (readMeaning_answers hv (Nat.sub_le _ _) hlater.stops).eq_ok (ofName?_name g)
      have hkept : ms.filter (!isTag ·) = ms := List.filter_eq_self.2 fun m hm => by
        rw [Bool.eq_false_iff.2 (List.filter_eq_nil_iff.1 hrest m hm), Bool.not_false]
      rw [if_pos hk, Option.isSome_none, if_neg Bool.false_ne_true, hread, ok_bind]
      dsimp only
      rw [readMembers_untagged hlater (Nat.lt_of_succ_lt_succ hfuel) hrest,
        List.filter_cons_of_neg (by simpa using htag), hkept]
    · -- the tag is further behind, and this member is kept
      have htag : ¬ isTag (k, v) = true := mt isTag_iff.1 hk
      rw [List.filter_cons_of_neg htag] at hms
      rw [if_neg hk, Spells.keepValue hv (Nat.le_refl _) hlater.stops, ok_bind]
      dsimp only
      rw [ih (Nat.lt_of_succ_lt_succ hfuel) hms, ok_bind,
        List.filter_cons_of_pos (by simpa using htag)]

/-! ## Counting tags -/

/-- A member of any form, whatever its name. Members like this are enough to refuse an object for
its tags. -/
def AnyText (_ : String) (v : Value) (t : List Char) : Prop :=
  ∃ d, Spells .form d (.value v) t

/-- Where further members are read the text before does not go on as a number. -/
theorem stops_of_readMembers {p : (Option Tag × List (String × Value)) × List Char}
    (h : readMembers fuel false found s = .ok p) : Stops continuesNumber s := by
  cases fuel with
  | zero => cases h
  | succ fuel =>
    rw [readMembers] at h
    obtain ⟨⟨more, r⟩, hnext, -⟩ := ok_of_bind h
    obtain ⟨-, ws, rest, hws, rfl, rfl⟩ | ⟨-, lead, hlead, rfl⟩ := leads_of_nextKey hnext
    · exact stops_spaces hws (stops_cons.2 (by decide))
    · exact hlead.stops _

/-- **Members that are read** have as many tags as have been found. -/
theorem tags_of_readMembers (h : SpellsEach AnyText first ms t)
    (hread : readMembers fuel first found (t ++ rest) = .ok ((found', ns), s)) :
    found.toList.length + ms.countP isTag = found'.toList.length := by
  induction h generalizing fuel found found' ns with
  | @nil first ws hws =>
    cases fuel with
    | zero => cases hread
    | succ fuel =>
      rw [List.append_assoc, List.singleton_append, readMembers_end hws] at hread
      obtain ⟨hfound, -⟩ := Prod.mk.inj (Except.ok.inj hread)
      obtain ⟨rfl, -⟩ := Prod.mk.inj hfound
      rfl
  | @cons first lead key ws t u k v ms hlead hkey hws hv hlater ih =>
    cases fuel with
    | zero => cases hread
    | succ fuel =>
      simp only [List.append_assoc, List.cons_append] at hread
      rw [readMembers_cons hlead hkey hws] at hread
      -- the value ends where the next member begins, whoever reads it
      have hend : ∀ {r : List Char} {found : Option Tag}
          {p : (Option Tag × List (String × Value)) × List Char} {w : Value},
          (Part.value w).Stands (t ++ (u ++ rest)) r → readMembers fuel false found r = .ok p →
          r = u ++ rest := by
        intro r found p w hstands hnext
        obtain ⟨d, hv⟩ := hv
        exact hstands.unique ⟨d, t, rfl, hv⟩ (stops_of_readMembers hnext) hlater.stops
      split_ifs at hread with hk hfound
      · obtain ⟨⟨g, r⟩, htag, hnext⟩ := ok_of_bind hread
        obtain ⟨w, t', hs, ht'⟩ := scalarStands_of_readMeaning htag
        obtain rfl := hend ⟨0, t', hs, ht'.form⟩ hnext
        have htags := ih hnext
        obtain rfl := Option.not_isSome_iff_eq_none.1 hfound
        rw [List.countP_cons_of_pos (isTag_iff.2 hk)]
        simp only [Option.toList_some, Option.toList_none, List.length_singleton, List.length_nil]
          at htags ⊢
        omega
      · obtain ⟨⟨w, r⟩, hkeep, hgo⟩ := ok_of_bind hread
        obtain ⟨⟨⟨found₁, ns₁⟩, r'⟩, hnext, hp⟩ := ok_of_bind hgo
        obtain ⟨hfound, rfl⟩ := Prod.mk.inj (Except.ok.inj hp)
        obtain ⟨rfl, -⟩ := Prod.mk.inj hfound
        obtain rfl := hend (stands_of_keepValue hkeep) hnext
        rw [List.countP_cons_of_neg (mt isTag_iff.1 hk)]
        exact ih hnext

/-- **An object that is read has one tag.** -/
theorem tags_of_read (h : ObjectText AnyText ms s) (hread : read s = .ok o) :
    ms.countP isTag = 1 := by
  obtain ⟨ws, t, ws', hws, ht, hws', rfl⟩ := h
  rw [read, skipSpace_append hws, skipSpace_eq (by decide)] at hread
  obtain ⟨⟨⟨found, ns⟩, r⟩, hmembers, hfit⟩ := ok_of_bind hread
  have htags := tags_of_readMembers ht hmembers
  cases found with
  | none => cases hfit
  | some g => simpa using htags

/-! ## Outcomes -/

/-- **An object with one tag** is read as the outcome that the tag makes of the other members. -/
theorem read_tagged (h : Spelled .free depthLimit (.object ms) s)
    (hms : ms.filter isTag = [(tagName, .string g.name)])
    (hfit : ofMembers? g (ms.filter (!isTag ·)) = some o) : read s = .ok o := by
  obtain ⟨ws, t, ws', hws, ht, hws', rfl⟩ : ObjectText KeptText ms s := h.objectText
  have hmembers := readMembers_tagged ht (ht.length_lt_enough ws') hms ws'
  have hstart : read (ws ++ '\x7b' :: (t ++ ws')) =
      (readMembers (enough (t ++ ws')) true none (t ++ ws') >>= fun p => do
        let outcome ← fitting (p.1.1.bind (ofMembers? · p.1.2)) p.2
        finish (p.2.drop 1)
        return outcome) := by
    rw [read, skipSpace_append hws, skipSpace_eq (by decide)]
    rfl
  rw [hstart, hmembers, ok_bind, Option.bind_some, hfit, fitting, ok_bind, List.drop_one,
    List.tail_cons, finish_spaces hws']
  rfl

/-- Whether a member is the one that a tag asks for. -/
def isAsked (g : Tag) (m : String × Value) : Bool := m.1 == g.field

/-- The members that an outcome is read from: its own, or its tag alone where nothing else is
said. -/
def Suffices (o : Outcome) (ms : List (String × Value)) : Prop :=
  ms = o.members ∨ o = .retry none ∧ ms = [(tagName, .string o.tag.name)]

/-- Among the members that suffice for an outcome there is one tag, the one of the outcome. -/
theorem Suffices.filter_isTag (h : o.Suffices ms) :
    ms.filter isTag = [(tagName, .string o.tag.name)] := by
  obtain rfl | ⟨rfl, rfl⟩ := h
  · have hfield : ¬ isTag (o.tag.field, o.value) = true := mt isTag_iff.1 (field_ne_tagName o.tag)
    rw [members, List.filter_cons_of_pos (isTag_iff.2 rfl), List.filter_cons_of_neg hfield,
      List.filter_nil]
  · rfl

/-- The members that the tag asks for make the outcome, whatever stands between them. -/
theorem Suffices.ofMembers? (h : o.Suffices ms)
    (hperm : (ns.filter (isAsked o.tag)).Perm (ms.filter (isAsked o.tag))) :
    ofMembers? o.tag ns = some o := by
  have hasked : (ns.filter (·.1 == o.tag.field)).map (·.2) = [o.value] ∨
      o = .retry none ∧ (ns.filter (·.1 == o.tag.field)).map (·.2) = [] := by
    change (ns.filter (isAsked o.tag)).map (·.2) = [o.value] ∨
      o = .retry none ∧ (ns.filter (isAsked o.tag)).map (·.2) = []
    obtain rfl | ⟨rfl, rfl⟩ := h
    · have htag : ¬ isAsked o.tag (tagName, .string o.tag.name) = true :=
        fun heq => field_ne_tagName o.tag (beq_iff_eq.1 heq).symm
      have hfield : isAsked o.tag (o.tag.field, o.value) = true := beq_self_eq_true o.tag.field
      rw [members, List.filter_cons_of_neg htag, List.filter_cons_of_pos hfield, List.filter_nil,
        List.perm_singleton] at hperm
      rw [hperm]
      exact .inl rfl
    · exact .inr ⟨rfl, by rw [List.perm_nil.1 hperm]; rfl⟩
  rw [Outcome.ofMembers?.eq_def]
  obtain hasked | ⟨rfl, hasked⟩ := hasked
  · rw [hasked]
    exact ofValue?_value o
  · rw [hasked]
    rfl

/-- **An outcome is read** from every object with its members among others, of which none is the tag
or asked for by it. -/
theorem read_of_perm {core extra : List (String × Value)} (hcore : o.Suffices core)
    (hextra : ∀ m ∈ extra, m.1 ≠ tagName ∧ m.1 ≠ o.tag.field) (hperm : ms.Perm (core ++ extra))
    (h : Spelled .free depthLimit (.object ms) s) : read s = .ok o := by
  have hother : extra.filter isTag = [] := List.filter_eq_nil_iff.2 fun m hm =>
    mt isTag_iff.1 (hextra m hm).1
  have hunasked : extra.filter (isAsked o.tag) = [] := List.filter_eq_nil_iff.2 fun m hm =>
    mt beq_iff_eq.1 (hextra m hm).2
  have htags : ms.filter isTag = [(tagName, .string o.tag.name)] := by
    have hfiltered := hperm.filter isTag
    rwa [List.filter_append, hother, List.append_nil, hcore.filter_isTag, List.perm_singleton]
      at hfiltered
  refine read_tagged h htags (hcore.ofMembers? ?_)
  -- what is asked for is no tag
  have hasked : (ms.filter (!isTag ·)).filter (isAsked o.tag) = ms.filter (isAsked o.tag) := by
    rw [List.filter_filter]
    refine List.filter_congr fun m _ => Bool.and_eq_left_iff_imp.2 fun heq => ?_
    rw [Bool.not_eq_true', Bool.eq_false_iff]
    exact fun htag => field_ne_tagName o.tag ((beq_iff_eq.1 heq).symm.trans (isTag_iff.1 htag))
  have hfiltered := hperm.filter (isAsked o.tag)
  rwa [List.filter_append, hunasked, List.append_nil, ← hasked] at hfiltered

/-- A written outcome is spelled. -/
theorem spelled_write (o : Outcome) : Spelled .free depthLimit (.object o.members) o.write := by
  suffices hmembers : ∃ ts, o.write = writeObject ts ∧ SpellsMembers .free 126 o.members ts by
    obtain ⟨ts, hwrite, hts⟩ := hmembers
    rw [hwrite]
    exact spelled_writeObject hts
  have hstring : ∀ x : String, Spells .free 126 (.value (.string x)) (writeString x) :=
    spells_writeString
  have hnull : Spells .free 126 (.value .null) ['n', 'u', 'l', 'l'] := .null isSpaces_nil
  cases o with
  | completed status => exact ⟨_, rfl, .cons ⟨rfl, hstring _⟩ (.cons ⟨rfl, hstring _⟩ .nil)⟩
  | retry until? =>
    refine ⟨_, rfl, .cons ⟨rfl, hstring _⟩ (.cons ⟨rfl, ?_⟩ .nil)⟩
    cases until? with
    | none => exact hnull
    | some t => exact hstring _

/-- **Outcomes are read by their tag.** A written outcome is read as it was. So is every object with
its members in any order, or without a deadline that is null, among others that are neither a tag
nor asked for by it, with any white space and escapes. An object with no tag, or with more than one,
is refused. -/
theorem reads_by_tag :
    (∀ o : Outcome, read o.write = .ok o) ∧
    (∀ (o : Outcome) core extra ms s, o.Suffices core →
      (∀ m ∈ extra, m.1 ≠ tagName ∧ m.1 ≠ o.tag.field) → ms.Perm (core ++ extra) →
      Spelled .free depthLimit (.object ms) s → read s = .ok o) ∧
    ∀ ms s, ObjectText AnyText ms s → ms.countP isTag ≠ 1 → ∃ e, read s = .error e := by
  refine ⟨fun o => ?_, fun o core extra ms s => read_of_perm, fun ms s hs htags => ?_⟩
  · have hperm : o.members.Perm (o.members ++ []) := by rw [List.append_nil]
    exact read_of_perm (.inl rfl) (List.forall_mem_nil _) hperm (spelled_write o)
  · cases hread : read s with
    | error e => exact ⟨e, rfl⟩
    | ok o => exact absurd (tags_of_read hs hread) htags

/-- The members of an object whose tag stands last, behind one of some depth and one that only the
other tag asks for. -/
def tagLastMembers : List (String × Value) :=
  [("status", .string "x"), ("y", .array [.array [.number (.integer 1)]]),
    ("outcome", .string "retry")]

/-- Its text, with white space around it. -/
def tagLast : List Char :=
  ' ' :: (writeObject [("status", writeString "x"), ("y", ['[', '[', '1', ']', ']']),
    ("outcome", writeString "retry")] ++ ['\n'])

/-- The text spells these members, as is shown from the innermost value outwards. -/
theorem spelled_tagLast : Spelled .free depthLimit (.object tagLastMembers) tagLast := by
  have hone : Spells .free 124 (.value (.number (.integer 1))) ['1'] :=
    .number isSpaces_nil (@WritesNumber.integer 1 (by decide) (by decide)).free
  have hinner : Spells .free 125 (.value (.array [.number (.integer 1)])) ['[', '1', ']'] :=
    .array isSpaces_nil (spells_items (.cons hone .nil))
  have hnested : Spells .free 126 (.value (.array [.array [.number (.integer 1)]]))
      ['[', '[', '1', ']', ']'] := .array isSpaces_nil (spells_items (.cons hinner .nil))
  have hmembers : SpellsMembers .free 126 tagLastMembers [("status", writeString "x"),
      ("y", ['[', '[', '1', ']', ']']), ("outcome", writeString "retry")] :=
    .cons ⟨rfl, spells_writeString "x"⟩ (.cons ⟨rfl, hnested⟩
      (.cons ⟨rfl, spells_writeString "retry"⟩ .nil))
  have hobject := (spells_writeObject Style.free_string hmembers).spaces
    (show IsSpaces [' '] by decide)
  exact ⟨_, ['\n'], hobject, by decide, rfl⟩

/-- The same tag twice. -/
def twiceMembers : List (String × Value) :=
  [("outcome", .string "retry"), ("outcome", .string "retry")]

/-- Its text. -/
def twice : List Char :=
  writeObject [("outcome", writeString "retry"), ("outcome", writeString "retry")]

/-- It has the form of an object, which is all that the refusal asks for. -/
theorem objectText_twice : ObjectText AnyText twiceMembers twice := by
  have hstring : Spells .free 0 (.value (.string "retry")) (writeString "retry") :=
    spells_writeString "retry"
  have hmembers : SpellsMembers .free 0 twiceMembers
      [("outcome", writeString "retry"), ("outcome", writeString "retry")] :=
    .cons ⟨rfl, hstring⟩ (.cons ⟨rfl, hstring⟩ .nil)
  have hspelled : Spelled .free 1 (.object twiceMembers) twice := spelled_writeObject hmembers
  exact hspelled.objectText.mono fun _ _ _ hv => ⟨0, hv.form⟩

/-- The first instant is read as it was; a tag is heard although it stands last, and without a
deadline; with no tag, or with two, the object is refused. -/
theorem reads_tagLast :
    read (retry (some .earliest)).write = .ok (retry (some .earliest)) ∧
    read tagLast = .ok (retry none) ∧
    (∃ e, read ['\x7b', '\x7d'] = .error e) ∧ ∃ e, read twice = .error e := by
  have hempty : ObjectText AnyText [] ['\x7b', '\x7d'] :=
    ⟨[], ['\x7d'], [], isSpaces_nil, .nil isSpaces_nil, isSpaces_nil, rfl⟩
  have hperm : tagLastMembers.Perm
      ([("outcome", .string "retry")] ++ tagLastMembers.take 2) :=
    @List.perm_append_comm _ (tagLastMembers.take 2) [("outcome", .string "retry")]
  refine ⟨reads_by_tag.1 _, ?_, reads_by_tag.2.2 _ _ hempty (by decide),
    reads_by_tag.2.2 _ _ objectText_twice (by decide)⟩
  exact reads_by_tag.2.1 (retry none) _ (tagLastMembers.take 2) _ _ (.inr ⟨rfl, rfl⟩) (by decide)
    hperm spelled_tagLast

/-- A number below the limit that is rounded beyond it, in a member that no tag asks for. -/
def roundedMembers : List (String × Value) :=
  [("outcome", .string "completed"), ("status", .string "PROCESSED"),
    ("x", .number (.real "17976931348623156225e289".toList))]

/-- Its text, in which the number stands in the spelling that is refused. -/
def rounded : List Char :=
  writeObject [("outcome", writeString "completed"), ("status", writeString "PROCESSED"),
    ("x", "17976931348623156225e289".toList)]

/-- **An outcome may be refused** for a number in a member that nothing asks for. -/
theorem refuses_rounded :
    ¬ ∀ (o : Outcome) (core extra ms : List (String × Value)) (s : List Char), o.Suffices core →
      (∀ m ∈ extra, m.1 ≠ tagName ∧ m.1 ≠ o.tag.field) → ms.Perm (core ++ extra) →
      Spelled Envelope.exactStyle 100 (.object ms) s → read s = .ok o := by
  intro hall
  have hkeys : ∀ x : String, Envelope.exactStyle.string x (x.toList.flatMap escapeChar) :=
    Style.free_string
  have hmembers : SpellsMembers Envelope.exactStyle 99 roundedMembers
      [("outcome", writeString "completed"), ("status", writeString "PROCESSED"),
        ("x", "17976931348623156225e289".toList)] :=
    .cons ⟨rfl, .string isSpaces_nil (hkeys _)⟩ (.cons ⟨rfl, .string isSpaces_nil (hkeys _)⟩
      (.cons ⟨rfl, .number isSpaces_nil Envelope.exactStyle_rounded⟩ .nil))
  have hread := hall .processed _ [("x", .number (.real "17976931348623156225e289".toList))]
    roundedMembers rounded (.inl rfl) (by decide) (.refl _)
    ⟨_, [], spells_writeObject hkeys hmembers, isSpaces_nil, rfl⟩
  have hrefused : read rounded ≠ .ok .processed := by decide +kernel
  exact hrefused hread

end Reconciliation.Outcome
