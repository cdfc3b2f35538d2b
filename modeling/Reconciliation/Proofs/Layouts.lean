import Reconciliation.Proofs.Drafts
import Reconciliation.Proofs.RecordText
import Reconciliation.Proofs.Writing

/-!
# Records are read by name

What is read from the text of a record depends on the names of its members and on the values under
them alone, whatever order and white space they are written with, and whatever stands under other
names. An array of the values reads as the object does.

* `WorkRecord.read_eq_ok_iff`: which record is read from an object, if one is.
* `WorkRecord.objectText_of_read`: what is read as an object was the text of one.
* `WorkRecord.read_array`: an array of all values.
* `WorkRecord.reads_by_name`: what may be changed in a text, and when a record is refused.
-/

namespace Reconciliation.WorkRecord

open Json Text

variable {r : WorkRecord} {d d' : Draft} {v : Value} {first : Bool} {ms : List (String × Value)}
  {s t rest : List Char}

/-! ## Objects -/

/-- How the value of a member is spelled: as what it denotes under the name of a field, and by its
form alone where it is passed over. -/
def MemberText (name : String) (v : Value) (t : List Char) : Prop :=
  match Field.ofName? name with
  | some _ => Spells .free depthLimit (.value v) t
  | none => ∃ d, Spells .form d (.value v) t

/-- The members that are read, each for its field. A member of any other name is passed over. -/
def fieldsIn (ms : List (String × Value)) : List (Field × Value) :=
  ms.filterMap fun m => (Field.ofName? m.1).map fun f => (f, m.2)

/-- Members in another order have the same fields in another order. -/
theorem fieldsIn_perm {ns : List (String × Value)} (h : ms.Perm ns) :
    (fieldsIn ms).Perm (fieldsIn ns) :=
  h.filterMap _

/-- Members under other names are no values for fields. -/
theorem fieldsIn_append_other {extra : List (String × Value)}
    (hother : ∀ m ∈ extra, Field.ofName? m.1 = none) : fieldsIn (ms ++ extra) = fieldsIn ms := by
  have hnone : fieldsIn extra = [] := by
    refine List.filterMap_eq_nil_iff.2 fun m hm => ?_
    rw [hother m hm]
    rfl
  rw [fieldsIn, List.filterMap_append]
  change fieldsIn ms ++ fieldsIn extra = _
  rw [hnone, List.append_nil]

/-- A member with the name of a field is that field. -/
theorem fieldsIn_cons_name (f : Field) (v : Value) (ms : List (String × Value)) :
    fieldsIn ((f.name, v) :: ms) = (f, v) :: fieldsIn ms :=
  List.filterMap_cons_some (by rw [Field.ofName?_name]; rfl)

/-- The closing brace ends the members, after any white space. -/
theorem readMembers_end {ws : List Char} (hws : IsSpaces ws) (fuel : Nat) (d : Draft) :
    readMembers (fuel + 1) first d (ws ++ '\x7d' :: rest) = .ok (d, '\x7d' :: rest) := by
  rw [readMembers, nextKey_end hws]
  rfl

/-- One member is read as its field, or passed over. -/
theorem readMembers_cons {lead key ws : List Char} {k : String} (hlead : Leads first lead)
    (hkey : SpellsText k.toList key) (hws : IsSpaces ws) (fuel : Nat) (d : Draft) (s : List Char) :
    readMembers (fuel + 1) first d (lead ++ '"' :: (key ++ '"' :: (ws ++ ':' :: s))) =
      match Field.ofName? k with
      | some f =>
        if d.has f then .error (failAt .content (ws ++ ':' :: s))
        else d.readField f s >>= fun p => readMembers fuel false p.1 p.2
      | none => skipValue s >>= fun p => readMembers fuel false d p.2 := by
  rw [readMembers, nextKey_key hlead, ok_bind]
  dsimp only
  rw [hkey.stringTail (by decide), ok_bind]
  dsimp only
  cases Field.ofName? k with
  | none =>
    dsimp only
    rw [colon_spaces hws, ok_bind]
  | some f =>
    dsimp only
    rw [colon_spaces hws, ok_bind]

/-- **Members are read** as the values for their fields, whatever stands between them. -/
theorem readMembers_answers (h : SpellsEach MemberText first ms t) {fuel : Nat}
    (hfuel : ms.length < fuel) (d : Draft) (rest : List Char) :
    Answers ('\x7d' :: rest) (d.run (fieldsIn ms)) (readMembers fuel first d (t ++ rest)) := by
  induction h generalizing d fuel with
  | nil hws =>
    obtain ⟨fuel, rfl⟩ := Nat.exists_eq_add_one_of_ne_zero (Nat.ne_of_gt hfuel)
    rw [List.append_assoc, List.singleton_append, readMembers_end hws]
    exact .given
  | @cons first lead key ws t u k v ms hlead hkey hws hv hms ih =>
    obtain ⟨fuel, rfl⟩ := Nat.exists_eq_add_one_of_ne_zero (Nat.ne_of_gt (Nat.zero_lt_of_lt hfuel))
    have hlater := fun d => ih (Nat.lt_of_succ_lt_succ hfuel) d
    simp only [List.append_assoc, List.cons_append]
    rw [readMembers_cons hlead hkey hws]
    rw [MemberText] at hv
    cases hname : Field.ofName? k with
    | none =>
      -- a member of another name is passed over, so of its value only the form matters
      rw [hname] at hv
      obtain ⟨e, hv⟩ := hv
      have hskip : fieldsIn ((k, v) :: ms) = fieldsIn ms :=
        List.filterMap_cons_none (by rw [hname]; rfl)
      dsimp only
      rw [hskip, hv.skipValue hms.stops, ok_bind]
      exact hlater d
    | some f =>
      rw [hname] at hv
      have htake : fieldsIn ((k, v) :: ms) = (f, v) :: fieldsIn ms :=
        List.filterMap_cons_some (by rw [hname]; rfl)
      dsimp only
      rw [htake, Draft.run]
      split
      · exact .refused rfl
      · exact (Draft.readField_answers hv hms.stops d f).bind hlater

/-- What a reader of whole texts says of one that holds this or nothing. -/
inductive Reads : Option WorkRecord → Except Failure WorkRecord → Prop
  | given {r : WorkRecord} : Reads (some r) (.ok r)
  | refused {e : Failure} (h : e.reason.kind = .content) : Reads none (.error e)

/-- **An object is read** as the record of the values for its fields, or its content is refused. -/
theorem read_object (h : ObjectText MemberText ms s) :
    Reads (ofValues? (fieldsIn ms)) (read s) := by
  obtain ⟨ws, t, ws', hws, ht, hws', rfl⟩ := h
  have hmembers := readMembers_answers ht (ht.length_lt_enough ws') .empty ws'
  have hstart : read (ws ++ '\x7b' :: (t ++ ws')) =
      (readMembers (enough (t ++ ws')) true .empty (t ++ ws') >>= fun p => do
        let record ← finished p.1 p.2
        finish (p.2.drop 1)
        return record) := by
    rw [read, skipSpace_append hws, skipSpace_eq (by decide)]
    rfl
  rw [hstart, ofValues?]
  generalize Draft.empty.run (fieldsIn ms) = o at hmembers ⊢
  generalize readMembers (enough (t ++ ws')) true .empty (t ++ ws') = x at hmembers ⊢
  cases hmembers with
  | @given d =>
    rw [ok_bind, Option.bind_some, finished]
    cases d.record? with
    | none => exact .refused rfl
    | some r =>
      dsimp only
      rw [ok_bind, List.drop_one, List.tail_cons, finish_spaces hws']
      exact .given
  | refused h => exact .refused h

/-- **The record that is read** is the one that the values describe. -/
theorem read_eq_ok_iff (h : ObjectText MemberText ms s) :
    read s = .ok r ↔ Describes (fieldsIn ms) r := by
  have hreads := read_object h
  rw [← ofValues?_eq_some_iff]
  generalize ofValues? (fieldsIn ms) = o at hreads ⊢
  generalize read s = x at hreads ⊢
  cases hreads with
  | given => rw [Except.ok.injEq, Option.some.injEq]
  | refused h => exact iff_of_false nofun nofun

/-- A member whose value is spelled as what it denotes is in either style. -/
theorem memberText_of_spells {e : Nat} (h : Spells .free e (.value v) t) (he : e ≤ depthLimit)
    (name : String) : MemberText name v t := by
  rw [MemberText]
  split
  · exact h.deeper he
  · exact ⟨e, h.form⟩

/-- **Every text of an object** is one of its members. -/
theorem objectText_of_spelled {e : Nat} (h : Spelled .free e (.object ms) s) (he : e ≤ depthLimit) :
    ObjectText MemberText ms s := by
  cases e with
  | zero =>
    obtain ⟨t, ws, ht, -, -⟩ := h
    cases ht
  | succ e =>
    exact h.objectText.mono fun k _ _ hv => memberText_of_spells hv (Nat.le_of_succ_le he) k

/-! ### What is read -/

/-- Where a field is read, a value stands. -/
theorem scalarStands_of_readField (h : d.readField f s = .ok (d', rest)) : ScalarStands s rest := by
  cases f
  all_goals
    obtain ⟨⟨a, rest'⟩, ha, hp⟩ := ok_of_map h
    obtain ⟨-, rfl⟩ := Prod.mk.inj hp
  case id => exact scalarStands_of_readMeaning ha
  case entity => exact scalarStands_of_readInteger ha
  case eventType => exact scalarStands_of_readString ha
  case payload => exact scalarStands_of_readString ha
  case created => exact scalarStands_of_readMeaning ha
  case retryCount => exact scalarStands_of_readInteger ha
  case expiry => exact scalarStands_of_readMeaning ha
  case processed => exact scalarStands_of_readOption scalarStands_of_readMeaning ha
  case status => exact scalarStands_of_readOption scalarStands_of_readString ha

/-- What is read as members was a text of some. -/
theorem spellsEach_of_readMembers {fuel : Nat} (h : readMembers fuel first d s = .ok (d', rest)) :
    ∃ ms t rest', s = t ++ rest' ∧ SpellsEach MemberText first ms t ∧ rest = '\x7d' :: rest' := by
  induction fuel generalizing first d s with
  | zero => cases h
  | succ fuel ih =>
    rw [readMembers] at h
    obtain ⟨⟨more, r⟩, hnext, hgo⟩ := ok_of_bind h
    obtain ⟨rfl, ws, rest', hws, rfl, rfl⟩ | ⟨rfl, lead, hlead, rfl⟩ := leads_of_nextKey hnext
    · obtain ⟨rfl, rfl⟩ := Prod.mk.inj (Except.ok.inj hgo)
      exact ⟨[], ws ++ ['\x7d'], rest', by simp, .nil hws, rfl⟩
    · obtain ⟨⟨k, s₁⟩, hk, hmembers⟩ := ok_of_bind hgo
      obtain ⟨key, rfl, -, hkey⟩ := spellsText_of_stringTail hk
      -- a member of a field has a scalar, any other member has the form of one
      have hmember : ∃ s₂ v t s₃ d₁, colon s₁ = .ok ((), s₂) ∧ s₂ = t ++ s₃ ∧ MemberText k v t ∧
          readMembers fuel false d₁ s₃ = .ok (d', rest) := by
        dsimp only at hmembers
        split at hmembers
        · rename_i f hname
          split_ifs at hmembers
          obtain ⟨⟨_, s₂⟩, hcolon, hmembers⟩ := ok_of_bind hmembers
          obtain ⟨⟨d₁, s₃⟩, hread, hlater⟩ := ok_of_bind hmembers
          obtain ⟨v, t, rfl, ht⟩ := scalarStands_of_readField hread
          exact ⟨_, v, t, s₃, d₁, hcolon, rfl, memberText_of_spells ht (Nat.zero_le _) k, hlater⟩
        · rename_i hname
          obtain ⟨⟨_, s₂⟩, hcolon, hmembers⟩ := ok_of_bind hmembers
          obtain ⟨⟨_, s₃⟩, hskip, hlater⟩ := ok_of_bind hmembers
          obtain ⟨v, e, t, rfl, ht⟩ := stands_of_skipValue hskip
          refine ⟨_, v, t, s₃, d, hcolon, rfl, ?_, hlater⟩
          rw [MemberText, hname]
          exact ⟨e, ht⟩
      obtain ⟨s₂, v, t, s₃, d₁, hcolon, rfl, hv, hlater⟩ := hmember
      obtain ⟨ws, hws, rfl⟩ := spaces_of_colon hcolon
      obtain ⟨ms, u, rest', rfl, hms, rfl⟩ := ih hlater
      exact ⟨(k, v) :: ms, lead ++ '"' :: (key ++ '"' :: (ws ++ ':' :: (t ++ u))), rest', by simp,
        .cons hlead (hkey (by decide)) hws hv hms, rfl⟩

/-- **What is read as a record, and begins like an object**, is a text of its members. -/
theorem objectText_of_read (h : read s = .ok r) (hs : (skipSpace s).head? = some '\x7b') :
    ∃ ms, ObjectText MemberText ms s := by
  obtain ⟨body, hbody⟩ := List.head?_eq_some_iff.1 hs
  obtain ⟨ws, hws, rfl⟩ := spaces_of_skipSpace hbody
  rw [read, hbody] at h
  obtain ⟨⟨d, s₁⟩, hmembers, h⟩ := ok_of_bind h
  obtain ⟨record, -, h⟩ := ok_of_bind h
  obtain ⟨_, hfinish, -⟩ := ok_of_bind h
  obtain ⟨ms, t, ws', rfl, hms, rfl⟩ := spellsEach_of_readMembers hmembers
  exact ⟨ms, ws, t, ws', hws, hms, spaces_of_finish hfinish, rfl⟩

/-! ## Arrays -/

variable {e : Nat} {fields : List Field} {vs : List Value}

/-- **Items are read** as the values for the fields in their order. -/
theorem readItems_ok (h : Spells .free e (.items first vs) t) (he : e ≤ depthLimit)
    (hlength : fields.length = vs.length) (hrun : d.run (fields.zip vs) = some d')
    (rest : List Char) : ∃ ws, IsSpaces ws ∧
      readItems first d fields (t ++ rest) = .ok (d', ws ++ ']' :: rest) := by
  induction fields generalizing first vs t d with
  | nil =>
    obtain rfl := List.length_eq_zero_iff.1 hlength.symm
    obtain rfl := Option.some.inj hrun
    cases h with
    | noItem hws => exact ⟨_, hws, by rw [List.append_assoc]; rfl⟩
  | cons f fs ih =>
    cases h with
    | noItem => cases hlength
    | @item _ _ lead t u v vs hlead hv hvs =>
      obtain ⟨ws, c, r, rfl, hws, hbegins, hspells⟩ := hv.begins
      have hread := Draft.readField_answers (hspells.deeper he)
        (hvs.stops_items : Stops continuesNumber (u ++ rest)) d f
      have hnext : nextItem first (lead ++ ((ws ++ c :: r) ++ u) ++ rest) =
          .ok (true, c :: r ++ (u ++ rest)) := by
        have hleads := @nextItem_item c (r ++ (u ++ rest)) first (lead ++ ws) (hlead.append hws)
          hbegins.visible hbegins.opens
        simpa using hleads
      rw [readItems, hnext, ok_bind]
      dsimp only
      rw [List.zip_cons_cons, Draft.run] at hrun
      split_ifs at hrun with hhas
      obtain ⟨d₁, hput, hrun⟩ := Option.bind_eq_some_iff.1 hrun
      rw [hread.eq_ok hput]
      exact ih hvs (Nat.succ.inj hlength) hrun

/-- **An array of all values** is read as the record that they describe. -/
theorem read_array (h : Spelled .free e (.array vs) s) (he : e ≤ depthLimit)
    (hlength : vs.length = Field.all.length) (hvalues : Describes (Field.all.zip vs) r) :
    read s = .ok r := by
  obtain ⟨d, hrun, hrecord⟩ := Option.bind_eq_some_iff.1 (ofValues?_eq_some_iff.2 hvalues)
  obtain ⟨t, ws', ht, hws', rfl⟩ := h
  cases ht with
  | @array e ws t _ hws ht =>
    obtain ⟨us, hus, hitems⟩ := readItems_ok ht (Nat.le_of_succ_le he) hlength.symm hrun ws'
    have hclose : closeArray (us ++ ']' :: ws') = .ok ws' := by
      rw [closeArray, skipSpace_append hus, skipSpace_eq (by decide)]
      rfl
    have hstart : read (ws ++ '[' :: t ++ ws') =
        (readItems true .empty Field.all (t ++ ws') >>= fun p => do
          let record ← finished p.1 p.2
          let s ← closeArray p.2
          finish s
          return record) := by
      rw [read, List.append_assoc, skipSpace_append hws, List.cons_append,
        skipSpace_eq (by decide)]
      rfl
    rw [hstart, hitems, ok_bind, finished, hrecord]
    dsimp only
    rw [ok_bind, hclose, ok_bind, finish_spaces hws']
    rfl

/-! ## Written records -/

/-- The value of a field as it is written. -/
def value (r : WorkRecord) : Field → Value
  | .id => .string r.id.text
  | .entity => .number (.integer r.entity.val)
  | .eventType => .string r.eventType.name
  | .payload => .string r.payload
  | .created => .string r.created.text
  | .retryCount => .number (.integer r.retryCount.toNat)
  | .expiry => .string r.expiry.text
  | .processed => (r.processed.map fun t => Value.string t.text).getD .null
  | .status => (r.status.map Value.string).getD .null

/-- A field is spelled as it is written. -/
theorem spells_writeField (r : WorkRecord) (f : Field) :
    Spells .free 0 (.value (r.value f)) (r.writeField f) := by
  have hstring : ∀ x : String, Spells .free 0 (.value (.string x)) (writeString x) :=
    spells_writeString
  have hinteger : ∀ n : Int, -9223372036854775808 ≤ n → n ≤ 18446744073709551615 →
      Spells .free 0 (.value (.number (.integer n))) (decimal n) := fun n hleast hgreatest =>
    .number isSpaces_nil (WritesNumber.integer hleast hgreatest).free
  have hnull : Spells .free 0 (.value .null) ['n', 'u', 'l', 'l'] := .null isSpaces_nil
  cases f with
  | id => exact hstring _
  | entity =>
    exact hinteger _ r.entity.least_le (Int.le_trans r.entity.le_greatest (by decide))
  | eventType => exact hstring _
  | payload => exact hstring _
  | created => exact hstring _
  | retryCount =>
    have hlt := r.retryCount.toNat_lt
    exact hinteger _ (by omega) (by omega)
  | expiry => exact hstring _
  | processed =>
    rw [value, writeField]
    cases r.processed with
    | none => exact hnull
    | some t => exact hstring t.text
  | status =>
    rw [value, writeField]
    cases r.status with
    | none => exact hnull
    | some x => exact hstring x

/-- Some fields of a record as members, and the texts of these. -/
def valuesOf (r : WorkRecord) (fs : List Field) : List (String × Value) :=
  fs.map fun f => (f.name, r.value f)

/-- Some fields of a record with the texts of their values. -/
def textsOf (r : WorkRecord) (fs : List Field) : List (String × List Char) :=
  fs.map fun f => (f.name, r.writeField f)

/-- These texts spell the values. -/
theorem spellsMembers_textsOf (d : Nat) (r : WorkRecord) (fs : List Field) :
    SpellsMembers .free d (r.valuesOf fs) (r.textsOf fs) :=
  List.forall₂_map_left_iff.2 (List.forall₂_map_right_iff.2
    (List.forall₂_same.2 fun f _ => ⟨rfl, (spells_writeField r f).deeper (Nat.zero_le d)⟩))

/-- The fields in these members are the fields they were made of. -/
theorem fieldsIn_valuesOf (r : WorkRecord) (fs : List Field) :
    fieldsIn (r.valuesOf fs) = fs.map fun f => (f, r.value f) := by
  induction fs with
  | nil => rfl
  | cons f fs ih =>
    change fieldsIn ((f.name, r.value f) :: r.valuesOf fs) = _
    rw [fieldsIn_cons_name, ih, List.map_cons]

/-! ## Layouts -/

/-- **A record is read by the names of its members.** What reads as a record, and begins like an
object, is a text of some members. Of the same members in another order, with white space and
escapes of its own, and with others whose names are of no field, every text reads as the same
record; so does an array of the values in the order of the fields. Under the name of a field null is
as good as nothing. And where all values mean something for their fields the content is refused only
if a field comes twice or one that is needed is missing. -/
theorem reads_by_name :
    (∀ s r, read s = .ok r → (skipSpace s).head? = some '\x7b' →
      ∃ ms, ObjectText MemberText ms s) ∧
    ∀ ms s, ObjectText MemberText ms s →
      (∀ r, read s = .ok r →
        (∀ extra ms' s', (∀ m ∈ extra, Field.ofName? m.1 = none) → ms'.Perm (ms ++ extra) →
          ObjectText MemberText ms' s' → read s' = .ok r) ∧
        ∀ vs s', vs.length = Field.all.length →
          (∀ f v, (f, v) ∈ Field.all.zip vs →
            (f, v) ∈ fieldsIn ms ∨ f ∉ (fieldsIn ms).map Prod.fst ∧ v = .null) →
          Spelled .free depthLimit (.array vs) s' → read s' = .ok r) ∧
      (∀ f ms' s' r, f ∉ (fieldsIn ms).map Prod.fst → ms'.Perm ((f.name, .null) :: ms) →
        ObjectText MemberText ms' s' → (read s' = .ok r ↔ read s = .ok r)) ∧
      ((∀ f v, (f, v) ∈ fieldsIn ms → ∃ r, f.Gives r v) →
        ((∃ e, read s = .error e ∧ e.reason.kind = .content) ↔
          ¬ ((fieldsIn ms).map Prod.fst).Nodup ∨
            ∃ f : Field, ¬ f.Optional ∧ f ∉ (fieldsIn ms).map Prod.fst) ∧
        ((∃ r, read s = .ok r) ↔ ¬ ∃ e, read s = .error e ∧ e.reason.kind = .content)) := by
  refine ⟨fun s r => objectText_of_read,
    fun ms s hs => ⟨fun r hr => ⟨?_, ?_⟩, ?_, fun hgives => ?_⟩⟩
  · -- the other names are of no field, so the fields are the same up to their order
    intro extra ms' s' hother hperm hs'
    have hfields := fieldsIn_perm hperm
    rw [fieldsIn_append_other hother] at hfields
    exact (read_eq_ok_iff hs').2 (((read_eq_ok_iff hs).1 hr).perm hfields.symm)
  · intro vs s' hlength hvs hs'
    exact read_array hs' (Nat.le_refl _) hlength (((read_eq_ok_iff hs).1 hr).zip hlength hvs)
  · intro f ms' s' r hf hperm hs'
    have hfields := fieldsIn_perm hperm
    rw [fieldsIn_cons_name] at hfields
    rw [read_eq_ok_iff hs', read_eq_ok_iff hs, ← describes_null_iff hf]
    exact ⟨fun h => h.perm hfields, fun h => h.perm hfields.symm⟩
  · -- such an object is refused for its content or else it is read; there is no third answer
    have hrefused :
        (∃ e, read s = .error e ∧ e.reason.kind = .content) ↔ ¬ ∃ r, read s = .ok r := by
      have hreads := read_object hs
      generalize ofValues? (fieldsIn ms) = o at hreads
      generalize read s = x at hreads ⊢
      cases hreads with
      | given => exact iff_of_false nofun (not_not_intro ⟨_, rfl⟩)
      | refused h =>
        refine iff_of_true ⟨_, rfl, h⟩ ?_
        rintro ⟨r, hr⟩
        cases hr
    have hdescribes : (∃ r, read s = .ok r) ↔ ∃ r, Describes (fieldsIn ms) r :=
      exists_congr fun r => read_eq_ok_iff hs
    refine ⟨?_, by rw [hrefused, not_not]⟩
    rw [hrefused, hdescribes, exists_describes_iff hgives, not_and_or]
    simp only [not_forall, exists_prop]

/-- A value of some depth, and a text of it. -/
def sampleNested : Value := .array [.object [("id", .null)]]

/-- The text of this value, an object in an array. -/
def sampleNestedText : List Char := "[\x7b\"id\":null\x7d]".toList

/-- It spells the value, two levels deep. -/
theorem spells_sampleNested : Spells .free 2 (.value sampleNested) sampleNestedText := by
  have hobject : Spells .free 1 (.value (.object [("id", .null)]))
      (writeObject [("id", ['n', 'u', 'l', 'l'])]) :=
    spells_writeObject Style.free_string (.cons ⟨rfl, .null isSpaces_nil⟩ .nil)
  exact .array isSpaces_nil (spells_items (.cons hobject .nil))

/-- The fields of a record from the last to the first, behind a member of another name, with white
space around them. -/
def sampleLayout : List Char :=
  ' ' :: (writeObject (("x", sampleNestedText) :: extremeRecord.textsOf Field.all.reverse) ++
    ['\n'])

/-- A record behind a foreign member, with its fields in reverse order. -/
theorem objectText_sampleLayout : ObjectText MemberText
    (("x", sampleNested) :: extremeRecord.valuesOf Field.all.reverse) sampleLayout := by
  have hmembers : SpellsMembers .free 2
      (("x", sampleNested) :: extremeRecord.valuesOf Field.all.reverse)
      (("x", sampleNestedText) :: extremeRecord.textsOf Field.all.reverse) :=
    .cons ⟨rfl, spells_sampleNested⟩ (spellsMembers_textsOf 2 extremeRecord _)
  have hobject := (spells_writeObject Style.free_string hmembers).spaces
    (show IsSpaces [' '] by decide)
  exact objectText_of_spelled ⟨_, ['\n'], hobject, by decide, rfl⟩ (by decide)

/-- The values of a record in the order of the fields. -/
def sampleArray : List Char :=
  '[' :: (((Field.all.map extremeRecord.writeField).intersperse [',']).flatten ++ [']'])

/-- A record in the form of an array. -/
theorem spelled_sampleArray :
    Spelled .free depthLimit (.array (Field.all.map extremeRecord.value)) sampleArray := by
  have hitems : List.Forall₂ (fun v u => Spells .free 126 (.value v) u)
      (Field.all.map extremeRecord.value) (Field.all.map extremeRecord.writeField) :=
    List.forall₂_map_left_iff.2 (List.forall₂_map_right_iff.2 (List.forall₂_same.2 fun f _ =>
      (spells_writeField extremeRecord f).deeper (Nat.zero_le 126)))
  exact ⟨_, [], .array isSpaces_nil (spells_items hitems), isSpaces_nil, (List.append_nil _).symm⟩

/-- Fields that are written one after another are the text of an object. -/
theorem objectText_textsOf (r : WorkRecord) (fs : List Field) :
    ObjectText MemberText (r.valuesOf fs) (writeObject (r.textsOf fs)) :=
  objectText_of_spelled (spelled_writeObject (spellsMembers_textsOf 0 r fs)) (by decide)

/-- A record reads the same from its fields backwards, from an array, and without the null in it.
With its identifier twice the content is refused. -/
theorem reads_sampleLayouts :
    read extremeRecord.write = .ok extremeRecord ∧
    read sampleLayout = .ok extremeRecord ∧
    read sampleArray = .ok extremeRecord ∧
    read (writeObject (extremeRecord.textsOf Field.all.dropLast)) = .ok extremeRecord ∧
    ∃ e, read (writeObject (extremeRecord.textsOf (.id :: Field.all))) = .error e ∧
      e.reason.kind = .content := by
  have htext := objectText_textsOf extremeRecord
  have hread : read extremeRecord.write = .ok extremeRecord := read_write extremeRecord
  have hdescribes := (read_eq_ok_iff (htext Field.all)).1 hread
  have hsame := (reads_by_name.2 _ _ (htext Field.all)).1 _ hread
  have hnull := (reads_by_name.2 _ _ (htext Field.all.dropLast)).2.1 .status
  have htwice := (reads_by_name.2 _ _ (htext (.id :: Field.all))).2.2
  rw [fieldsIn_valuesOf] at hsame hnull htwice hdescribes
  refine ⟨hread, ?_, ?_, ?_, (htwice ?_).1.2 (.inl (by decide))⟩
  · refine hsame.1 [("x", sampleNested)] _ _ (by decide) ?_ objectText_sampleLayout
    exact (List.perm_append_singleton _ _).symm.trans
      (((List.reverse_perm Field.all).map _).append_right _)
  · exact hsame.2 (Field.all.map extremeRecord.value) _ rfl (fun f v hv => .inl hv)
      spelled_sampleArray
  · refine (hnull (extremeRecord.valuesOf Field.all) _ _ (by decide) ?_ (htext Field.all)).1 hread
    exact List.perm_append_singleton (Field.status.name, Value.null)
      (extremeRecord.valuesOf Field.all.dropLast)
  · intro f v hv
    refine ⟨extremeRecord, hdescribes.gives f v ?_⟩
    obtain ⟨g, hg, heq⟩ := List.mem_map.1 hv
    exact List.mem_map.2 ⟨g, by cases g <;> decide, heq⟩

end Reconciliation.WorkRecord
