import Reconciliation.Proofs.Members
import Reconciliation.Record.Json

/-!
# Records from the values of their fields

The reader of a record goes from left to right and puts each value into a draft as it comes, and the
draft gives a record if it holds all that is needed. What comes out depends on the values alone:
each field is given once, or left out and null (`WorkRecord.Describes`). So their order does not
count.

* `WorkRecord.Draft.readField_answers`: the reader of one field, by the value that is spelled.
* `WorkRecord.Draft.run`: a draft after values for fields, one by one.
* `WorkRecord.ofValues?_eq_some_iff`: which record values describe, if they do.
-/

namespace Reconciliation.WorkRecord

open Json Text

variable {r : WorkRecord} {d d' : Draft} {f g : Field} {v : Value} {kvs : List (Field × Value)}
  {t rest : List Char}

/-! ## Values of fields -/

/-- The value gives the record its field. Null is a value for the fields that may be left out, and
for no other. -/
def Field.Gives (r : WorkRecord) (v : Value) : Field → Prop
  | .id => v.string?.bind RecordId.ofText? = some r.id
  | .entity => v.integer?.bind EntityId.of? = some r.entity
  | .eventType => v.string?.map EventType.parse = some r.eventType
  | .payload => v.string? = some r.payload
  | .created => v.string?.bind Instant.ofText? = some r.created
  | .retryCount => v.integer?.bind count? = some r.retryCount
  | .expiry => v.string?.bind Instant.ofText? = some r.expiry
  | .processed => (v.orNull? fun v => v.string?.bind Instant.ofText?) = some r.processed
  | .status => v.orNull? Value.string? = some r.status

/-- A field that may be left out. -/
def Field.Optional (f : Field) : Prop := f = .processed ∨ f = .status

instance (f : Field) : Decidable f.Optional := inferInstanceAs (Decidable (_ ∨ _))

/-- Null gives a record no field that it needs. -/
theorem Field.not_gives_null (h : ¬ f.Optional) (r : WorkRecord) : ¬ f.Gives r .null := by
  cases f <;> first | exact absurd (by decide) h | nofun

namespace Draft

/-- The draft with the value of one more field, if the value means anything there. -/
def put? (d : Draft) (v : Value) : Field → Option Draft
  | .id => (v.string?.bind RecordId.ofText?).map fun a => { d with id := some a }
  | .entity => (v.integer?.bind EntityId.of?).map fun a => { d with entity := some a }
  | .eventType => v.string?.map fun a => { d with eventType := some (EventType.parse a) }
  | .payload => v.string?.map fun a => { d with payload := some a }
  | .created => (v.string?.bind Instant.ofText?).map fun a => { d with created := some a }
  | .retryCount => (v.integer?.bind count?).map fun a => { d with retryCount := some a }
  | .expiry => (v.string?.bind Instant.ofText?).map fun a => { d with expiry := some a }
  | .processed =>
    (v.orNull? fun v => v.string?.bind Instant.ofText?).map fun a => { d with processed := some a }
  | .status => (v.orNull? Value.string?).map fun a => { d with status := some a }

/-- **The reader of a field** puts the value into the draft that is spelled. -/
theorem readField_answers (h : Spells .free depthLimit (.value v) t)
    (hrest : Stops continuesNumber rest) (d : Draft) (f : Field) :
    Answers rest (d.put? v f) (d.readField f (t ++ rest)) := by
  have hle := Nat.le_refl depthLimit
  cases f with
  | id => exact (readMeaning_answers h hle hrest).map _
  | entity => exact (readInteger_answers h hle hrest).map _
  | eventType => exact (readString_answers h hle hrest).map _
  | payload => exact (readString_answers h hle hrest).map _
  | created => exact (readMeaning_answers h hle hrest).map _
  | retryCount => exact (readInteger_answers h hle hrest).map _
  | expiry => exact (readMeaning_answers h hle hrest).map _
  | processed =>
    exact (readOption_answers h hle hrest fun t ht => readMeaning_answers ht hle hrest).map _
  | status =>
    exact (readOption_answers h hle hrest fun t ht => readString_answers ht hle hrest).map _

/-- What is in the draft under a field is the record's. -/
def Holds (d : Draft) (r : WorkRecord) : Field → Prop
  | .id => d.id = some r.id
  | .entity => d.entity = some r.entity
  | .eventType => d.eventType = some r.eventType
  | .payload => d.payload = some r.payload
  | .created => d.created = some r.created
  | .retryCount => d.retryCount = some r.retryCount
  | .expiry => d.expiry = some r.expiry
  | .processed => d.processed = some r.processed
  | .status => d.status = some r.status

/-- The draft has got the value of a field, and is otherwise as it was. -/
structure Gets (d : Draft) (f : Field) (v : Value) (d' : Draft) : Prop where
  has : d'.has f = true
  holds : ∀ r, d'.Holds r f ↔ f.Gives r v
  others : ∀ g, g ≠ f → d'.has g = d.has g ∧ ∀ r, d'.Holds r g ↔ d.Holds r g

/-- A value that a draft takes is put under its field. -/
theorem put?_gets (h : d.put? v f = some d') : d.Gets f v d' := by
  cases f <;>
  · obtain ⟨a, ha, rfl⟩ := Option.map_eq_some_iff.1 h
    refine ⟨rfl, fun r => ?_, fun g hg => ?_⟩
    · simp only [Field.Gives, ha]
      exact Iff.rfl
    · cases g <;> first | exact absurd rfl hg | exact ⟨rfl, fun _ => Iff.rfl⟩

/-- A value that a draft refuses is the value of no record. -/
theorem put?_none (h : d.put? v f = none) (r : WorkRecord) : ¬ f.Gives r v := by
  cases f <;>
  · have hnone := Option.map_eq_none_iff.1 h
    simp [Field.Gives, hnone]

/-- What is left out is null. -/
theorem getD_none_eq_iff {α : Type} {o : Option (Option α)} {a : Option α} :
    o.getD none = a ↔ o = some a ∨ o.isSome = false ∧ some none = some a := by
  cases o with
  | none => simp
  | some b => simp

/-- **The record of a draft** has in each field what the draft holds, or null where that may be. -/
theorem record?_eq_some_iff :
    d.record? = some r ↔ ∀ f, d.Holds r f ∨ d.has f = false ∧ f.Gives r .null := by
  constructor
  · intro h f
    simp only [record?, Option.bind_eq_bind, Option.bind_eq_some_iff] at h
    obtain ⟨id, hid, entity, hentity, eventType, heventType, payload, hpayload, created, hcreated,
      retryCount, hretryCount, expiry, hexpiry, h⟩ := h
    obtain rfl := Option.some.inj h
    cases f with
    | id => exact .inl hid
    | entity => exact .inl hentity
    | eventType => exact .inl heventType
    | payload => exact .inl hpayload
    | created => exact .inl hcreated
    | retryCount => exact .inl hretryCount
    | expiry => exact .inl hexpiry
    | processed => exact getD_none_eq_iff.1 rfl
    | status => exact getD_none_eq_iff.1 rfl
  · intro h
    -- a field that cannot be null holds a value
    have hneeded : ∀ f : Field, ¬ f.Optional → d.Holds r f :=
      fun f hf => (h f).resolve_right fun hnull => f.not_gives_null hf r hnull.2
    have hid : d.id = some r.id := hneeded .id (by decide)
    have hentity : d.entity = some r.entity := hneeded .entity (by decide)
    have heventType : d.eventType = some r.eventType := hneeded .eventType (by decide)
    have hpayload : d.payload = some r.payload := hneeded .payload (by decide)
    have hcreated : d.created = some r.created := hneeded .created (by decide)
    have hretryCount : d.retryCount = some r.retryCount := hneeded .retryCount (by decide)
    have hexpiry : d.expiry = some r.expiry := hneeded .expiry (by decide)
    have hprocessed : d.processed.getD none = r.processed := getD_none_eq_iff.2 (h .processed)
    have hstatus : d.status.getD none = r.status := getD_none_eq_iff.2 (h .status)
    rw [record?, hid, hentity, heventType, hpayload, hcreated, hretryCount, hexpiry, hprocessed,
      hstatus]
    rfl

/-! ## Drafts after members -/

/-- The draft after values for fields: none if a field comes twice, or a value means nothing. -/
def run (d : Draft) : List (Field × Value) → Option Draft
  | [] => some d
  | (f, v) :: kvs => if d.has f then none else (d.put? v f).bind (run · kvs)

/-- The draft has got the values of different fields that it did not have. -/
structure Collects (d : Draft) (kvs : List (Field × Value)) (d' : Draft) : Prop where
  distinct : (kvs.map Prod.fst).Nodup
  fresh : ∀ f ∈ kvs.map Prod.fst, d.has f = false
  given : ∀ f v, (f, v) ∈ kvs → d'.has f = true ∧ ∀ r, d'.Holds r f ↔ f.Gives r v
  others : ∀ f, f ∉ kvs.map Prod.fst → d'.has f = d.has f ∧ ∀ r, d'.Holds r f ↔ d.Holds r f

/-- One more value in front. -/
theorem Gets.collects {d₁ : Draft} (h : d.Gets f v d₁) (hnew : d.has f = false)
    (hcollects : d₁.Collects kvs d') : d.Collects ((f, v) :: kvs) d' := by
  have hf : f ∉ kvs.map Prod.fst := fun hmem =>
    Bool.false_ne_true ((hcollects.fresh f hmem).symm.trans h.has)
  refine ⟨List.nodup_cons.2 ⟨hf, hcollects.distinct⟩, ?_, ?_, ?_⟩
  · intro g hg
    obtain rfl | hlater := List.mem_cons.1 hg
    · exact hnew
    · rw [← (h.others g fun heq => hf (heq ▸ hlater)).1]
      exact hcollects.fresh g hlater
  · intro g w hg
    obtain heq | hg := List.mem_cons.1 hg
    · obtain ⟨rfl, rfl⟩ := Prod.mk.inj heq
      obtain ⟨hhas, hholds⟩ := hcollects.others g hf
      exact ⟨hhas.trans h.has, fun r => (hholds r).trans (h.holds r)⟩
    · exact hcollects.given g w hg
  · intro g hg
    obtain ⟨hne, hg⟩ := not_or.1 (mt List.mem_cons.2 hg)
    obtain ⟨hhas, hholds⟩ := hcollects.others g hg
    obtain ⟨hhas', hholds'⟩ := h.others g hne
    exact ⟨hhas.trans hhas', fun r => (hholds r).trans (hholds' r)⟩

/-- **A run that succeeds** has collected the values. -/
theorem run_collects (h : d.run kvs = some d') : d.Collects kvs d' := by
  induction kvs generalizing d with
  | nil =>
    obtain rfl := Option.some.inj h
    exact ⟨List.nodup_nil, nofun, nofun, fun _ _ => ⟨rfl, fun _ => Iff.rfl⟩⟩
  | cons kv kvs ih =>
    obtain ⟨f, v⟩ := kv
    rw [run] at h
    split_ifs at h with hhas
    obtain ⟨d₁, hput, hrun⟩ := Option.bind_eq_some_iff.1 h
    exact (put?_gets hput).collects (Bool.eq_false_iff.2 hhas) (ih hrun)

/-- **A run succeeds** with values that mean something for different fields. -/
theorem run_succeeds (hdistinct : (kvs.map Prod.fst).Nodup)
    (hnew : ∀ f ∈ kvs.map Prod.fst, d.has f = false)
    (hgives : ∀ f v, (f, v) ∈ kvs → ∃ r, f.Gives r v) : ∃ d', d.run kvs = some d' := by
  induction kvs generalizing d with
  | nil => exact ⟨d, rfl⟩
  | cons kv kvs ih =>
    obtain ⟨f, v⟩ := kv
    obtain ⟨hf, hdistinct⟩ := List.nodup_cons.1 hdistinct
    obtain ⟨r, hr⟩ := hgives f v List.mem_cons_self
    obtain ⟨d₁, hput⟩ := Option.ne_none_iff_exists'.1 fun hnone => put?_none hnone r hr
    have hlater : ∀ g ∈ kvs.map Prod.fst, d₁.has g = false := by
      intro g hg
      rw [((put?_gets hput).others g fun heq => hf (heq ▸ hg)).1]
      exact hnew g (List.mem_cons_of_mem _ hg)
    obtain ⟨d', hrun⟩ := ih hdistinct hlater fun g w hg => hgives g w (List.mem_cons_of_mem _ hg)
    have hhas : ¬ d.has f = true := Bool.eq_false_iff.1 (hnew f List.mem_cons_self)
    refine ⟨d', ?_⟩
    rw [run, if_neg hhas, hput]
    exact hrun

/-- A draft with all that is needed has a record. -/
theorem exists_record (h : ∀ f : Field, ¬ f.Optional → d.has f = true) :
    ∃ r, d.record? = some r := by
  obtain ⟨id, hid⟩ := Option.isSome_iff_exists.1 (h .id (by decide))
  obtain ⟨entity, hentity⟩ := Option.isSome_iff_exists.1 (h .entity (by decide))
  obtain ⟨eventType, heventType⟩ := Option.isSome_iff_exists.1 (h .eventType (by decide))
  obtain ⟨payload, hpayload⟩ := Option.isSome_iff_exists.1 (h .payload (by decide))
  obtain ⟨created, hcreated⟩ := Option.isSome_iff_exists.1 (h .created (by decide))
  obtain ⟨retryCount, hretryCount⟩ := Option.isSome_iff_exists.1 (h .retryCount (by decide))
  obtain ⟨expiry, hexpiry⟩ := Option.isSome_iff_exists.1 (h .expiry (by decide))
  rw [record?, hid, hentity, heventType, hpayload, hcreated, hretryCount, hexpiry]
  exact ⟨_, rfl⟩

/-- An empty draft has no field yet. -/
theorem has_empty (f : Field) : empty.has f = false := by
  cases f <;> rfl

/-- So it holds nothing of any record. -/
theorem not_holds_empty (r : WorkRecord) (f : Field) : ¬ empty.Holds r f := by
  cases f <;> nofun

end Draft

/-- The values describe the record: no field comes twice, each value gives the record its field, and
what is left out is null. -/
structure Describes (kvs : List (Field × Value)) (r : WorkRecord) : Prop where
  distinct : (kvs.map Prod.fst).Nodup
  gives : ∀ f v, (f, v) ∈ kvs → f.Gives r v
  lacks : ∀ f, f ∉ kvs.map Prod.fst → f.Gives r .null

/-- The record of values for fields, if they describe one. -/
def ofValues? (kvs : List (Field × Value)) : Option WorkRecord :=
  (Draft.empty.run kvs).bind Draft.record?

/-- **A record is made of values** exactly if they describe it. -/
theorem ofValues?_eq_some_iff : ofValues? kvs = some r ↔ Describes kvs r := by
  constructor
  · intro h
    obtain ⟨d, hrun, hrecord⟩ := Option.bind_eq_some_iff.1 h
    have hcollects := Draft.run_collects hrun
    have hfields := Draft.record?_eq_some_iff.1 hrecord
    refine ⟨hcollects.distinct, fun f v hv => ?_, fun f hf => ?_⟩
    · obtain ⟨hhas, hholds⟩ := hcollects.given f v hv
      refine (hholds r).1 ((hfields f).resolve_right fun hnull => ?_)
      exact Bool.false_ne_true (hnull.1.symm.trans hhas)
    · refine ((hfields f).resolve_left fun hheld => ?_).2
      exact Draft.not_holds_empty r f (((hcollects.others f hf).2 r).1 hheld)
  · intro h
    obtain ⟨d, hrun⟩ := Draft.run_succeeds h.distinct (fun f _ => Draft.has_empty f)
      fun f v hv => ⟨r, h.gives f v hv⟩
    have hcollects := Draft.run_collects hrun
    have hrecord : d.record? = some r := by
      refine Draft.record?_eq_some_iff.2 fun f => ?_
      -- a field that was given holds its value, and any other is still as in the empty draft
      by_cases hf : f ∈ kvs.map Prod.fst
      · obtain ⟨⟨_, v⟩, hv, rfl⟩ := List.mem_map.1 hf
        exact .inl (((hcollects.given _ v hv).2 r).2 (h.gives _ v hv))
      · exact .inr ⟨(hcollects.others f hf).1.trans (Draft.has_empty f), h.lacks f hf⟩
    rw [ofValues?, hrun]
    exact hrecord

/-- **Values describe a record** if each means something for its field, no field comes twice and
none that is needed is missing. -/
theorem exists_describes_iff (hgives : ∀ f v, (f, v) ∈ kvs → ∃ r, f.Gives r v) :
    (∃ r, Describes kvs r) ↔
      (kvs.map Prod.fst).Nodup ∧ ∀ f : Field, ¬ f.Optional → f ∈ kvs.map Prod.fst := by
  constructor
  · rintro ⟨r, h⟩
    refine ⟨h.distinct, fun f hf => ?_⟩
    by_contra hlacks
    exact f.not_gives_null hf r (h.lacks f hlacks)
  · rintro ⟨hdistinct, hneeded⟩
    obtain ⟨d, hrun⟩ := Draft.run_succeeds hdistinct (fun f _ => Draft.has_empty f) hgives
    have hcollects := Draft.run_collects hrun
    have hhas : ∀ f : Field, ¬ f.Optional → d.has f = true := by
      intro f hf
      obtain ⟨⟨_, v⟩, hv, rfl⟩ := List.mem_map.1 (hneeded f hf)
      exact (hcollects.given _ v hv).1
    obtain ⟨r, hrecord⟩ := Draft.exists_record hhas
    refine ⟨r, ofValues?_eq_some_iff.1 ?_⟩
    rw [ofValues?, hrun]
    exact hrecord

/-! ### The order and what is left out -/

/-- Fields describe the same record in any order. -/
theorem Describes.perm {kvs' : List (Field × Value)} (h : Describes kvs r) (hperm : kvs.Perm kvs') :
    Describes kvs' r := by
  refine ⟨(hperm.map Prod.fst).nodup_iff.1 h.distinct, fun f v hv => ?_, fun f hf => ?_⟩
  · exact h.gives f v (hperm.mem_iff.2 hv)
  · exact h.lacks f (mt (hperm.map Prod.fst).mem_iff.1 hf)

/-- What is left out is as good as null. -/
theorem describes_null_iff (hf : f ∉ kvs.map Prod.fst) :
    Describes ((f, .null) :: kvs) r ↔ Describes kvs r := by
  constructor
  · intro h
    refine ⟨(List.nodup_cons.1 h.distinct).2, fun g v hv => ?_, fun g hg => ?_⟩
    · exact h.gives g v (List.mem_cons_of_mem _ hv)
    · by_cases hgf : g = f
      · subst hgf
        exact h.gives g .null List.mem_cons_self
      · exact h.lacks g (List.not_mem_cons_of_ne_of_not_mem hgf hg)
  · intro h
    refine ⟨List.nodup_cons.2 ⟨hf, h.distinct⟩, fun g v hv => ?_, fun g hg => ?_⟩
    · obtain heq | hv := List.mem_cons.1 hv
      · obtain ⟨rfl, rfl⟩ := Prod.mk.inj heq
        exact h.lacks g hf
      · exact h.gives g v hv
    · exact h.lacks g (List.not_mem_of_not_mem_cons hg)

/-- The values in the order of the fields, with null for what is left out, describe the same. -/
theorem Describes.zip {vs : List Value} (h : Describes kvs r)
    (hlength : vs.length = Field.all.length) (hvs : ∀ f v, (f, v) ∈ Field.all.zip vs →
      (f, v) ∈ kvs ∨ f ∉ kvs.map Prod.fst ∧ v = .null) :
    Describes (Field.all.zip vs) r := by
  have hfields : (Field.all.zip vs).map Prod.fst = Field.all :=
    List.map_fst_zip (Nat.le_of_eq hlength.symm)
  refine ⟨?_, fun f v hv => ?_, fun f hf => ?_⟩
  · rw [hfields]
    decide
  · obtain hgiven | ⟨hlacks, rfl⟩ := hvs f v hv
    · exact h.gives f v hgiven
    · exact h.lacks f hlacks
  · rw [hfields] at hf
    exact absurd (by cases f <;> decide) hf

end Reconciliation.WorkRecord
