import Reconciliation.Record.WorkRecord
import Reconciliation.Store.RetryBand

/-!
# The store

The records in memory: a list in which no identifier comes twice, in no particular order.
What counts about a store is which record it holds under an identifier, `get?`; each
operation is described by what it does to that view (`get?_insert`, `get?_update`,
`get?_erase`, `get?_purge`). Queries give every matching record once and nothing else
(`mem_select`).

What can go wrong when records are stored or fetched is a record that should be there and is
not, one that should not be there and is, a failure of the storage itself, or that what it holds
is no record.
-/

namespace Reconciliation

/-! ## Errors -/

/-- A failure of the record store. -/
inductive StoreError where
  | notFound (id : RecordId)
  | alreadyExists (id : RecordId)
  /-- The storage failed. -/
  | storage (reason : String)
  /-- What is stored is no record. -/
  | corrupt (reason : String)
deriving DecidableEq

/-- The wording of a store error. -/
def StoreError.message : StoreError → String
  | .notFound id => "record not found: " ++ id.text
  | .alreadyExists id => "record already exists: " ++ id.text
  | .storage reason => "storage error: " ++ reason
  | .corrupt reason => "corrupt record: " ++ reason

/-! ## Records in memory -/

/-- The stored records. -/
structure Store where
  records : List WorkRecord
  /-- No two records have the same identifier. -/
  distinct : (records.map (·.id)).Nodup

namespace Store

/-- The store without records. -/
def empty : Store := ⟨[], List.nodup_nil⟩

instance : EmptyCollection Store := ⟨empty⟩

/-- The record under an identifier. -/
def get? (s : Store) (id : RecordId) : Option WorkRecord := s.records.find? (·.id == id)

/-- How many records there are. -/
def size (s : Store) : Nat := s.records.length

/-- Whether a record is stored under the identifier. -/
def contains (s : Store) (id : RecordId) : Bool := s.records.any (·.id == id)

theorem contains_eq_true_iff {s : Store} {id : RecordId} :
    s.contains id = true ↔ id ∈ s.records.map (·.id) := by
  simp [contains, List.mem_map]

theorem isSome_get? (s : Store) (id : RecordId) : (s.get? id).isSome = s.contains id := by
  rw [get?, contains, List.isSome_find?]

/-- Where no identifier comes twice, the record found under one is the record that has it. -/
theorem find?_eq_some_of_nodup {rs : List WorkRecord} (h : (rs.map (·.id)).Nodup)
    {r : WorkRecord} (hr : r ∈ rs) : rs.find? (·.id == r.id) = some r := by
  induction rs with
  | nil => cases hr
  | cons x xs ih =>
    rw [List.map_cons, List.nodup_cons] at h
    rcases List.mem_cons.1 hr with rfl | hr
    · simp
    · have hne : x.id ≠ r.id := fun he => h.1 (he ▸ List.mem_map_of_mem hr)
      simp only [List.find?_cons, beq_eq_false_iff_ne.2 hne, ih h.2 hr]

/-- The view determines which records there are. -/
theorem get?_eq_some_iff {s : Store} {id : RecordId} {r : WorkRecord} :
    s.get? id = some r ↔ r ∈ s.records ∧ r.id = id := by
  refine ⟨fun h => ?_, fun ⟨hr, hid⟩ => hid ▸ find?_eq_some_of_nodup s.distinct hr⟩
  have hid := List.find?_some h
  exact ⟨List.mem_of_find?_eq_some h, by simpa using hid⟩

/-- The store with one more record, whose identifier has to be new. -/
def insert (s : Store) (r : WorkRecord) : Except StoreError Store :=
  if h : s.contains r.id = true then .error (.alreadyExists r.id)
  else .ok ⟨s.records ++ [r], by
    rw [List.map_append, List.nodup_append]
    refine ⟨s.distinct, by simp, ?_⟩
    intro a ha b hb
    simp only [List.map_cons, List.map_nil, List.mem_singleton] at hb
    subst hb
    intro hab
    exact h (contains_eq_true_iff.2 (hab ▸ ha))⟩

/-- The new record is under its identifier, and all else is as before. -/
theorem get?_insert {s t : Store} {r : WorkRecord} (h : s.insert r = .ok t) (id : RecordId) :
    t.get? id = if id = r.id then some r else s.get? id := by
  unfold insert at h
  split at h
  · cases h
  · rename_i hr
    cases h
    by_cases hid : id = r.id
    · subst hid
      have hn : s.get? r.id = none := by simpa [← isSome_get?] using hr
      rw [if_pos rfl, get?, List.find?_append, ← get?, hn]
      simp
    · have hne : (r.id == id) = false := beq_eq_false_iff_ne.2 (Ne.symm hid)
      rw [if_neg hid, get?, List.find?_append, ← get?]
      simp [hne]

/-- A record in place of the one with its identifier; any other stays. -/
def replace (new old : WorkRecord) : WorkRecord := if old.id = new.id then new else old

theorem map_id_replace (new : WorkRecord) (rs : List WorkRecord) :
    (rs.map (replace new)).map (·.id) = rs.map (·.id) := by
  rw [List.map_map]
  refine List.map_congr_left fun r _ => ?_
  simp only [Function.comp, replace]
  split
  · rename_i h; exact h.symm
  · rfl

/-- The store with a record in place of the one with its identifier. -/
def update (s : Store) (r : WorkRecord) : Except StoreError Store :=
  if s.contains r.id = true then
    .ok ⟨s.records.map (replace r), by rw [map_id_replace]; exact s.distinct⟩
  else .error (.notFound r.id)

/-- The record is under its identifier instead of the one before, and all else is as before. -/
theorem get?_update {s t : Store} {r : WorkRecord} (h : s.update r = .ok t) (id : RecordId) :
    t.get? id = if id = r.id then some r else s.get? id := by
  unfold update at h
  split at h
  · rename_i hr
    cases h
    split
    · rename_i hid
      subst hid
      obtain ⟨old, hold, hid⟩ := List.mem_map.1 (contains_eq_true_iff.1 hr)
      exact get?_eq_some_iff.2 ⟨List.mem_map.2 ⟨old, hold, by simp [replace, hid]⟩, rfl⟩
    · rename_i hid
      refine Option.ext fun x => ?_
      rw [get?_eq_some_iff, get?_eq_some_iff]
      refine and_congr_left fun hx => ?_
      have hxr : x.id ≠ r.id := fun he => hid (hx ▸ he)
      refine ⟨fun hm => ?_, fun hm => List.mem_map.2 ⟨x, hm, by simp [replace, hxr]⟩⟩
      obtain ⟨old, hold, rfl⟩ := List.mem_map.1 hm
      by_cases ho : old.id = r.id
      · exact absurd (by simp [replace, ho]) hxr
      · simpa [replace, ho] using hold
  · cases h

/-- The store with only those records that pass. -/
def filter (s : Store) (keep : WorkRecord → Bool) : Store :=
  ⟨s.records.filter keep, s.distinct.sublist (List.filter_sublist.map _)⟩

/-- A record is still under its identifier if it passes. -/
theorem get?_filter (s : Store) (keep : WorkRecord → Bool) (id : RecordId) :
    (s.filter keep).get? id = (s.get? id).filter keep := by
  refine Option.ext fun x => ?_
  rw [Option.filter_eq_some_iff, get?_eq_some_iff, get?_eq_some_iff]
  simp only [filter, List.mem_filter]
  exact ⟨fun ⟨⟨hm, hk⟩, hid⟩ => ⟨⟨hm, hid⟩, hk⟩, fun ⟨⟨hm, hid⟩, hk⟩ => ⟨⟨hm, hk⟩, hid⟩⟩

/-- The store without the record under an identifier. -/
def erase (s : Store) (id : RecordId) : Store := s.filter (·.id != id)

/-- Nothing is under the identifier any more, and all else is as before. -/
theorem get?_erase (s : Store) (gone id : RecordId) :
    (s.erase gone).get? id = if id = gone then none else s.get? id := by
  rw [erase, get?_filter]
  cases h : s.get? id with
  | none => simp
  | some r =>
    have hid := (get?_eq_some_iff.1 h).2
    subst hid
    by_cases hg : r.id = gone
    · simp [hg]
    · simp [hg]

/-- The store without the records that are expired, and how many those were. -/
def purge (s : Store) (now : Instant) : Nat × Store :=
  let kept := s.filter fun r => !r.isExpired now
  (s.size - kept.size, kept)

/-- A record is still under its identifier if it is not expired. -/
theorem get?_purge (s : Store) (now : Instant) (id : RecordId) :
    (s.purge now).2.get? id = (s.get? id).filter fun r => !r.isExpired now :=
  get?_filter s _ id

/-! ## Queries -/

/-- Every record that passes. -/
def select (s : Store) (p : WorkRecord → Bool) : List WorkRecord := s.records.filter p

theorem mem_select {s : Store} {p : WorkRecord → Bool} {r : WorkRecord} :
    r ∈ s.select p ↔ s.get? r.id = some r ∧ p r = true := by
  rw [get?_eq_some_iff, select, List.mem_filter]
  simp

/-- The unprocessed records of an entity. -/
def unprocessedOf (s : Store) (e : EntityId) : List WorkRecord :=
  s.select fun r => r.entity == e && !r.isProcessed

/-- The records of one kind with one retry count. -/
def ofTypeAndCount (s : Store) (t : EventType) (n : UInt32) : List WorkRecord :=
  s.select fun r => r.eventType == t && r.retryCount == n

/-- The unprocessed records in a retry band. -/
def unprocessedIn (s : Store) (b : RetryBand) : List WorkRecord :=
  s.select fun r => b.contains r.retryCount && !r.isProcessed

/-- The untried, unprocessed records that came in before an instant. -/
def untriedBefore (s : Store) (cutoff : Instant) : List WorkRecord :=
  s.select fun r => r.retryCount == 0 && decide (r.created < cutoff) && !r.isProcessed

/-- The records in the order of their identifiers. -/
def toList (s : Store) : List WorkRecord :=
  s.records.mergeSort fun a b => decide (a.id ≤ b.id)

/-- The store that holds the records of a list; of several with one identifier the first. -/
def ofList (rs : List WorkRecord) : Store :=
  rs.foldl (fun s r => match s.insert r with
    | .ok s => s
    | .error _ => s) empty

end Store

end Reconciliation
