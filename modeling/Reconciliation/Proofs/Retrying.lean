import Reconciliation.Pass.Retry
import Reconciliation.Proofs.Aggregation
import Reconciliation.Proofs.DispatchOrder
import Reconciliation.Proofs.Instant

/-!
# What a retry leaves of each record

A tier takes the unprocessed records in its band and treats each of them. No entity is
swept in and nothing is thinned out, so what a pass leaves of a record, `Retry.leaves`,
depends on that record alone and on what its attempt gave.

* `Retry.run_ok`: a pass runs to its end, dispatches the records of its tier that are not
  expired, and leaves of every stored record what `leaves` says.
* `Retry.retries_each_alone`: where handlers answer by the record alone, the store after a
  pass is that function of the store before, and each record of the tier that is not expired
  is dispatched once, in dispatch order.
-/

namespace Reconciliation

namespace Retry

variable {s : Store} {tier : RetryTier} {now : Instant} {r : WorkRecord}

/-- The records that a pass selects, in dispatch order. -/
def selected (s : Store) (tier : RetryTier) : List WorkRecord :=
  (s.unprocessedIn tier.band).mergeSort WorkRecord.dispatchesBefore

/-- A record that waits for a tier. Whether it is expired does not matter: an expired record is
selected too, and then abandoned. -/
def Waits (tier : RetryTier) (r : WorkRecord) : Prop :=
  r.processed = none ∧ tier.band.contains r.retryCount = true

instance (tier : RetryTier) (r : WorkRecord) : Decidable (Waits tier r) :=
  inferInstanceAs (Decidable (_ ∧ _))

/-- What a pass leaves of a stored record, given the result that its attempt has. -/
def leaves (tier : RetryTier) (now : Instant) (result : WorkRecord → Except String Outcome)
    (r : WorkRecord) : Option WorkRecord :=
  if Waits tier r then Pass.remains .remove now result r else some r

/-- What is left of a record after a retry is of the same work. -/
theorem leaves_sameWork {result : WorkRecord → Except String Outcome} {x : WorkRecord}
    (hx : x ∈ leaves tier now result r) : x.SameWork r := by
  rw [leaves] at hx
  split at hx
  · exact Pass.remains_sameWork hx
  · cases hx
    exact .refl r

/-- The selected records are those of the store that wait for the tier. -/
theorem mem_selected : r ∈ selected s tier ↔ r ∈ s.records ∧ Waits tier r := by
  simp only [selected, List.mem_mergeSort, Store.unprocessedIn, Store.select, List.mem_filter,
    WorkRecord.isProcessed, Bool.and_eq_true, Bool.not_eq_true', Option.isSome_eq_false_iff,
    Option.isNone_iff_eq_none, Waits]
  rw [and_comm (a := r.processed = none)]

/-- No record is selected twice, as the identifiers in a store are distinct. -/
theorem nodup_selected (s : Store) (tier : RetryTier) : ((selected s tier).map (·.id)).Nodup :=
  ((List.mergeSort_perm _ _).map _).nodup_iff.2
    (s.distinct.sublist (List.filter_sublist.map _))

/-- No tier takes a record that has not been tried. -/
theorem Waits.retryCount_ne (h : Waits tier r) : r.retryCount ≠ 0 := by
  intro h0
  have hc := h.2
  rw [h0] at hc
  cases tier <;> revert hc <;> decide

/-- The store after the selected records have been treated, seen from each record. -/
theorem get?_leaveAll_selected (s : Store) (tier : RetryTier) (now : Instant)
    (result : WorkRecord → Except String Outcome) (id : RecordId) :
    (s.leaveAll (Pass.remains .remove now result) (selected s tier)).get? id =
      (s.get? id).bind (leaves tier now result) := by
  have hleaves : ∀ r ∈ selected s tier,
      Pass.remains .remove now result r = leaves tier now result r :=
    fun r hr => (if_pos (mem_selected.1 hr).2).symm
  rw [Store.leaveAll_congr hleaves]
  refine Store.get?_leaveAll_bind (fun r _ x hx => (leaves_sameWork hx).id) (nodup_selected s tier)
    (fun r hr => (mem_selected.1 hr).1) fun r hr _ hout => ?_
  exact if_neg fun hwaits => hout (mem_selected.2 ⟨hr, hwaits⟩)

/-- To select is one question to the store that leaves it as it was. -/
theorem select_apply (tier : RetryTier) (w : World Store) :
    select tier w = (.ok (.ok (w.backend.unprocessedIn tier.band)), w) := rfl

variable {d : Dispatcher}

/-- **A pass of a retry tier**, whatever its handlers answer. It runs to its end; it dispatches the
records that wait for the tier and are not expired; and it leaves of each stored record what
`leaves` says, given the results of those dispatches. -/
theorem run_ok (hd : d.Quiet) (tier : RetryTier) (now : Instant) (w : World Store) :
    ∃ result report v, run d tier now w = (.ok (.ok report), v) ∧
      (∀ r ∈ selected w.backend tier, Pass.CanEnd d now r (result r)) ∧
      v.received = w.received ∧
      v.dispatches = w.dispatches ++
        Pass.dispatchesOf tier.name now result (selected w.backend tier) ∧
      ∀ id, v.backend.get? id = (w.backend.get? id).bind (leaves tier now result) := by
  have hperm : (selected w.backend tier).Perm (w.backend.unprocessedIn tier.band) :=
    List.mergeSort_perm _ _
  rw [run]
  rw [Run.bind_ok (select_apply tier w)]
  cases hrs : w.backend.unprocessedIn tier.band with
  | nil =>
    have hnone : selected w.backend tier = [] := List.perm_nil.1 (hrs ▸ hperm)
    refine ⟨fun _ => .error "", .empty, w, rfl, by simp [hnone], rfl, ?_, fun id => ?_⟩
    · rw [hnone]
      exact (List.append_nil _).symm
    · rw [← get?_leaveAll_selected, hnone]
      rfl
  | cons x xs =>
    have hp : ∀ r ∈ selected w.backend tier, r.processed = none :=
      fun r hr => (mem_selected.1 hr).2.1
    obtain ⟨result, report, v, hv, hend, hleads⟩ := Pass.foldlM_treat tier.name .remove now hd
      (nodup_selected _ _) hp { Report.empty with selected := (selected w.backend tier).length } w
    have hlog := Run.Harmless.log (e := .retried tier.name report) rfl v
    have h := hleads.trans_alike hlog
    refine ⟨result, report, (Run.log (.retried tier.name report) v).2, ?_, hend, h.received,
      h.dispatches, fun id => ?_⟩
    · simp only [carryOut]
      rw [selected, hrs] at hv
      exact Run.bind_ok ((Run.bind_ok hv _).trans rfl) _
    · rw [h.backend]
      exact get?_leaveAll_selected _ _ _ _ id

/-- Only the results of records that wait for the tier count. -/
theorem leaves_congr {f g : WorkRecord → Except String Outcome} (h : Waits tier r → f r = g r) :
    leaves tier now f r = leaves tier now g r := by
  rw [leaves, leaves]
  split
  · exact Pass.remains_congr (h ‹_›)
  · rfl

/-- **The retry of a tier, record by record.** Where handlers answer by the record alone, a pass
runs to its end. The store after it is that of `leaves`: records that are processed or out of
the band are as they were, expired and completed ones are gone, and of any other there is what
its own answer leaves. Dispatched are, once each and in dispatch order, the records of the band
that are not expired, and nothing else. -/
theorem retries_each_alone {answer : WorkRecord → Answer} (hd : d.Answers answer)
    (hs : ∀ name, d.sinkCrashes name = false) (tier : RetryTier) (now : Instant)
    (w : World Store) :
    ∃ report v, ∃ rs : List WorkRecord, run d tier now w = (.ok (.ok report), v) ∧
      (∀ id, v.backend.get? id =
        (w.backend.get? id).bind (leaves tier now (Pass.ends d answer))) ∧
      v.dispatches = w.dispatches ++
        rs.map (fun r => ⟨tier.name, r, now, Pass.ends d answer r⟩) ∧
      (∀ r, r ∈ rs ↔ r ∈ w.backend.records ∧ Waits tier r ∧ ¬ r.expiry ≤ now) ∧
      rs.Pairwise WorkRecord.Precedes := by
  obtain ⟨result, report, v, hv, hend, -, hdispatches, hstore⟩ :=
    run_ok ⟨hd.onlyAnswers, hs _⟩ tier now w
  have hresult : ∀ r ∈ selected w.backend tier, result r = Pass.ends d answer r :=
    fun r hr => (hend r hr).eq_ends hd hs
  refine ⟨report, v, (selected w.backend tier).filter fun r => !r.isExpired now, hv,
    fun id => (hstore id).trans ?_, ?_, fun r => ?_, ?_⟩
  · cases hg : w.backend.get? id with
    | none => rfl
    | some r =>
      have hrs := (Store.get?_eq_some_iff.1 hg).1
      exact leaves_congr fun hwaits => hresult r (mem_selected.2 ⟨hrs, hwaits⟩)
  · rw [hdispatches, Pass.dispatchesOf_congr hresult]
    rfl
  · simp only [List.mem_filter, mem_selected, WorkRecord.isExpired, Bool.not_eq_true',
      decide_eq_false_iff_not, and_assoc]
  · refine (WorkRecord.pairwise_precedes_mergeSort ?_).sublist List.filter_sublist
    exact w.backend.distinct.sublist (List.filter_sublist.map _)

/-- A record that came in at the tenth second and has failed so often. -/
def sample (id : Nat) (count : UInt32) (kind : EventType) : WorkRecord :=
  { Aggregate.sample id 10 kind with retryCount := count }

/-- Two records at the ends of the first band, one of them expired, one without a handler between
them, and one beyond the band. -/
def sampleStore : Store :=
  ⟨[sample 3 5 .sentenceImposed, sample 1 4 .sentenceImposed, sample 2 2 .bookingNumberChanged,
    (sample 4 1 .sentenceImposed).withExpiry (.ofSecond 99)], by decide⟩

/-- The record that fails for the fifth time moves into the next band and is not tried again. The
record without a handler is done and gone, the expired one is gone without an attempt, and the
one beyond the band is as it was. -/
theorem retries_sampleStore :
    ∃ report v, ∃ rs : List WorkRecord,
      run (Dispatcher.new.register .sentenceImposed fun _ _ => ⟨[], .failure "down"⟩)
        .shortTerm (.ofSecond 100) (World.of sampleStore) = (.ok (.ok report), v) ∧
      v.backend.get? (.ofNat 1) =
        some { sample 1 5 .sentenceImposed with status := some Status.error } ∧
      v.backend.get? (.ofNat 2) = none ∧
      v.backend.get? (.ofNat 3) = some (sample 3 5 .sentenceImposed) ∧
      v.backend.get? (.ofNat 4) = none ∧
      v.dispatches.map (·.record) = rs ∧
      sample 1 4 .sentenceImposed ∈ rs ∧ sample 3 5 .sentenceImposed ∉ rs := by
  have hanswers := (Dispatcher.answers_new fun _ => .failure "down").register .sentenceImposed
  obtain ⟨report, v, rs, hv, hstore, hdispatches, hmem, -⟩ :=
    retries_each_alone hanswers (fun _ => rfl) .shortTerm (.ofSecond 100) (World.of sampleStore)
  refine ⟨report, v, rs, hv, (hstore _).trans ?_, (hstore _).trans ?_, (hstore _).trans ?_,
    (hstore _).trans ?_, ?_, ?_, ?_⟩
  · decide
  · decide
  · decide
  · decide
  · simp [hdispatches, World.of, Function.comp_def]
  · rw [hmem]
    decide
  · rw [hmem]
    decide

end Retry

end Reconciliation
