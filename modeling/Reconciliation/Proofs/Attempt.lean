import Mathlib.Data.List.Nodup
import Reconciliation.Pass.Basic
import Reconciliation.Proofs.Dispatch

/-!
# What a pass leaves of its records

A pass treats its records one after another. What that does to the store is told here by
what is left of each record: `left` after an attempt with a given result, `remains` after
its treatment, where an expired record goes without an attempt. Other records are not
touched, so for records with different identifiers the order of treatment does not matter
to the store (`Store.get?_leaveAll`).

Main statement: `Pass.foldlM_treat`. A pass over any list of unprocessed records runs to
its end, dispatches exactly those that are not expired, in the order of the list, and
leaves of each what its own result says.
-/

namespace Reconciliation

namespace WorkRecord

/-- Two states of one piece of work: whatever an attempt never changes is the same. -/
structure SameWork (a b : WorkRecord) : Prop where
  id : a.id = b.id
  entity : a.entity = b.entity
  eventType : a.eventType = b.eventType
  payload : a.payload = b.payload
  created : a.created = b.created

theorem SameWork.refl (a : WorkRecord) : a.SameWork a := ⟨rfl, rfl, rfl, rfl, rfl⟩

theorem SameWork.trans {a b c : WorkRecord} (h : a.SameWork b) (k : b.SameWork c) : a.SameWork c :=
  ⟨h.id.trans k.id, h.entity.trans k.entity, h.eventType.trans k.eventType,
    h.payload.trans k.payload, h.created.trans k.created⟩

/-- The record after a failed attempt: one failure more, up to the largest count there is. -/
def failed (r : WorkRecord) (status : String) (expiry : Instant) : WorkRecord :=
  { r with
    retryCount := .ofNat (min (r.retryCount.toNat + 1) 4294967295)
    expiry
    status := some status }

/-- A count goes up by one, and stays where it is at the largest number of 32 bits. -/
theorem nextCount_eq (n : UInt32) : nextCount n = .ofNat (min (n.toNat + 1) 4294967295) := by
  rw [← UInt32.toNat_inj, nextCount_toNat, UInt32.toNat_ofNat']
  omega

/-- Without a deadline the expiry stays. -/
theorem recordFailure_none (r : WorkRecord) (status : String) (now : Instant) :
    r.recordFailure status none now = r.failed status r.expiry := by
  simp only [recordFailure, failed, nextCount_eq]

/-- A deadline becomes the expiry, but not one before the current second. -/
theorem recordFailure_some (r : WorkRecord) (status : String) (t now : Instant) :
    r.recordFailure status (some t) now = r.failed status (max t now).wholeSecond := by
  simp only [recordFailure, failed, nextCount_eq]

/-- A record that is not done can be marked as done; nothing else about it changes. -/
theorem markProcessed_eq_ok {r : WorkRecord} (hr : r.processed = none) (status : String)
    (now : Instant) :
    r.markProcessed status now = .ok { r with processed := some now, status := some status } := by
  simp only [markProcessed, hr]

end WorkRecord

/-! ## Stores -/

namespace Store

/-- There is one stored record under an identifier. -/
theorem eq_of_id {s : Store} {x y : WorkRecord} (hx : x ∈ s.records) (hy : y ∈ s.records)
    (hid : x.id = y.id) : x = y :=
  List.inj_on_of_nodup_map s.distinct hx hy hid

/-- The store with something else, or nothing, in place of the record under an identifier. -/
def leave (s : Store) (id : RecordId) : Option WorkRecord → Store
  | none => s.erase id
  | some r => (s.attempted (s.update r)).2

/-- An update of a stored record goes through. -/
theorem exists_update {s : Store} {r : WorkRecord} (h : s.contains r.id = true) :
    ∃ t, s.update r = .ok t := by
  rw [update]
  rw [if_pos h]
  exact ⟨_, rfl⟩

/-- An update of a record that is not stored is refused. -/
theorem update_eq_error {s : Store} {r : WorkRecord} (h : s.contains r.id = false) :
    s.update r = .error (.notFound r.id) := by
  rw [update]
  rw [if_neg (Bool.eq_false_iff.1 h)]

/-- An identifier without a record stays so, and all else is as before. -/
theorem get?_leave {s : Store} {id : RecordId} {o : Option WorkRecord} (ho : ∀ r ∈ o, r.id = id)
    (k : RecordId) :
    (s.leave id o).get? k = if k = id then (s.get? id).bind fun _ => o else s.get? k := by
  cases o with
  | none => simp [leave, get?_erase]
  | some r =>
    obtain rfl : r.id = id := ho r rfl
    have hs := isSome_get? s r.id
    cases hc : s.contains r.id with
    | true =>
      obtain ⟨t, ht⟩ := exists_update hc
      obtain ⟨old, hold⟩ := Option.isSome_iff_exists.1 (hs.trans hc)
      change (s.attempted (s.update r)).2.get? k = _
      rw [ht, hold, Option.bind_some]
      exact get?_update ht k
    | false =>
      have hn : s.get? r.id = none := by rw [← Option.not_isSome_iff_eq_none, hs, hc]; decide
      change (s.attempted (s.update r)).2.get? k = _
      rw [update_eq_error hc, hn, Option.bind_none]
      split
      · rename_i hk
        rw [hk]
        exact hn
      · rfl

/-- The store after something has been left of each of some records. Where nothing is left the
record is deleted, and otherwise what is left is put in its place. -/
def leaveAll (s : Store) (left : WorkRecord → Option WorkRecord) (rs : List WorkRecord) : Store :=
  rs.foldl (fun s r => s.leave r.id (left r)) s

/-- Records are left one after another, the first one first. -/
theorem leaveAll_cons (s : Store) (left : WorkRecord → Option WorkRecord) (r : WorkRecord)
    (rs : List WorkRecord) :
    s.leaveAll left (r :: rs) = (s.leave r.id (left r)).leaveAll left rs := rfl

/-- Of two lists of records the first one is left first. -/
theorem leaveAll_append (s : Store) (left : WorkRecord → Option WorkRecord)
    (xs ys : List WorkRecord) :
    s.leaveAll left (xs ++ ys) = (s.leaveAll left xs).leaveAll left ys := List.foldl_append

/-- Only what is left of the listed records counts. -/
theorem leaveAll_congr {f g : WorkRecord → Option WorkRecord} {rs : List WorkRecord}
    (h : ∀ r ∈ rs, f r = g r) (s : Store) : s.leaveAll f rs = s.leaveAll g rs := by
  induction rs generalizing s with
  | nil => rfl
  | cons r rs ih =>
    rw [leaveAll_cons, leaveAll_cons, h r List.mem_cons_self]
    exact ih (fun x hx => h x (List.mem_cons_of_mem r hx)) _

/-- Records that are not concerned stay as they are. -/
theorem get?_leaveAll_of_notMem {left : WorkRecord → Option WorkRecord} {rs : List WorkRecord}
    (hl : ∀ r ∈ rs, ∀ x ∈ left r, x.id = r.id) (s : Store) {k : RecordId}
    (hk : k ∉ rs.map (·.id)) : (s.leaveAll left rs).get? k = s.get? k := by
  induction rs generalizing s with
  | nil => rfl
  | cons r rs ih =>
    rw [List.map_cons, List.mem_cons, not_or] at hk
    refine (ih (fun x hx => hl x (List.mem_cons_of_mem _ hx)) (s.leave r.id (left r)) hk.2).trans ?_
    rw [get?_leave (hl r List.mem_cons_self), if_neg hk.1]

/-- Of a stored record there is what its own treatment leaves, whatever the others' leave. -/
theorem get?_leaveAll {left : WorkRecord → Option WorkRecord} {rs : List WorkRecord}
    (hl : ∀ r ∈ rs, ∀ x ∈ left r, x.id = r.id) (hn : (rs.map (·.id)).Nodup) {s : Store}
    {r : WorkRecord} (hr : r ∈ rs) (hs : s.get? r.id = some r) :
    (s.leaveAll left rs).get? r.id = left r := by
  induction rs generalizing s with
  | nil => cases hr
  | cons x rs ih =>
    rw [List.map_cons, List.nodup_cons] at hn
    have hx := hl x List.mem_cons_self
    have hl' := fun y hy => hl y (List.mem_cons_of_mem x hy)
    rcases List.mem_cons.1 hr with rfl | hr
    · refine (get?_leaveAll_of_notMem hl' (s.leave r.id (left r)) hn.1).trans ?_
      rw [get?_leave hx, if_pos rfl, hs, Option.bind_some]
    · have hne : r.id ≠ x.id := fun h => hn.1 (h ▸ List.mem_map_of_mem hr)
      refine ih hl' hn.2 hr ?_
      rw [get?_leave hx, if_neg hne, hs]

/-- A stored record that is not concerned stays as it is. -/
theorem get?_leaveAll_of_stored {left : WorkRecord → Option WorkRecord} {rs : List WorkRecord}
    (hl : ∀ r ∈ rs, ∀ x ∈ left r, x.id = r.id) {s : Store} (hs : ∀ r ∈ rs, r ∈ s.records)
    {r : WorkRecord} (hr : r ∈ s.records) (hnot : r ∉ rs) :
    (s.leaveAll left rs).get? r.id = some r := by
  have hid : r.id ∉ rs.map (·.id) := by
    intro hmem
    obtain ⟨x, hx, hxid⟩ := List.mem_map.1 hmem
    exact hnot (s.eq_of_id (hs x hx) hr hxid ▸ hx)
  rw [get?_leaveAll_of_notMem hl s hid]
  exact get?_eq_some_iff.2 ⟨hr, rfl⟩

/-- The store seen from any identifier, where nothing is to be left of the other records than they
are. -/
theorem get?_leaveAll_bind {left : WorkRecord → Option WorkRecord} {rs : List WorkRecord}
    (hl : ∀ r ∈ rs, ∀ x ∈ left r, x.id = r.id) (hn : (rs.map (·.id)).Nodup) {s : Store}
    (hs : ∀ r ∈ rs, r ∈ s.records) {k : RecordId}
    (hrest : ∀ r ∈ s.records, r.id = k → r ∉ rs → left r = some r) :
    (s.leaveAll left rs).get? k = (s.get? k).bind left := by
  by_cases hk : k ∈ rs.map (·.id)
  · obtain ⟨r, hr, rfl⟩ := List.mem_map.1 hk
    have hg : s.get? r.id = some r := get?_eq_some_iff.2 ⟨hs r hr, rfl⟩
    rw [get?_leaveAll hl hn hr hg, hg]
    rfl
  · rw [get?_leaveAll_of_notMem hl s hk]
    cases hg : s.get? k with
    | none => rfl
    | some r =>
      obtain ⟨hr, rfl⟩ := get?_eq_some_iff.1 hg
      rw [Option.bind_some, hrest r hr rfl fun hmem => hk (List.mem_map_of_mem hmem)]

end Store

/-! ## Attempts -/

/-- A dispatcher that leaves the stored records and the passes alone: its handlers only answer, and
its sink takes the count of a failed attempt. (A sink that crashes on that count, outside of
the attempt, ends the pass before the failure is written.) -/
structure Dispatcher.Quiet (d : Dispatcher) : Prop where
  onlyAnswers : d.OnlyAnswers
  counts : d.sinkCrashes Dispatcher.failureMetric = false

/-- From one world to the next some dispatches were made and a backend was left; nothing came in. -/
structure World.Leads {σ : Type} (w : World σ) (xs : List Dispatch) (s : σ) (v : World σ) :
    Prop where
  received : v.received = w.received
  dispatches : v.dispatches = w.dispatches ++ xs
  backend : v.backend = s

section Leads

variable {σ : Type} {u v w : World σ} {xs ys : List Dispatch} {s t : σ}

/-- What happened before does not count if it dispatched nothing and changed no record. -/
theorem World.Alike.leads_trans (h : u.Alike v) (k : v.Leads xs s w) : u.Leads xs s w :=
  ⟨k.received.trans h.received, by rw [k.dispatches, h.dispatches], k.backend⟩

/-- Nor does what happens afterwards. -/
theorem World.Leads.trans_alike (h : u.Leads xs s v) (k : v.Alike w) : u.Leads xs s w :=
  ⟨k.received.trans h.received, k.dispatches.trans h.dispatches, k.backend.trans h.backend⟩

/-- Of two parts of a run the dispatches follow one another, and the second leaves the backend. -/
theorem World.Leads.trans (h : u.Leads xs s v) (k : v.Leads ys t w) : u.Leads (xs ++ ys) t w :=
  ⟨k.received.trans h.received, by rw [k.dispatches, h.dispatches, List.append_assoc], k.backend⟩

end Leads

namespace Pass

/-- What an attempt leaves of an unprocessed record. -/
def left (whenDone : WhenDone) (now : Instant) (r : WorkRecord) :
    Except String Outcome → Option WorkRecord
  | .ok (.completed status) =>
    match whenDone with
    | .keep => some { r with processed := some now, status := some status }
    | .remove => none
  | .ok (.retry (some t)) => some (r.failed Status.retry (max t now).wholeSecond)
  | .ok (.retry none) => some (r.failed Status.retry r.expiry)
  | .error _ => some (r.failed Status.error r.expiry)

/-- What is left of a record whose handler asks for another attempt is the failure that is recorded.
-/
theorem left_retry (whenDone : WhenDone) (now : Instant) (r : WorkRecord)
    (until? : Option Instant) :
    left whenDone now r (.ok (.retry until?)) = some (r.recordFailure Status.retry until? now) := by
  cases until? with
  | none => rw [WorkRecord.recordFailure_none, left]
  | some t => rw [WorkRecord.recordFailure_some, left]

/-- So it is if the handler fails; there is no deadline then. -/
theorem left_error (whenDone : WhenDone) (now : Instant) (r : WorkRecord) (message : String) :
    left whenDone now r (.error message) = some (r.recordFailure Status.error none now) := by
  rw [WorkRecord.recordFailure_none, left]

/-- What an attempt leaves of a record is the same work. -/
theorem left_sameWork {whenDone : WhenDone} {now : Instant} {r x : WorkRecord}
    {result : Except String Outcome} (hx : x ∈ left whenDone now r result) : x.SameWork r := by
  rcases result with message | status | (_ | t) <;> cases whenDone <;>
    simp only [left, Option.mem_def, Option.some.injEq, reduceCtorEq] at hx <;> subst hx <;>
    exact ⟨rfl, rfl, rfl, rfl, rfl⟩

/-- What the treatment of an unprocessed record leaves of it, given the result that an attempt
has. -/
def remains (whenDone : WhenDone) (now : Instant) (result : WorkRecord → Except String Outcome)
    (r : WorkRecord) : Option WorkRecord :=
  if r.expiry ≤ now then none else left whenDone now r (result r)

/-- What the treatment of a record leaves of it is the same work, if it leaves something. -/
theorem remains_sameWork {whenDone : WhenDone} {now : Instant}
    {result : WorkRecord → Except String Outcome} {r x : WorkRecord}
    (hx : x ∈ remains whenDone now result r) : x.SameWork r := by
  rw [remains] at hx
  split at hx
  · cases hx
  · exact left_sameWork hx

/-- Only the result of the record itself counts. -/
theorem remains_congr {whenDone : WhenDone} {now : Instant}
    {f g : WorkRecord → Except String Outcome} {r : WorkRecord} (h : f r = g r) :
    remains whenDone now f r = remains whenDone now g r := by
  rw [remains, remains, h]

/-- The dispatches of a pass over some records: of those that are not expired. The results are given
for the records, so that the list can be compared with that of another pass. -/
def dispatchesOf (pass : String) (now : Instant) (result : WorkRecord → Except String Outcome)
    (rs : List WorkRecord) : List Dispatch :=
  (rs.filter fun r => !r.isExpired now).map fun r => ⟨pass, r, now, result r⟩

variable {pass : String} {d : Dispatcher} {whenDone : WhenDone} {now : Instant}

/-- A dispatch ends with a result and changes no record. -/
theorem tryDispatch_ok {σ : Type} [RecordStore σ] (hd : d.OnlyAnswers) (r : WorkRecord)
    (now : Instant) (w : World σ) :
    ∃ result v, tryDispatch d r now w = (.ok result, v) ∧ w.Alike v := by
  obtain ⟨result, h⟩ := Run.exists_caught (d.dispatch r now) w
  have hw := hd.dispatch r now w
  rw [tryDispatch]
  rw [Run.bind_ok h]
  rcases result with c | result
  · exact ⟨_, _, rfl, hw⟩
  · exact ⟨_, _, rfl, hw⟩

/-- A result that an attempt of the record can have. There can be several, as a handler may answer
by what it was called for before. -/
def CanEnd (d : Dispatcher) (now : Instant) (r : WorkRecord) (result : Except String Outcome) :
    Prop :=
  ∃ w : World Store, (tryDispatch d r now w).1 = .ok result

/-- How an attempt ends where handlers answer by the record alone; a crash is a failure. -/
def ends (d : Dispatcher) (answer : WorkRecord → Answer) (r : WorkRecord) : Except String Outcome :=
  if d.hasHandler r.eventType then
    match answer r with
    | .outcome o => .ok o
    | .failure message => .error message
    | .crash c => .error ("handler panicked: " ++ c.text)
  else .ok (.completed Status.noHandler)

/-- A crash of a dispatch is a failure with its text. -/
theorem tryDispatch_fst {σ : Type} [RecordStore σ] (d : Dispatcher) (r : WorkRecord)
    (now : Instant) (w : World σ) :
    (tryDispatch d r now w).1 = .ok (match (d.dispatch r now w).1 with
      | .ok result => result
      | .error c => .error ("handler panicked: " ++ c.text)) := by
  rw [tryDispatch]
  rw [Run.bind_apply]
  rw [Run.caught]
  rcases d.dispatch r now w with ⟨c | result, v⟩ <;> rfl

/-- There an attempt ends in this way, in any backend, and changes no record. -/
theorem tryDispatch_ends {σ : Type} [RecordStore σ] {answer : WorkRecord → Answer}
    (hd : d.Answers answer) (hs : ∀ name, d.sinkCrashes name = false) (r : WorkRecord)
    (now : Instant) (w : World σ) :
    ∃ v, tryDispatch d r now w = (.ok (ends d answer r), v) ∧ w.Alike v := by
  obtain ⟨result, v, hv, halike⟩ := tryDispatch_ok hd.onlyAnswers r now w
  have hfst := tryDispatch_fst d r now w
  rw [hv, hd.dispatch_fst hs, Except.ok.injEq] at hfst
  have hresult : result = ends d answer r := by
    rw [hfst]
    simp only [Dispatcher.answered, ends]
    cases d.hasHandler r.eventType with
    | true => cases answer r <;> rfl
    | false => rfl
  exact ⟨v, hresult ▸ hv, halike⟩

/-- Where handlers answer by the record alone there is one way in which an attempt can end. -/
theorem CanEnd.eq_ends {answer : WorkRecord → Answer} (hd : d.Answers answer)
    (hs : ∀ name, d.sinkCrashes name = false) {r : WorkRecord} {result : Except String Outcome}
    (h : CanEnd d now r result) : result = ends d answer r := by
  obtain ⟨w, hw⟩ := h
  obtain ⟨v, hv, -⟩ := tryDispatch_ends hd hs r now w
  rw [hv] at hw
  exact (Except.ok.inj hw).symm

/-- Counting a result neither crashes nor changes a record. -/
theorem settle_ok (report : Report) (result : Except StoreError Unit)
    (event : StoreError → Log.Event) (he : ∀ e, (event e).received? = none) (w : World Store) :
    ∃ report' v, settle report result event w = (.ok report', v) ∧ w.Alike v := by
  cases result with
  | ok => exact ⟨_, _, rfl, .refl w⟩
  | error e => exact ⟨_, _, rfl, Run.Harmless.log (he e) w⟩

/-- After a write, a failure of which is only counted, the store is as the write left it. -/
theorem write_settle_ok {write : Run Store (Except StoreError Unit)} {w : World Store}
    {result : Except StoreError Unit} {s : Store}
    (hw : write w = (.ok result, { w with backend := s })) (report : Report)
    (event : StoreError → Log.Event) (he : ∀ e, (event e).received? = none) :
    ∃ report' v, (write >>= fun result => settle report result event) w = (.ok report', v) ∧
      w.Leads [] s v := by
  obtain ⟨report', v, h, hv⟩ := settle_ok report result event he { w with backend := s }
  rw [Run.bind_ok hw]
  exact ⟨report', v, h, hv.received, by rw [hv.dispatches, List.append_nil], hv.backend⟩

/-- An update whose failure is only counted leaves the updated record, if there was one under its
identifier. -/
theorem update_settle_ok (next : WorkRecord) (report : Report) (event : StoreError → Log.Event)
    (he : ∀ e, (event e).received? = none) (w : World Store) :
    ∃ report' v, (Records.update next >>= fun result => settle report result event) w =
      (.ok report', v) ∧ w.Leads [] (w.backend.leave next.id (some next)) v :=
  write_settle_ok rfl report event he

/-- The results of some records and of one more. -/
def resultWith (result : WorkRecord → Except String Outcome) (r : WorkRecord)
    (one : Except String Outcome) (x : WorkRecord) : Except String Outcome :=
  if x = r then one else result x

/-- The dispatches of several records are those of the first one, and then those of the others. -/
theorem dispatchesOf_cons (result : WorkRecord → Except String Outcome) (r : WorkRecord)
    (rs : List WorkRecord) :
    dispatchesOf pass now result (r :: rs) =
      dispatchesOf pass now result [r] ++ dispatchesOf pass now result rs := by
  simp only [dispatchesOf]
  rw [← List.map_append, ← List.filter_append, List.singleton_append]

/-- Leaving out records leaves out their dispatches, and no others. -/
theorem dispatchesOf_filter (result : WorkRecord → Except String Outcome) (q : WorkRecord → Bool)
    (rs : List WorkRecord) :
    dispatchesOf pass now result (rs.filter q) =
      (dispatchesOf pass now result rs).filter fun x => q x.record := by
  rw [dispatchesOf, dispatchesOf, List.filter_map, List.filter_filter, List.filter_filter]
  refine congrArg _ (List.filter_congr fun r _ => ?_)
  exact Bool.and_comm _ _

/-- Only the results of the records themselves count. -/
theorem dispatchesOf_congr {f g : WorkRecord → Except String Outcome} {rs : List WorkRecord}
    (h : ∀ r ∈ rs, f r = g r) : dispatchesOf pass now f rs = dispatchesOf pass now g rs := by
  refine List.map_congr_left fun r hr => ?_
  rw [h r ((List.mem_filter.1 hr).1)]

variable (pass : String) (whenDone : WhenDone) (now : Instant)

/-- A record that is done is written back as such, or removed. -/
theorem writeDone_apply {r : WorkRecord} (hr : r.processed = none) (status : String)
    (w : World Store) :
    ∃ result, writeDone pass whenDone r status now w =
      (.ok result, { w with
        backend := w.backend.leave r.id (left whenDone now r (.ok (.completed status))) }) := by
  cases whenDone with
  | keep =>
    rw [writeDone]
    rw [WorkRecord.markProcessed_eq_ok hr]
    exact ⟨_, rfl⟩
  | remove => exact ⟨_, rfl⟩

/-- The result of an attempt is written back, where the record is still stored, or the sink crashes
on the count of a failure. -/
theorem conclude_cases {r : WorkRecord} (hr : r.processed = none) (report : Report)
    (result : Except String Outcome) (w : World Store) :
    (∃ report' v, conclude pass d whenDone now report r result w = (.ok report', v) ∧
      w.Leads [] (w.backend.leave r.id (left whenDone now r result)) v) ∨
    (d.sinkCrashes Dispatcher.failureMetric = true ∧
      ∃ crash v, conclude pass d whenDone now report r result w = (.error crash, v) ∧
        w.Alike v) := by
  rcases result with message | status | until?
  · have hlog := Run.Harmless.log (e := .handlerFailed pass r message) rfl w
    have hnote := hlog.trans (Dispatcher.noteFailure_harmless d r now _)
    rcases hn : (d.noteFailure r now : Run Store Unit) (Run.log (.handlerFailed pass r message) w).2
      with ⟨crash | _, u⟩ <;> rw [hn] at hnote
    · refine .inr ⟨?_, crash, u, ?_, hnote⟩
      · -- only the sink can have crashed here
        cases hs : d.sinkCrashes Dispatcher.failureMetric with
        | true => rfl
        | false =>
          have hok := Dispatcher.noteFailure_fst hs r now
            (Run.log (.handlerFailed pass r message) w).2
          rw [hn] at hok
          cases hok
      · simp only [conclude, Run.log_bind]
        exact Run.bind_crash hn _
    · obtain ⟨report', v, h, hv⟩ := update_settle_ok (r.recordFailure Status.error none now)
        { report with errored := report.errored + 1 } (.resultLost pass _) (fun _ => rfl) u
      refine .inl ⟨report', v, ?_, hnote.leads_trans ?_⟩
      · simp only [conclude, Run.log_bind]
        rw [Run.bind_ok hn]
        exact h
      · rw [left_error, ← hnote.backend]
        exact hv
  · have hlog := Run.Harmless.log (e := .completed pass r status) rfl w
    obtain ⟨result, hw⟩ := writeDone_apply pass whenDone now hr status
      (Run.log (.completed pass r status) w).2
    obtain ⟨report', v, h, hv⟩ := write_settle_ok hw
      { report with completed := report.completed + 1 } (.resultLost pass r) (fun _ => rfl)
    exact .inl ⟨report', v, h, hlog.leads_trans hv⟩
  · have hlog := Run.Harmless.log
      (e := .retryRequested pass r (r.recordFailure Status.retry until? now)) rfl w
    obtain ⟨report', v, h, hv⟩ := update_settle_ok (r.recordFailure Status.retry until? now)
      { report with retried := report.retried + 1 } (.resultLost pass _) (fun _ => rfl)
      (Run.log (.retryRequested pass r (r.recordFailure Status.retry until? now)) w).2
    refine .inl ⟨report', v, h, hlog.leads_trans ?_⟩
    rw [left_retry]
    exact hv

/-- **The result of an attempt is written back** if the sink takes the count of a failure. -/
theorem conclude_ok (hs : d.sinkCrashes Dispatcher.failureMetric = false) {r : WorkRecord}
    (hr : r.processed = none) (report : Report) (result : Except String Outcome)
    (w : World Store) :
    ∃ report' v, conclude pass d whenDone now report r result w = (.ok report', v) ∧
      w.Leads [] (w.backend.leave r.id (left whenDone now r result)) v := by
  rcases conclude_cases pass whenDone now hr report result w with h | ⟨hcrash, -⟩
  · exact h
  · rw [hs] at hcrash
    cases hcrash

/-- What abandons a record removes it. -/
theorem abandon_ok (report : Report) (r : WorkRecord) (w : World Store) :
    ∃ report' v, abandon pass report r w = (.ok report', v) ∧
      w.Leads [] (w.backend.leave r.id none) v := by
  have hlog := Run.Harmless.log (e := .abandoning pass r) rfl w
  exact ⟨_, _, rfl, hlog.received, (List.append_nil _).symm, rfl⟩

/-- **A treated record** is dispatched unless it is expired, and what that leaves of it is stored.
-/
theorem treat_ok (hd : d.Quiet) {r : WorkRecord} (hr : r.processed = none) (report : Report)
    (w : World Store) :
    ∃ result report' v, treat pass d whenDone now report r w = (.ok report', v) ∧
      CanEnd d now r result ∧
      w.Leads (dispatchesOf pass now (fun _ => result) [r])
        (w.backend.leave r.id (remains whenDone now (fun _ => result) r)) v := by
  obtain ⟨result, u, hu, halike⟩ := tryDispatch_ok hd.onlyAnswers r now w
  have hend : CanEnd d now r result := ⟨w, congrArg Prod.fst hu⟩
  by_cases he : r.expiry ≤ now
  · obtain ⟨report', v, h, hv⟩ := abandon_ok pass report r w
    refine ⟨result, report', v, ?_, hend, ?_⟩
    · simpa only [treat, WorkRecord.isExpired, he, decide_true, if_true] using h
    · simpa [dispatchesOf, remains, WorkRecord.isExpired, he] using hv
  · let x : Dispatch := ⟨pass, r, now, result⟩
    obtain ⟨report', v, h, hv⟩ := conclude_ok pass whenDone now hd.counts hr
      { report with dispatched := report.dispatched + 1 } result
      (Run.dispatched x u).2
    have hx : w.Leads [x] u.backend (Run.dispatched x u).2 :=
      halike.leads_trans ⟨rfl, rfl, rfl⟩
    refine ⟨result, report', v, ?_, hend, ?_⟩
    · simp only [treat, WorkRecord.isExpired, he, decide_false, Bool.false_eq_true, if_false]
      rw [attempt]
      rw [Run.bind_ok hu]
      exact h
    · have hstore : (Run.dispatched x u).2.backend = w.backend := halike.backend
      simpa [dispatchesOf, remains, WorkRecord.isExpired, he, hstore] using hx.trans hv

/-- **A pass over unprocessed records** runs to its end. It dispatches those that are not expired,
in order, and leaves of each record what its own result says. -/
theorem foldlM_treat (hd : d.Quiet) {rs : List WorkRecord} (hn : (rs.map (·.id)).Nodup)
    (hp : ∀ r ∈ rs, r.processed = none) (report : Report) (w : World Store) :
    ∃ result report' v, rs.foldlM (treat pass d whenDone now) report w = (.ok report', v) ∧
      (∀ r ∈ rs, CanEnd d now r (result r)) ∧
      w.Leads (dispatchesOf pass now result rs)
        (w.backend.leaveAll (remains whenDone now result) rs) v := by
  induction rs generalizing report w with
  | nil => exact ⟨fun _ => .error "", report, w, rfl, by simp, rfl, by simp [dispatchesOf], rfl⟩
  | cons r rs ih =>
    rw [List.map_cons, List.nodup_cons] at hn
    obtain ⟨one, report₁, u, hu, hone, hleads⟩ := treat_ok pass whenDone now hd
      (hp r List.mem_cons_self) report w
    obtain ⟨rest, report₂, v, hv, hrest, hleads'⟩ := ih hn.2
      (fun x hx => hp x (List.mem_cons_of_mem _ hx)) report₁ u
    -- the rest has other identifiers, so each record has one result
    have hsame : ∀ x ∈ rs, resultWith rest r one x = rest x := by
      intro x hx
      have hne : x ≠ r := fun h => hn.1 (List.mem_map.2 ⟨x, hx, congrArg _ h⟩)
      exact if_neg hne
    have hself : ∀ x ∈ [r], resultWith rest r one x = one := by
      intro x hx
      exact if_pos (List.mem_singleton.1 hx)
    refine ⟨resultWith rest r one, report₂, v, ?_, ?_, ?_⟩
    · rw [List.foldlM_cons, Run.bind_ok hu]
      exact hv
    · intro x hx
      rcases List.mem_cons.1 hx with rfl | hx
      · rw [hself x List.mem_cons_self]
        exact hone
      · rw [hsame x hx]
        exact hrest x hx
    · rw [hleads.backend] at hleads'
      rw [dispatchesOf_cons, dispatchesOf_congr (g := fun _ => one) hself, dispatchesOf_congr hsame,
        Store.leaveAll_cons, remains_congr (g := fun _ => one) (hself r List.mem_cons_self),
        Store.leaveAll_congr fun x hx => remains_congr (hsame x hx)]
      exact hleads.trans hleads'

end Pass

end Reconciliation
