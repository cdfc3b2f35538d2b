import Reconciliation.Proofs.Containment
import Reconciliation.Proofs.Trace

/-!
# Reports and metrics add up

What a pass did can be read in two places. Its report counts, in four functions that each
count a part; the traces list the dispatches, the metric events and the calls that failed.
Here the two are shown to agree, for any backend, whichever of its calls fail, and for any
handlers, which may also change the store.

Which metric events there are is told dispatch by dispatch, `Dispatch.metricsDue`, with the names
and the tags as they are written.

What a part of a pass did is an `Entry`. Entries are put together by appending them
(`World.Enters.trans`), a report that has taken in one entry after the other has taken in
both (`Report.enter_append`), and every step of a pass enters one record
(`Pass.treat_enters`, `Aggregate.discard_enters`).

Main statement: `Pass.adds_up`.
-/

namespace Reconciliation

/-! ## What the traces say -/

/-- The stale duplicate that the aggregation has found, in the event that says so. -/
def Log.Event.discarded? : Log.Event → Option WorkRecord
  | duplicateFound r => some r
  | _ => none

/-- The records that the aggregation has found to be stale duplicates, oldest first. -/
def World.discarded {σ : Type} (w : World σ) : List WorkRecord :=
  w.log.filterMap Log.Event.discarded?

namespace Dispatch

/-- The record was done. A record without a handler is completed as well. -/
def isCompleted (x : Dispatch) : Bool := x.result matches .ok (.completed _)

/-- The handler asked for another attempt. -/
def isRetried (x : Dispatch) : Bool := x.result matches .ok (.retry _)

/-- The handler failed or crashed. -/
def isErrored (x : Dispatch) : Bool := x.result matches .error _

/-- A dispatch ends in one of three ways. -/
theorem countP_ends (xs : List Dispatch) :
    xs.countP isCompleted + xs.countP isRetried + xs.countP isErrored = xs.length := by
  induction xs with
  | nil => rfl
  | cons x xs ih =>
    rcases x with ⟨pass, r, now, message | status | until?⟩ <;>
      simp only [List.countP_cons, List.length_cons, isCompleted, isRetried, isErrored,
        if_true, if_false, Bool.false_eq_true] at ih ⊢ <;> omega

end Dispatch

/-- Whether a record expires within a span from an instant. Where the span leads past the last
instant, every record does. -/
def WorkRecord.expiresWithin (r : WorkRecord) (window : Span) (now : Instant) : Bool :=
  match now.add? window with
  | some horizon => decide (r.expiry ≤ horizon)
  | none => true

namespace Dispatch

/-- The tags of the metric events of a dispatch: the kind of its record, and the retry count that
the record had before the attempt. -/
def labels (x : Dispatch) : List (String × String) :=
  [("eventType", x.record.eventType.name), ("retryCount", Nat.repr x.record.retryCount.toNat)]

/-- The metric events that are due for a dispatch. If it completed they are a success and the age of
the record; any other dispatch is a failure, which is told if the record expires soon. -/
def metricsDue (window : Span) (x : Dispatch) : List MetricEvent :=
  if x.isCompleted then
    [.increment "reconciler_message_success_total" x.labels,
      .observe "reconciler_message_age_seconds" (max (x.record.age x.now).millis 0) x.labels]
  else if x.record.expiresWithin window x.now then
    [.increment "reconciler_message_failure_total" x.labels]
  else []

/-- Whatever is due for a dispatch has its tags. -/
theorem tags_of_mem_metricsDue {window : Span} {x : Dispatch} {m : MetricEvent}
    (hm : m ∈ x.metricsDue window) : m.tags = x.labels := by
  rw [metricsDue] at hm
  split at hm
  · simp only [List.mem_cons, List.not_mem_nil, or_false] at hm
    rcases hm with rfl | rfl <;> rfl
  · split at hm
    · rw [List.mem_singleton.1 hm]
      rfl
    · cases hm

end Dispatch

namespace Dispatcher

/-- The metric events that a failed attempt of a record calls for. There is one if the record
expires within the failure window, and none otherwise. -/
def failureMetrics (d : Dispatcher) (r : WorkRecord) (now : Instant) : List MetricEvent :=
  if r.expiresWithin d.failureWindow now then [.increment failureMetric (tags r)] else []

/-- The metric events that an attempt of a record calls for, by how it ended. -/
def metricsFor (d : Dispatcher) (r : WorkRecord) (now : Instant) :
    Except String Outcome → List MetricEvent
  | .ok (.completed _) =>
    [.increment successMetric (tags r), .observe ageMetric (max (r.age now).millis 0) (tags r)]
  | .ok (.retry _) => d.failureMetrics r now
  | .error _ => d.failureMetrics r now

/-- The part of them that is emitted before the result is handed on: the pass itself counts what
ended without an outcome. -/
def metricsBefore (d : Dispatcher) (r : WorkRecord) (now : Instant) :
    Except Crash (Except String Outcome) → List MetricEvent
  | .ok (.ok o) => d.metricsFor r now (.ok o)
  | .ok (.error _) => []
  | .error _ => []

/-- The rest of them. -/
def metricsAfter (d : Dispatcher) (r : WorkRecord) (now : Instant) :
    Except String Outcome → List MetricEvent
  | .ok _ => []
  | .error _ => d.failureMetrics r now

/-- The events of an attempt are emitted in two parts, around the handing on of its result. -/
theorem metricsFor_eq (d : Dispatcher) (r : WorkRecord) (now : Instant)
    (result : Except String Outcome) :
    d.metricsFor r now result =
      d.metricsBefore r now (.ok result) ++ d.metricsAfter r now result := by
  cases result with
  | ok o => exact (List.append_nil _).symm
  | error message => rfl

/-- The metric events that some dispatches call for. -/
def metricsOf (d : Dispatcher) (xs : List Dispatch) : List MetricEvent :=
  xs.flatMap fun x => d.metricsFor x.record x.now x.result

/-- The dispatcher counts a failure of exactly the records that expire within its window. -/
theorem countsFailure_eq (d : Dispatcher) (r : WorkRecord) (now : Instant) :
    d.countsFailure r now = r.expiresWithin d.failureWindow now := by
  rw [countsFailure, WorkRecord.expiresWithin]
  cases now.add? d.failureWindow with
  | none => rfl
  | some horizon =>
    have hnot : ¬ horizon < r.expiry ↔ r.expiry ≤ horizon := Int.not_lt
    simp only [← hnot, decide_not]

section Sink

variable {σ : Type} {d : Dispatcher} (hs : ∀ name, d.sinkCrashes name = false)
include hs

/-- An event that the sink takes is added to the trace. -/
theorem emit_apply (e : MetricEvent) (w : World σ) :
    d.emit e w = (.ok (), { w with metrics := w.metrics ++ [e] }) := by
  simp [emit, Run.bind_apply, Run.record, hs]

/-- Counting a failed attempt emits what a failure calls for. -/
theorem noteFailure_apply (r : WorkRecord) (now : Instant) (w : World σ) :
    d.noteFailure r now w =
      (.ok (), { w with metrics := w.metrics ++ d.failureMetrics r now }) := by
  rw [noteFailure, failureMetrics, ← countsFailure_eq]
  split
  · exact emit_apply hs _ w
  · rw [List.append_nil]
    rfl

/-- Counting a completed attempt emits a success and an age. -/
theorem noteSuccess_apply (status : String) (r : WorkRecord) (now : Instant) (w : World σ) :
    d.noteSuccess r now w = (.ok (), { w with
      metrics := w.metrics ++ d.metricsFor r now (.ok (.completed status)) }) := by
  rw [noteSuccess, Run.bind_ok (emit_apply hs _ w), emit_apply hs, List.append_assoc]
  rfl

end Sink

/-! ## Counting metric events -/

section Counts

variable {d : Dispatcher} {now : Instant} {xs : List Dispatch}

/-- Where every event of a kind of events is called for by one dispatch. -/
theorem countP_metricsOf (p : MetricEvent → Bool) (q : Dispatch → Bool)
    (h : ∀ x ∈ xs, (d.metricsFor x.record x.now x.result).countP p = if q x then 1 else 0) :
    (d.metricsOf xs).countP p = xs.countP q := by
  induction xs with
  | nil => rfl
  | cons x xs ih =>
    rw [metricsOf, List.flatMap_cons, List.countP_append, h x List.mem_cons_self, List.countP_cons,
      Nat.add_comm]
    exact congrArg (· + _) (ih fun y hy => h y (List.mem_cons_of_mem x hy))

/-- Of a failed attempt there is one event of a kind at most, and only if the record expires soon.
-/
theorem countP_failureMetrics (d : Dispatcher) (r : WorkRecord) (now : Instant)
    (p : MetricEvent → Bool) : (d.failureMetrics r now).countP p =
      if p (.increment failureMetric (tags r)) && r.expiresWithin d.failureWindow now
      then 1 else 0 := by
  rw [failureMetrics, Bool.and_comm]
  cases r.expiresWithin d.failureWindow now with
  | true => exact List.countP_singleton
  | false => rfl

/-- There are as many successes as completed dispatches. -/
theorem count_success (d : Dispatcher) (xs : List Dispatch) :
    MetricEvent.count (d.metricsOf xs) successMetric = xs.countP (·.isCompleted) := by
  refine countP_metricsOf _ _ fun x _ => ?_
  rcases x with ⟨pass, r, t, message | status | until?⟩
  · exact d.countP_failureMetrics r t _
  · rfl
  · exact d.countP_failureMetrics r t _

/-- There are as many observed ages. -/
theorem count_age (d : Dispatcher) (xs : List Dispatch) :
    (d.metricsOf xs).countP (fun m => !m.isIncrement && m.name == ageMetric) =
      xs.countP (·.isCompleted) := by
  refine countP_metricsOf _ _ fun x _ => ?_
  rcases x with ⟨pass, r, t, message | status | until?⟩
  · exact d.countP_failureMetrics r t _
  · rfl
  · exact d.countP_failureMetrics r t _

/-- There are as many failures as dispatches that ended otherwise, of records that expire soon. -/
theorem count_failure (hdated : ∀ x ∈ xs, x.now = now) :
    MetricEvent.count (d.metricsOf xs) failureMetric = xs.countP fun x =>
      (x.isRetried || x.isErrored) && x.record.expiresWithin d.failureWindow now := by
  refine countP_metricsOf _ _ fun x hx => ?_
  obtain rfl := hdated x hx
  rcases x with ⟨pass, r, t, message | status | until?⟩
  · exact d.countP_failureMetrics r t _
  · rfl
  · exact d.countP_failureMetrics r t _

/-- What a dispatcher emits is what is due for each dispatch. -/
theorem metricsOf_eq (d : Dispatcher) (xs : List Dispatch) :
    d.metricsOf xs = xs.flatMap (·.metricsDue d.failureWindow) := by
  refine List.flatMap_congr fun x _ => ?_
  rcases x with ⟨pass, r, t, message | status | until?⟩
  · rfl
  · rfl
  · rfl

end Counts

end Dispatcher

/-- Whether a call was to delete a record that is expired, or one of some stale duplicates. -/
def StoreCall.clears (now : Instant) (duplicates : List WorkRecord) : StoreCall → Bool
  | delete r => r.isExpired now || decide (r ∈ duplicates)
  | _ => false

/-- A view of a backend that neither the calls by which a pass selects its records nor a deletion
that fails can change. -/
structure RecordStore.Steady {σ β : Type} [RecordStore σ] (view : σ → β) : Prop where
  untriedBefore : ∀ t s, view (RecordStore.untriedBefore t s).2 = view s
  unprocessedIn : ∀ b s, view (RecordStore.unprocessedIn b s).2 = view s
  unprocessedOf : ∀ e s, view (RecordStore.unprocessedOf e s).2 = view s
  delete : ∀ r s e, (RecordStore.delete r s).1 = .error e → view (RecordStore.delete r s).2 = view s

/-- The records of a store that can fail are such a view. -/
theorem FaultyStore.steady_store : RecordStore.Steady FaultyStore.store := by
  have hcall : ∀ {α : Type} (c : StoreCall) (a : Store → Except StoreError α) (s : FaultyStore),
      (s.call c fun inner => (a inner, inner)).2.store = s.store := by
    intro α c a s
    rw [FaultyStore.call]
    rcases Fault.strike c s.faults with ⟨_ | e, faults⟩ <;> rfl
  refine ⟨fun t s => hcall _ _ s, fun b s => hcall _ _ s, fun e s => hcall _ _ s, ?_⟩
  intro r s e
  change (FaultyStore.call (.delete r) _ s).1 = _ → (FaultyStore.call (.delete r) _ s).2.store = _
  rw [FaultyStore.call]
  rcases Fault.strike (.delete r) s.faults with ⟨_ | e, faults⟩
  · intro h
    cases h
  · exact fun _ => rfl

/-! ## Entries -/

/-- What a part of a pass did. A report counts what entries say, and the books have the metric
events of their dispatches and their failed calls. -/
structure Entry where
  dispatches : List Dispatch
  /-- How many records it deleted as expired. -/
  abandoned : Nat
  /-- The stale duplicates that it found. -/
  duplicates : List WorkRecord
  /-- How many of them it deleted. -/
  discarded : Nat
  /-- Its calls that failed. -/
  failed : List StoreCall

namespace Entry

instance : Append Entry :=
  ⟨fun e f => ⟨e.dispatches ++ f.dispatches, e.abandoned + f.abandoned,
    e.duplicates ++ f.duplicates, e.discarded + f.discarded, e.failed ++ f.failed⟩⟩

/-- Nothing but calls that failed. -/
def failures (cs : List StoreCall) : Entry := ⟨[], 0, [], 0, cs⟩

/-- Failed calls are entered one by one. -/
theorem failures_cons (c : StoreCall) (cs : List StoreCall) :
    failures (c :: cs) = failures [c] ++ failures cs := rfl

/-- Where no call failed there is nothing to enter. -/
theorem failures_nil_append (e : Entry) : failures [] ++ e = e := by
  change Entry.mk _ (0 + e.abandoned) _ (0 + e.discarded) _ = e
  rw [Nat.zero_add, Nat.zero_add]
  rfl

/-- How many records an entry is about: those that were dispatched, those that were deleted without
a dispatch, and those whose deletion failed. -/
def size (now : Instant) (duplicates : List WorkRecord) (e : Entry) : Nat :=
  e.dispatches.length + e.abandoned + e.discarded + e.failed.countP (·.clears now duplicates)

/-- Two entries are about as many records as both of them. -/
theorem size_append (now : Instant) (duplicates : List WorkRecord) (e f : Entry) :
    (e ++ f).size now duplicates = e.size now duplicates + f.size now duplicates := by
  change (e.dispatches ++ f.dispatches).length + (e.abandoned + f.abandoned) +
    (e.discarded + f.discarded) + (e.failed ++ f.failed).countP _ = _
  rw [List.length_append, List.countP_append, size, size]
  omega

end Entry

/-- The report that has taken an entry in. -/
def Report.enter (report : Report) (e : Entry) : Report :=
  { report with
    dispatched := report.dispatched + e.dispatches.length
    completed := report.completed + e.dispatches.countP (·.isCompleted)
    retried := report.retried + e.dispatches.countP (·.isRetried)
    errored := report.errored + e.dispatches.countP (·.isErrored)
    discarded := report.discarded + e.discarded
    abandoned := report.abandoned + e.abandoned
    storeErrors := report.storeErrors + e.failed.length }

/-- A report takes in two entries as one, each count for itself. -/
theorem Report.enter_append (report : Report) (e f : Entry) :
    report.enter (e ++ f) = (report.enter e).enter f := by
  have hdispatches : (e ++ f).dispatches = e.dispatches ++ f.dispatches := rfl
  have hfailed : (e ++ f).failed = e.failed ++ f.failed := rfl
  have habandoned : (e ++ f).abandoned = e.abandoned + f.abandoned := rfl
  have hdiscarded : (e ++ f).discarded = e.discarded + f.discarded := rfl
  simp only [enter, hdispatches, hfailed, habandoned, hdiscarded, List.length_append,
    List.countP_append, Nat.add_assoc]

/-- The part of the traces that handlers do not write. Each part of a pass is told by what it adds
to them. -/
structure Books where
  dispatches : List Dispatch
  discarded : List WorkRecord
  metrics : List MetricEvent
  failed : List StoreCall

namespace Books

/-- Some metric events more. -/
def emit (b : Books) (ms : List MetricEvent) : Books := { b with metrics := b.metrics ++ ms }

/-- Some failed calls more. -/
def note (b : Books) (cs : List StoreCall) : Books := { b with failed := b.failed ++ cs }

/-- An entry more, with the metric events that its dispatches call for. -/
def enter (d : Dispatcher) (b : Books) (e : Entry) : Books :=
  ⟨b.dispatches ++ e.dispatches, b.discarded ++ e.duplicates,
    b.metrics ++ d.metricsOf e.dispatches, b.failed ++ e.failed⟩

theorem emit_nil (b : Books) : b.emit [] = b := by rw [emit, List.append_nil]

theorem note_nil (b : Books) : b.note [] = b := by rw [note, List.append_nil]

/-- Failed calls change the books only in the list of failed calls. -/
theorem enter_failures (d : Dispatcher) (b : Books) (cs : List StoreCall) :
    b.enter d (.failures cs) = b.note cs := by
  simp [enter, note, Entry.failures, Dispatcher.metricsOf]

/-- The books take in two entries as one. -/
theorem enter_append (d : Dispatcher) (b : Books) (e f : Entry) :
    b.enter d (e ++ f) = (b.enter d e).enter d f := by
  have happend : e ++ f = ⟨e.dispatches ++ f.dispatches, e.abandoned + f.abandoned,
    e.duplicates ++ f.duplicates, e.discarded + f.discarded, e.failed ++ f.failed⟩ := rfl
  simp only [enter, happend, Dispatcher.metricsOf, List.flatMap_append, List.append_assoc]

end Books

namespace World

variable {σ : Type}

/-- All that entries are about, but for what handlers do. -/
def books (w : World (Watched σ)) : Books :=
  ⟨w.dispatches, w.discarded, w.metrics, w.backend.failed⟩

/-- What is logged is not booked, but for the duplicates that are found. -/
theorem log_keeps_books {x : Log.Event} (hx : x.discarded? = none) :
    Run.Keeps books (Run.log x : Run (Watched σ) Unit) := by
  intro w
  simp [Run.log, books, discarded, List.filterMap_append, hx]

end World

/-! ## Writes -/

namespace Pass

variable {σ : Type} {now : Instant} {duplicates : List WorkRecord}

/-- A write that is noted if it fails, and not as one that was to clear a record away. -/
def Notes (now : Instant) (duplicates : List WorkRecord)
    (write : Run (Watched σ) (Except StoreError Unit)) : Prop :=
  ∀ w, ∃ result cs v, write w = (.ok result, v) ∧ cs.length = StoreError.count result ∧
    (∀ c ∈ cs, c.clears now duplicates = false) ∧ v.books = w.books.note cs

/-- A watched call is noted if it fails. -/
theorem Notes.watch {c : StoreCall} (f : σ → Except StoreError Unit × σ)
    (hc : c.clears now duplicates = false) :
    Notes now duplicates (Run.step (Watched.watch c f)) := by
  intro w
  rcases hf : f w.backend.inner with ⟨error | _, inner⟩
  · refine ⟨.error error, [c], _, Watched.step_error hf, rfl, fun x hx => ?_, rfl⟩
    rw [List.mem_singleton.1 hx]
    exact hc
  · refine ⟨.ok (), [], _, Watched.step_ok hf, rfl, fun x hx => absurd hx List.not_mem_nil, ?_⟩
    exact w.books.note_nil.symm

/-- After a write whose failure is only counted, the failure is noted. -/
theorem Notes.settle {write : Run (Watched σ) (Except StoreError Unit)}
    (h : Notes now duplicates write) (report : Report) (event : StoreError → Log.Event)
    (he : ∀ e, (event e).discarded? = none) (w : World (Watched σ)) :
    ∃ cs v, (write >>= fun result => Pass.settle report result event) w =
        (.ok (report.enter (.failures cs)), v) ∧
      (∀ c ∈ cs, c.clears now duplicates = false) ∧ v.books = w.books.note cs := by
  obtain ⟨result, cs, v, hv, hlength, hcs, hbooks⟩ := h w
  rw [Run.bind_ok hv]
  cases result with
  | ok =>
    obtain rfl : cs = [] := List.length_eq_zero_iff.1 hlength
    exact ⟨[], v, rfl, hcs, hbooks⟩
  | error e =>
    refine ⟨cs, (Run.log (event e) v).2, ?_, hcs, (World.log_keeps_books (he e) v).trans hbooks⟩
    have hreport : report.enter (.failures cs) =
        { report with storeErrors := report.storeErrors + cs.length } := rfl
    rw [hreport, hlength]
    rfl

end Pass

variable {σ α : Type} [RecordStore σ] {d : Dispatcher} {now : Instant} {e f : Entry}
  {u v w : World (Watched σ)} {r : WorkRecord} {report : Report} {duplicates : List WorkRecord}

/-! ## Dispatches -/

open Run (Keeps)

namespace Dispatcher

/-- Handlers do not write the books, whatever they do to the store. -/
theorem outcome_keeps_books (d : Dispatcher) (r : WorkRecord) :
    Keeps World.books (d.outcome r : Run (Watched σ) _) := by
  have hedits : ∀ (es : List Edit) (made : Nat),
      Keeps World.books (makeEdits made es : Run (Watched σ) _) := by
    intro es
    induction es with
    | nil => exact fun made => .pure _
    | cons e es ih =>
      intro made
      have hedit : Keeps World.books (Records.edit e : Run (Watched σ) _) := fun _ => rfl
      refine hedit.bind fun result => ?_
      cases result with
      | ok => exact ih (made + 1)
      | error e => exact .pure _
  rw [Dispatcher.outcome]
  split
  · rename_i h hh
    have hcall : ∀ c, Keeps World.books (Run.call c : Run (Watched σ) Unit) := fun _ _ => rfl
    refine Keeps.world.bind fun w => (hedits _ 0).bind fun made => (hcall _).bind fun _ => ?_
    rcases made with ⟨n, e | _⟩
    · exact .pure _
    · dsimp only
      split
      · exact .pure _
      · exact .pure _
      · exact .crash _
  · exact (World.log_keeps_books rfl).bind fun _ => .pure _

/-- **A dispatch emits** what its outcome calls for; if it has none, it emits nothing. -/
theorem dispatch_books (hs : ∀ name, d.sinkCrashes name = false) (r : WorkRecord) (now : Instant)
    (w : World (Watched σ)) :
    ∃ result v, d.dispatch r now w = (result, v) ∧
      v.books = w.books.emit (d.metricsBefore r now result) := by
  have hkept := outcome_keeps_books d r w
  rw [Dispatcher.dispatch]
  rcases ho : d.outcome r w with ⟨c | message | status | until?, u⟩ <;> rw [ho] at hkept
  · exact ⟨_, u, Run.bind_crash ho _, hkept.trans w.books.emit_nil.symm⟩
  · exact ⟨.ok (.error message), u, Run.bind_ok ho _, hkept.trans w.books.emit_nil.symm⟩
  · refine ⟨.ok (.ok (.completed status)), _, (Run.bind_ok ho _).trans
      (Run.bind_ok (noteSuccess_apply hs status r now u) _), ?_⟩
    exact congrArg (Books.emit · _) hkept
  · refine ⟨.ok (.ok (.retry until?)), _, (Run.bind_ok ho _).trans
      (Run.bind_ok (noteFailure_apply hs r now u) _), ?_⟩
    exact congrArg (Books.emit · _) hkept

end Dispatcher

/-! ## Attempts -/

namespace Pass

/-- Attempts clear nothing away, if they do not take part in a search for duplicates or keep what
is done. -/
theorem writeDone_notes (pass : String) (whenDone : WhenDone)
    (hdone : whenDone = .remove → duplicates = []) (hr : r.isExpired now = false)
    (status : String) :
    Notes now duplicates (writeDone pass whenDone r status now : Run (Watched σ) _) := by
  cases whenDone with
  | remove => exact Notes.watch _ (by simp [StoreCall.clears, hr, hdone rfl])
  | keep =>
    rw [writeDone]
    cases r.markProcessed status now with
    | ok done => exact Notes.watch _ rfl
    | error before =>
      intro w
      refine ⟨.ok (), [], _, rfl, rfl, fun c hc => absurd hc List.not_mem_nil, ?_⟩
      exact (World.log_keeps_books rfl w).trans w.books.note_nil.symm

variable (hs : ∀ name, d.sinkCrashes name = false)
include hs

/-- An attempt's dispatch emits what is emitted before its result is handed on. -/
theorem tryDispatch_books (r : WorkRecord) (now : Instant) (w : World (Watched σ)) :
    ∃ result v, tryDispatch d r now w = (.ok result, v) ∧
      v.books = w.books.emit (d.metricsBefore r now (.ok result)) := by
  obtain ⟨result, v, hv, hbooks⟩ := Dispatcher.dispatch_books hs r now w
  have hcaught : (d.dispatch r now).caught w = (.ok result, v) := by
    rw [Run.caught, hv]
    cases result <;> rfl
  rw [tryDispatch, Run.bind_ok hcaught]
  rcases result with c | message | o
  · exact ⟨.error ("handler panicked: " ++ c.text), v, rfl, hbooks⟩
  · exact ⟨.error message, v, rfl, hbooks⟩
  · exact ⟨.ok o, v, rfl, hbooks⟩

/-- **The conclusion of an attempt** emits the rest, and the dispatch is entered. -/
theorem conclude_books (pass : String) (whenDone : WhenDone)
    (hdone : whenDone = .remove → duplicates = []) (hr : r.isExpired now = false)
    (report : Report) (result : Except String Outcome) (w : World (Watched σ)) :
    ∃ cs v, conclude pass d whenDone now { report with dispatched := report.dispatched + 1 } r
        result w = (.ok (report.enter ⟨[⟨pass, r, now, result⟩], 0, [], 0, cs⟩), v) ∧
      (∀ c ∈ cs, c.clears now duplicates = false) ∧
      v.books = (w.books.emit (d.metricsAfter r now result)).note cs := by
  have hupdate : ∀ next, Notes now duplicates (Records.update next : Run (Watched σ) _) :=
    fun next => Notes.watch _ rfl
  rcases result with message | status | until?
  · have hlog := World.log_keeps_books (x := .handlerFailed pass r message) rfl w
    obtain ⟨cs, v, hv, hcs, hbooks⟩ := (hupdate (r.recordFailure Status.error none now)).settle
      { report with dispatched := report.dispatched + 1, errored := report.errored + 1 }
      (.resultLost pass _) (fun _ => rfl)
      { (Run.log (.handlerFailed pass r message) w).2 with
        metrics := w.metrics ++ d.failureMetrics r now }
    refine ⟨cs, v, ?_, hcs, hbooks.trans ?_⟩
    · rw [conclude, Run.log_bind, Run.bind_ok (Dispatcher.noteFailure_apply hs _ _ _)]
      exact hv
    · exact congrArg (fun b : Books => (b.emit (d.failureMetrics r now)).note cs) hlog
  · obtain ⟨cs, v, hv, hcs, hbooks⟩ := (writeDone_notes pass whenDone hdone hr status).settle
      { report with dispatched := report.dispatched + 1, completed := report.completed + 1 }
      (.resultLost pass r) (fun _ => rfl) (Run.log (.completed pass r status) w).2
    refine ⟨cs, v, hv, hcs, hbooks.trans ?_⟩
    rw [World.log_keeps_books rfl w]
    exact congrArg (Books.note · cs) w.books.emit_nil.symm
  · obtain ⟨cs, v, hv, hcs, hbooks⟩ := (hupdate (r.recordFailure Status.retry until? now)).settle
      { report with dispatched := report.dispatched + 1, retried := report.retried + 1 }
      (.resultLost pass _) (fun _ => rfl)
      (Run.log (.retryRequested pass r (r.recordFailure Status.retry until? now)) w).2
    refine ⟨cs, v, hv, hcs, hbooks.trans ?_⟩
    rw [World.log_keeps_books rfl w]
    exact congrArg (Books.note · cs) w.books.emit_nil.symm

end Pass

/-! ## Entries of a pass -/

namespace World

/-- No handler was called, and whatever view of the backend is steady is as before. -/
structure Untouched (w v : World (Watched σ)) : Prop where
  calls : v.calls = w.calls
  backend : ∀ (β : Type) (view : σ → β), RecordStore.Steady view →
    view v.backend.inner = view w.backend.inner

/-- From one world to the next an entry was made: nothing else was dispatched, emitted, found or
failed, and if nothing was dispatched or deleted, the world is untouched. -/
structure Enters (d : Dispatcher) (now : Instant) (w : World (Watched σ)) (e : Entry)
    (v : World (Watched σ)) : Prop where
  books : v.books = w.books.enter d e
  dated : ∀ x ∈ e.dispatches, x.now = now
  untouched : e.dispatches = [] → e.abandoned = 0 → e.discarded = 0 → w.Untouched v

theorem Untouched.refl (w : World (Watched σ)) : w.Untouched w := ⟨rfl, fun _ _ _ => rfl⟩

theorem Untouched.trans (h : u.Untouched v) (k : v.Untouched w) : u.Untouched w :=
  ⟨k.calls.trans h.calls, fun β view hv => (k.backend β view hv).trans (h.backend β view hv)⟩

/-- Entries are put together in the order of the parts of a run. -/
theorem Enters.trans (h : u.Enters d now e v) (k : v.Enters d now f w) :
    u.Enters d now (e ++ f) w := by
  refine ⟨?_, ?_, ?_⟩
  · rw [k.books, h.books, Books.enter_append]
  · intro x hx
    rcases List.mem_append.1 hx with hx | hx
    · exact h.dated x hx
    · exact k.dated x hx
  · intro hdispatches habandoned hdiscarded
    obtain ⟨he, hf⟩ := List.append_eq_nil_iff.1 hdispatches
    obtain ⟨ha, ha'⟩ := Nat.add_eq_zero_iff.1 habandoned
    obtain ⟨hd, hd'⟩ := Nat.add_eq_zero_iff.1 hdiscarded
    exact (h.untouched he ha hd).trans (k.untouched hf ha' hd')

/-- Failed calls, and nothing else. -/
theorem Enters.of_failures {cs : List StoreCall} (hbooks : v.books = w.books.note cs)
    (huntouched : w.Untouched v) : w.Enters d now (.failures cs) v :=
  ⟨hbooks.trans (w.books.enter_failures d cs).symm, fun _ hx => absurd hx List.not_mem_nil,
    fun _ _ _ => huntouched⟩

/-- Where nothing happens, nothing is entered. -/
theorem Enters.refl (w : World (Watched σ)) : w.Enters d now (.failures []) w :=
  .of_failures w.books.note_nil.symm (.refl w)

/-- What is logged afterwards is not entered. -/
theorem Enters.log (h : u.Enters d now e v) {x : Log.Event} (hx : x.discarded? = none) :
    u.Enters d now e (Run.log x v).2 :=
  ⟨(log_keeps_books hx v).trans h.books, h.dated, fun hdispatches habandoned hdiscarded =>
    (h.untouched hdispatches habandoned hdiscarded).trans ⟨rfl, fun _ _ _ => rfl⟩⟩

end World

namespace Pass

variable (d now duplicates) in
/-- A step of a pass that is about one record and enters it, with the duplicates that it finds. -/
def EntersOne (step : Report → WorkRecord → Run (Watched σ) Report)
    (found : List WorkRecord) (r : WorkRecord) : Prop :=
  ∀ report w, ∃ e v, step report r w = (.ok (report.enter e), v) ∧ w.Enters d now e v ∧
    e.size now duplicates = 1 ∧ e.duplicates = found

/-- **Some steps together** enter their records. -/
theorem foldlM_enters {step : Report → WorkRecord → Run (Watched σ) Report}
    {found : WorkRecord → List WorkRecord} {rs : List WorkRecord}
    (hstep : ∀ r ∈ rs, EntersOne d now duplicates step (found r) r) (report : Report)
    (w : World (Watched σ)) :
    ∃ e v, rs.foldlM step report w = (.ok (report.enter e), v) ∧ w.Enters d now e v ∧
      e.size now duplicates = rs.length ∧ e.duplicates = rs.flatMap found := by
  induction rs generalizing report w with
  | nil => exact ⟨.failures [], w, rfl, .refl w, rfl, rfl⟩
  | cons r rs ih =>
    obtain ⟨e, u, hu, he, hsize, hfound⟩ := hstep r List.mem_cons_self report w
    obtain ⟨f, v, hv, hf, hsize', hfound'⟩ :=
      ih (fun x hx => hstep x (List.mem_cons_of_mem _ hx)) (report.enter e) u
    refine ⟨e ++ f, v, ?_, he.trans hf, ?_, ?_⟩
    · rw [List.foldlM_cons, Run.bind_ok hu, Report.enter_append]
      exact hv
    · rw [Entry.size_append, hsize, hsize', List.length_cons, Nat.add_comm]
    · rw [List.flatMap_cons, ← hfound, ← hfound']
      rfl

/-- A deletion that clears a record away, and is counted as such. -/
theorem delete_enters {step : Report → WorkRecord → Run (Watched σ) Report} {a b : Nat}
    (hcount : a + b = 1) (hr : (StoreCall.delete r).clears now duplicates = true)
    (logged : Log.Event) (kept : StoreError → Log.Event)
    (hkept : ∀ e, (kept e).discarded? = none)
    (hstep : ∀ report, step report r = (do
      Run.log logged
      match ← Records.delete r with
      | .ok () => pure (report.enter ⟨[], a, [], b, []⟩)
      | .error e => settle report (.error e) kept)) :
    EntersOne d now duplicates step logged.discarded?.toList r := by
  intro report w
  have hlog : (Run.log logged w).2.books =
      { w.books with discarded := w.books.discarded ++ logged.discarded?.toList } := by
    cases hfound : logged.discarded? <;>
      simp [Run.log, World.books, World.discarded, List.filterMap_append, hfound]
  rw [hstep, Run.log_bind]
  rcases hdelete : RecordStore.delete r w.backend.inner with ⟨error | _, inner⟩
  · have h := Watched.step_error (c := .delete r) (w := (Run.log logged w).2) hdelete
    refine ⟨⟨[], 0, logged.discarded?.toList, 0, [.delete r]⟩, _, Run.bind_ok h _, ⟨?_, ?_, ?_⟩,
      ?_, rfl⟩
    · refine (World.log_keeps_books (hkept error) _).trans ?_
      refine (congrArg (Books.note · [.delete r]) hlog).trans ?_
      simp [Books.enter, Books.note, Dispatcher.metricsOf]
    · exact fun x hx => absurd hx List.not_mem_nil
    · refine fun _ _ _ => ⟨rfl, fun β view hview => ?_⟩
      have hkeeps := hview.delete r w.backend.inner error (by rw [hdelete])
      rw [hdelete] at hkeeps
      exact hkeeps
    · simp [Entry.size, hr]
  · have h := Watched.step_ok (c := .delete r) (w := (Run.log logged w).2) hdelete
    refine ⟨⟨[], a, logged.discarded?.toList, b, []⟩, _, Run.bind_ok h _, ⟨?_, ?_, ?_⟩, ?_, rfl⟩
    · refine Eq.trans hlog ?_
      simp [Books.enter, Dispatcher.metricsOf]
    · exact fun x hx => absurd hx List.not_mem_nil
    · intro _ ha hb
      change a = 0 at ha
      change b = 0 at hb
      omega
    · simp [Entry.size, hcount]

variable (hs : ∀ name, d.sinkCrashes name = false)
include hs

/-- **An attempt** enters its dispatch. -/
theorem attempt_enters (pass : String) (whenDone : WhenDone)
    (hdone : whenDone = .remove → duplicates = []) (hr : r.isExpired now = false) :
    EntersOne d now duplicates (attempt pass d whenDone now : _ → _ → Run (Watched σ) _) [] r := by
  intro report w
  obtain ⟨result, u, hu, hbefore⟩ := tryDispatch_books hs r now w
  let x : Dispatch := ⟨pass, r, now, result⟩
  obtain ⟨cs, v, hv, hcs, hbooks⟩ :=
    conclude_books hs pass whenDone hdone hr report result (Run.dispatched x u).2
  refine ⟨⟨[x], 0, [], 0, cs⟩, v, ?_, ⟨?_, ?_, ?_⟩, ?_, rfl⟩
  · rw [attempt, Run.bind_ok hu]
    exact hv
  · have hx : (Run.dispatched x u).2.books =
        { u.books with dispatches := u.books.dispatches ++ [x] } := rfl
    rw [hbooks, hx, hbefore]
    simp [Books.emit, Books.note, Books.enter, Dispatcher.metricsOf, Dispatcher.metricsFor_eq, x]
  · intro y hy
    rw [List.mem_singleton.1 hy]
  · exact fun h => absurd h (List.cons_ne_nil x [])
  · have hnone : cs.countP (·.clears now duplicates) = 0 :=
      List.countP_eq_zero.2 fun c hc => Bool.eq_false_iff.1 (hcs c hc)
    simp [Entry.size, hnone]

/-- **The treatment of a record** enters it. -/
theorem treat_enters (pass : String) (whenDone : WhenDone)
    (hdone : whenDone = .remove → duplicates = []) (r : WorkRecord) :
    EntersOne d now duplicates (treat pass d whenDone now : _ → _ → Run (Watched σ) _) [] r := by
  cases hr : r.isExpired now with
  | true =>
    refine delete_enters (a := 1) (b := 0) rfl ?_ (.abandoning pass r) (.expiredKept pass r)
      (fun _ => rfl) fun report => ?_
    · simp [StoreCall.clears, hr]
    · rw [treat, if_pos hr]
      rfl
  | false =>
    intro report w
    rw [treat, if_neg (Bool.eq_false_iff.1 hr)]
    exact attempt_enters hs pass whenDone hdone hr report w

end Pass

/-- A query is noted if it fails, and changes nothing that is steady. -/
theorem World.query_enters (d : Dispatcher) (now : Instant) {c : StoreCall}
    {f : σ → Except StoreError α × σ}
    (hf : ∀ (β : Type) (view : σ → β), RecordStore.Steady view → ∀ s, view (f s).2 = view s)
    (w : World (Watched σ)) :
    (∃ e v, Run.step (Watched.watch c f) w = (.ok (.error e), v) ∧
      w.Enters d now (.failures [c]) v) ∨
    ∃ a v, Run.step (Watched.watch c f) w = (.ok (.ok a), v) ∧ w.Enters d now (.failures []) v := by
  have hkept : ∀ inner cs, inner = (f w.backend.inner).2 →
      w.Enters d now (.failures cs) { w with backend := ⟨inner, w.backend.failed ++ cs⟩ } := by
    rintro inner cs rfl
    exact .of_failures rfl ⟨rfl, fun β view hview => hf β view hview _⟩
  rcases h : f w.backend.inner with ⟨e | a, inner⟩
  · exact .inl ⟨e, _, Watched.step_error h, hkept inner [c] (by rw [h])⟩
  · have hnone := hkept inner [] (by rw [h])
    rw [List.append_nil] at hnone
    exact .inr ⟨a, _, Watched.step_ok h, hnone⟩

namespace Aggregate

/-- The selection of a pass enters nothing; if it fails the pass is over. -/
theorem select_enters (d : Dispatcher) (holdBack : Span) (now : Instant) (w : World (Watched σ)) :
    (∃ e v, select holdBack now w = (.ok (.error e), v)) ∨
    ∃ es v, select holdBack now w = (.ok (.ok es), v) ∧ w.Enters d now (.failures []) v := by
  rw [select]
  cases now.sub? holdBack with
  | none => exact .inr ⟨[], _, rfl, (World.Enters.refl w).log rfl⟩
  | some cutoff =>
    rcases World.query_enters d now (c := .untriedBefore cutoff)
      (fun β view hview => hview.untriedBefore cutoff) w with ⟨e, v, h, -⟩ | ⟨rs, v, h, hv⟩
    · exact .inl ⟨e, _, Run.bind_ok h _⟩
    · exact .inr ⟨entitiesOf rs, v, Run.bind_ok h _, hv⟩

/-- An entity that cannot be fetched is noted and counted, and is not about a record. -/
theorem fetch_enters (d : Dispatcher) (now : Instant) (es : List EntityId) (report : Report)
    (w : World (Watched σ)) :
    ∃ cs batch v, fetch report es w = (.ok (report.enter (.failures cs), batch), v) ∧
      w.Enters d now (.failures cs) v ∧
      ∀ duplicates, (Entry.failures cs).size now duplicates = 0 := by
  induction es generalizing report w with
  | nil => exact ⟨[], [], w, rfl, .refl w, fun _ => rfl⟩
  | cons e es ih =>
    rw [fetch]
    rcases World.query_enters d now (c := .unprocessedOf e)
      (fun β view hview => hview.unprocessedOf e) w with ⟨err, u, hu, hentry⟩ | ⟨rs, u, hu, hentry⟩
    · obtain ⟨cs, batch, v, hv, hrest, hsize⟩ := ih (report.enter (.failures [.unprocessedOf e]))
        (Run.log (.entityUnavailable e err) u).2
      refine ⟨.unprocessedOf e :: cs, batch, v, ?_, ?_, fun duplicates => ?_⟩
      · rw [Entry.failures_cons, Report.enter_append]
        exact (Run.bind_ok hu _).trans hv
      · exact (hentry.log rfl).trans hrest
      · rw [Entry.failures_cons, Entry.size_append, hsize]
        rfl
    · obtain ⟨cs, batch, v, hv, hrest, hsize⟩ := ih report u
      exact ⟨cs, rs ++ batch, v, (Run.bind_ok hu _).trans (Run.bind_ok hv _), hentry.trans hrest,
        hsize⟩

/-- **The removal of a stale duplicate** enters it. -/
theorem discard_enters (hr : r ∈ duplicates) :
    Pass.EntersOne d now duplicates (discard : _ → _ → Run (Watched σ) _) [r] r := by
  refine Pass.delete_enters (a := 0) (b := 1) rfl ?_ (.duplicateFound r) (.duplicateKept r)
    (fun _ => rfl) fun report => rfl
  simp [StoreCall.clears, hr]

variable (hs : ∀ name, d.sinkCrashes name = false)
include hs

/-- **A plan that is carried out** is entered as a whole. -/
theorem carryOut_enters (now : Instant) (report : Report) (plan : Plan) (w : World (Watched σ)) :
    ∃ e v, carryOut d now report plan w = (.ok (({ report with
          selected := plan.dispatch.length + plan.duplicates.length } : Report).enter e), v) ∧
      w.Enters d now e v ∧
      e.size now plan.duplicates = plan.dispatch.length + plan.duplicates.length ∧
      e.duplicates = plan.duplicates := by
  have htreat : ∀ r ∈ plan.dispatch, Pass.EntersOne d now plan.duplicates
      (Pass.treat name d .keep now : _ → _ → Run (Watched σ) _) [] r :=
    fun r _ => Pass.treat_enters hs name .keep nofun r
  have hdiscard : ∀ r ∈ plan.duplicates, Pass.EntersOne d now plan.duplicates
      (discard : _ → _ → Run (Watched σ) _) [r] r := fun r hr => discard_enters hr
  let selected : Report :=
    { report with selected := plan.dispatch.length + plan.duplicates.length }
  obtain ⟨e, u, hu, he, hsize, hnone⟩ := Pass.foldlM_enters htreat selected w
  obtain ⟨f, v, hv, hf, hsize', hfound⟩ := Pass.foldlM_enters hdiscard (selected.enter e) u
  refine ⟨e ++ f, (Run.log (.aggregated ((selected.enter e).enter f)) v).2, ?_,
    (he.trans hf).log rfl, ?_, ?_⟩
  · rw [carryOut, Run.bind_ok hu, Run.bind_ok hv, Report.enter_append]
    rfl
  · rw [Entry.size_append, hsize, hsize']
  · change e.duplicates ++ f.duplicates = _
    rw [hnone, hfound]
    simp

/-- **An aggregation** that returns a report has entered what the report says. -/
theorem run_enters (holdBack : Span) (now : Instant) (w : World (Watched σ)) :
    ∃ result v, run d holdBack now w = (.ok result, v) ∧ ∀ report, result = .ok report →
      ∃ e, report = ({ selected := e.size now e.duplicates } : Report).enter e ∧
        w.Enters d now e v := by
  rw [run, collect, bind_assoc]
  rcases select_enters d holdBack now w with ⟨e, v, h⟩ | ⟨es, u, hu, hselected⟩
  · refine ⟨.error e, v, Run.bind_ok h _, fun report hreport => ?_⟩
    cases hreport
  · obtain ⟨cs, batch, v, hv, hfetched, hnone⟩ := fetch_enters d now es .empty u
    have hcollected : w.Enters d now (.failures cs) v := hselected.trans hfetched
    rw [Run.bind_ok hu, bind_assoc, Run.bind_ok hv]
    cases batch with
    | nil =>
      refine ⟨.ok (Report.empty.enter (.failures cs)), v, rfl, fun report hreport => ?_⟩
      refine ⟨.failures cs, ?_, hcollected⟩
      rw [← Except.ok.inj hreport, hnone]
      rfl
    | cons r rs =>
      obtain ⟨e, v', hv', he, hsize, hfound⟩ := carryOut_enters hs now
        (Report.empty.enter (.failures cs)) (Plan.ofList (r :: rs)) v
      refine ⟨_, v', Run.bind_ok hv' _, fun report hreport => ?_⟩
      refine ⟨.failures cs ++ e, ?_, hcollected.trans he⟩
      have hduplicates : (Entry.failures cs ++ e).duplicates = (Plan.ofList (r :: rs)).duplicates :=
        hfound
      rw [← Except.ok.inj hreport, Report.enter_append, hduplicates, Entry.size_append, hnone,
        hsize, Nat.zero_add]
      rfl

end Aggregate

namespace Retry

/-- The selection of a tier enters nothing; if it fails the pass is over. -/
theorem select_enters (d : Dispatcher) (tier : RetryTier) (now : Instant) (w : World (Watched σ)) :
    (∃ e v, select tier w = (.ok (.error e), v)) ∨
    ∃ rs v, select tier w = (.ok (.ok rs), v) ∧ w.Enters d now (.failures []) v := by
  rw [select]
  rcases World.query_enters d now (c := .unprocessedIn tier.band)
    (fun β view hview => hview.unprocessedIn tier.band) w with ⟨e, v, h, -⟩ | ⟨rs, v, h, hv⟩
  · exact .inl ⟨e, _, Run.bind_ok h _⟩
  · exact .inr ⟨rs, v, Run.bind_ok h _, hv⟩

/-- **A retry** that returns a report has entered what the report says. -/
theorem run_enters (hs : ∀ name, d.sinkCrashes name = false) (tier : RetryTier)
    (now : Instant) (w : World (Watched σ)) :
    ∃ result v, run d tier now w = (.ok result, v) ∧ ∀ report, result = .ok report →
      ∃ e, report = ({ selected := e.size now e.duplicates } : Report).enter e ∧
        w.Enters d now e v := by
  rw [run]
  rcases select_enters d tier now w with ⟨e, v, h⟩ | ⟨rs, u, hu, hselected⟩
  · refine ⟨.error e, v, Run.bind_ok h _, fun report hreport => ?_⟩
    cases hreport
  · have htreat : ∀ r ∈ rs.mergeSort WorkRecord.dispatchesBefore, Pass.EntersOne d now []
        (Pass.treat tier.name d .remove now : _ → _ → Run (Watched σ) _) [] r :=
      fun r _ => Pass.treat_enters hs tier.name .remove (fun _ => rfl) r
    rw [Run.bind_ok hu]
    cases rs with
    | nil =>
      refine ⟨.ok .empty, u, rfl, fun report hreport => ⟨.failures [], ?_, hselected⟩⟩
      rw [← Except.ok.inj hreport]
      rfl
    | cons r rs =>
      let sorted := (r :: rs).mergeSort WorkRecord.dispatchesBefore
      obtain ⟨e, v, hv, he, hsize, hfound⟩ :=
        Pass.foldlM_enters htreat { Report.empty with selected := sorted.length } u
      -- a retry treats its records one by one and discards none
      have hnone : e.duplicates = [] := by
        rw [hfound]
        simp
      refine ⟨_, _, Run.bind_ok (Run.bind_ok hv _) _, fun report hreport => ⟨e, ?_, ?_⟩⟩
      · rw [← Except.ok.inj hreport, hnone, hsize]
        rfl
      · have hentry := hselected.trans he
        rw [Entry.failures_nil_append] at hentry
        exact hentry.log (x := .retried tier.name _) rfl

end Retry

/-! ## Sums -/

namespace Pass

/-- How the report of a pass, the traces that it left and the calls that failed agree. -/
structure AddsUp (d : Dispatcher) (now : Instant) (s : σ) (report : Report)
    (v : World (Watched σ)) : Prop where
  ends : report.dispatched = report.completed + report.retried + report.errored
  dispatches : v.dispatches.length = report.dispatched
  /-- Of the failed calls those count that were to delete an expired record or a duplicate. -/
  selected : report.selected = report.dispatched + report.abandoned + report.discarded +
    v.backend.failed.countP (·.clears now v.discarded)
  successes : MetricEvent.count v.metrics Dispatcher.successMetric = report.completed
  ages : v.metrics.countP (fun m => !m.isIncrement && m.name == Dispatcher.ageMetric) =
    report.completed
  failures : MetricEvent.count v.metrics Dispatcher.failureMetric = v.dispatches.countP fun x =>
    (x.isRetried || x.isErrored) && x.record.expiresWithin d.failureWindow now
  /-- The metric events are those that are due for the dispatches, one dispatch after another. -/
  emitted : v.metrics = v.dispatches.flatMap (·.metricsDue d.failureWindow)
  dated : ∀ x ∈ v.dispatches, x.now = now
  tagged : ∀ m ∈ v.metrics, ∃ x ∈ v.dispatches, m ∈ x.metricsDue d.failureWindow ∧
    m.tags = [("eventType", x.record.eventType.name),
      ("retryCount", Nat.repr x.record.retryCount.toNat)]
  /-- Handlers were called for the dispatches of records that have one, once for each. -/
  called : v.called = d.handed (v.dispatches.map (·.record))
  noop : report.isNoop = true → v.calls = [] ∧ v.dispatches = [] ∧ v.metrics = [] ∧
    ∀ (β : Type) (view : σ → β), RecordStore.Steady view → view v.backend.inner = view s

/-- What entries say adds up. -/
theorem AddsUp.of_enters {s : σ} (h : (World.of (⟨s, []⟩ : Watched σ)).Enters d now e v)
    (hcalled : (World.of (⟨s, []⟩ : Watched σ)).HandsOver d v) :
    AddsUp d now s (({ selected := e.size now e.duplicates } : Report).enter e) v := by
  have hdispatches : v.dispatches = e.dispatches := congrArg Books.dispatches h.books
  have hdiscarded : v.discarded = e.duplicates := congrArg Books.discarded h.books
  have hmetrics : v.metrics = d.metricsOf e.dispatches := congrArg Books.metrics h.books
  have hfailed : v.backend.failed = e.failed := congrArg Books.failed h.books
  have hemitted : v.metrics = v.dispatches.flatMap (·.metricsDue d.failureWindow) := by
    rw [hmetrics, hdispatches, Dispatcher.metricsOf_eq]
  refine ⟨?_, ?_, ?_, ?_, ?_, ?_, hemitted, ?_, ?_, ?_, ?_⟩
  · have hends := Dispatch.countP_ends e.dispatches
    simp only [Report.enter, Nat.zero_add, hends]
  · rw [hdispatches]
    exact (Nat.zero_add _).symm
  · rw [hfailed, hdiscarded]
    simp only [Report.enter, Nat.zero_add, Entry.size]
  · rw [hmetrics, Dispatcher.count_success]
    exact (Nat.zero_add _).symm
  · rw [hmetrics, Dispatcher.count_age]
    exact (Nat.zero_add _).symm
  · rw [hmetrics, hdispatches]
    exact Dispatcher.count_failure h.dated
  · rw [hdispatches]
    exact h.dated
  · intro m hm
    rw [hemitted] at hm
    obtain ⟨x, hx, hm⟩ := List.mem_flatMap.1 hm
    exact ⟨x, hx, hm, Dispatch.tags_of_mem_metricsDue hm⟩
  · obtain ⟨xs, hxs, hcalled⟩ := hcalled
    rw [hxs]
    exact hcalled
  · intro hnoop
    simp only [Report.isNoop, Report.enter, Nat.zero_add, Bool.and_eq_true, beq_iff_eq] at hnoop
    obtain ⟨⟨hnone, hdiscards⟩, habandons⟩ := hnoop
    have hnil := List.length_eq_zero_iff.1 hnone
    obtain ⟨hcalls, hkept⟩ := h.untouched hnil habandons hdiscards
    rw [hmetrics, hdispatches, hnil]
    exact ⟨hcalls, rfl, rfl, hkept⟩

variable (hs : ∀ name, d.sinkCrashes name = false)
include hs

/-- **Reports and metrics add up**, for any store, whichever of its calls fail, and any handlers,
which may also change the store, where the sink takes what it is given. The list of failed calls is
kept beside the store: the pass is the same without it. -/
theorem adds_up (now : Instant) (s : σ) :
    (∀ holdBack, ∃ result v,
      Aggregate.run d holdBack now (World.of (⟨s, []⟩ : Watched σ)) = (.ok result, v) ∧
        Aggregate.run d holdBack now (World.of s) = (.ok result, v.map Watched.inner) ∧
        ∀ report, result = .ok report → AddsUp d now s report v) ∧
    ∀ tier, ∃ result v,
      Retry.run d tier now (World.of (⟨s, []⟩ : Watched σ)) = (.ok result, v) ∧
        Retry.run d tier now (World.of s) = (.ok result, v.map Watched.inner) ∧
        ∀ report, result = .ok report → AddsUp d now s report v := by
  constructor
  · intro holdBack
    obtain ⟨result, v, hv, h⟩ :=
      Aggregate.run_enters hs holdBack now (World.of (⟨s, []⟩ : Watched σ))
    have hplain := Aggregate.run_mirrors Watched.inner_mirrors d holdBack now
      (World.of (⟨s, []⟩ : Watched σ))
    rw [hv] at hplain
    refine ⟨result, v, hv, hplain, fun report hreport => ?_⟩
    obtain ⟨e, rfl, he⟩ := h report hreport
    have hcalled := Aggregate.run_handsOver d holdBack now (World.of (⟨s, []⟩ : Watched σ))
    rw [hv] at hcalled
    exact .of_enters he hcalled
  · intro tier
    obtain ⟨result, v, hv, h⟩ := Retry.run_enters hs tier now (World.of (⟨s, []⟩ : Watched σ))
    have hplain := Retry.run_mirrors Watched.inner_mirrors d tier now
      (World.of (⟨s, []⟩ : Watched σ))
    rw [hv] at hplain
    refine ⟨result, v, hv, hplain, fun report hreport => ?_⟩
    obtain ⟨e, rfl, he⟩ := h report hreport
    have hcalled := Retry.run_handsOver d tier now (World.of (⟨s, []⟩ : Watched σ))
    rw [hv] at hcalled
    exact .of_enters he hcalled

omit hs

/-- A dispatcher whose handler asks for another attempt, and that counts every failure. -/
def insistent : Dispatcher :=
  ⟨[(.sentenceImposed, fun _ _ => ⟨[], .outcome (.retry none)⟩)], .ofSeconds 1000000,
    fun _ => false⟩

/-- The stale duplicate cannot be deleted, and the attempt of the other record fails. -/
theorem adds_up_sampleFaults :
    ∃ report v, Aggregate.run insistent (.ofSeconds 60) (.ofSecond 100)
        (World.of (Watched.of sampleStore sampleFaults)) = (.ok (.ok report), v) ∧
      AddsUp insistent (.ofSecond 100) (⟨sampleStore, sampleFaults, false⟩ : FaultyStore) report v ∧
      report.selected = 2 ∧ report.dispatched = 1 ∧ report.retried = 1 ∧
      v.backend.failed.countP (·.clears (.ofSecond 100) v.discarded) = 1 := by
  obtain ⟨result, v, hv, -, h⟩ := (adds_up (d := insistent) (fun _ => rfl) (.ofSecond 100)
    (⟨sampleStore, sampleFaults, false⟩ : FaultyStore)).1 (.ofSeconds 60)
  have hrun : (Aggregate.run insistent (.ofSeconds 60) (.ofSecond 100)
      (World.of (Watched.of sampleStore sampleFaults))).1.toOption.bind Except.toOption =
        some ⟨2, 1, 0, 1, 0, 0, 0, 1⟩ := by
    decide +kernel
  rw [Watched.of, hv] at hrun
  cases result with
  | error e => cases hrun
  | ok report =>
    obtain rfl : report = ⟨2, 1, 0, 1, 0, 0, 0, 1⟩ := Option.some.inj hrun
    have hsum := h _ rfl
    refine ⟨_, v, hv, hsum, rfl, rfl, rfl, ?_⟩
    have hselected : 2 = 1 + 0 + 0 +
        v.backend.failed.countP (·.clears (.ofSecond 100) v.discarded) := hsum.selected
    omega

end Pass

end Reconciliation
