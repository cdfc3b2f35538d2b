import Reconciliation.Record.Outcome
import Reconciliation.Store.Access

/-!
# The dispatcher

A dispatcher hands a record to the handler for its kind of event and counts what comes of
it. A record without a handler is done at once. Success is counted, and the age of the
record observed; a failed attempt is counted only when the record is close to its expiry.

A handler is a function of what its earlier calls have done to the store and of the record:
it answers with an outcome, fails with a text, or crashes, and may change the store first.
The dispatcher hands a failure on and lets a crash pass.
-/

namespace Reconciliation

/-- How a handler answers. -/
inductive Answer where
  | outcome (o : Outcome)
  | failure (message : String)
  | crash (c : Crash)

/-- What a handler does when it is called. A change that the store refuses is its failure. -/
structure Reaction where
  edits : List Edit
  answer : Answer

/-- A handler: what it does, by the record and its earlier calls. Of each call, oldest first, it
knows how many changes of the store went through. -/
abbrev Handler := List Nat → WorkRecord → Reaction

/-- The handlers by kind of event, and how outcomes are counted. -/
structure Dispatcher where
  handlers : List (EventType × Handler)
  /-- Failures count only for records that expire within this time. -/
  failureWindow : Span
  /-- Names on which the metric sink crashes after it has taken the event. -/
  sinkCrashes : String → Bool

namespace Dispatcher

/-- The failure window if nothing else is said: two hours. -/
def defaultWindow : Span := Span.ofSeconds 7200

/-- A dispatcher without handlers. -/
def new : Dispatcher := ⟨[], defaultWindow, fun _ => false⟩

/-- The handler for a kind of event. -/
def handler? (d : Dispatcher) (t : EventType) : Option Handler :=
  (d.handlers.find? (·.1 == t)).map (·.2)

/-- Registers a handler in place of any earlier one for its kind. -/
def register (d : Dispatcher) (t : EventType) (h : Handler) : Dispatcher :=
  { d with handlers := (t, h) :: d.handlers.filter (·.1 != t) }

def hasHandler (d : Dispatcher) (t : EventType) : Bool := (d.handler? t).isSome

/-- The handler registered last for a kind is the one that counts. -/
theorem handler?_register (d : Dispatcher) (t u : EventType) (h : Handler) :
    (d.register t h).handler? u = if u = t then some h else d.handler? u := by
  unfold register handler?
  by_cases hu : u = t
  · subst hu; simp
  · have ht : t ≠ u := fun h => hu h.symm
    simp only [List.find?_cons, beq_eq_false_iff_ne.2 ht, hu, if_false, List.find?_filter]
    congr 2
    funext x
    by_cases hx : x.1 = u
    · simp [hx, hu]
    · simp [hx]

/-! ## Metrics -/

/-- Counted once for every completed attempt. -/
def successMetric : String := "reconciler_message_success_total"

/-- The age of a record, in seconds, observed at every completed attempt. -/
def ageMetric : String := "reconciler_message_age_seconds"

/-- Counted for failed attempts close to the expiry. -/
def failureMetric : String := "reconciler_message_failure_total"

/-- The tags of a record's metrics. -/
def tags (r : WorkRecord) : List (String × String) :=
  [("eventType", r.eventType.name), ("retryCount", Nat.repr r.retryCount.toNat)]

variable {σ : Type}

/-- Hands an event to the sink. -/
def emit (d : Dispatcher) (e : MetricEvent) : Run σ Unit := do
  Run.record e
  if d.sinkCrashes e.name then Run.crash (.of ("metrics sink failed on " ++ e.name))

/-- Whether a failed attempt of the record counts: not if its expiry is known to lie beyond the
failure window. -/
def countsFailure (d : Dispatcher) (r : WorkRecord) (now : Instant) : Bool :=
  match now.add? d.failureWindow with
  | some horizon => !decide (horizon < r.expiry)
  | none => true

/-- Counts a failed attempt if it counts. -/
def noteFailure (d : Dispatcher) (r : WorkRecord) (now : Instant) : Run σ Unit :=
  if d.countsFailure r now then d.emit (.increment failureMetric (tags r)) else pure ()

/-- Counts a completed attempt and observes the record's age. -/
def noteSuccess (d : Dispatcher) (r : WorkRecord) (now : Instant) : Run σ Unit := do
  d.emit (.increment successMetric (tags r))
  d.emit (.observe ageMetric (max (r.age now).millis 0) (tags r))

/-! ## Dispatch -/

variable [RecordStore σ]

/-- Makes a handler's changes one after another, up to the first that the store refuses, and says
how many it made on top of `made`. -/
def makeEdits (made : Nat) : List Edit → Run σ (Nat × Except StoreError Unit)
  | [] => pure (made, .ok ())
  | e :: es => do
    match ← Records.edit e with
    | .ok () => makeEdits (made + 1) es
    | .error e => pure (made, .error e)

/-- What the handler for a kind of event knows of its earlier calls. -/
def historyOf (t : EventType) (calls : List Call) : List Nat :=
  (calls.filter (·.eventType == t)).map (·.changes)

/-- Calls a handler: with its outcome, or the text of its failure. -/
def callHandler (h : Handler) (r : WorkRecord) : Run σ (Except String Outcome) := do
  let w ← Run.world
  -- a handler may answer by what it was called for before
  let reaction := h (historyOf r.eventType w.calls) r
  let (made, result) ← makeEdits 0 reaction.edits
  -- what it has changed by now stays changed, whatever it answers
  Run.call ⟨r.eventType, r.id, r.retryCount, made⟩
  match result with
  | .error e => pure (.error e.message)
  | .ok () =>
    match reaction.answer with
    | .outcome o => pure (.ok o)
    | .failure message => pure (.error message)
    | .crash c => Run.crash c

/-- The outcome of a record by its handler, or done at once if there is none. -/
def outcome (d : Dispatcher) (r : WorkRecord) : Run σ (Except String Outcome) :=
  match d.handler? r.eventType with
  | some h => callHandler h r
  | none => do
    Run.log (.noHandler r)
    pure (.ok (.completed Status.noHandler))

/-- Dispatches a record and counts what comes of it. -/
def dispatch (d : Dispatcher) (r : WorkRecord) (now : Instant) :
    Run σ (Except String Outcome) := do
  match ← d.outcome r with
  | .error message => pure (.error message)
  | .ok (.completed status) =>
    d.noteSuccess r now
    pure (.ok (.completed status))
  | .ok (.retry until?) =>
    d.noteFailure r now
    pure (.ok (.retry until?))

end Dispatcher

end Reconciliation
