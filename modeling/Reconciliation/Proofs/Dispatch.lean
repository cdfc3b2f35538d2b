import Reconciliation.Dispatcher

/-!
# What a dispatch changes

A handler is foreign code, and the interface lets it change stored records on its own. Most
results about passes are about handlers that do not: `Dispatcher.OnlyAnswers`. Such a
dispatcher may still answer with any outcome, fail or crash at every call.

* `Run.Harmless`: a run that changes no record, makes no dispatch on behalf of a pass and
  takes nothing in, whatever it calls, counts and logs. Such runs compose
  (`Run.Harmless.bind`).
* `Dispatcher.OnlyAnswers.dispatch`: a dispatch is such a run.
* `Dispatcher.Answers.dispatch_fst`: where the answer depends on the record alone, so does
  the value of a dispatch.
-/

namespace Reconciliation

/-- The record that came in with an event. -/
def Log.Event.received? : Log.Event → Option WorkRecord
  | received r => some r
  | _ => none

variable {σ α β : Type}

/-- The records that came in during a run, oldest first. Each intake logs one event, so the log
tells of all of them. -/
def World.received (w : World σ) : List WorkRecord := w.log.filterMap Log.Event.received?

/-- Two worlds with the same backend, dispatches and arrivals; handler calls, metrics and the rest
of the log may differ. -/
structure World.Alike (w v : World σ) : Prop where
  backend : v.backend = w.backend
  dispatches : v.dispatches = w.dispatches
  received : v.received = w.received

theorem World.Alike.refl (w : World σ) : w.Alike w := ⟨rfl, rfl, rfl⟩

theorem World.Alike.trans {u v w : World σ} (h : u.Alike v) (k : v.Alike w) : u.Alike w :=
  ⟨k.backend.trans h.backend, k.dispatches.trans h.dispatches, k.received.trans h.received⟩

namespace Run

/-- A run after which the world is as before in all that counts, also if it crashes. -/
def Harmless (x : Run σ α) : Prop := ∀ w : World σ, w.Alike (x w).2

namespace Harmless

theorem pure (a : α) : Harmless (pure a : Run σ α) := World.Alike.refl

theorem crash (c : Crash) : Harmless (Run.crash c : Run σ α) := World.Alike.refl

theorem call (c : Call) : Harmless (Run.call c : Run σ Unit) := fun _ => ⟨rfl, rfl, rfl⟩

theorem record (e : MetricEvent) : Harmless (Run.record e : Run σ Unit) := fun _ => ⟨rfl, rfl, rfl⟩

/-- An event may be logged that says nothing of a record that came in. -/
theorem log {e : Log.Event} (he : e.received? = none) : Harmless (Run.log e : Run σ Unit) := by
  refine fun w => ⟨rfl, rfl, ?_⟩
  simp [Run.log, World.received, List.filterMap_append, he]

/-- Harmless runs stay so one after the other. -/
theorem bind {x : Run σ α} {f : α → Run σ β} (hx : Harmless x) (hf : ∀ a, Harmless (f a)) :
    Harmless (x >>= f) := by
  intro w
  have hw := hx w
  rcases h : x w with ⟨c | a, v⟩ <;> rw [h] at hw
  · rw [bind_crash h]
    exact hw
  · rw [bind_ok h]
    exact hw.trans (hf a v)

/-- Catching a crash does no harm. -/
theorem caught {x : Run σ α} (hx : Harmless x) : Harmless x.caught := by
  intro w
  have hw := hx w
  rw [Run.caught]
  rcases h : x w with ⟨c | a, v⟩ <;> simpa only [h] using hw

end Harmless

/-- Logging always goes well, and the run goes on. -/
theorem log_bind (e : Log.Event) (f : Unit → Run σ α) (w : World σ) :
    (Run.log e >>= f) w = f () (Run.log e w).2 := rfl

/-- A caught run ends with a value. -/
theorem exists_caught (x : Run σ α) (w : World σ) :
    ∃ result, x.caught w = (.ok result, (x w).2) := by
  rw [Run.caught]
  rcases h : x w with ⟨c | a, v⟩
  · exact ⟨.error c, rfl⟩
  · exact ⟨.ok a, rfl⟩

end Run

/-- What the dispatcher makes of an answer. -/
def Answer.result : Answer → Except Crash (Except String Outcome)
  | outcome o => .ok (.ok o)
  | failure message => .ok (.error message)
  | crash c => .error c

namespace Dispatcher

/-- No handler changes stored records on its own. It may still fail or crash, and answer by what it
was called for before. -/
def OnlyAnswers (d : Dispatcher) : Prop :=
  ∀ t h, d.handler? t = some h → ∀ history r, (h history r).edits = []

/-- Every handler answers by the record alone, and changes no stored record. So its answers do not
depend on the order in which records are dispatched. -/
def Answers (d : Dispatcher) (answer : WorkRecord → Answer) : Prop :=
  ∀ t h, d.handler? t = some h → ∀ history r, h history r = ⟨[], answer r⟩

/-- Handlers that answer by the record alone change no records. -/
theorem Answers.onlyAnswers {d : Dispatcher} {answer : WorkRecord → Answer}
    (hd : d.Answers answer) : d.OnlyAnswers :=
  fun t h ht history r => by rw [hd t h ht]

/-- Without handlers there is nothing to answer. -/
theorem answers_new (answer : WorkRecord → Answer) : new.Answers answer := by
  intro t h ht
  cases ht

/-- One more handler that answers in this way. -/
theorem Answers.register {d : Dispatcher} {answer : WorkRecord → Answer} (hd : d.Answers answer)
    (t : EventType) : (d.register t fun _ r => ⟨[], answer r⟩).Answers answer := by
  intro u h hu history r
  rw [handler?_register] at hu
  split at hu
  · cases hu
    rfl
  · exact hd u h hu history r

/-- An event that is emitted changes no record, also if the sink crashes on it. -/
theorem emit_harmless (d : Dispatcher) (e : MetricEvent) : (d.emit e : Run σ Unit).Harmless := by
  refine (Run.Harmless.record e).bind fun _ => ?_
  split
  · exact .crash _
  · exact .pure _

/-- Counting a failure changes no record. -/
theorem noteFailure_harmless (d : Dispatcher) (r : WorkRecord) (now : Instant) :
    (d.noteFailure r now : Run σ Unit).Harmless := by
  rw [noteFailure]
  split
  · exact emit_harmless d _
  · exact .pure _

/-- Nor does counting a success. -/
theorem noteSuccess_harmless (d : Dispatcher) (r : WorkRecord) (now : Instant) :
    (d.noteSuccess r now : Run σ Unit).Harmless :=
  (emit_harmless d _).bind fun _ => emit_harmless d _

/-- An event goes to a sink that does not crash on it. -/
theorem emit_fst {d : Dispatcher} {e : MetricEvent} (he : d.sinkCrashes e.name = false)
    (w : World σ) : ((d.emit e : Run σ Unit) w).1 = .ok () := by
  simp [emit, Run.bind_apply, Run.record, he]

/-- A failure is counted without a crash if the sink takes its name. -/
theorem noteFailure_fst {d : Dispatcher} (hs : d.sinkCrashes failureMetric = false)
    (r : WorkRecord) (now : Instant) (w : World σ) :
    ((d.noteFailure r now : Run σ Unit) w).1 = .ok () := by
  rw [noteFailure]
  split
  · exact emit_fst hs w
  · rfl

/-- A success is counted without a crash if the sink takes both its names. -/
theorem noteSuccess_fst {d : Dispatcher} (hs : d.sinkCrashes successMetric = false)
    (ha : d.sinkCrashes ageMetric = false) (r : WorkRecord) (now : Instant) (w : World σ) :
    ((d.noteSuccess r now : Run σ Unit) w).1 = .ok () := by
  have h := emit_fst (e := .increment successMetric (tags r)) hs w
  rw [noteSuccess]
  rw [Run.bind_ok (Prod.ext h rfl)]
  exact emit_fst ha _

variable [RecordStore σ]

/-- A handler without changes of its own is called once, and its answer is the result. -/
theorem callHandler_apply {h : Handler} {r : WorkRecord} (w : World σ)
    (he : (h (historyOf r.eventType w.calls) r).edits = []) :
    callHandler h r w =
      ((h (historyOf r.eventType w.calls) r).answer.result,
        { w with calls := w.calls ++ [⟨r.eventType, r.id, r.retryCount, 0⟩] }) := by
  simp only [callHandler, Run.bind_apply, Run.world, he, makeEdits, Run.pure_apply, Run.call]
  cases (h (historyOf r.eventType w.calls) r).answer <;> rfl

/-- Handlers that only answer change no record, whatever the answer is. -/
theorem OnlyAnswers.outcome {d : Dispatcher} (hd : d.OnlyAnswers) (r : WorkRecord) :
    (d.outcome r : Run σ _).Harmless := by
  rw [Dispatcher.outcome]
  split
  · rename_i h hh
    intro w
    rw [callHandler_apply w (hd _ h hh _ r)]
    exact ⟨rfl, rfl, rfl⟩
  · exact (Run.Harmless.log rfl).bind fun _ => .pure _

/-- **A dispatch to handlers that only answer changes no record.** -/
theorem OnlyAnswers.dispatch {d : Dispatcher} (hd : d.OnlyAnswers) (r : WorkRecord)
    (now : Instant) : (d.dispatch r now : Run σ _).Harmless := by
  refine (hd.outcome r).bind fun result => ?_
  rcases result with message | status | until?
  · exact .pure _
  · exact (noteSuccess_harmless d r now).bind fun _ => .pure _
  · exact (noteFailure_harmless d r now).bind fun _ => .pure _

/-! ## Answers by the record alone -/

/-- What comes of a record if the handlers answer by the record alone; a kind of event without a
handler is done at once. -/
def answered (d : Dispatcher) (answer : WorkRecord → Answer) (r : WorkRecord) :
    Except Crash (Except String Outcome) :=
  if d.hasHandler r.eventType then (answer r).result else .ok (.ok (.completed Status.noHandler))

/-- The outcome of a record is what its handler answers. -/
theorem Answers.outcome_fst {d : Dispatcher} {answer : WorkRecord → Answer} (hd : d.Answers answer)
    (r : WorkRecord) (w : World σ) : (d.outcome r w).1 = d.answered answer r := by
  rw [Dispatcher.outcome, answered, hasHandler]
  cases hh : d.handler? r.eventType with
  | some h =>
    have ha := hd _ h hh (historyOf r.eventType w.calls) r
    simp only [Option.isSome_some, if_true]
    rw [callHandler_apply w (by rw [ha]), ha]
  | none => rfl

/-- **The value of a dispatch is the handler's answer**, if no metric crashes the sink. -/
theorem Answers.dispatch_fst {d : Dispatcher} {answer : WorkRecord → Answer} (hd : d.Answers answer)
    (hs : ∀ name, d.sinkCrashes name = false) (r : WorkRecord) (now : Instant) (w : World σ) :
    (d.dispatch r now w).1 = d.answered answer r := by
  have ho := hd.outcome_fst r w
  rw [Dispatcher.dispatch]
  rcases ha : d.answered answer r with c | message | status | until? <;> rw [ha] at ho
  · rw [Run.bind_crash (Prod.ext ho rfl)]
  · rw [Run.bind_ok (Prod.ext ho rfl)]
    rfl
  · rw [Run.bind_ok (Prod.ext ho rfl)]
    exact congrArg Prod.fst (Run.bind_ok (Prod.ext (noteSuccess_fst (hs _) (hs _) r now _) rfl) _)
  · rw [Run.bind_ok (Prod.ext ho rfl)]
    exact congrArg Prod.fst (Run.bind_ok (Prod.ext (noteFailure_fst (hs _) r now _) rfl) _)

end Dispatcher

end Reconciliation
