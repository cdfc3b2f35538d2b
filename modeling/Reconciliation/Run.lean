import Reconciliation.Log.Event
import Reconciliation.Metric.Event
import Reconciliation.Record.Outcome

/-!
# Runs

A part of the pipeline runs in a world: the backend that keeps records and locks, and the
traces left so far, that is dispatches, handler calls, metric events and log events. A run
gives a value and a new world. It may also crash: a handler or a sink can fail in a way that it
does not report. A crash ends the run but not its effects so far, and `Run.caught` turns it
back into a value.

The laws of the monad hold, and one lemma for each way in which a step can end says how a
run goes on (`bind_ok`, `bind_crash`).
-/

namespace Reconciliation

/-- An unreported failure, with its text if it has one. -/
structure Crash where
  message? : Option String
deriving DecidableEq, Repr

/-- The text of a crash. -/
def Crash.text (c : Crash) : String := c.message?.getD "non-string panic payload"

/-- A crash with a text. -/
def Crash.of (message : String) : Crash := ⟨some message⟩

/-- A call of a handler. -/
structure Call where
  eventType : EventType
  id : RecordId
  /-- The retry count of the record when the handler was called. -/
  retryCount : UInt32
  /-- How many changes the handler made to the store. -/
  changes : Nat
deriving DecidableEq

/-- A dispatch that a pass made, with what came of it. -/
structure Dispatch where
  pass : String
  /-- The record as the pass handed it over. -/
  record : WorkRecord
  now : Instant
  /-- The outcome, or the text of a failure or a crash. -/
  result : Except String Outcome

/-- The backend of a run, and the traces that the run has left, oldest first. -/
structure World (σ : Type) where
  backend : σ
  dispatches : List Dispatch
  calls : List Call
  metrics : List MetricEvent
  log : List Log.Event

/-- The world of a backend in which nothing has happened. -/
def World.of {σ : Type} (backend : σ) : World σ := ⟨backend, [], [], [], []⟩

/-- A run: from a world to a value or a crash, and the world after it. -/
def Run (σ α : Type) : Type := World σ → Except Crash α × World σ

namespace Run

variable {σ α β : Type}

/-- A value without effect. -/
protected def pure (a : α) : Run σ α := fun w => (.ok a, w)

/-- One run after another; a crash of the first leaves out the second. -/
protected def bind (x : Run σ α) (f : α → Run σ β) : Run σ β := fun w =>
  match x w with
  | (.ok a, w) => f a w
  | (.error c, w) => (.error c, w)

instance : Monad (Run σ) where
  pure := Run.pure
  bind := Run.bind

@[simp] theorem pure_apply (a : α) (w : World σ) : (pure a : Run σ α) w = (.ok a, w) := rfl

theorem bind_apply (x : Run σ α) (f : α → Run σ β) (w : World σ) :
    (x >>= f) w = match x w with
      | (.ok a, w) => f a w
      | (.error c, w) => (.error c, w) := rfl

theorem bind_ok {x : Run σ α} {a : α} {w v : World σ} (h : x w = (.ok a, v))
    (f : α → Run σ β) : (x >>= f) w = f a v := by
  rw [bind_apply, h]

theorem bind_crash {x : Run σ α} {c : Crash} {w v : World σ} (h : x w = (.error c, v))
    (f : α → Run σ β) : (x >>= f) w = (.error c, v) := by
  rw [bind_apply, h]

instance : LawfulMonad (Run σ) := LawfulMonad.mk' _
  (fun x => by
    funext w
    show (x >>= fun a => pure a) w = x w
    rw [bind_apply]
    rcases h : x w with ⟨_ | _, v⟩ <;> rfl)
  (fun _ _ => rfl)
  (fun x f g => by
    funext w
    simp only [bind_apply]
    rcases h : x w with ⟨_ | _, v⟩ <;> rfl)

/-- Ends the run. -/
def crash (c : Crash) : Run σ α := fun w => (.error c, w)

/-- A run whose crash is a value; its effects stay. -/
def caught (x : Run σ α) : Run σ (Except Crash α) := fun w =>
  match x w with
  | (.ok a, w) => (.ok (.ok a), w)
  | (.error c, w) => (.ok (.error c), w)

/-- The world as it is. -/
def world : Run σ (World σ) := fun w => (.ok w, w)

/-- A step of the backend. -/
def step (f : σ → α × σ) : Run σ α := fun w =>
  let (a, backend) := f w.backend
  (.ok a, { w with backend })

/-- A step of the backend that may crash. -/
def riskyStep (f : σ → Except Crash α × σ) : Run σ α := fun w =>
  let (a, backend) := f w.backend
  (a, { w with backend })

/-- Logs an event. -/
def log (e : Log.Event) : Run σ Unit := fun w => (.ok (), { w with log := w.log ++ [e] })

/-- Leaves a dispatch in the trace. -/
def dispatched (x : Dispatch) : Run σ Unit := fun w =>
  (.ok (), { w with dispatches := w.dispatches ++ [x] })

/-- Leaves a handler call in the trace. -/
def call (c : Call) : Run σ Unit := fun w => (.ok (), { w with calls := w.calls ++ [c] })

/-- Leaves a metric event in the trace. -/
def record (e : MetricEvent) : Run σ Unit := fun w =>
  (.ok (), { w with metrics := w.metrics ++ [e] })

end Run

end Reconciliation
