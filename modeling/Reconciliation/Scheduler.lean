import Reconciliation.Lock.Access
import Reconciliation.Pass.Aggregate
import Reconciliation.Pass.Basic
import Reconciliation.Pass.Retry
import Reconciliation.Settings

/-!
# The scheduler

A scheduler runs its passes, each under its own lock and in the order in which they were
registered. A pass that fails or crashes does not keep its lock and does not stop the
others; a pass whose lock is held elsewhere is left out this time. Left to itself a
scheduler has a worker for each pass (`Scheduler.spawn`); only a crash of the locks ends a
worker.

`Scheduler.standard` is the pipeline itself: aggregation, the three tiers of retries and
the purge, set up by the settings.
-/

namespace Reconciliation

/-- What became of a pass on one tick. -/
inductive Tick where
  | ran (report : Report)
  /-- The lock was held elsewhere. -/
  | skipped
  /-- The lock could not be taken, or the pass failed or crashed. -/
  | failed
deriving DecidableEq, Repr

variable {σ : Type}

/-- Runs a pass at an instant under its lock. -/
def Pass.guarded [LockProvider σ] (p : Pass σ) (term : Term) (now : Instant) : Run σ Tick := do
  -- a crash of the pass is caught under the lock, which is given back after it
  match ← Locks.underLock p.name term (p.run now).caught with
  | .ok (some (.ok (.ok report))) => pure (.ran report)
  | .ok (some (.ok (.error e))) =>
    Run.log (.passFailed p.name e)
    pure .failed
  | .ok (some (.error c)) =>
    Run.log (.passCrashed p.name c.text)
    pure .failed
  | .ok none =>
    Run.log (.passSkipped p.name)
    pure .skipped
  | .error e =>
    Run.log (.lockUnavailable p.name e)
    pure .failed

/-- The passes that are run, with their intervals, and how long each may keep its lock. -/
structure Scheduler (σ : Type) where
  passes : List (Pass σ × Term)
  term : Term

namespace Scheduler

/-- The names of the passes, in order. -/
def names (s : Scheduler σ) : List String := s.passes.map (·.1.name)

/-- Runs every pass once at an instant. -/
def tick [LockProvider σ] (s : Scheduler σ) (now : Instant) : Run σ (List (String × Tick)) :=
  s.passes.mapM fun (p, _) => do
    let outcome ← p.guarded s.term now
    pure (p.name, outcome)

/-- A worker's runs of one pass, up to a number of them; whether a crash outside the pass ended
the worker. -/
def work [LockProvider σ] (s : Scheduler σ) (p : Pass σ) (now : Instant) : Nat → Run σ Bool
  | 0 => pure false
  | n + 1 => do
    match ← (p.guarded s.term now).caught with
    | .ok _ => work s p now n
    | .error _ => pure true

/-- Runs a worker for each pass, with a number of runs, and says the names of those that a crash
ended. All workers start before the first run; the others stop after the last. -/
def spawn [LockProvider σ] (s : Scheduler σ) (now : Instant) (runs : List Nat) :
    Run σ (List String) := do
  s.passes.forM fun (p, interval) => Run.log (.workerStarted p.name interval.seconds)
  let crashes ← (s.passes.zip runs).mapM fun ((p, _), n) => s.work p now n
  let ended := s.names.zip crashes
  let crashed := (ended.filter (·.2)).map (·.1)
  (ended.filter (!·.2)).forM fun (name, _) => Run.log (.workerStopped name)
  crashed.forM fun name => Run.log (.workerCrashed name)
  pure crashed

/-- The pipeline: aggregation, retries by tier, and the purge. -/
def standard [RecordStore σ] (settings : Settings) (d : Dispatcher) : Scheduler σ where
  passes :=
    [(Aggregate.pass d (Span.ofSeconds settings.holdBack),
        Term.ofSeconds settings.aggregateInterval),
      (Retry.pass d .shortTerm, Term.ofSeconds settings.shortTermInterval),
      (Retry.pass d .mediumTerm, Term.ofSeconds settings.mediumTermInterval),
      (Retry.pass d .longTerm, Term.ofSeconds settings.longTermInterval),
      (Purge.pass, Term.ofSeconds settings.purgeInterval)]
  term := Term.ofSeconds settings.lockMax

end Scheduler

end Reconciliation
