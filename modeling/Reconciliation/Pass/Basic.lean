import Reconciliation.Dispatcher

/-!
# Passes

How a pass treats one record. An expired record is abandoned: deleted without an attempt.
Any other is attempted: it is dispatched, and what comes of it is written back. A failure
or a crash of the handler counts as a failed attempt, and a failure of the store is
counted and passed over, so that no record stops the ones after it.

The simplest pass is the purge, which attempts nothing: it removes every expired record, done
or not.
-/

namespace Reconciliation

/-- What a pass does with a record that is done. -/
inductive WhenDone where
  /-- It is kept, with the time at which it was done. -/
  | keep
  /-- It is removed. -/
  | remove
deriving DecidableEq

/-- A scheduled pass: the name of its lock and what it does at an instant. Only a failure to
select its records is an error. -/
structure Pass (σ : Type) where
  name : String
  run : Instant → Run σ (Except StoreError Report)

namespace Pass

variable {σ : Type} [RecordStore σ]

/-- Dispatches a record; a crash is a failure of the handler like any other. -/
def tryDispatch (d : Dispatcher) (r : WorkRecord) (now : Instant) :
    Run σ (Except String Outcome) := do
  match ← (d.dispatch r now).caught with
  | .ok result => pure result
  | .error c => pure (.error ("handler panicked: " ++ c.text))

/-- Counts a failed store operation and logs it; a successful one leaves the report as it is. -/
def settle (report : Report) (result : Except StoreError Unit) (event : StoreError → Log.Event) :
    Run σ Report :=
  match result with
  | .ok () => pure report
  | .error e => do
    Run.log (event e)
    pure { report with storeErrors := report.storeErrors + 1 }

/-- Writes a completed record back. -/
def writeDone (pass : String) (whenDone : WhenDone) (r : WorkRecord) (status : String)
    (now : Instant) : Run σ (Except StoreError Unit) :=
  match whenDone with
  | .remove => Records.delete r
  | .keep =>
    match r.markProcessed status now with
    | .ok done => Records.update done
    | .error before => do
      Run.log (.doneBefore pass r before)
      pure (.ok ())

/-- Writes back what came of an attempt, and counts it. -/
def conclude (pass : String) (d : Dispatcher) (whenDone : WhenDone) (now : Instant)
    (report : Report) (r : WorkRecord) : Except String Outcome → Run σ Report
  | .ok (.completed status) => do
    Run.log (.completed pass r status)
    let result ← writeDone pass whenDone r status now
    settle { report with completed := report.completed + 1 } result (.resultLost pass r)
  | .ok (.retry until?) => do
    let next := r.recordFailure Status.retry until? now
    Run.log (.retryRequested pass r next)
    let result ← Records.update next
    settle { report with retried := report.retried + 1 } result (.resultLost pass next)
  | .error message => do
    Run.log (.handlerFailed pass r message)
    -- this is outside of the attempt: if the sink crashes, the failure is not written
    d.noteFailure r now
    let next := r.recordFailure Status.error none now
    let result ← Records.update next
    settle { report with errored := report.errored + 1 } result (.resultLost pass next)

/-- Attempts a record: dispatches it and writes the result back. -/
def attempt (pass : String) (d : Dispatcher) (whenDone : WhenDone) (now : Instant)
    (report : Report) (r : WorkRecord) : Run σ Report := do
  let result ← tryDispatch d r now
  Run.dispatched ⟨pass, r, now, result⟩
  conclude pass d whenDone now { report with dispatched := report.dispatched + 1 } r result

/-- Deletes an expired record without an attempt. -/
def abandon (pass : String) (report : Report) (r : WorkRecord) : Run σ Report := do
  Run.log (.abandoning pass r)
  match ← Records.delete r with
  | .ok () => pure { report with abandoned := report.abandoned + 1 }
  | .error e => settle report (.error e) (.expiredKept pass r)

/-- Treats one record: abandons it if it is expired and attempts it otherwise. -/
def treat (pass : String) (d : Dispatcher) (whenDone : WhenDone) (now : Instant)
    (report : Report) (r : WorkRecord) : Run σ Report :=
  if r.isExpired now then abandon pass report r else attempt pass d whenDone now report r

end Pass

end Reconciliation

namespace Reconciliation.Purge

/-- The name of the pass and of its lock. -/
def name : String := "purge-expired"

variable {σ : Type} [RecordStore σ]

/-- One pass at an instant; what it removes counts as abandoned. -/
def run (now : Instant) : Run σ (Except StoreError Report) := do
  match ← Records.deleteExpired now with
  | .error e => pure (.error e)
  | .ok 0 => pure (.ok .empty)
  | .ok n =>
    Run.log (.purged n)
    pure (.ok { Report.empty with abandoned := n })

/-- The pass as it is scheduled. -/
def pass : Pass σ := ⟨name, run⟩

end Reconciliation.Purge
