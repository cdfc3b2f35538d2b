import Reconciliation.Pass.Aggregate
import Reconciliation.Pass.Retry

/-!
# The course of a pass

Passes with different locks may overlap, and then the steps of one come between the steps
of the other. The course of a pass is the pass cut into such steps: each makes at most one
request to the store. In between, all that a pass has is its `Phase`: the copies of the
records that it has read and what is still to be done with them. `Course.step` is one step
of any pass; the passes differ in how they select, what they do with a record that is done
and what they log at the end.
-/

namespace Reconciliation

/-- How far a pass has come. -/
inductive Phase where
  | start
  /-- It fetches the records of some entities to the batch it has. -/
  | fetching (report : Report) (entities : List EntityId) (batch : List WorkRecord)
  /-- It treats records, then discards duplicates. -/
  | treating (report : Report) (todo duplicates : List WorkRecord)
  /-- It has dispatched a record and not yet written the result. -/
  | concluding (report : Report) (record : WorkRecord) (result : Except String Outcome)
      (todo duplicates : List WorkRecord)
  | ended (result : Except StoreError Report)
  | crashed (c : Crash)

namespace Phase

/-- The copies of records that a pass may still write back. -/
def copies : Phase → List WorkRecord
  | fetching _ _ batch => batch
  | treating _ todo _ => todo
  | concluding _ r _ todo _ => r :: todo
  | _ => []

/-- Whether a pass still reads records. -/
def isEarly : Phase → Bool
  | start => true
  | fetching .. => true
  | _ => false

/-- What follows the selection of entities: fetching their records. -/
def ofEntities : Except StoreError (List EntityId) → Phase
  | .error e => ended (.error e)
  | .ok es => fetching .empty es []

/-- What follows the selection of records: treating them in dispatch order. -/
def ofRecords : Except StoreError (List WorkRecord) → Phase
  | .error e => ended (.error e)
  | .ok [] => ended (.ok .empty)
  | .ok rs =>
    let sorted := rs.mergeSort WorkRecord.dispatchesBefore
    treating { Report.empty with selected := sorted.length } sorted []

/-- What follows once a batch is complete: nothing, or carrying out its plan. -/
def planned (report : Report) : List WorkRecord → Phase
  | [] => ended (.ok report)
  | batch =>
    let plan := Plan.ofList batch
    treating { report with selected := plan.dispatch.length + plan.duplicates.length }
      plan.dispatch plan.duplicates

end Phase

/-- A pass as a sequence of steps. -/
structure Course (σ : Type) where
  name : String
  dispatcher : Dispatcher
  whenDone : WhenDone
  now : Instant
  /-- The first step, which selects. -/
  start : Run σ Phase
  /-- What the pass logs at its end. -/
  closing : Report → Log.Event

namespace Course

variable {σ : Type} [RecordStore σ] (c : Course σ)

/-- One step. A pass that is over stays so. -/
def step : Phase → Run σ Phase
  | .start => c.start
  | .fetching report (e :: es) batch => do
    let (report, rs) ← Aggregate.fetch report [e]
    pure (.fetching report es (batch ++ rs))
  | .fetching report [] batch => pure (.planned report batch)
  | .treating report (r :: todo) duplicates =>
    if r.isExpired c.now then do
      let report ← Pass.abandon c.name report r
      pure (.treating report todo duplicates)
    else do
      let result ← Pass.tryDispatch c.dispatcher r c.now
      Run.dispatched ⟨c.name, r, c.now, result⟩
      pure (.concluding { report with dispatched := report.dispatched + 1 } r result todo
        duplicates)
  | .treating report [] (r :: duplicates) => do
    let report ← Aggregate.discard report r
    pure (.treating report [] duplicates)
  | .treating report [] [] => do
    Run.log (c.closing report)
    pure (.ended (.ok report))
  | .concluding report r result todo duplicates => do
    let report ← Pass.conclude c.name c.dispatcher c.whenDone c.now report r result
    pure (.treating report todo duplicates)
  | .ended result => pure (.ended result)
  | .crashed crash => pure (.crashed crash)

/-- One step of a pass among others: a crash ends this pass only. -/
def turn (p : Phase) (w : World σ) : Phase × World σ :=
  match c.step p w with
  | (.ok p, w) => (p, w)
  | (.error crash, w) => (.crashed crash, w)

end Course

variable {σ : Type} [RecordStore σ]

/-- The aggregation in steps. -/
def Aggregate.course (d : Dispatcher) (holdBack : Span) (now : Instant) : Course σ where
  name := Aggregate.name
  dispatcher := d
  whenDone := .keep
  now
  start := do
    let selected ← select holdBack now
    pure (.ofEntities selected)
  closing := .aggregated

/-- A retry in steps. -/
def Retry.course (d : Dispatcher) (tier : RetryTier) (now : Instant) : Course σ where
  name := tier.name
  dispatcher := d
  whenDone := .remove
  now
  start := do
    let selected ← select tier
    pure (.ofRecords selected)
  closing := .retried tier.name

end Reconciliation
