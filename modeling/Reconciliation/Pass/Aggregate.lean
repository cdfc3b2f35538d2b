import Reconciliation.Batch
import Reconciliation.Pass.Basic

/-!
# Aggregation

The first pass over new work. It looks for untried records that are older than the
hold-back, takes in every unprocessed record of their entities, dispatches the newest of
each entity and kind, the most urgent first, and deletes the stale duplicates. Records
that are done are kept.
-/

namespace Reconciliation.Aggregate

/-- The name of the pass and of its lock. -/
def name : String := "aggregate-messages"

/-- The entities of some records, each once, in ascending order. -/
def entitiesOf (rs : List WorkRecord) : List EntityId :=
  (rs.map (·.entity)).eraseDups.mergeSort fun a b => decide (a ≤ b)

variable {σ : Type} [RecordStore σ]

/-- The unprocessed records of the entities; an entity that cannot be fetched is counted in the
report and left out. -/
def fetch (report : Report) : List EntityId → Run σ (Report × List WorkRecord)
  | [] => pure (report, [])
  | e :: es => do
    match ← Records.unprocessedOf e with
    | .ok rs =>
      let (report, rest) ← fetch report es
      pure (report, rs ++ rest)
    | .error err =>
      Run.log (.entityUnavailable e err)
      fetch { report with storeErrors := report.storeErrors + 1 } es

/-- The entities that have untried records older than the hold-back. -/
def select (holdBack : Span) (now : Instant) : Run σ (Except StoreError (List EntityId)) :=
  match now.sub? holdBack with
  | none => do
    -- there is no instant so early, so nothing is old enough
    Run.log (.holdBackTooLong holdBack)
    pure (.ok [])
  | some cutoff => do
    match ← Records.untriedBefore cutoff with
    | .error e =>
      Run.log (.selectionFailed e)
      pure (.error e)
    | .ok ready => pure (.ok (entitiesOf ready))

/-- The batch of a pass: every unprocessed record of every selected entity. -/
def collect (holdBack : Span) (now : Instant) :
    Run σ (Except StoreError (Report × List WorkRecord)) := do
  match ← select holdBack now with
  | .error e => pure (.error e)
  | .ok es =>
    let batch ← fetch .empty es
    pure (.ok batch)

/-- Deletes a stale duplicate. -/
def discard (report : Report) (r : WorkRecord) : Run σ Report := do
  Run.log (.duplicateFound r)
  match ← Records.delete r with
  | .ok () => pure { report with discarded := report.discarded + 1 }
  | .error e => Pass.settle report (.error e) (.duplicateKept r)

/-- Carries a plan out. -/
def carryOut (d : Dispatcher) (now : Instant) (report : Report) (plan : Plan) : Run σ Report := do
  let report := { report with selected := plan.dispatch.length + plan.duplicates.length }
  let report ← plan.dispatch.foldlM (Pass.treat name d .keep now) report
  let report ← plan.duplicates.foldlM discard report
  Run.log (.aggregated report)
  pure report

/-- Carries out the plan of a batch; an empty batch calls for nothing. -/
def process (d : Dispatcher) (now : Instant) (report : Report) :
    List WorkRecord → Run σ (Except StoreError Report)
  | [] => pure (.ok report)
  | batch => do
    let report ← carryOut d now report (Plan.ofList batch)
    pure (.ok report)

/-- One pass at an instant. -/
def run (d : Dispatcher) (holdBack : Span) (now : Instant) : Run σ (Except StoreError Report) := do
  match ← collect holdBack now with
  | .error e => pure (.error e)
  | .ok (report, batch) => process d now report batch

/-- The pass as it is scheduled. -/
def pass (d : Dispatcher) (holdBack : Span) : Pass σ := ⟨name, run d holdBack⟩

end Reconciliation.Aggregate
