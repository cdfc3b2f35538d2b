import Reconciliation.Batch
import Reconciliation.Pass.Basic

/-!
# Retries

The passes over work that has failed. Each tier takes the unprocessed records in its band,
in dispatch order, and attempts every one that is not expired. Records that are done are
removed.
-/

namespace Reconciliation.Retry

variable {σ : Type} [RecordStore σ]

/-- The unprocessed records in the band of a tier. -/
def select (tier : RetryTier) : Run σ (Except StoreError (List WorkRecord)) := do
  match ← Records.unprocessedIn tier.band with
  | .error e =>
    Run.log (.tierSelectionFailed tier.name e)
    pure (.error e)
  | .ok rs => pure (.ok rs)

/-- Treats the selected records in dispatch order. -/
def carryOut (d : Dispatcher) (tier : RetryTier) (now : Instant) (rs : List WorkRecord) :
    Run σ Report := do
  let sorted := rs.mergeSort WorkRecord.dispatchesBefore
  let report ← sorted.foldlM (Pass.treat tier.name d .remove now)
    { Report.empty with selected := sorted.length }
  Run.log (.retried tier.name report)
  pure report

/-- One pass of a tier at an instant. -/
def run (d : Dispatcher) (tier : RetryTier) (now : Instant) : Run σ (Except StoreError Report) := do
  match ← select tier with
  | .error e => pure (.error e)
  | .ok [] => pure (.ok .empty)
  | .ok rs =>
    let report ← carryOut d tier now rs
    pure (.ok report)

/-- The pass of a tier as it is scheduled. -/
def pass (d : Dispatcher) (tier : RetryTier) : Pass σ := ⟨tier.name, run d tier⟩

end Reconciliation.Retry
