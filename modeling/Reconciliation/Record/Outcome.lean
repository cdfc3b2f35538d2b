import Reconciliation.Time.Instant

/-!
# Outcomes

What a handler makes of a record: it is done, with a label, or it is to be tried again,
perhaps with a deadline that replaces the record's expiry. What a pass made of its records
is a report, in counts: nothing that goes wrong with one record ends a pass, so it is
counted there instead.

A label is for reports; nothing branches on it, and handlers may use labels of their own.
-/

namespace Reconciliation.Status

/-- The handler did its work. -/
def processed : String := "PROCESSED"

/-- No handler is registered for the kind of event. -/
def noHandler : String := "NO_HANDLER"

/-- The handler asked to be tried again. -/
def retry : String := "RETRY"

/-- The handler failed; the record is tried again. -/
def error : String := "ERROR"

end Reconciliation.Status

namespace Reconciliation

/-- What became of an attempt. -/
inductive Outcome where
  | completed (status : String)
  | retry (until? : Option Instant)
deriving DecidableEq

namespace Outcome

/-- Done, with the usual label. -/
def processed : Outcome := completed Status.processed

def isCompleted : Outcome → Bool
  | completed _ => true
  | retry _ => false

end Outcome

/-! ## Reports -/

/-- The summary of one pass. -/
structure Report where
  /-- Records that the pass selected. -/
  selected : Nat := 0
  /-- Attempts made. -/
  dispatched : Nat := 0
  completed : Nat := 0
  retried : Nat := 0
  /-- Attempts whose handler failed. -/
  errored : Nat := 0
  /-- Stale duplicates deleted without an attempt. -/
  discarded : Nat := 0
  /-- Expired records deleted without an attempt. -/
  abandoned : Nat := 0
  /-- Store operations that failed and were passed over. -/
  storeErrors : Nat := 0
deriving DecidableEq, Repr

namespace Report

/-- The report of a pass that did nothing. -/
def empty : Report := {}

/-- Whether the pass attempted, discarded and abandoned nothing. -/
def isNoop (r : Report) : Bool := r.dispatched == 0 && r.discarded == 0 && r.abandoned == 0

end Report

end Reconciliation
