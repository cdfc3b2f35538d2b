import Reconciliation.Store.Access

/-!
# The backlog

A summary of all unprocessed records by kind of event: how many there are, when the oldest
came in, how many are older than they should be, and how often the worst has failed. The
entries are in the order of the kinds' names.
-/

namespace Reconciliation

/-- The unprocessed records of one kind. -/
structure BacklogEntry where
  eventType : String
  count : Nat
  oldest : Instant
  /-- How many are older than the limit. -/
  late : Nat
  mostRetries : UInt32
deriving DecidableEq

/-- The unprocessed records by kind. -/
structure Backlog where
  generated : Instant
  /-- The limit on the age of a record. -/
  limit : Span
  total : Nat
  entries : List BacklogEntry
deriving DecidableEq

namespace Backlog

/-- Whether a record is older than the limit. -/
def isLate (now : Instant) (limit : Span) (r : WorkRecord) : Bool := decide (limit < r.age now)

/-- The entry of a single record. -/
def entryOf (now : Instant) (limit : Span) (r : WorkRecord) : BacklogEntry :=
  ⟨r.eventType.name, 1, r.created, if isLate now limit r then 1 else 0, r.retryCount⟩

/-- Two entries of one kind as one. -/
def merge (a b : BacklogEntry) : BacklogEntry :=
  ⟨a.eventType, a.count + b.count, min a.oldest b.oldest, a.late + b.late,
    if a.mostRetries < b.mostRetries then b.mostRetries else a.mostRetries⟩

/-- Puts an entry into a list in the order of names, into the entry of its name if there is
one. -/
def put (e : BacklogEntry) : List BacklogEntry → List BacklogEntry
  | [] => [e]
  | x :: xs =>
    if e.eventType < x.eventType then e :: x :: xs
    else if x.eventType = e.eventType then merge x e :: xs
    else x :: put e xs

/-- The entries of some records. -/
def entriesOf (now : Instant) (limit : Span) (rs : List WorkRecord) : List BacklogEntry :=
  rs.foldl (fun entries r => put (entryOf now limit r) entries) []

variable {σ : Type} [RecordStore σ]

/-- The backlog at an instant. -/
def report (now : Instant) (limit : Span) : Run σ (Except StoreError Backlog) := do
  match ← Records.unprocessedIn (.atLeast 0) with
  | .error e => pure (.error e)
  | .ok rs => pure (.ok ⟨now, limit, rs.length, entriesOf now limit rs⟩)

end Backlog

end Reconciliation
