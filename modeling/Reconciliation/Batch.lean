import Reconciliation.Record.WorkRecord

/-!
# Batches

A batch is the outstanding work of some entities. Before it is carried out, it is thinned:
of the records of one entity and one kind only the newest is dispatched, the others are
stale duplicates. Both parts are put in dispatch order: the most urgent kind first, within
a rank the newest first, and ties broken by entity and identifier, so that the order of
records with different identifiers is total.
-/

namespace Reconciliation

namespace WorkRecord

/-- How two instants compare. -/
def compareInstants (a b : Instant) : Ordering := compare a.rank b.rank

/-- Dispatch order: priority, then the newer first, then entity, then identifier. -/
def dispatchOrder (a b : WorkRecord) : Ordering :=
  (compare a.eventType.priority b.eventType.priority).then <|
    (compareInstants b.created a.created).then <|
      (compare a.entity.val b.entity.val).then (compare a.id.toNat b.id.toNat)

/-- Whether `a` may come before `b` in dispatch order. -/
def dispatchesBefore (a b : WorkRecord) : Bool := (dispatchOrder a b).isLE

/-- Whether two records report the same kind of thing about the same entity. -/
def sameGroup (a b : WorkRecord) : Bool := a.entity == b.entity && a.eventType == b.eventType

/-- Whether `a` came in before `b`; the identifier decides between records of one instant. -/
def olderThan (a b : WorkRecord) : Bool :=
  decide (a.created < b.created) || (a.created == b.created && decide (a.id < b.id))

end WorkRecord

/-- A batch split into what is dispatched and what is discarded. -/
structure Plan where
  dispatch : List WorkRecord
  duplicates : List WorkRecord
deriving DecidableEq

namespace Plan

/-- Puts one more record into a plan: it becomes the survivor of its group if there is none
yet or if it is newer, and a duplicate otherwise. -/
def add (p : Plan) (r : WorkRecord) : Plan :=
  match p.dispatch.find? (r.sameGroup ·) with
  | none => ⟨p.dispatch ++ [r], p.duplicates⟩
  | some current =>
    if current.olderThan r then
      ⟨p.dispatch.map fun s => if r.sameGroup s then r else s, p.duplicates ++ [current]⟩
    else ⟨p.dispatch, p.duplicates ++ [r]⟩

/-- Both parts in dispatch order. -/
def sorted (p : Plan) : Plan :=
  ⟨p.dispatch.mergeSort WorkRecord.dispatchesBefore,
    p.duplicates.mergeSort WorkRecord.dispatchesBefore⟩

/-- The plan for a batch. -/
def ofList (rs : List WorkRecord) : Plan := (rs.foldl add ⟨[], []⟩).sorted

end Plan

end Reconciliation
