import Reconciliation.Store.Access

/-!
# Stores that fail

A store with a list of faults: a fault makes calls of one operation fail, all of them or
those about one record or one entity, for ever or a number of times. A call that fails
does nothing else; of several faults that match the first one counts. A handler's own
changes never fail this way.

A stale store also gives out the processed records of an entity, as one does that is
read while another instance writes.
-/

namespace Reconciliation

/-- A call of a store operation. -/
inductive StoreCall where
  | insert (r : WorkRecord)
  | update (r : WorkRecord)
  | delete (r : WorkRecord)
  | get (id : RecordId)
  | unprocessedOf (e : EntityId)
  | ofTypeAndCount (t : EventType) (n : UInt32)
  | unprocessedIn (b : RetryBand)
  | untriedBefore (t : Instant)
  | deleteExpired (t : Instant)

/-- The operations that a fault can hit. -/
inductive StoreOperation where
  | insert
  | update
  | delete
  | get
  | unprocessedOf
  | ofTypeAndCount
  | unprocessedIn
  | untriedBefore
  | deleteExpired
deriving DecidableEq, Repr

namespace StoreCall

def operation : StoreCall → StoreOperation
  | insert _ => .insert
  | update _ => .update
  | delete _ => .delete
  | get _ => .get
  | unprocessedOf _ => .unprocessedOf
  | ofTypeAndCount .. => .ofTypeAndCount
  | unprocessedIn _ => .unprocessedIn
  | untriedBefore _ => .untriedBefore
  | deleteExpired _ => .deleteExpired

/-- The identifier that a call is about. -/
def id? : StoreCall → Option RecordId
  | insert r | update r | delete r => some r.id
  | get id => some id
  | _ => none

/-- The entity that a call is about. -/
def entity? : StoreCall → Option EntityId
  | insert r | update r | delete r => some r.entity
  | unprocessedOf e => some e
  | _ => none

end StoreCall

/-- The error that a fault raises. -/
inductive FaultKind where
  | notFound
  | alreadyExists
  | storage (reason : String)
  | corrupt (reason : String)
deriving DecidableEq, Repr

/-- The error of a fault for a call. -/
def FaultKind.error (c : StoreCall) : FaultKind → StoreError
  | notFound => .notFound (c.id?.getD .nil)
  | alreadyExists => .alreadyExists (c.id?.getD .nil)
  | storage reason => .storage reason
  | corrupt reason => .corrupt reason

/-- A fault of a store. -/
structure Fault where
  operation : StoreOperation
  /-- Only calls about this record. -/
  id? : Option RecordId
  /-- Only calls about this entity. -/
  entity? : Option EntityId
  /-- How many more calls fail; all if nothing is said. -/
  left? : Option Nat
  kind : FaultKind
deriving DecidableEq

namespace Fault

/-- Whether a call fails because of the fault. -/
def hits (f : Fault) (c : StoreCall) : Bool :=
  f.left? != some 0 && f.operation == c.operation &&
    (f.id?.isNone || f.id? == c.id?) && (f.entity?.isNone || f.entity? == c.entity?)

/-- The fault after it has made a call fail. -/
def spent (f : Fault) : Fault := { f with left? := f.left?.map (· - 1) }

/-- The error of the first fault that hits a call, and the faults after it. -/
def strike (c : StoreCall) : List Fault → Option StoreError × List Fault
  | [] => (none, [])
  | f :: fs =>
    if f.hits c then (some (f.kind.error c), f.spent :: fs)
    else
      let (e, fs) := strike c fs
      (e, f :: fs)

end Fault

/-- A store that can fail. -/
structure FaultyStore where
  store : Store
  faults : List Fault
  stale : Bool

namespace FaultyStore

/-- A store without faults. -/
def sound (s : Store) : FaultyStore := ⟨s, [], false⟩

/-- A call that fails if a fault hits it, and is a step of the store otherwise. -/
def call {α : Type} (c : StoreCall) (f : Store → Except StoreError α × Store) (s : FaultyStore) :
    Except StoreError α × FaultyStore :=
  match Fault.strike c s.faults with
  | (some e, faults) => (.error e, { s with faults })
  | (none, _) =>
    let (a, store) := f s.store
    (a, { s with store })

/-- The records that the store gives out for an entity. -/
def seenOf (s : FaultyStore) (e : EntityId) (inner : Store) : List WorkRecord :=
  if s.stale then inner.select (·.entity == e) else inner.unprocessedOf e

end FaultyStore

instance : RecordStore FaultyStore where
  insert r := FaultyStore.call (.insert r) (RecordStore.insert r)
  update r := FaultyStore.call (.update r) (RecordStore.update r)
  delete r := FaultyStore.call (.delete r) (RecordStore.delete r)
  get id := FaultyStore.call (.get id) (RecordStore.get id)
  unprocessedOf e s := s.call (.unprocessedOf e) fun inner => (.ok (s.seenOf e inner), inner)
  ofTypeAndCount t n := FaultyStore.call (.ofTypeAndCount t n) (RecordStore.ofTypeAndCount t n)
  unprocessedIn b := FaultyStore.call (.unprocessedIn b) (RecordStore.unprocessedIn b)
  untriedBefore t := FaultyStore.call (.untriedBefore t) (RecordStore.untriedBefore t)
  deleteExpired t := FaultyStore.call (.deleteExpired t) (RecordStore.deleteExpired t)
  edit e s := let (a, store) := s.store.edit e; (a, { s with store })

end Reconciliation
