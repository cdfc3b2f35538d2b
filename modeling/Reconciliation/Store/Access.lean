import Reconciliation.Run
import Reconciliation.Store.Basic

/-!
# Access to stored records

What the pipeline asks of a backend that keeps records. Every operation may fail; queries
give their records in no particular order. `RecordStore` lists the operations as steps of
the backend, and the functions in the namespace `Records` are the same as runs.

A handler may also change the store behind the pipeline's back (`edit`).
-/

namespace Reconciliation

/-- A change to stored records that a handler makes on its own. -/
inductive Edit where
  | delete (id : RecordId)
  | insert (record : WorkRecord)

/-- A backend that keeps records. -/
class RecordStore (σ : Type) where
  insert : WorkRecord → σ → Except StoreError Unit × σ
  /-- Puts a record in place of the one with its identifier. -/
  update : WorkRecord → σ → Except StoreError Unit × σ
  /-- Removes a record; one that is gone already is no failure. -/
  delete : WorkRecord → σ → Except StoreError Unit × σ
  get : RecordId → σ → Except StoreError (Option WorkRecord) × σ
  /-- The unprocessed records of an entity. -/
  unprocessedOf : EntityId → σ → Except StoreError (List WorkRecord) × σ
  /-- The records of one kind with one retry count. -/
  ofTypeAndCount : EventType → UInt32 → σ → Except StoreError (List WorkRecord) × σ
  /-- The unprocessed records in a retry band. -/
  unprocessedIn : RetryBand → σ → Except StoreError (List WorkRecord) × σ
  /-- The untried, unprocessed records that came in before an instant. -/
  untriedBefore : Instant → σ → Except StoreError (List WorkRecord) × σ
  /-- Removes the records that are expired, and says how many those were. -/
  deleteExpired : Instant → σ → Except StoreError Nat × σ
  edit : Edit → σ → Except StoreError Unit × σ

namespace Records

variable {σ : Type} [RecordStore σ]

def insert (r : WorkRecord) : Run σ (Except StoreError Unit) := Run.step (RecordStore.insert r)

def update (r : WorkRecord) : Run σ (Except StoreError Unit) := Run.step (RecordStore.update r)

def delete (r : WorkRecord) : Run σ (Except StoreError Unit) := Run.step (RecordStore.delete r)

def get (id : RecordId) : Run σ (Except StoreError (Option WorkRecord)) :=
  Run.step (RecordStore.get id)

def unprocessedOf (e : EntityId) : Run σ (Except StoreError (List WorkRecord)) :=
  Run.step (RecordStore.unprocessedOf e)

def ofTypeAndCount (t : EventType) (n : UInt32) : Run σ (Except StoreError (List WorkRecord)) :=
  Run.step (RecordStore.ofTypeAndCount t n)

def unprocessedIn (b : RetryBand) : Run σ (Except StoreError (List WorkRecord)) :=
  Run.step (RecordStore.unprocessedIn b)

def untriedBefore (t : Instant) : Run σ (Except StoreError (List WorkRecord)) :=
  Run.step (RecordStore.untriedBefore t)

def deleteExpired (t : Instant) : Run σ (Except StoreError Nat) :=
  Run.step (RecordStore.deleteExpired t)

def edit (e : Edit) : Run σ (Except StoreError Unit) := Run.step (RecordStore.edit e)

end Records

namespace Store

/-- An operation whose failure leaves the store as it is. -/
def attempted (s : Store) : Except StoreError Store → Except StoreError Unit × Store
  | .ok s => (.ok (), s)
  | .error e => (.error e, s)

/-- The change that a handler makes. -/
def edit (s : Store) : Edit → Except StoreError Unit × Store
  | .delete id => (.ok (), s.erase id)
  | .insert r => s.attempted (s.insert r)

end Store

instance : RecordStore Store where
  insert r s := s.attempted (s.insert r)
  update r s := s.attempted (s.update r)
  delete r s := (.ok (), s.erase r.id)
  get id s := (.ok (s.get? id), s)
  unprocessedOf e s := (.ok (s.unprocessedOf e), s)
  ofTypeAndCount t n s := (.ok (s.ofTypeAndCount t n), s)
  unprocessedIn b s := (.ok (s.unprocessedIn b), s)
  untriedBefore t s := (.ok (s.untriedBefore t), s)
  deleteExpired t s := let (n, s) := s.purge t; (.ok n, s)
  edit e s := s.edit e

end Reconciliation
