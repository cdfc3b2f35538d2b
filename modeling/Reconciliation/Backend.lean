import Reconciliation.Lock.Faulty
import Reconciliation.Store.Faulty

/-!
# Backends

A backend is made of a store and locks, each of which does its part whatever the other is.
In memory both can be made to fail.
-/

namespace Reconciliation

/-- A store and locks. -/
structure Backend (σ κ : Type) where
  store : σ
  locks : κ

namespace Backend

variable {σ κ α : Type}

/-- A step of the store. -/
def onStore (f : σ → α × σ) (b : Backend σ κ) : α × Backend σ κ :=
  let (a, store) := f b.store
  (a, { b with store })

/-- A step of the locks. -/
def onLocks (f : κ → α × κ) (b : Backend σ κ) : α × Backend σ κ :=
  let (a, locks) := f b.locks
  (a, { b with locks })

instance [RecordStore σ] : RecordStore (Backend σ κ) where
  insert r := onStore (RecordStore.insert r)
  update r := onStore (RecordStore.update r)
  delete r := onStore (RecordStore.delete r)
  get id := onStore (RecordStore.get id)
  unprocessedOf e := onStore (RecordStore.unprocessedOf e)
  ofTypeAndCount t n := onStore (RecordStore.ofTypeAndCount t n)
  unprocessedIn b := onStore (RecordStore.unprocessedIn b)
  untriedBefore t := onStore (RecordStore.untriedBefore t)
  deleteExpired t := onStore (RecordStore.deleteExpired t)
  edit e := onStore (RecordStore.edit e)

instance [LockProvider κ] : LockProvider (Backend σ κ) where
  acquire name term := onLocks (LockProvider.acquire name term)
  release lease := onLocks (LockProvider.release lease)

end Backend

/-- Records and locks in memory. -/
abbrev Memory := Backend FaultyStore FaultyLocks

namespace Memory

/-- A memory that holds some records and does not fail. -/
def of (s : Store) : Memory := ⟨.sound s, .sound .empty⟩

/-- The memory without any faults. -/
def cleared (m : Memory) : Memory :=
  ⟨{ m.store with faults := [] }, m.locks.cleared⟩

end Memory

end Reconciliation
