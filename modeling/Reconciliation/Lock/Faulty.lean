import Reconciliation.Lock.Table

/-!
# Lock tables that fail

A lock table with faults: taking or giving back a name can fail with a text, and taking a
name can crash. What fails does nothing else.
-/

namespace Reconciliation

/-- A lock table that can fail. -/
structure FaultyLocks where
  table : LockTable
  /-- Names that cannot be taken, with the reason; the first reason for a name counts. -/
  refusals : List (String × String)
  /-- Names that cannot be given back, with the reason; the first reason for a name counts. -/
  losses : List (String × String)
  /-- Names on which taking crashes. -/
  crashes : List String

namespace FaultyLocks

/-- A table without faults. -/
def sound (t : LockTable) : FaultyLocks := ⟨t, [], [], []⟩

/-- The table freed of its faults. -/
def cleared (l : FaultyLocks) : FaultyLocks := sound l.table

/-- The reason under a name. -/
def reason? (name : String) (faults : List (String × String)) : Option String :=
  (faults.find? (·.1 == name)).map (·.2)

/-- Takes a name, if it does not fail. -/
def acquire (name : String) (term : Term) (l : FaultyLocks) :
    Except Crash (Except LockError (Option Lease)) × FaultyLocks :=
  if l.crashes.contains name then (.error (.of "lock backend crashed"), l)
  else
    match reason? name l.refusals with
    | some reason => (.ok (.error (.backend reason)), l)
    | none =>
      let (lease, table) := l.table.acquire name term
      (.ok lease, { l with table })

/-- Gives a lease back, if it does not fail. -/
def release (lease : Lease) (l : FaultyLocks) : Except LockError Unit × FaultyLocks :=
  match reason? lease.name l.losses with
  | some reason => (.error (.backend reason), l)
  | none => (.ok (), { l with table := l.table.release lease })

end FaultyLocks

instance : LockProvider FaultyLocks where
  acquire := FaultyLocks.acquire
  release := FaultyLocks.release

end Reconciliation
