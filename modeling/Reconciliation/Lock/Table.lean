import Reconciliation.Lock.Access

/-!
# The lock table

Locks in memory. The table knows who holds which name until when, what time it is, and
which tokens it has given out. A name is held as long as its end lies ahead; taking a name
whose end has passed replaces the old holder, whose lease then no longer counts.
-/

namespace Reconciliation

/-- The holder of a name. -/
structure Hold where
  token : Nat
  /-- When the hold ends, on the table's clock. -/
  ends : Nat
deriving DecidableEq, Repr

/-- The locks in memory. -/
structure LockTable where
  holds : List (String × Hold)
  /-- Nanoseconds since the table was made. -/
  clock : Nat
  /-- The last token given out. -/
  lastToken : Nat
deriving Repr

namespace LockTable

/-- The table in which nothing is held. -/
def empty : LockTable := ⟨[], 0, 0⟩

/-- The holder of a name, whether or not its end has passed. -/
def hold? (t : LockTable) (name : String) : Option Hold :=
  (t.holds.find? (·.1 == name)).map (·.2)

/-- Whether a name is held. -/
def isHeld (t : LockTable) (name : String) : Bool :=
  match t.hold? name with
  | some h => decide (t.clock < h.ends)
  | none => false

/-- Takes a name for a term, unless it is held. -/
def acquire (t : LockTable) (name : String) (term : Term) :
    Except LockError (Option Lease) × LockTable :=
  match checkTerm name term with
  | .error e => (.error e, t)
  | .ok () =>
    if t.isHeld name then (.ok none, t)
    else
      -- a token is never given twice, so a late release finds no hold of another
      let token := t.lastToken + 1
      let hold : Hold := ⟨token, t.clock + term.nanos⟩
      (.ok (some ⟨name, token, term⟩),
        { t with
          holds := (name, hold) :: t.holds.filter (·.1 != name)
          lastToken := token })

/-- Gives a lease back; nothing happens if its name has another holder or none. -/
def release (t : LockTable) (lease : Lease) : LockTable :=
  match t.hold? lease.name with
  | some h =>
    if h.token = lease.token then { t with holds := t.holds.filter (·.1 != lease.name) } else t
  | none => t

/-- Lets time pass. -/
def wait (t : LockTable) (time : Term) : LockTable := { t with clock := t.clock + time.nanos }

end LockTable

instance : LockProvider LockTable where
  acquire name term t := let (r, t) := t.acquire name term; (.ok r, t)
  release lease t := (.ok (), t.release lease)

end Reconciliation
