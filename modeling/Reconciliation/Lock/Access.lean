import Reconciliation.Lock.Basic
import Reconciliation.Run

/-!
# Access to locks

What the pipeline asks of a backend that keeps locks: to take a lock by name for at most a
term, which gives a lease, or nothing if someone else holds it; and to give a lease back.
`underLock` runs a body between the two.
-/

namespace Reconciliation

/-- A backend that keeps locks. Taking a lock may crash. -/
class LockProvider (σ : Type) where
  /-- Takes a lock; no lease if someone else holds it. -/
  acquire : String → Term → σ → Except Crash (Except LockError (Option Lease)) × σ
  /-- Gives a lock back. One that has been taken over stays where it is. -/
  release : Lease → σ → Except LockError Unit × σ

namespace Locks

variable {σ α : Type} [LockProvider σ]

def acquire (name : String) (term : Term) : Run σ (Except LockError (Option Lease)) :=
  Run.riskyStep (LockProvider.acquire name term)

def release (lease : Lease) : Run σ (Except LockError Unit) :=
  Run.step (LockProvider.release lease)

/-- Runs a body under a lock, or not at all if the lock is held elsewhere. A lease that cannot
be given back runs out by itself. -/
def underLock (name : String) (term : Term) (body : Run σ α) :
    Run σ (Except LockError (Option α)) := do
  match ← acquire name term with
  | .error e => pure (.error e)
  | .ok none =>
    Run.log (.lockHeld name)
    pure (.ok none)
  | .ok (some lease) =>
    let result ← body
    -- the lease is given back whatever came of the body
    match ← release lease with
    | .ok () => pure (.ok (some result))
    | .error e =>
      Run.log (.releaseFailed name e)
      pure (.ok (some result))

end Locks

end Reconciliation
