import Reconciliation.Lock.Access
import Reconciliation.Postgres.Connection

/-!
# Locks in a database

A lock is a row that says until when it is held and by which token. One statement takes it:
it writes the row if there is none or if the old end has passed, so the lock is taken
exactly when a row was written. Giving a lock back sets its end to the present, for the
lease's own token only.
-/

namespace Reconciliation.Postgres

/-- The statement that takes a lock. -/
def acquireStatement : String :=
  lines [
    "",
    "            INSERT INTO scheduler_locks (name, lock_until, locked_at, locked_by)",
    "            VALUES ($1, $2, $3, $4)",
    "            ON CONFLICT (name) DO UPDATE",
    "            SET lock_until = EXCLUDED.lock_until,",
    "                locked_at = EXCLUDED.locked_at,",
    "                locked_by = EXCLUDED.locked_by",
    "            WHERE scheduler_locks.lock_until <= EXCLUDED.locked_at"] ++ "            "

/-- The statement that gives a lock back. -/
def releaseStatement : String :=
  lines [
    "",
    "            UPDATE scheduler_locks",
    "            SET lock_until = $3",
    "            WHERE name = $1 AND locked_by = $2"] ++ "            "

/-- When a lock taken now ends; there may be no such instant. -/
def lockEnd? (now : Instant) (term : Term) : Option Instant := now.add? term.toSpan

/-- Takes a lock. A term that leads past the last instant is a crash, and nothing is sent. -/
def acquire (name : String) (term : Term) (c : Connection) :
    Except Crash (Except LockError (Option Lease)) × Connection :=
  match checkTerm name term with
  | .error e => (.ok (.error e), c)
  | .ok () =>
    match lockEnd? c.now term with
    | none => (.error (.of "`DateTime + TimeDelta` overflowed"), c)
    | some ends =>
      if c.closed then
        (.ok (.error (.backend ("acquire " ++ name ++ ": " ++ Trouble.message .closed))), c)
      else
        -- the token is used up also if the statement fails
        let token := c.lastToken + 1
        match ({ c with lastToken := token } : Connection).execute acquireStatement
            [.of (.text name), .of (.instant ends), .of (.instant c.now), .token token] with
        | (.ok n, c) => (.ok (.ok (if n = 1 then some ⟨name, token, term⟩ else none)), c)
        | (.error e, c) => (.ok (.error (.backend ("acquire " ++ name ++ ": " ++ e.message))), c)

/-- Gives a lease back. -/
def release (lease : Lease) (c : Connection) : Except LockError Unit × Connection :=
  match c.execute releaseStatement
      [.of (.text lease.name), .token lease.token, .of (.instant c.now)] with
  | (.ok _, c) => (.ok (), c)
  | (.error e, c) => (.error (.backend ("release " ++ lease.name ++ ": " ++ e.message)), c)

instance : LockProvider Connection where
  acquire := acquire
  release := release

end Reconciliation.Postgres
