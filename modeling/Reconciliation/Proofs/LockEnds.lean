import Reconciliation.Proofs.Instant
import Reconciliation.Proofs.Terms

/-!
# Where the terms of locks end

A lock in a database is taken up to an instant. The check compares a term with the longest span of
milliseconds, which is some five hundred times as long as the whole range of instants, so it lets
terms through that end beyond the last instant. Asking for a lock with such a term is a crash, and
outside of the part of a worker that crashes are caught in: the worker is gone.

* `Postgres.lockEnd?_eq_none_iff`: which terms have no end.
* `Postgres.acquires_unless_overlong`: with an end a lock is answered for, without one the call
  crashes, and the worker with it. Up to the year 9999 all terms up to `Postgres.longestEnding`
  have one.
-/

namespace Reconciliation

variable {σ κ : Type} {name : String} {term : Term}

/-! ## Workers whose lock crashes -/

/-- **A worker ends with the first crash of its lock**, and its pass does not run. -/
theorem Scheduler.work_crash [LockProvider σ] {s : Scheduler σ} {p : Pass σ} {c : Crash}
    {w v : World σ} (h : (Locks.acquire p.name s.term : Run σ _) w = (.error c, v)) (now : Instant)
    (n : Nat) : s.work p now (n + 1) w = (.ok true, v) := by
  have hlocks : Locks.underLock p.name s.term (p.run now).caught w = (.error c, v) :=
    Run.bind_crash h _
  have hguarded : p.guarded s.term now w = (.error c, v) := Run.bind_crash hlocks _
  have hcaught : (p.guarded s.term now).caught w = (.ok (.error c), v) := by
    rw [Run.caught, hguarded]
  exact Run.bind_ok hcaught _

/-- Beside a store a lock crashes as it does by itself. -/
theorem Backend.acquire_crash [LockProvider κ] {w : World (Backend σ κ)} {c : Crash}
    (h : LockProvider.acquire name term w.backend.locks = (.error c, w.backend.locks)) :
    (Locks.acquire name term : Run (Backend σ κ) _) w = (.error c, w) := by
  simp only [Locks.acquire, Run.riskyStep, LockProvider.acquire, onLocks, h]

namespace Postgres

variable {c : Connection} {now ends : Instant}

/-- **A term has no end** exactly where it leads past the last instant. -/
theorem lockEnd?_eq_none_iff :
    lockEnd? now term = none ↔ Instant.latest.count < now.countAfter term.toSpan :=
  Instant.add?_eq_none_iff (Int.natCast_nonneg term.nanos)

/-- The crash of a lock that has no end. -/
def endOverflow : Crash := .of "`DateTime + TimeDelta` overflowed"

/-- **The request crashes** where its term is in order and the end of the lock is not an instant. -/
theorem acquire_crash (hterm : checkTerm name term = .ok ()) (hend : lockEnd? c.now term = none) :
    acquire name term c = (.error endOverflow, c) := by
  simp only [acquire, hterm, hend]
  rfl

/-- A lock that has an end is answered for, whatever the server says. -/
theorem acquire_answers (hend : lockEnd? c.now term = some ends) :
    ∃ answer, (acquire name term c).1 = .ok answer := by
  simp only [acquire, hend]
  split
  · exact ⟨_, rfl⟩
  · split
    · exact ⟨_, rfl⟩
    · split <;> exact ⟨_, rfl⟩

/-- The last instant with a year of four digits. -/
def fourDigits : Instant := (Instant.of? 253402300799 999999999).getD .latest

/-- The longest term that has an end at any time up to the year 9999. -/
def longestEnding : Term := Term.ofSeconds 7956864576000

/-- **A lock is answered for unless its term is overlong.** Where the term does not lead past the
last instant, the lock has an end and the call answers; up to the year 9999 that holds of all terms
up to `longestEnding`. Where it does, the call crashes and sends nothing, no pass runs under the
lock, and every worker that asks for it is gone with its first run. -/
theorem acquires_unless_overlong (hterm : checkTerm name term = .ok ())
    (hnow : c.now.second ≤ fourDigits.second) :
    (term.nanos ≤ longestEnding.nanos → c.now.countAfter term.toSpan ≤ Instant.latest.count) ∧
    (c.now.countAfter term.toSpan ≤ Instant.latest.count →
      ∃ ends answer, lockEnd? c.now term = some ends ∧ (acquire name term c).1 = .ok answer) ∧
    (Instant.latest.count < c.now.countAfter term.toSpan →
      acquire name term c = (.error endOverflow, c) ∧
      ∀ {σ : Type} (s : Scheduler (Backend σ Connection)) (p : Pass (Backend σ Connection))
        (time : Instant) (n : Nat) (w : World (Backend σ Connection)), s.term = term →
        p.name = name → w.backend.locks = c → s.work p time (n + 1) w = (.ok true, w)) := by
  refine ⟨fun hshort => ?_, fun hwithin => ?_, fun hbeyond => ?_⟩
  · -- up to the year 9999 both summands are bounded, and their sum is within the range
    have hnano := c.now.nano_lt
    have hcount : c.now.count = c.now.second * 1000000000 + c.now.nano := rfl
    have hspan : term.toSpan.nanos = term.nanos := rfl
    have hlatest : Instant.latest.count = 8210266876799 * 1000000000 + 999999999 := rfl
    change c.now.second ≤ 253402300799 at hnow
    change term.nanos ≤ 7956864576000 * 1000000000 at hshort
    rw [Instant.countAfter]
    split <;> omega
  · obtain ⟨ends, hends⟩ := Option.ne_none_iff_exists'.1
      fun hnone => Int.not_lt.2 hwithin (lockEnd?_eq_none_iff.1 hnone)
    obtain ⟨answer, hanswer⟩ : ∃ answer, (acquire name term c).1 = .ok answer :=
      acquire_answers hends
    exact ⟨ends, answer, hends, hanswer⟩
  · have hcrash := acquire_crash hterm (lockEnd?_eq_none_iff.2 hbeyond)
    refine ⟨hcrash, ?_⟩
    rintro σ s p time n w rfl rfl rfl
    exact Scheduler.work_crash (Backend.acquire_crash hcrash) time n

/-- A connection in the last second of the year 9999. -/
def lateConnection : Connection := .fresh fourDigits

/-- The longest term that has an end at that time ends with the last instant; with one nanosecond
more the call crashes, although the check lets it through. -/
theorem acquires_lateConnection :
    checkTerm "purge-expired" longestEnding = .ok () ∧
    lockEnd? lateConnection.now longestEnding = some .latest ∧
    (∃ answer, (acquire "purge-expired" longestEnding lateConnection).1 = .ok answer) ∧
    checkTerm "purge-expired" ⟨longestEnding.nanos + 1⟩ = .ok () ∧
    acquire "purge-expired" ⟨longestEnding.nanos + 1⟩ lateConnection =
      (.error endOverflow, lateConnection) := by
  have hlongest := @acquires_unless_overlong "purge-expired" longestEnding lateConnection rfl
    (Int.le_refl _)
  have hbeyond := @acquires_unless_overlong "purge-expired" ⟨longestEnding.nanos + 1⟩
    lateConnection rfl (Int.le_refl _)
  obtain ⟨ends, answer, -, hanswer⟩ := hlongest.2.1 (hlongest.1 (Nat.le_refl _))
  exact ⟨rfl, rfl, ⟨answer, hanswer⟩, rfl, (hbeyond.2.2 (by decide)).1⟩

/-- **Terms that the check lets through may have no end**, long before the year 9999. -/
theorem not_acquires_checked :
    ¬ ∀ (name : String) (term : Term) (c : Connection), checkTerm name term = .ok () →
      c.now.second ≤ fourDigits.second → ∃ answer, (acquire name term c).1 = .ok answer := by
  intro hall
  obtain ⟨answer, hanswer⟩ := hall "purge-expired" (.ofSeconds Settings.longestLock)
    (.fresh (.ofSecond 1732000000)) rfl (by decide)
  rw [acquire_crash rfl (lockEnd?_eq_none_iff.2 (by decide))] at hanswer
  cases hanswer

end Postgres

end Reconciliation
