import Reconciliation.Time.Span

/-!
# Locks

A named lock lets a pass run in one place at a time. Whoever takes it gets a lease: the
name, a token that no other lease has, and a term after which the lock may be taken over.
A term has to be positive and no longer than the longest span of milliseconds.
-/

namespace Reconciliation

/-- What is wrong with a term. -/
inductive TermProblem where
  | notPositive
  | outOfRange
deriving DecidableEq, Repr

/-- The wording of a term problem. -/
def TermProblem.message : TermProblem → String
  | notPositive => "must be greater than zero"
  | outOfRange => "out of range"

/-- A failure to take a lock or to give it back. -/
inductive LockError where
  | backend (reason : String)
  | invalidDuration (name : String) (problem : TermProblem)
deriving DecidableEq, Repr

/-- The wording of a lock error. -/
def LockError.message : LockError → String
  | backend reason => "lock backend error: " ++ reason
  | invalidDuration name problem =>
    "invalid lock duration for " ++ name ++ ": " ++ problem.message

/-- The proof of holding a lock. -/
structure Lease where
  name : String
  /-- What tells this lease from every other. -/
  token : Nat
  term : Term
deriving DecidableEq, Repr

/-- The longest term: the greatest number of milliseconds of 64 bits with sign. -/
def Term.longest : Term := Term.ofMillis 9223372036854775807

/-- Refuses a term that no lock can be held for. -/
def checkTerm (name : String) (term : Term) : Except LockError Unit :=
  if term.nanos = 0 then .error (.invalidDuration name .notPositive)
  else if Term.longest.nanos < term.nanos then .error (.invalidDuration name .outOfRange)
  else .ok ()

end Reconciliation
