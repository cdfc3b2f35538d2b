/-!
# Spans and terms

A `Span` is a signed length of time: a hold-back, a lifetime, the age of a record. A
`Term` is an unsigned one: how long a lock may be held, how long a worker waits. Both
count nanoseconds exactly; whole seconds and milliseconds are cut toward zero.
-/

namespace Reconciliation

/-- A signed length of time, in nanoseconds. -/
structure Span where
  nanos : Int
deriving DecidableEq, Repr

namespace Span

def ofSeconds (s : Int) : Span := ⟨s * 1000000000⟩

def ofMillis (ms : Int) : Span := ⟨ms * 1000000⟩

def ofDays (d : Int) : Span := ofSeconds (d * 86400)

/-- Whole seconds, cut toward zero. -/
def seconds (d : Span) : Int := d.nanos.tdiv 1000000000

/-- What `seconds` cuts off, with the sign of the span. -/
def subsecond (d : Span) : Int := d.nanos.tmod 1000000000

/-- Whole milliseconds, cut toward zero. -/
def millis (d : Span) : Int := d.nanos.tdiv 1000000

instance : Neg Span := ⟨fun d => ⟨-d.nanos⟩⟩

instance : LT Span := ⟨fun a b => a.nanos < b.nanos⟩

instance (a b : Span) : Decidable (a < b) := inferInstanceAs (Decidable (a.nanos < b.nanos))

theorem seconds_add_subsecond (d : Span) :
    d.seconds * 1000000000 + d.subsecond = d.nanos := by
  simp only [seconds, subsecond]
  rw [Int.mul_comm]
  exact Int.mul_tdiv_add_tmod d.nanos 1000000000

end Span

/-- An unsigned length of time, in nanoseconds. -/
structure Term where
  nanos : Nat
deriving DecidableEq, Repr

namespace Term

def ofSeconds (s : Nat) : Term := ⟨s * 1000000000⟩

def ofMillis (ms : Nat) : Term := ⟨ms * 1000000⟩

/-- Whole seconds. -/
def seconds (t : Term) : Nat := t.nanos / 1000000000

/-- The nanoseconds beyond the whole seconds. -/
def subsecond (t : Term) : Nat := t.nanos % 1000000000

/-- Whole milliseconds. -/
def millis (t : Term) : Nat := t.nanos / 1000000

/-- The same length as a signed span. -/
def toSpan (t : Term) : Span := ⟨t.nanos⟩

end Term

end Reconciliation
