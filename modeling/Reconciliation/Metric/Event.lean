import Reconciliation.Decimal.Shortest

/-!
# Metric events

What the pipeline reports about itself: counters that go up by one and observations of a
value, each under a name and with tags. A value is kept in thousandths and shown as a
decimal of seconds.

A number of thousandths is held as a binary fraction of 53 digits and shown as its shortest
decimal. Of two decimals that are equally near the larger is taken.
-/

namespace Reconciliation.Decimal

/-- The value of a number of thousandths: first the number is rounded to 53 binary digits, and
then its thousandth. -/
def ofThousandths (n : Nat) : Rat := nearest (nearest (n : Rat) / 1000)

/-- The value of a number of thousandths as a shortest decimal. -/
def thousandths (n : Int) : String :=
  if n = 0 then "0.0"
  else
    let (k, e) := shortest .up (ofThousandths n.natAbs)
    String.ofList ((if n < 0 then ['-'] else []) ++ positional k.toNat e)

end Reconciliation.Decimal

namespace Reconciliation

/-- A metric event. -/
inductive MetricEvent where
  | increment (name : String) (tags : List (String × String))
  | observe (name : String) (thousandths : Int) (tags : List (String × String))
deriving DecidableEq, Repr

namespace MetricEvent

def name : MetricEvent → String
  | increment name _ | observe name _ _ => name

def tags : MetricEvent → List (String × String)
  | increment _ tags | observe _ _ tags => tags

def isIncrement : MetricEvent → Bool
  | increment .. => true
  | observe .. => false

/-- The value of the first tag with this name. -/
def tag? (e : MetricEvent) (name : String) : Option String :=
  (e.tags.find? (·.1 == name)).map (·.2)

/-- How often a name was incremented. -/
def count (events : List MetricEvent) (name : String) : Nat :=
  events.countP fun e => e.isIncrement && e.name == name

/-- The text of an observed value. -/
def valueText (thousandths : Int) : String := Decimal.thousandths thousandths

end MetricEvent

/-- Where metric events go. -/
inductive MetricSink where
  /-- They are kept. -/
  | recording
  /-- They are handed on to the process. -/
  | forwarding
  /-- They are dropped. -/
  | discarding
deriving DecidableEq, Repr

namespace MetricSink

/-- The events that the sink keeps. -/
def kept (s : MetricSink) (events : List MetricEvent) : List MetricEvent :=
  if s = recording then events else []

/-- The events that the sink hands on. -/
def forwarded (s : MetricSink) (events : List MetricEvent) : List MetricEvent :=
  if s = forwarding then events else []

end MetricSink

end Reconciliation
