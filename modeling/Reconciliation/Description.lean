import Reconciliation.Scheduler

/-!
# Descriptions

How a scheduler and a dispatcher describe themselves to whoever operates them: the names of
the passes and the term of their locks, the kinds of events that have handlers and the
failure window.
-/

namespace Reconciliation

open Text

/-- A description of something with named parts. -/
def described (name : String) (parts : List (String × String)) : String :=
  name ++ " \x7b " ++ String.intercalate ", " (parts.map fun (k, v) => k ++ ": " ++ v) ++ " \x7d"

/-- Descriptions in a row. -/
def describedList (items : List String) : String := "[" ++ String.intercalate ", " items ++ "]"

/-- A quantity with up to `places` decimal places, zeros at the end left out. -/
def decimalPlaces (places whole fraction : Nat) : String :=
  let ds := ((padded places fraction).reverse.dropWhile (· == '0')).reverse
  Nat.repr whole ++ (if ds.isEmpty then "" else "." ++ String.ofList ds)

/-- A term in the largest unit in which it is at least one. -/
def Term.describe (t : Term) : String :=
  let n := t.nanos
  if 1000000000 ≤ n then decimalPlaces 9 (n / 1000000000) (n % 1000000000) ++ "s"
  else if 1000000 ≤ n then decimalPlaces 6 (n / 1000000) (n % 1000000) ++ "ms"
  else if 1000 ≤ n then decimalPlaces 3 (n / 1000) (n % 1000) ++ "µs"
  else Nat.repr n ++ "ns"

/-- A span as whole seconds, rounded down, and nanoseconds. -/
def Span.describe (d : Span) : String :=
  described "TimeDelta"
    [("secs", decimalText (d.nanos / 1000000000)),
      ("nanos", decimalText (d.nanos % 1000000000))]

/-- A kind of event by the name of its notion, not by that in messages. -/
def EventType.describe : EventType → String
  | imprisonmentStatusChanged => "ImprisonmentStatusChanged"
  | externalMovementInserted => "ExternalMovementInserted"
  | sentenceDatesChanged => "SentenceDatesChanged"
  | confirmedReleaseDateChanged => "ConfirmedReleaseDateChanged"
  | sentenceImposed => "SentenceImposed"
  | bookingNumberChanged => "BookingNumberChanged"
  | unknown name => "Unknown(" ++ quoted name ++ ")"

/-- The description of a dispatcher. -/
def Dispatcher.describe (d : Dispatcher) : String :=
  described "Dispatcher"
    [("handlers", describedList (d.handlers.map (·.1.describe))),
      ("failure_window", d.failureWindow.describe)]

/-- The description of a scheduler. -/
def Scheduler.describe {σ : Type} (s : Scheduler σ) : String :=
  described "PassScheduler"
    [("passes", describedList (s.names.map quoted)),
      ("lock_max_duration", s.term.describe)]

end Reconciliation
