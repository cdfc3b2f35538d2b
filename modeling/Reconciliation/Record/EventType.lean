/-!
# Event types

What kind of thing an event reports. Six kinds are known and have a priority; any other
name is kept as it is, ranks last, and has no handler of its own.
-/

namespace Reconciliation

/-- The kind of an event. -/
inductive EventType where
  | imprisonmentStatusChanged
  | externalMovementInserted
  | sentenceDatesChanged
  | confirmedReleaseDateChanged
  | sentenceImposed
  | bookingNumberChanged
  | unknown (name : String)
deriving DecidableEq, Repr

namespace EventType

/-- The known kinds, in their fixed order. -/
def known : List EventType :=
  [.imprisonmentStatusChanged, .externalMovementInserted, .sentenceDatesChanged,
    .confirmedReleaseDateChanged, .sentenceImposed, .bookingNumberChanged]

/-- The name of a kind in messages and in the store. -/
def name : EventType → String
  | imprisonmentStatusChanged => "IMPRISONMENT_STATUS-CHANGED"
  | externalMovementInserted => "EXTERNAL_MOVEMENT_RECORD-INSERTED"
  | sentenceDatesChanged => "SENTENCE_DATES-CHANGED"
  | confirmedReleaseDateChanged => "CONFIRMED_RELEASE_DATE-CHANGED"
  | sentenceImposed => "SENTENCE_IMPOSED"
  | bookingNumberChanged => "BOOKING_NUMBER-CHANGED"
  | unknown name => name

/-- The rank of a kind; lower is more urgent. -/
def priority : EventType → Nat
  | imprisonmentStatusChanged => 1
  | externalMovementInserted => 2
  | sentenceDatesChanged | confirmedReleaseDateChanged | sentenceImposed => 3
  | bookingNumberChanged => 4
  | unknown _ => 99

def isKnown : EventType → Bool
  | unknown _ => false
  | _ => true

/-- The kind with this name; a name that no known kind has is kept. -/
def parse (name : String) : EventType :=
  (known.find? (·.name == name)).getD (unknown name)

/-- Reading a kind and writing it again gives its name back. -/
@[simp] theorem name_parse (name : String) : (parse name).name = name := by
  unfold parse
  cases h : known.find? (·.name == name) with
  | none => rfl
  | some k => simpa using List.find?_some h

theorem parse_name_of_isKnown {k : EventType} (h : k.isKnown = true) : parse k.name = k := by
  cases k with
  | unknown n => cases h
  | _ => decide

end EventType

end Reconciliation
