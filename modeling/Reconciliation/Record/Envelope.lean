import Reconciliation.Json.Reader
import Reconciliation.Record.WorkRecord

/-!
# Envelopes

An event comes in as a JSON text, bare or wrapped. A bare event is an object with the kind
of event and the entity among its members. A wrapped one is a notification whose member
`Message` holds the text of the bare event; it may carry the kind as an attribute, which
counts where the event has none.

Only two members of an event are looked at. The text of the event itself is kept as it
came in, to become the payload of a record.
-/

namespace Reconciliation

open Json

/-- Why a text is no event. -/
inductive EnvelopeError where
  | malformed (reason : String)
  | missingEventType
  | missingEntity
deriving DecidableEq, Repr

/-- The wording of an envelope error. -/
def EnvelopeError.message : EnvelopeError → String
  | .malformed reason => "malformed message: " ++ reason
  | .missingEventType => "message has no eventType"
  | .missingEntity => "message has no usable bookingId"

/-- An event as it came in. -/
structure Envelope where
  eventType : EventType
  entity : EntityId
  /-- The text of the event. -/
  body : String
deriving DecidableEq

namespace Envelope

/-- The entity that a member names, by a number or a numeral. -/
def entityOf : Value → Option EntityId
  | .number (.integer n) => EntityId.of? n
  | .string s => (EntityId.read s.toList).toOption
  | _ => none

/-- The kind of event that a notification carries as an attribute. -/
def attribute? (notification : Value) : Option String := do
  let attributes ← notification.member? "MessageAttributes"
  let kind ← attributes.member? "eventType"
  let v ← kind.member? "Value"
  v.string?

/-- The event in a body, with a kind to fall back on. -/
def ofBody (event : Value) (body : String) (fallback : Option String) :
    Except EnvelopeError Envelope :=
  if !event.isObject then .error (.malformed "event body is not an object")
  else
    -- a blank kind is as good as none, and hides the one to fall back on
    match (((event.member? "eventType").bind Value.string?).or fallback).filter
        (!Text.allBlank ·) with
    | none => .error .missingEventType
    | some name =>
      match (event.member? "bookingId").bind entityOf with
      | none => .error .missingEntity
      | some entity => .ok ⟨EventType.parse name, entity, body⟩

/-- The value of a text, or its failure after a word on where it stood. -/
def readBody (context body : String) : Except EnvelopeError Value :=
  match Json.read body.toList with
  | .ok v => .ok v
  | .error f => .error (.malformed (context ++ f.message body.toList))

/-- The event in a text that came in. -/
def parse (raw : String) : Except EnvelopeError Envelope := do
  let outer ← readBody "" raw
  match (outer.member? "Message").bind Value.string? with
  | none => ofBody outer raw none
  | some inner =>
    let event ← readBody "notification body: " inner
    ofBody event inner (attribute? outer)

/-- The untried record of an event that came in at an instant, to live for a span. -/
def record (e : Envelope) (id : RecordId) (received : Instant) (lifetime : Span) : WorkRecord :=
  (WorkRecord.new id e.entity e.eventType e.body received).withExpiry
    ((received.add? lifetime).getD Instant.latest)

end Envelope

end Reconciliation
