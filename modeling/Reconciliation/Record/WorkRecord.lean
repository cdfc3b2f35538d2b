import Reconciliation.Record.Identifier
import Reconciliation.Record.EventType
import Reconciliation.Time.Layout

/-!
# Work records

A work record is an event that has to be carried out: what it concerns, its body, when it
came in, how often it has been tried in vain, until when it may be tried, and whether it
is done. A record is created unprocessed and untried; every failed attempt counts once and
may move the expiry; success is recorded once.

Expiry is kept at whole seconds by every operation here, so that all stores hold the same
value.
-/

namespace Reconciliation

/-- A unit of work. -/
structure WorkRecord where
  id : RecordId
  entity : EntityId
  eventType : EventType
  /-- The body of the event, for the handler alone. -/
  payload : String
  /-- When the event came in; never changed. -/
  created : Instant
  /-- How many attempts have failed. -/
  retryCount : UInt32
  expiry : Instant
  /-- When the record was done, if it is. -/
  processed : Option Instant
  /-- The label of the last outcome. -/
  status : Option String
deriving DecidableEq

namespace WorkRecord

/-- How long a record lives if nothing else is said: seven days. -/
def defaultLifetime : Span := Span.ofDays 7

/-- A whole second so long after an instant, or the last second of the range. -/
def expiryAfter (t : Instant) (d : Span) : Instant :=
  ((t.add? d).getD Instant.latest).wholeSecond

/-- An untried record that lives for the default time. -/
def new (id : RecordId) (entity : EntityId) (eventType : EventType) (payload : String)
    (created : Instant) : WorkRecord :=
  { id, entity, eventType, payload, created
    retryCount := 0
    expiry := expiryAfter created defaultLifetime
    processed := none
    status := none }

/-- The record with another expiry, cut to whole seconds. -/
def withExpiry (r : WorkRecord) (t : Instant) : WorkRecord := { r with expiry := t.wholeSecond }

/-- The record under another identifier. -/
def withId (r : WorkRecord) (id : RecordId) : WorkRecord := { r with id := id }

def isProcessed (r : WorkRecord) : Bool := r.processed.isSome

/-- Whether no attempt has failed yet. -/
def isFirstAttempt (r : WorkRecord) : Bool := r.retryCount == 0

/-- Whether the record is past its expiry. -/
def isExpired (r : WorkRecord) (now : Instant) : Bool := decide (r.expiry ≤ now)

/-- How long ago the record came in. -/
def age (r : WorkRecord) (now : Instant) : Span := now.since r.created

/-- The record done at an instant with a label, or the instant at which it was done before. -/
def markProcessed (r : WorkRecord) (status : String) (now : Instant) :
    Except Instant WorkRecord :=
  match r.processed with
  | some done => .error done
  | none => .ok { r with processed := some now, status := some status }

/-- The domain's error for a record that is done already. -/
def alreadyProcessed (r : WorkRecord) (done : Instant) : DomainError :=
  .invariant ("record " ++ r.id.text ++ " already processed at " ++ done.display)

/-- One more, or the largest count. -/
def nextCount (n : UInt32) : UInt32 := if n.toNat = 4294967295 then n else n + 1

/-- The record after a failed attempt: counted once, and with a deadline expiring then, but
not before the current second. -/
def recordFailure (r : WorkRecord) (status : String) (until? : Option Instant) (now : Instant) :
    WorkRecord :=
  { r with
    retryCount := nextCount r.retryCount
    expiry := match until? with
      | some t => (max t now).wholeSecond
      | none => r.expiry
    status := some status }

theorem nextCount_toNat (n : UInt32) : (nextCount n).toNat = min (n.toNat + 1) 4294967295 := by
  have := n.toNat_lt
  unfold nextCount
  split
  · omega
  · rw [UInt32.toNat_add]; simp; omega

end WorkRecord

end Reconciliation
