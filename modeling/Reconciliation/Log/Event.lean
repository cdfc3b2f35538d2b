import Reconciliation.Lock.Basic
import Reconciliation.Record.Outcome
import Reconciliation.Record.WorkRecord
import Reconciliation.Store.Basic

/-!
# Log events

Everything that the pipeline logs, as one type: an event carries what it is about, and its
part of the pipeline, level, message and fields are read off it. The log of a run
therefore also tells which records were dispatched and how that ended.
-/

namespace Reconciliation.Log

/-- How severe an event is. -/
inductive Level where
  | error
  | warn
  | info
  | debug
  | trace
deriving DecidableEq, Repr

namespace Level

/-- How much is let through up to this level: the more severe, the lower. -/
def rank : Level → Nat
  | error => 1
  | warn => 2
  | info => 3
  | debug => 4
  | trace => 5

/-- The name of a level in log lines. -/
def name : Level → String
  | error => "ERROR"
  | warn => "WARN"
  | info => "INFO"
  | debug => "DEBUG"
  | trace => "TRACE"

end Level

/-- The parts of the pipeline that log. -/
inductive Part where
  | aggregator
  | pass
  | retry
  | dispatcher
  | intake
  | lock
  | scheduler
  | setup
deriving DecidableEq, Repr

/-- The value of a field: a text or a number. -/
inductive FieldValue where
  | text (s : String)
  | number (n : Int)
deriving DecidableEq, Repr

/-- The text of a field's value. -/
def FieldValue.shown : FieldValue → String
  | text s => s
  | number n => Text.decimalText n

/-- Something that happened. -/
inductive Event where
  /-- The hold-back leaves no cutoff in the range of instants. -/
  | holdBackTooLong (holdBack : Span)
  | selectionFailed (error : StoreError)
  | entityUnavailable (entity : EntityId) (error : StoreError)
  | duplicateFound (record : WorkRecord)
  | duplicateKept (record : WorkRecord) (error : StoreError)
  | aggregated (report : Report)
  /-- An attempt ended with the record done. -/
  | completed (pass : String) (record : WorkRecord) (status : String)
  /-- A record that was completed had been done before. -/
  | doneBefore (pass : String) (record : WorkRecord) (done : Instant)
  /-- An attempt ended with a request to try again; the record is as it was before, `next` as
  it is after. -/
  | retryRequested (pass : String) (record next : WorkRecord)
  /-- An attempt ended with a failure of the handler. -/
  | handlerFailed (pass : String) (record : WorkRecord) (error : String)
  | resultLost (pass : String) (record : WorkRecord) (error : StoreError)
  | abandoning (pass : String) (record : WorkRecord)
  | expiredKept (pass : String) (record : WorkRecord) (error : StoreError)
  | purged (count : Nat)
  | tierSelectionFailed (tier : String) (error : StoreError)
  | retried (tier : String) (report : Report)
  | noHandler (record : WorkRecord)
  | received (record : WorkRecord)
  | notReceived (error : String)
  | lockHeld (name : String)
  | releaseFailed (name : String) (error : LockError)
  | passFailed (pass : String) (error : StoreError)
  | passCrashed (pass : String) (crash : String)
  | passSkipped (pass : String)
  | lockUnavailable (pass : String) (error : LockError)
  /-- A worker begins; it waits a number of seconds before each run of its pass. -/
  | workerStarted (pass : String) (interval : Nat)
  | workerStopped (pass : String)
  /-- A worker was ended by a crash outside of its pass. -/
  | workerCrashed (pass : String)
  /-- Logging was set up before. -/
  | installedBefore
deriving DecidableEq

namespace Event

def part : Event → Part
  | holdBackTooLong .. | selectionFailed .. | entityUnavailable .. | duplicateFound ..
  | duplicateKept .. | aggregated .. => .aggregator
  | completed .. | doneBefore .. | retryRequested .. | handlerFailed .. | resultLost ..
  | abandoning .. | expiredKept .. | purged .. => .pass
  | tierSelectionFailed .. | retried .. => .retry
  | noHandler .. => .dispatcher
  | received .. | notReceived .. => .intake
  | lockHeld .. | releaseFailed .. => .lock
  | passFailed .. | passCrashed .. | passSkipped .. | lockUnavailable .. | workerStarted ..
  | workerStopped .. | workerCrashed .. => .scheduler
  | installedBefore => .setup

def level : Event → Level
  | selectionFailed .. | tierSelectionFailed .. | notReceived .. | passFailed ..
  | passCrashed .. => .error
  | holdBackTooLong .. | entityUnavailable .. | duplicateKept .. | doneBefore ..
  | handlerFailed .. | resultLost .. | expiredKept .. | releaseFailed ..
  | lockUnavailable .. | workerCrashed .. => .warn
  | aggregated .. | abandoning .. | purged .. | retried .. | workerStarted ..
  | workerStopped .. => .info
  | duplicateFound .. | completed .. | retryRequested .. | noHandler .. | received ..
  | lockHeld .. | passSkipped .. | installedBefore => .debug

/-- The message; the failure of an intake has none. -/
def message? : Event → Option String
  | holdBackTooLong .. => "hold-back reaches past the earliest timestamp; nothing is eligible"
  | selectionFailed .. => "aggregator could not select candidates"
  | entityUnavailable .. => "failed to load entity records; skipping entity"
  | duplicateFound .. => "discarding stale duplicate"
  | duplicateKept .. => "failed to delete duplicate"
  | aggregated .. => "aggregation pass finished"
  | completed .. => "dispatch completed"
  | doneBefore .. => "record already processed"
  | retryRequested .. => "dispatch requested retry"
  | handlerFailed .. => "handler raised; scheduling retry"
  | resultLost .. => "failed to persist dispatch result"
  | abandoning .. => "abandoning expired record"
  | expiredKept .. => "failed to delete expired record"
  | purged .. => "purged expired records"
  | tierSelectionFailed .. => "retry tier could not select candidates"
  | retried .. => "retry pass finished"
  | noHandler .. => "no handler registered; completing as no-op"
  | received .. => "stored inbound message"
  | notReceived .. => none
  | lockHeld .. => "lock held elsewhere; skipping"
  | releaseFailed .. => "failed to release lock"
  | passFailed .. => "pass failed"
  | passCrashed .. => "pass panicked"
  | passSkipped .. => "pass skipped; lock held elsewhere"
  | lockUnavailable .. => "could not acquire pass lock"
  | workerStarted .. => "pass worker started"
  | workerStopped .. => "pass worker stopped"
  | workerCrashed .. => "pass worker panicked"
  | installedBefore => "tracing subscriber already installed"

private def idField (r : WorkRecord) : String × FieldValue := ("id", .text r.id.text)

private def entityField (e : EntityId) : String × FieldValue := ("entity_id", .text e.text)

private def typeField (r : WorkRecord) : String × FieldValue :=
  ("event_type", .text r.eventType.name)

private def textField (name value : String) : String × FieldValue := (name, .text value)

private def countField (name : String) (n : Nat) : String × FieldValue := (name, .number n)

/-- The fields, by name and in order. -/
def fields : Event → List (String × FieldValue)
  | holdBackTooLong holdBack => [("hold_back_secs", .number holdBack.seconds)]
  | selectionFailed e => [textField "error" e.message]
  | entityUnavailable ent e => [entityField ent, textField "error" e.message]
  | duplicateFound r => [idField r, entityField r.entity, typeField r]
  | duplicateKept r e => [idField r, textField "error" e.message]
  | aggregated report =>
    [countField "selected" report.selected, countField "dispatched" report.dispatched,
      countField "completed" report.completed,
      countField "retried" (report.retried + report.errored),
      countField "discarded" report.discarded, countField "abandoned" report.abandoned]
  | completed pass r status => [textField "pass" pass, idField r, textField "status" status]
  | doneBefore pass r done =>
    [textField "pass" pass, idField r, textField "error" (r.alreadyProcessed done).message]
  | retryRequested pass _ next =>
    [textField "pass" pass, idField next, countField "retry_count" next.retryCount.toNat,
      textField "expiry" next.expiry.display]
  | handlerFailed pass r e => [textField "pass" pass, idField r, typeField r, textField "error" e]
  | resultLost pass r e => [textField "pass" pass, idField r, textField "error" e.message]
  | abandoning pass r =>
    [textField "pass" pass, idField r, entityField r.entity, typeField r,
      countField "retry_count" r.retryCount.toNat]
  | expiredKept pass r e => [textField "pass" pass, idField r, textField "error" e.message]
  | purged n => [countField "purged" n]
  | tierSelectionFailed tier e => [textField "tier" tier, textField "error" e.message]
  | retried tier report =>
    [textField "tier" tier, countField "selected" report.selected,
      countField "dispatched" report.dispatched, countField "completed" report.completed,
      countField "retried" (report.retried + report.errored),
      countField "abandoned" report.abandoned]
  | noHandler r => [idField r, typeField r]
  | received r => [idField r, entityField r.entity, typeField r]
  | notReceived e => [textField "error" e]
  | lockHeld name => [textField "lock" name]
  | releaseFailed name e => [textField "lock" name, textField "error" e.message]
  | passFailed pass e => [textField "pass" pass, textField "error" e.message]
  | passCrashed pass crash => [textField "pass" pass, textField "panic" crash]
  | passSkipped pass => [textField "pass" pass]
  | lockUnavailable pass e => [textField "pass" pass, textField "error" e.message]
  | workerStarted pass n => [textField "pass" pass, countField "interval_secs" n]
  | workerStopped pass => [textField "pass" pass]
  | workerCrashed pass => [textField "pass" pass]
  | installedBefore => []

/-- The names of the fields; the message counts as one. -/
def fieldNames (e : Event) : List String :=
  (if e.message?.isSome then ["message"] else []) ++ e.fields.map (·.1)

/-- The span within which an event is logged, by its name and the names of its fields. -/
def span? : Event → Option (String × List String)
  | received .. | notReceived .. => some ("receive_at", ["now"])
  | _ => none

/-- The record of an attempt as it was when it was dispatched. -/
def dispatched? : Event → Option WorkRecord
  | completed _ r _ | retryRequested _ r _ | handlerFailed _ r _ => some r
  | _ => none

end Event

end Reconciliation.Log
