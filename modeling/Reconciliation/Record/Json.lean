import Reconciliation.Json.Value
import Reconciliation.Json.Reader
import Reconciliation.Record.WorkRecord
import Reconciliation.Time.Reader

/-!
# Work records as JSON

A record is written as an object with its nine fields in a fixed order. It is read from an
object with the fields in any order, other fields passed over, or from an array of the
nine values in that order. Content is checked as it is read: a field that comes twice is
refused at its name, one that is missing when the object ends. The time of processing and
the status may be missing or null. A kind of event alone is a string.
-/

namespace Reconciliation

open Json

/-! ## Scalars -/

/-- Reads a value that has to be a string. A number or a word is read to its end before it is
refused. -/
def Json.readString (s : List Char) : Except Failure (String × List Char) :=
  match skipSpace s with
  | '"' :: r => stringTail .keep r
  | '[' :: r => .error (failAfter .content ('[' :: r))
  | '\x7b' :: r => .error (failAfter .content ('\x7b' :: r))
  | s => do
    let (_, rest) ← keepValue depthLimit s
    .error (failAt .content rest)

/-- Reads a string that has to have a meaning. -/
def Json.readMeaning {α : Type} (meaning : String → Option α) (s : List Char) :
    Except Failure (α × List Char) := do
  let (text, rest) ← readString s
  match meaning text with
  | some a => return (a, rest)
  | none => .error (failAt .content rest)

/-- Reads an integer that has to have a meaning. -/
def Json.readInteger {α : Type} (meaning : Int → Option α) (s : List Char) :
    Except Failure (α × List Char) :=
  match skipSpace s with
  | '[' :: r => .error (failAfter .content ('[' :: r))
  | '\x7b' :: r => .error (failAfter .content ('\x7b' :: r))
  | s => do
    let (v, rest) ← keepValue depthLimit s
    match v with
    | .number (.integer n) =>
      match meaning n with
      | some a => return (a, rest)
      | none => .error (failAt .content rest)
    | _ => .error (failAt .content rest)

/-- Reads null, or a value by a reader. -/
def Json.readOption {α : Type} (read : List Char → Except Failure (α × List Char))
    (s : List Char) : Except Failure (Option α × List Char) :=
  match skipSpace s with
  | 'n' :: r => (word ['u', 'l', 'l'] r).map fun (_, r) => (none, r)
  | s => (read s).map fun (a, r) => (some a, r)

/-- The instant that a string gives. -/
def Instant.ofText? (s : String) : Option Instant := Instant.read? s.toList

/-- The identifier that a string spells. -/
def RecordId.ofText? (s : String) : Option RecordId := (RecordId.read s.toList).toOption

/-- The kind of event that a JSON text holds: a string and nothing else. -/
def EventType.read (s : List Char) : Except Failure EventType := do
  let (name, rest) ← readString s
  finish rest
  return EventType.parse name

/-- The count that an integer is, if it has 32 bits. -/
def WorkRecord.count? (n : Int) : Option UInt32 :=
  if 0 ≤ n ∧ n < 4294967296 then some (UInt32.ofNat n.toNat) else none

namespace WorkRecord

/-! ## Fields -/

/-- The fields of a written record, in their order. -/
inductive Field where
  | id
  | entity
  | eventType
  | payload
  | created
  | retryCount
  | expiry
  | processed
  | status
deriving DecidableEq

namespace Field

def all : List Field :=
  [id, entity, eventType, payload, created, retryCount, expiry, processed, status]

def name : Field → String
  | id => "id"
  | entity => "entityId"
  | eventType => "eventType"
  | payload => "payload"
  | created => "createdDate"
  | retryCount => "retryCount"
  | expiry => "expiry"
  | processed => "processedDate"
  | status => "status"

/-- The field with this name. -/
def ofName? (name : String) : Option Field := all.find? (·.name == name)

end Field

/-- What has been read of a record so far. -/
structure Draft where
  id : Option RecordId
  entity : Option EntityId
  eventType : Option EventType
  payload : Option String
  created : Option Instant
  retryCount : Option UInt32
  expiry : Option Instant
  processed : Option (Option Instant)
  status : Option (Option String)

namespace Draft

/-- Nothing read yet. -/
def empty : Draft := ⟨none, none, none, none, none, none, none, none, none⟩

/-- Whether a field has been read. -/
def has (d : Draft) : Field → Bool
  | .id => d.id.isSome
  | .entity => d.entity.isSome
  | .eventType => d.eventType.isSome
  | .payload => d.payload.isSome
  | .created => d.created.isSome
  | .retryCount => d.retryCount.isSome
  | .expiry => d.expiry.isSome
  | .processed => d.processed.isSome
  | .status => d.status.isSome

/-- Reads the value of a field into the draft. -/
def readField (d : Draft) (f : Field) (s : List Char) : Except Failure (Draft × List Char) :=
  match f with
  | .id => (readMeaning RecordId.ofText? s).map fun (a, r) => ({ d with id := some a }, r)
  | .entity => (readInteger EntityId.of? s).map fun (a, r) => ({ d with entity := some a }, r)
  | .eventType =>
    (readString s).map fun (a, r) => ({ d with eventType := some (EventType.parse a) }, r)
  | .payload => (readString s).map fun (a, r) => ({ d with payload := some a }, r)
  | .created =>
    (readMeaning Instant.ofText? s).map fun (a, r) => ({ d with created := some a }, r)
  | .retryCount =>
    (readInteger count? s).map fun (a, r) => ({ d with retryCount := some a }, r)
  | .expiry =>
    (readMeaning Instant.ofText? s).map fun (a, r) => ({ d with expiry := some a }, r)
  | .processed =>
    (readOption (readMeaning Instant.ofText?) s).map fun (a, r) =>
      ({ d with processed := some a }, r)
  | .status =>
    (readOption readString s).map fun (a, r) => ({ d with status := some a }, r)

/-- The record of a draft in which nothing that is needed is missing. -/
def record? (d : Draft) : Option WorkRecord := do
  return {
    id := ← d.id
    entity := ← d.entity
    eventType := ← d.eventType
    payload := ← d.payload
    created := ← d.created
    retryCount := ← d.retryCount
    expiry := ← d.expiry
    processed := d.processed.getD none
    status := d.status.getD none }

end Draft

/-! ## Reading -/

/-- Reads the members of an object into the draft, up to the closing brace, which is left. -/
def readMembers (fuel : Nat) (first : Bool) (d : Draft) (s : List Char) :
    Except Failure (Draft × List Char) :=
  match fuel with
  | 0 => .error (failAt .endInObject s)
  | fuel + 1 => do
    match ← nextKey first s with
    | (false, s) => return (d, s)
    | (true, s) =>
      let (name, s) ← stringTail .keep s
      match Field.ofName? name with
      | some f =>
        -- a field that comes twice is refused, even with the same value
        if d.has f then .error (failAt .content s)
        else
          let ((), s) ← colon s
          let (d, s) ← d.readField f s
          readMembers fuel false d s
      | none =>
        let ((), s) ← colon s
        let ((), s) ← skipValue s
        readMembers fuel false d s

/-- Reads the items of an array as the given fields, in order. -/
def readItems (first : Bool) (d : Draft) (fields : List Field) (s : List Char) :
    Except Failure (Draft × List Char) :=
  match fields with
  | [] => .ok (d, s)
  | f :: fs => do
    match ← nextItem first s with
    | (false, s) => .error (failAt .content s)
    | (true, s) =>
      let (d, s) ← d.readField f s
      readItems false d fs s

/-- The end of an array that has all its items. -/
def closeArray (s : List Char) : Except Failure (List Char) := do
  match skipSpace s with
  | [] => .error (failAt .endInList [])
  | ']' :: r => return r
  | s => .error (failAfter .trailingCharacters s)

/-- The record of a finished draft, before the rest of the text. -/
def finished (d : Draft) (s : List Char) : Except Failure WorkRecord :=
  match d.record? with
  | some r => .ok r
  | none => .error (failAt .content s)

/-- The record that a JSON text holds. -/
def read (s : List Char) : Except Failure WorkRecord :=
  match skipSpace s with
  | '\x7b' :: r => do
    let (d, s) ← readMembers (enough r) true .empty r
    let record ← finished d s
    finish (s.drop 1)
    return record
  | '[' :: r => do
    let (d, s) ← readItems true .empty Field.all r
    let record ← finished d s
    let s ← closeArray s
    finish s
    return record
  | s => do
    let (_, rest) ← keepValue depthLimit s
    .error (failAt .content rest)

/-! ## Writing -/

/-- The value of a field as JSON. -/
def writeField (r : WorkRecord) : Field → List Char
  | .id => writeString r.id.text
  | .entity => Text.decimal r.entity.val
  | .eventType => writeString r.eventType.name
  | .payload => writeString r.payload
  | .created => writeString r.created.text
  | .retryCount => Text.decimal r.retryCount.toNat
  | .expiry => writeString r.expiry.text
  | .processed => writeOption (fun t => writeString t.text) r.processed
  | .status => writeOption writeString r.status

/-- The record as a JSON object without blanks. -/
def write (r : WorkRecord) : List Char :=
  writeObject (Field.all.map fun f => (f.name, r.writeField f))

end WorkRecord

end Reconciliation
