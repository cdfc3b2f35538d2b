import Reconciliation.Postgres.Connection
import Reconciliation.Store.Access

/-!
# Records in a database

The record store over a connection. A record is one row; expiry is kept in whole seconds
and the retry count in 32 bits with sign, so a count beyond them is kept as the largest.
A row that does not read back as a record makes a query fail; a query never gives part of
its rows.
-/

namespace Reconciliation.Postgres

/-- The largest retry count that a row can hold. -/
def largestCount : Nat := 2147483647

/-- A retry count as a row holds it. -/
def heldCount (n : UInt32) : Int := (min n.toNat largestCount : Nat)

/-- The columns of a record, in their order. -/
def columns : List String :=
  ["id", "entity_id", "event_type", "payload", "created_date", "retry_count", "expiry",
    "processed_date", "status"]

/-- The values of a record, in the order of the columns. -/
def valuesOf (r : WorkRecord) : List (Option Datum) :=
  [some (.uuid r.id), some (.int8 r.entity.val), some (.text r.eventType.name),
    some (.text r.payload), some (.instant r.created), some (.int4 (heldCount r.retryCount)),
    some (.int8 r.expiry.second), r.processed.map .instant, r.status.map .text]

/-- The row of a record. -/
def rowOf (r : WorkRecord) : Row := { cells := columns.zip (valuesOf r) }

/-- The parameters of a record, in the order of the columns. -/
def paramsOf (r : WorkRecord) : List Param := (valuesOf r).map .value

/-- The corrupt record of a column error. -/
def corruptColumn (e : ColumnError) : StoreError :=
  .corrupt ("failed to decode message row: " ++ e.message)

/-- The entity that a value names: a number of 64 bits. -/
def entityIn (v : Datum) : Option EntityId := v.int8?.bind EntityId.of?

/-- The columns of a row as they are read, before the ranges are checked. -/
structure Columns where
  id : RecordId
  entity : EntityId
  eventType : String
  payload : String
  created : Instant
  retryCount : Int
  expiry : Int
  processed : Option Instant
  status : Option String

/-- Reads the columns of a row in their order. -/
def Columns.ofRow (row : Row) : Except ColumnError Columns := do
  let id ← row.required "id" Datum.uuid?
  let entity ← row.required "entity_id" entityIn
  let eventType ← row.required "event_type" Datum.text?
  let payload ← row.required "payload" Datum.text?
  let created ← row.required "created_date" Datum.instant?
  let retryCount ← row.required "retry_count" Datum.int4?
  let expiry ← row.required "expiry" Datum.int8?
  let processed ← row.optional "processed_date" Datum.instant?
  let status ← row.optional "status" Datum.text?
  return { id, entity, eventType, payload, created, retryCount, expiry, processed, status }

/-- The record of the columns of a row. -/
def Columns.record (c : Columns) : Except StoreError WorkRecord :=
  if c.retryCount < 0 then .error (.corrupt ("negative retry_count on " ++ c.id.text))
  else
    match Instant.of? c.expiry 0 with
    | none => .error (.corrupt ("expiry out of range on " ++ c.id.text))
    | some expiry =>
      .ok {
        id := c.id
        entity := c.entity
        eventType := EventType.parse c.eventType
        payload := c.payload
        created := c.created
        retryCount := UInt32.ofNat c.retryCount.toNat
        expiry
        processed := c.processed
        status := c.status }

/-- The record of a row. -/
def recordOfRow (row : Row) : Except StoreError WorkRecord :=
  match Columns.ofRow row with
  | .error e => .error (corruptColumn e)
  | .ok c => c.record

/-- The records of rows, in order, or the error of the first row that is no record. -/
def recordsOfRows : List Row → Except StoreError (List WorkRecord)
  | [] => .ok []
  | row :: rows => do
    let r ← recordOfRow row
    let rs ← recordsOfRows rows
    return r :: rs

/-- The store error of a trouble in an operation. -/
def storeError (operation : String) : Trouble → StoreError
  | .database _ message => .storage ("database error in " ++ operation ++ ": " ++ message)
  | .closed => .storage ("connection pool closed in " ++ operation)
  | e => .storage ("sqlx error in " ++ operation ++ ": " ++ e.message)

/-- The code of the server's error for a key that is taken. -/
def takenCode : String := "23505"

/-- The error of an insertion: a key that is taken is a record that exists. -/
def insertError (r : WorkRecord) : Trouble → StoreError
  | .database code message =>
    if code = takenCode then .alreadyExists r.id else storeError "insert" (.database code message)
  | e => storeError "insert" e

/-! ## Statements -/

/-- The beginning of every query for records. -/
def selectColumns : String :=
  lines [
    "",
    "    SELECT",
    "        id,",
    "        entity_id,",
    "        event_type,",
    "        payload,",
    "        created_date,",
    "        retry_count,",
    "        expiry,",
    "        processed_date,",
    "        status",
    "    FROM messages"]

/-- The statement that inserts a record. -/
def insertRecord : String :=
  lines [
    "",
    "            INSERT INTO messages (",
    "                id,",
    "                entity_id,",
    "                event_type,",
    "                payload,",
    "                created_date,",
    "                retry_count,",
    "                expiry,",
    "                processed_date,",
    "                status",
    "            )",
    "            VALUES ($1, $2, $3, $4, $5, $6, $7, $8, $9)"] ++ "            "

/-- The statement that puts a record in place of the one with its identifier. -/
def updateRecord : String :=
  lines [
    "",
    "            UPDATE messages",
    "            SET",
    "                entity_id = $2,",
    "                event_type = $3,",
    "                payload = $4,",
    "                created_date = $5,",
    "                retry_count = $6,",
    "                expiry = $7,",
    "                processed_date = $8,",
    "                status = $9",
    "            WHERE id = $1"] ++ "            "

/-! ## Operations -/

/-- Inserts a record. -/
def insert (r : WorkRecord) (c : Connection) : Except StoreError Unit × Connection :=
  match c.execute insertRecord (paramsOf r) with
  | (.ok _, c) => (.ok (), c)
  | (.error e, c) => (.error (insertError r e), c)

/-- Puts a record in place of the one with its identifier. -/
def update (r : WorkRecord) (c : Connection) : Except StoreError Unit × Connection :=
  match c.execute updateRecord (paramsOf r) with
  | (.ok n, c) => (if n = 0 then .error (.notFound r.id) else .ok (), c)
  | (.error e, c) => (.error (storeError "update" e), c)

/-- Removes a record. -/
def delete (r : WorkRecord) (c : Connection) : Except StoreError Unit × Connection :=
  match c.execute "DELETE FROM messages WHERE id = $1" [.of (.uuid r.id)] with
  | (.ok _, c) => (.ok (), c)
  | (.error e, c) => (.error (storeError "delete" e), c)

/-- The record under an identifier. -/
def get (id : RecordId) (c : Connection) : Except StoreError (Option WorkRecord) × Connection :=
  match c.query (selectColumns ++ " WHERE id = $1") [.of (.uuid id)] with
  | (.ok [], c) => (.ok none, c)
  | (.ok (row :: _), c) => ((recordOfRow row).map some, c)
  | (.error e, c) => (.error (storeError "get" e), c)

/-- The records that a query gives. -/
def select (operation condition : String) (params : List Param) (c : Connection) :
    Except StoreError (List WorkRecord) × Connection :=
  match c.query (selectColumns ++ " WHERE " ++ condition) params with
  | (.ok rows, c) => (recordsOfRows rows, c)
  | (.error e, c) => (.error (storeError operation e), c)

def unprocessedOf (e : EntityId) : Connection → Except StoreError (List WorkRecord) × Connection :=
  select "find_unprocessed_by_entity" "entity_id = $1 AND processed_date IS NULL"
    [.of (.int8 e.val)]

def ofTypeAndCount (t : EventType) (n : UInt32) :
    Connection → Except StoreError (List WorkRecord) × Connection :=
  select "find_by_event_type_and_retry_count" "event_type = $1 AND retry_count = $2"
    [.of (.text t.name), .of (.int4 (heldCount n))]

def unprocessedIn (b : RetryBand) :
    Connection → Except StoreError (List WorkRecord) × Connection :=
  select "find_unprocessed_by_retry_band"
    ("retry_count >= $1 AND ($2::integer IS NULL OR retry_count <= $2) " ++
      "AND processed_date IS NULL")
    [.of (.int4 (heldCount b.least)), .value (b.greatest.map fun n => .int4 (heldCount n))]

def untriedBefore (t : Instant) :
    Connection → Except StoreError (List WorkRecord) × Connection :=
  select "find_unattempted_created_before"
    "retry_count = 0 AND created_date < $1 AND processed_date IS NULL" [.of (.instant t)]

/-- Removes the records that are expired at an instant's second. -/
def deleteExpired (now : Instant) (c : Connection) : Except StoreError Nat × Connection :=
  match c.execute "DELETE FROM messages WHERE expiry <= $1" [.of (.int8 now.second)] with
  | (.ok n, c) => (.ok n, c)
  | (.error e, c) => (.error (storeError "delete_expired" e), c)

instance : RecordStore Connection where
  insert := insert
  update := update
  delete := delete
  get := get
  unprocessedOf := unprocessedOf
  ofTypeAndCount := ofTypeAndCount
  unprocessedIn := unprocessedIn
  untriedBefore := untriedBefore
  deleteExpired := deleteExpired
  edit _ c := (.ok (), c)

end Reconciliation.Postgres
