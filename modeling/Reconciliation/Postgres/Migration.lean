import Reconciliation.Postgres.Connection
import Reconciliation.Store.Basic

/-!
# Migrations

The tables of the database come about in numbered steps, applied in order, each in a
transaction of its own together with the note that it was applied. A migration that fails
is rolled back and ends the run; the next run goes on from the highest number noted.
-/

namespace Reconciliation.Postgres

/-- A numbered step. -/
structure Migration where
  version : Int
  name : String
  script : String
deriving DecidableEq, Repr

namespace Migration

/-- The table of records and its indexes. -/
def createMessages : Migration where
  version := 1
  name := "create_messages"
  script := lines [
    "-- Work records awaiting (or having completed) reconciliation.",
    "CREATE TABLE IF NOT EXISTS messages (",
    "    id              UUID        PRIMARY KEY,",
    "    entity_id       BIGINT      NOT NULL,",
    "    event_type      TEXT        NOT NULL,",
    "    payload         TEXT        NOT NULL,",
    "    created_date    TIMESTAMPTZ NOT NULL,",
    "    retry_count     INTEGER     NOT NULL DEFAULT 0 CHECK (retry_count >= 0),",
    "    -- Epoch seconds; records past this point may be purged.",
    "    expiry          BIGINT      NOT NULL,",
    "    processed_date  TIMESTAMPTZ NULL,",
    "    status          TEXT        NULL",
    ");",
    "",
    "CREATE INDEX IF NOT EXISTS messages_entity_unprocessed_idx",
    "    ON messages (entity_id)",
    "    WHERE processed_date IS NULL;",
    "",
    "CREATE INDEX IF NOT EXISTS messages_retry_unprocessed_idx",
    "    ON messages (retry_count, created_date)",
    "    WHERE processed_date IS NULL;",
    "",
    "CREATE INDEX IF NOT EXISTS messages_event_type_retry_idx",
    "    ON messages (event_type, retry_count);",
    "",
    "CREATE INDEX IF NOT EXISTS messages_expiry_idx",
    "    ON messages (expiry);"]

/-- The table of locks. -/
def createLocks : Migration where
  version := 2
  name := "create_scheduler_locks"
  script := lines [
    "-- Named locks guarding scheduled passes across instances.",
    "CREATE TABLE IF NOT EXISTS scheduler_locks (",
    "    name        TEXT        PRIMARY KEY,",
    "    lock_until  TIMESTAMPTZ NOT NULL,",
    "    locked_at   TIMESTAMPTZ NOT NULL,",
    "    locked_by   TEXT        NOT NULL",
    ");"]

/-- All migrations, in order. -/
def all : List Migration := [createMessages, createLocks]

/-- The highest version; zero if there is none. -/
def current (ms : List Migration) : Int := (ms.map (·.version)).foldl max 0

/-- The statement that makes the table of applied versions. -/
def createVersions : String :=
  lines [
    "",
    "        CREATE TABLE IF NOT EXISTS schema_version (",
    "            version     INTEGER     PRIMARY KEY,",
    "            name        TEXT        NOT NULL,",
    "            applied_at  TIMESTAMPTZ NOT NULL DEFAULT NOW()",
    "        )"] ++ "        "

/-- The query for the highest version applied. -/
def selectVersion : String := "SELECT COALESCE(MAX(version), 0) AS version FROM schema_version"

/-- The statement that notes a version. -/
def insertVersion : String := "INSERT INTO schema_version (version, name) VALUES ($1, $2)"

/-- The error of a trouble in one step of the run. -/
def stepError (step : String) (e : Trouble) : StoreError :=
  .storage (step ++ ": " ++ e.message)

/-- The highest version applied. -/
def applied (c : Connection) : Except StoreError Int × Connection :=
  match c.query selectVersion [] with
  | (.error e, c) => (.error (stepError "read schema_version" e), c)
  | (.ok [], c) => (.error (stepError "read schema_version" .noRow), c)
  | (.ok (row :: _), c) =>
    match row.required "version" Datum.int4? with
    | .ok n => (.ok n, c)
    | .error e => (.error (stepError "read schema_version" (.column e)), c)

/-- Sends a statement of a transaction; if it fails the transaction is rolled back. -/
def inTransaction (c : Connection) (step text : String) (params : List Param) :
    Except StoreError Unit × Connection :=
  match c.execute text params with
  | (.ok _, c) => (.ok (), c)
  | (.error e, c) => (.error (stepError step e), c.post "ROLLBACK")

/-- Applies a migration in a transaction of its own. -/
def apply (m : Migration) (c : Connection) : Except StoreError Unit × Connection :=
  match c.execute "BEGIN" [] with
  | (.error e, c) => (.error (stepError "begin migration" e), c)
  | (.ok _, c) =>
    let failed := "migration " ++ Text.decimalText m.version ++ " (" ++ m.name ++ ") failed"
    match inTransaction c failed m.script [] with
    | (.error e, c) => (.error e, c)
    | (.ok (), c) =>
      let row : List Param := [.of (.int4 m.version), .of (.text m.name)]
      match inTransaction c "record migration" insertVersion row with
      | (.error e, c) => (.error e, c)
      -- a commit that fails is rolled back like any other statement
      | (.ok (), c) => inTransaction c "commit migration" "COMMIT" []

/-- Applies migrations one after another, up to the first that fails; with their number. -/
def applyAll : List Migration → Connection → Except StoreError Nat × Connection
  | [], c => (.ok 0, c)
  | m :: ms, c =>
    match m.apply c with
    | (.error e, c) => (.error e, c)
    | (.ok (), c) =>
      match applyAll ms c with
      | (.error e, c) => (.error e, c)
      | (.ok n, c) => (.ok (n + 1), c)

/-- Brings the database up to date with a list of migrations; with the number applied. -/
def migrate (ms : List Migration) (c : Connection) : Except StoreError Nat × Connection :=
  match c.execute createVersions [] with
  | (.error e, c) => (.error (stepError "create schema_version" e), c)
  | (.ok _, c) =>
    match applied c with
    | (.error e, c) => (.error e, c)
    | (.ok version, c) => applyAll (ms.filter fun m => decide (version < m.version)) c

end Migration

end Reconciliation.Postgres
