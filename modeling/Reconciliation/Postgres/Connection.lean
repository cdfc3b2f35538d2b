import Reconciliation.Record.WorkRecord

/-!
# Talking to a database server

Statements go out with their parameters, and the server answers each: with a number of
rows touched, with rows, with an error, or by breaking the connection. A `Connection`
keeps what was sent and the answers still to come, so that a run over it is a function
from answers to statements and results.

What is bound to a parameter and what comes back in a row are values of the same types
(`Datum`). The server keeps instants in microseconds (`micros`, `kept`). A column is read by
name. That fails if the column is not there, if it is null and may not
be, or if it has another type.
-/

namespace Reconciliation.Postgres

/-- A value by its type. -/
inductive Datum where
  | uuid (id : RecordId)
  | int4 (n : Int)
  | int8 (n : Int)
  | text (s : String)
  | instant (t : Instant)
deriving DecidableEq

/-- The microseconds since 2000-01-01 of an instant, cut toward zero. -/
def micros (t : Instant) : Int :=
  ((t.second - 946684800) * 1000000000 + t.nano).tdiv 1000

/-- The instant so many microseconds after 2000-01-01. -/
def ofMicros? (n : Int) : Option Instant :=
  Instant.ofNanos? (n * 1000 + 946684800 * 1000000000)

/-- The instant that the server gives back for one that it was given. -/
def kept (t : Instant) : Instant := (ofMicros? (micros t)).getD t

/-- A parameter of a statement. -/
inductive Param where
  /-- A value or null. -/
  | value (v : Option Datum)
  /-- The token of a lease. -/
  | token (n : Nat)
deriving DecidableEq

/-- A value as a parameter. -/
def Param.of (d : Datum) : Param := value (some d)

/-- Lines as a text, each with its line break. -/
def lines (ls : List String) : String := (ls.map (· ++ "\n")).foldl (· ++ ·) ""

/-- The characters of lines are those of one after another. -/
theorem toList_lines (ls : List String) :
    (lines ls).toList = ls.flatMap fun l => l.toList ++ ['\n'] := by
  have happend : ∀ (ls : List String) (start : String),
      (ls.foldl (· ++ ·) start).toList = start.toList ++ ls.flatMap String.toList := by
    intro ls
    induction ls with
    | nil => exact fun start => (List.append_nil _).symm
    | cons l ls ih =>
      intro start
      rw [List.foldl_cons, ih, String.toList_append, List.flatMap_cons, List.append_assoc]
  rw [lines, happend, List.flatMap_map]
  simp only [String.toList_append]
  rfl

/-- A statement and its parameters. -/
structure Statement where
  text : String
  params : List Param
deriving DecidableEq

/-- A row that comes back. -/
structure Row where
  /-- The columns by name, each with a value or null. -/
  cells : List (String × Option Datum)
  /-- What the client says of a column that has a value of another type than is asked for. -/
  complaint : String → String := fun _ => "mismatched types"

/-- How the server answers a statement. -/
inductive Reply where
  /-- Done, with so many rows touched. -/
  | affected (n : Nat)
  | rows (rs : List Row)
  | error (code message : String)
  /-- The connection breaks, of which the client says this. -/
  | broken (text : String)

/-- Why a column was not read. -/
inductive ColumnError where
  | missing (name : String)
  | null (name : String)
  /-- The value is of another type, of which the client says this. -/
  | mismatch (name complaint : String)
deriving DecidableEq, Repr

/-- The wording of a column error. -/
def ColumnError.message : ColumnError → String
  | missing name => "no column found for name: " ++ name
  | null name =>
    "error occurred while decoding column \"" ++ name ++
      "\": unexpected null; try decoding as an `Option`"
  | mismatch name complaint =>
    "error occurred while decoding column \"" ++ name ++ "\": " ++ complaint

/-- Why a statement gave nothing. -/
inductive Trouble where
  /-- The server refused the statement. -/
  | database (code message : String)
  /-- The pool of connections is closed. -/
  | closed
  /-- The connection broke, of which the client says this. -/
  | broken (text : String)
  /-- A row was due and none came. -/
  | noRow
  | column (error : ColumnError)
deriving DecidableEq, Repr

/-- The wording of a trouble where it follows what was being done. -/
def Trouble.message : Trouble → String
  | database _ message => "error returned from database: " ++ message
  | closed => "attempted to acquire a connection on a closed pool"
  | broken text => text
  | noRow => "no rows returned by a query that expected to return at least one row"
  | column e => e.message

/-- A pool with one connection. -/
structure Connection where
  /-- The answers to come; where they run out, a statement touches one row. -/
  replies : List Reply
  /-- What was sent, oldest first. -/
  sent : List Statement
  closed : Bool
  /-- The time at which statements are sent. -/
  now : Instant
  /-- The last lease token given out. -/
  lastToken : Nat

namespace Connection

/-- A connection over which nothing has been sent. -/
def fresh (now : Instant) : Connection := ⟨[], [], false, now, 0⟩

/-- The connection with the answers for what comes next, and nothing sent yet. -/
def expecting (c : Connection) (replies : List Reply) : Connection :=
  { c with replies, sent := [] }

/-- Sends a statement and takes its answer. Over a closed pool nothing is sent. -/
def send (c : Connection) (text : String) (params : List Param) :
    Except Trouble Reply × Connection :=
  if c.closed then (.error .closed, c)
  else
    let sent := c.sent ++ [⟨text, params⟩]
    match c.replies with
    | [] => (.ok (.affected 1), { c with sent })
    | .error code message :: replies => (.error (.database code message), { c with sent, replies })
    | .broken text :: replies => (.error (.broken text), { c with sent, replies })
    | reply :: replies => (.ok reply, { c with sent, replies })

/-- Sends a statement whose answer does not matter and never fails. -/
def post (c : Connection) (text : String) : Connection :=
  { c with sent := c.sent ++ [⟨text, []⟩] }

/-- Sends a statement; with the number of rows it touched. -/
def execute (c : Connection) (text : String) (params : List Param) :
    Except Trouble Nat × Connection :=
  match c.send text params with
  | (.ok (.affected n), c) => (.ok n, c)
  | (.ok (.rows rs), c) => (.ok rs.length, c)
  | (.ok _, c) => (.ok 0, c)
  | (.error e, c) => (.error e, c)

/-- Sends a query; with the rows that it gives. -/
def query (c : Connection) (text : String) (params : List Param) :
    Except Trouble (List Row) × Connection :=
  match c.send text params with
  | (.ok (.rows rs), c) => (.ok rs, c)
  | (.ok _, c) => (.ok [], c)
  | (.error e, c) => (.error e, c)

end Connection

namespace Row

/-- A column's value or null. -/
def cell (row : Row) (name : String) : Except ColumnError (Option Datum) :=
  match row.cells.find? (·.1 == name) with
  | some (_, v) => .ok v
  | none => .error (.missing name)

/-- A column that may be null, read by a function that knows one type. -/
def optional {α : Type} (row : Row) (name : String) (as : Datum → Option α) :
    Except ColumnError (Option α) :=
  match row.cell name with
  | .error e => .error e
  | .ok none => .ok none
  | .ok (some v) =>
    match as v with
    | some a => .ok (some a)
    | none => .error (.mismatch name (row.complaint name))

/-- A column that may not be null. -/
def required {α : Type} (row : Row) (name : String) (as : Datum → Option α) :
    Except ColumnError α :=
  match row.optional name as with
  | .error e => .error e
  | .ok none => .error (.null name)
  | .ok (some a) => .ok a

end Row

namespace Datum

def uuid? : Datum → Option RecordId
  | uuid id => some id
  | _ => none

def int4? : Datum → Option Int
  | int4 n => some n
  | _ => none

def int8? : Datum → Option Int
  | int8 n => some n
  | _ => none

def text? : Datum → Option String
  | text s => some s
  | _ => none

def instant? : Datum → Option Instant
  | instant t => some t
  | _ => none

end Datum

end Reconciliation.Postgres
