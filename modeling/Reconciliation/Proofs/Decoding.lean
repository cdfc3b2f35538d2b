import Mathlib.Data.List.Forall2
import Reconciliation.Proofs.Instant
import Reconciliation.Proofs.Json
import Reconciliation.Proofs.Rows

/-!
# Which rows are records

A row is a record if every column has a value of its type and two of them are in range
(`Row.Decodes`). A row that is none is so by the first column that fails, in the order in which
they are read, or else by the first of the two ranges (`Row.Corrupt`). Both are told cell by cell.

* `Column.fails_bind`: one column is read, and then the others.
* `recordOfRow_eq_ok_iff`, `recordOfRow_eq_error_iff`: what comes of one row.
* `recordsOfRows_eq_ok_iff`, `recordsOfRows_eq_error_iff`: what comes of rows. It is all of their
  records in their order, or what is said of the first that is none.
-/

namespace Reconciliation.Postgres

variable {α β : Type} {row : Row} {rows : List Row} {r : WorkRecord} {rs : List WorkRecord}
  {e : ColumnError} {name : String}

/-! ## Columns -/

/-- A column of a record. -/
structure Column where
  name : String
  mayBeNull : Bool
  /-- Whether a value is of the type of the column. -/
  fits : Datum → Bool

/-- The columns of a record in the order in which they are read. The order matters, since a row is
refused for the first column that fails. -/
def recordColumns : List Column :=
  [⟨"id", false, (·.uuid?.isSome)⟩, ⟨"entity_id", false, fun v => (entityIn v).isSome⟩,
    ⟨"event_type", false, (·.text?.isSome)⟩, ⟨"payload", false, (·.text?.isSome)⟩,
    ⟨"created_date", false, (·.instant?.isSome)⟩, ⟨"retry_count", false, (·.int4?.isSome)⟩,
    ⟨"expiry", false, (·.int8?.isSome)⟩, ⟨"processed_date", true, (·.instant?.isSome)⟩,
    ⟨"status", true, (·.text?.isSome)⟩]

/-- How a column fails in a row. -/
inductive Column.Fails (column : Column) (row : Row) : ColumnError → Prop
  /-- The row has no such column. -/
  | missing (h : ∀ cell ∈ row.cells, cell.1 ≠ column.name) : Fails column row (.missing column.name)
  | null (hcell : row.cell column.name = .ok none) (h : column.mayBeNull = false) :
      Fails column row (.null column.name)
  /-- The value is of another type. -/
  | mismatch {v : Datum} (hcell : row.cell column.name = .ok (some v))
      (h : column.fits v = false) :
      Fails column row (.mismatch column.name (row.complaint column.name))

/-- The first of some columns to fail in a row, and how it does. -/
inductive Row.FailsFirst (row : Row) : List Column → ColumnError → Prop
  | here {column : Column} {columns : List Column} {e : ColumnError} (h : column.Fails row e) :
      FailsFirst row (column :: columns) e
  | later {column : Column} {columns : List Column} {e : ColumnError}
      (hcolumn : ∀ e, ¬ column.Fails row e) (h : FailsFirst row columns e) :
      FailsFirst row (column :: columns) e

/-- A column is not found exactly where a row has none of that name. -/
theorem cell_eq_error_iff : row.cell name = .error e ↔
    e = .missing name ∧ ∀ cell ∈ row.cells, cell.1 ≠ name := by
  rw [Row.cell]
  cases hfound : row.cells.find? (·.1 == name) with
  | none =>
    have hnone : ∀ cell ∈ row.cells, cell.1 ≠ name := by simpa using List.find?_eq_none.1 hfound
    simp only [Except.error.injEq]
    exact ⟨fun h => ⟨h.symm, hnone⟩, fun h => h.1.symm⟩
  | some cell =>
    have hname : cell.1 = name := by simpa using List.find?_some hfound
    simp only [reduceCtorEq, false_iff, not_and]
    intro _ hnone
    exact hnone cell (List.mem_of_find?_eq_some hfound) hname

/-- How a column fails, by what its cell is. -/
theorem Column.fails_iff {column : Column} : column.Fails row e ↔
    match row.cell column.name with
    | .error e' => e = e'
    | .ok none => column.mayBeNull = false ∧ e = .null column.name
    | .ok (some v) => column.fits v = false ∧
        e = .mismatch column.name (row.complaint column.name) := by
  constructor
  · intro h
    cases h with
    | missing h => rw [cell_eq_error_iff.2 ⟨rfl, h⟩]
    | null hcell h => rw [hcell]; exact ⟨h, rfl⟩
    | mismatch hcell h => rw [hcell]; exact ⟨h, rfl⟩
  · intro h
    split at h
    · rename_i e' hcell
      obtain ⟨rfl, hnone⟩ := cell_eq_error_iff.1 hcell
      exact h ▸ .missing hnone
    · rename_i hcell
      exact h.2 ▸ .null hcell h.1
    · rename_i v hcell
      exact h.2 ▸ .mismatch hcell h.1

/-- A column that may be empty fails exactly if its cell is missing or holds something else. -/
theorem optional_eq_error_iff (f : Datum → Option α) : row.optional name f = .error e ↔
    Column.Fails ⟨name, true, fun v => (f v).isSome⟩ row e := by
  rw [Column.fails_iff, Row.optional]
  rcases row.cell name with e' | _ | v
  · simp [eq_comm]
  · simp
  · cases hv : f v <;> simp [hv, eq_comm]

/-- A column that has to be filled fails also if its cell is empty. -/
theorem required_eq_error_iff (f : Datum → Option α) : row.required name f = .error e ↔
    Column.Fails ⟨name, false, fun v => (f v).isSome⟩ row e := by
  rw [Column.fails_iff, Row.required, Row.optional]
  rcases row.cell name with e' | _ | v
  · simp [eq_comm]
  · simp [eq_comm]
  · cases hv : f v <;> simp [hv, eq_comm]

/-- Otherwise it gives the value of its cell, or none if the cell is empty. -/
theorem optional_eq_ok_iff (f : Datum → Option α) {o : Option α} : row.optional name f = .ok o ↔
    row.cell name = .ok none ∧ o = none ∨
      ∃ v a, row.cell name = .ok (some v) ∧ f v = some a ∧ o = some a := by
  rw [Row.optional]
  rcases row.cell name with e | _ | v
  · simp
  · simp [eq_comm]
  · cases hv : f v <;> simp [hv, eq_comm]

/-- Otherwise it gives the value of its cell. -/
theorem required_eq_ok_iff (f : Datum → Option α) {a : α} : row.required name f = .ok a ↔
    ∃ v, row.cell name = .ok (some v) ∧ f v = some a := by
  rw [Row.required, Row.optional]
  rcases row.cell name with e | _ | v
  · simp
  · simp
  · cases hv : f v <;> simp [hv]

/-- **One column is read and then the others.** It is the first of them to fail or none of those
before it is. -/
theorem Column.fails_bind {column : Column} {columns : List Column} {x : Except ColumnError α}
    {f : α → Except ColumnError β} (hx : ∀ e, x = .error e ↔ column.Fails row e)
    (hf : ∀ a e, f a = .error e ↔ row.FailsFirst columns e) (e : ColumnError) :
    (x >>= f) = .error e ↔ row.FailsFirst (column :: columns) e := by
  cases x with
  | error e' =>
    have hfails : column.Fails row e' := (hx e').1 rfl
    constructor
    · intro h
      obtain rfl : e' = e := Except.error.inj h
      exact .here hfails
    · intro h
      cases h with
      | here h =>
        obtain rfl : e' = e := Except.error.inj ((hx e).2 h)
        rfl
      | later hcolumn _ => exact absurd hfails (hcolumn e')
  | ok a =>
    have hfits : ∀ e, ¬ column.Fails row e := by
      intro e h
      cases (hx e).2 h
    constructor
    · exact fun h => .later hfits ((hf a e).1 h)
    · intro h
      cases h with
      | here h => exact absurd h (hfits e)
      | later _ h => exact (hf a e).2 h

/-- **The columns of a row** are not read because of the first that fails. -/
theorem ofRow_eq_error_iff : Columns.ofRow row = .error e ↔ row.FailsFirst recordColumns e := by
  rw [Columns.ofRow, recordColumns]
  refine Column.fails_bind (fun _ => required_eq_error_iff _) (fun id => ?_) e
  refine Column.fails_bind (fun _ => required_eq_error_iff _) (fun entity => ?_)
  refine Column.fails_bind (fun _ => required_eq_error_iff _) (fun eventType => ?_)
  refine Column.fails_bind (fun _ => required_eq_error_iff _) (fun payload => ?_)
  refine Column.fails_bind (fun _ => required_eq_error_iff _) (fun created => ?_)
  refine Column.fails_bind (fun _ => required_eq_error_iff _) (fun retryCount => ?_)
  refine Column.fails_bind (fun _ => required_eq_error_iff _) (fun expiry => ?_)
  refine Column.fails_bind (fun _ => optional_eq_error_iff _) (fun processed => ?_)
  refine Column.fails_bind (fun _ => optional_eq_error_iff _) (fun status e => ?_)
  -- no column is left that could fail
  constructor <;> intro h <;> cases h

/-- A row that has the values of these columns, each of the type that its column has. -/
structure Row.Has (row : Row) (c : Columns) : Prop where
  id : row.cell "id" = .ok (some (.uuid c.id))
  entity : row.cell "entity_id" = .ok (some (.int8 c.entity.val))
  eventType : row.cell "event_type" = .ok (some (.text c.eventType))
  payload : row.cell "payload" = .ok (some (.text c.payload))
  created : row.cell "created_date" = .ok (some (.instant c.created))
  retryCount : row.cell "retry_count" = .ok (some (.int4 c.retryCount))
  expiry : row.cell "expiry" = .ok (some (.int8 c.expiry))
  processed : row.cell "processed_date" = .ok (c.processed.map .instant)
  status : row.cell "status" = .ok (c.status.map .text)

/-- A column that may not be null has a value of its type. -/
theorem cell_of_required (mk : α → Datum) {f : Datum → Option α} {a : α}
    (hf : ∀ v b, f v = some b → v = mk b) (h : row.required name f = .ok a) :
    row.cell name = .ok (some (mk a)) := by
  obtain ⟨v, hcell, hv⟩ := (required_eq_ok_iff f).1 h
  rw [hcell, hf v a hv]

/-- A column that may be null is null or has a value of its type. -/
theorem cell_of_optional (mk : α → Datum) {f : Datum → Option α} {o : Option α}
    (hf : ∀ v b, f v = some b → v = mk b) (h : row.optional name f = .ok o) :
    row.cell name = .ok (o.map mk) := by
  rcases (optional_eq_ok_iff f).1 h with ⟨hcell, rfl⟩ | ⟨v, a, hcell, hv, rfl⟩
  · exact hcell
  · rw [hcell, hf v a hv]
    rfl

/-- A value that is taken for an identifier is one. -/
theorem uuid?_eq_some {v : Datum} {id : RecordId} (h : v.uuid? = some id) : v = .uuid id := by
  cases v <;> cases h
  rfl

theorem int4?_eq_some {v : Datum} {n : Int} (h : v.int4? = some n) : v = .int4 n := by
  cases v <;> cases h
  rfl

theorem int8?_eq_some {v : Datum} {n : Int} (h : v.int8? = some n) : v = .int8 n := by
  cases v <;> cases h
  rfl

theorem text?_eq_some {v : Datum} {s : String} (h : v.text? = some s) : v = .text s := by
  cases v <;> cases h
  rfl

theorem instant?_eq_some {v : Datum} {t : Instant} (h : v.instant? = some t) :
    v = .instant t := by
  cases v <;> cases h
  rfl

/-- An entity is held as a number of 64 bits. -/
theorem entityIn_eq_some {v : Datum} {e : EntityId} (h : entityIn v = some e) :
    v = .int8 e.val := by
  obtain ⟨n, hn, he⟩ := Option.bind_eq_some_iff.1 h
  rw [int8?_eq_some hn, EntityId.of?_eq_some he]

/-- **The columns of a row** are what its cells have. -/
theorem ofRow_eq_ok_iff {c : Columns} : Columns.ofRow row = .ok c ↔ row.Has c := by
  constructor
  · intro h
    rw [Columns.ofRow] at h
    obtain ⟨id, hid, h⟩ := Json.ok_of_bind h
    obtain ⟨entity, hentity, h⟩ := Json.ok_of_bind h
    obtain ⟨eventType, hkind, h⟩ := Json.ok_of_bind h
    obtain ⟨payload, hpayload, h⟩ := Json.ok_of_bind h
    obtain ⟨created, hcreated, h⟩ := Json.ok_of_bind h
    obtain ⟨retryCount, hcount, h⟩ := Json.ok_of_bind h
    obtain ⟨expiry, hexpiry, h⟩ := Json.ok_of_bind h
    obtain ⟨processed, hprocessed, h⟩ := Json.ok_of_bind h
    obtain ⟨status, hstatus, h⟩ := Json.ok_of_bind h
    obtain rfl := Except.ok.inj h
    exact ⟨cell_of_required .uuid (fun _ _ => uuid?_eq_some) hid,
      cell_of_required (fun e => .int8 e.val) (fun _ _ => entityIn_eq_some) hentity,
      cell_of_required .text (fun _ _ => text?_eq_some) hkind,
      cell_of_required .text (fun _ _ => text?_eq_some) hpayload,
      cell_of_required .instant (fun _ _ => instant?_eq_some) hcreated,
      cell_of_required .int4 (fun _ _ => int4?_eq_some) hcount,
      cell_of_required .int8 (fun _ _ => int8?_eq_some) hexpiry,
      cell_of_optional .instant (fun _ _ => instant?_eq_some) hprocessed,
      cell_of_optional .text (fun _ _ => text?_eq_some) hstatus⟩
  · intro h
    rw [Columns.ofRow, required_eq_ok Datum.uuid? h.id rfl,
      required_eq_ok entityIn h.entity (EntityId.of?_val c.entity),
      required_eq_ok Datum.text? h.eventType rfl, required_eq_ok Datum.text? h.payload rfl,
      required_eq_ok Datum.instant? h.created rfl, required_eq_ok Datum.int4? h.retryCount rfl,
      required_eq_ok Datum.int8? h.expiry rfl,
      optional_eq_ok Datum.instant? h.processed fun _ => rfl,
      optional_eq_ok Datum.text? h.status fun _ => rfl]
    rfl

/-! ## Rows -/

/-- A row that is a record: each column has a value of its type, the retry count is not negative
and the expiry is the second of an instant. -/
inductive Row.Decodes (row : Row) : WorkRecord → Prop
  | intro {c : Columns} {expiry : Instant} (hc : row.Has c) (hcount : 0 ≤ c.retryCount)
      (hsecond : expiry.second = c.expiry) (hnano : expiry.nano = 0) :
      Decodes row {
        id := c.id
        entity := c.entity
        eventType := .parse c.eventType
        payload := c.payload
        created := c.created
        retryCount := .ofNat c.retryCount.toNat
        expiry
        processed := c.processed
        status := c.status }

/-- Why a row is no record: a column fails, and then it is the first that does; or the retry count
is negative; or there is no instant at the second of the expiry. -/
inductive Row.Corrupt (row : Row) : String → Prop
  | column {e : ColumnError} (h : row.FailsFirst recordColumns e) :
      Corrupt row ("failed to decode message row: " ++ e.message)
  | retryCount {c : Columns} (hc : row.Has c) (h : c.retryCount < 0) :
      Corrupt row ("negative retry_count on " ++ c.id.text)
  | expiry {c : Columns} (hc : row.Has c) (hcount : 0 ≤ c.retryCount)
      (h : ∀ t : Instant, t.second ≠ c.expiry) :
      Corrupt row ("expiry out of range on " ++ c.id.text)

/-- No instant is at a second that is out of range. -/
theorem of?_eq_none_iff {n : Int} : Instant.of? n 0 = none ↔ ∀ t : Instant, t.second ≠ n := by
  constructor
  · rintro h t rfl
    rw [of?_second] at h
    cases h
  · intro h
    cases ht : Instant.of? n 0 with
    | none => rfl
    | some t => exact absurd (Instant.of?_eq_some.1 ht).1 (h t)

/-- **A row that is a record** is read as that one. -/
theorem recordOfRow_eq_ok_iff : recordOfRow row = .ok r ↔ row.Decodes r := by
  constructor
  · intro h
    rw [recordOfRow] at h
    split at h
    · cases h
    · rename_i c hc
      rw [Columns.record] at h
      split at h
      · cases h
      · rename_i hcount
        split at h
        · cases h
        · rename_i expiry hexpiry
          obtain ⟨hsecond, hnano⟩ := Instant.of?_eq_some.1 hexpiry
          obtain rfl := Except.ok.inj h
          exact .intro (ofRow_eq_ok_iff.1 hc) (Int.not_lt.1 hcount) hsecond hnano
  · rintro ⟨hc, hcount, hsecond, hnano⟩
    rw [recordOfRow, ofRow_eq_ok_iff.2 hc]
    simp only [Columns.record, if_neg (Int.not_lt.2 hcount),
      Instant.of?_eq_some.2 ⟨hsecond, hnano⟩]

/-- **A row that is no record** is refused with the first reason for that. -/
theorem recordOfRow_eq_error_iff {e : StoreError} :
    recordOfRow row = .error e ↔ ∃ why, e = .corrupt why ∧ row.Corrupt why := by
  constructor
  · intro h
    rw [recordOfRow] at h
    split at h
    · rename_i e' he
      exact ⟨_, (Except.error.inj h).symm, .column (ofRow_eq_error_iff.1 he)⟩
    · rename_i c hc
      rw [Columns.record] at h
      split at h
      · rename_i hcount
        exact ⟨_, (Except.error.inj h).symm, .retryCount (ofRow_eq_ok_iff.1 hc) hcount⟩
      · rename_i hcount
        split at h
        · rename_i hexpiry
          exact ⟨_, (Except.error.inj h).symm,
            .expiry (ofRow_eq_ok_iff.1 hc) (Int.not_lt.1 hcount) (of?_eq_none_iff.1 hexpiry)⟩
        · cases h
  · rintro ⟨why, rfl, hwhy⟩
    rw [recordOfRow]
    cases hwhy with
    | column h =>
      rw [ofRow_eq_error_iff.2 h]
      rfl
    | retryCount hc h =>
      rw [ofRow_eq_ok_iff.2 hc]
      simp only [Columns.record, if_pos h]
    | expiry hc hcount h =>
      rw [ofRow_eq_ok_iff.2 hc]
      simp only [Columns.record, if_neg (Int.not_lt.2 hcount), of?_eq_none_iff.2 h]

/-- **Rows that are all records** are read as these, in their order. -/
theorem recordsOfRows_eq_ok_iff :
    recordsOfRows rows = .ok rs ↔ List.Forall₂ Row.Decodes rows rs := by
  induction rows generalizing rs with
  | nil =>
    rw [List.forall₂_nil_left_iff]
    exact ⟨fun h => (Except.ok.inj h).symm, fun h => h ▸ rfl⟩
  | cons row rows ih =>
    constructor
    · intro h
      rw [recordsOfRows] at h
      obtain ⟨r, hr, h⟩ := Json.ok_of_bind h
      obtain ⟨rest, hrest, h⟩ := Json.ok_of_bind h
      obtain rfl := Except.ok.inj h
      exact .cons (recordOfRow_eq_ok_iff.1 hr) (ih.1 hrest)
    · rintro (_ | ⟨hr, hrest⟩)
      rw [recordsOfRows, recordOfRow_eq_ok_iff.2 hr, ih.2 hrest]
      rfl

/-- The first of some rows that is no record is so for this reason. -/
def FirstCorrupt (rows : List Row) (why : String) : Prop :=
  ∃ good bad rest, rows = good ++ bad :: rest ∧ (∀ row ∈ good, ∃ r, Row.Decodes row r) ∧
    bad.Corrupt why

/-- Rows are read up to the first that is no record. -/
theorem recordsOfRows_of_corrupt {good rest : List Row} {bad : Row} {why : String}
    (hgood : ∀ row ∈ good, ∃ r, Row.Decodes row r) (hbad : bad.Corrupt why) :
    recordsOfRows (good ++ bad :: rest) = .error (.corrupt why) := by
  induction good with
  | nil =>
    rw [List.nil_append, recordsOfRows, recordOfRow_eq_error_iff.2 ⟨why, rfl, hbad⟩]
    rfl
  | cons row good ih =>
    obtain ⟨⟨r, hr⟩, hgood⟩ := List.forall_mem_cons.1 hgood
    rw [List.cons_append, recordsOfRows, recordOfRow_eq_ok_iff.2 hr, ih hgood]
    rfl

/-- **Rows of which one is no record** are refused because of the first such one. -/
theorem recordsOfRows_eq_error_iff {e : StoreError} :
    recordsOfRows rows = .error e ↔ ∃ why, e = .corrupt why ∧ FirstCorrupt rows why := by
  constructor
  · intro h
    induction rows with
    | nil => cases h
    | cons row rows ih =>
      rw [recordsOfRows] at h
      cases hrow : recordOfRow row with
      | error e' =>
        rw [hrow] at h
        obtain rfl : e' = e := Except.error.inj h
        obtain ⟨why, rfl, hwhy⟩ := recordOfRow_eq_error_iff.1 hrow
        exact ⟨why, rfl, [], row, rows, rfl, by simp, hwhy⟩
      | ok r =>
        cases hrows : recordsOfRows rows with
        | error e' =>
          rw [hrow, hrows] at h
          obtain rfl : e' = e := Except.error.inj h
          obtain ⟨why, he, good, bad, rest, rfl, hgood, hbad⟩ := ih hrows
          have hr : ∃ r, Row.Decodes row r := ⟨r, recordOfRow_eq_ok_iff.1 hrow⟩
          exact ⟨why, he, row :: good, bad, rest, rfl, List.forall_mem_cons.2 ⟨hr, hgood⟩, hbad⟩
        | ok rs =>
          rw [hrow, hrows] at h
          cases h
  · rintro ⟨why, rfl, good, bad, rest, rfl, hgood, hbad⟩
    exact recordsOfRows_of_corrupt hgood hbad

end Reconciliation.Postgres
