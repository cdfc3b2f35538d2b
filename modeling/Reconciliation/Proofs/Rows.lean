import Mathlib.Algebra.Group.Nat.Defs
import Mathlib.Data.List.Nodup
import Reconciliation.Postgres.Records
import Reconciliation.Text.Numeral

/-!
# Rows and the records they hold

A record is bound to a statement by position and read from a row by name. What stands between
the two is the text of the statement, which says into which column each parameter goes. Here the
text is read (`Statement.places`), so that a statement tells the row that it leaves, if the
server keeps every value as it was bound (`Statement.row`).

* `Row.Holds.recordOfRow`: a row that holds the values of a record, in whatever order, reads
  back as that record, but for what a row cannot hold (`held`).
* `holds_insert`, `holds_update`: the rows that an insertion and an update leave hold their record.
* `bandAdmits_heldCount`: the bounds of a retry band are sent cut to what a row can hold, and so
  are the counts that they are compared with. For bands below the largest count that makes no
  difference.
* `rows_lose_nothing`: both together, for the statements that are sent.
-/

namespace Reconciliation.Postgres

/-! ## What statements say -/

namespace Statement

/-- The words of a text: what stands between white space, commas, parentheses and equality
signs. -/
def words (text : String) : List String :=
  ((text.toList.splitOnP (· ∈ [' ', '\n', ',', '(', ')', '='])).filter (· ≠ [])).map String.ofList

/-- The number of a parameter, which is written behind a dollar sign. -/
def placeholder? (word : String) : Option Nat :=
  match word.toList with
  | '$' :: digits => some (Text.digitsValue 0 digits)
  | _ => none

/-- The columns of a statement that writes, each with the number of the parameter that it takes. An
insertion names all the columns and then all the parameters; an update writes each parameter
behind its column, and so does the condition that picks the row. -/
def places (text : String) : List (String × Nat) :=
  match words text with
  | "INSERT" :: "INTO" :: _ :: rest =>
    (rest.takeWhile (· ≠ "VALUES")).zip
      ((rest.dropWhile (· ≠ "VALUES")).filterMap placeholder?)
  | ws => (ws.zip ws.tail).filterMap fun (column, word) => (placeholder? word).map (column, ·)

/-- The row that a statement leaves where every value is kept as it was bound. -/
def row (s : Statement) : Row where
  cells := (places s.text).filterMap fun (column, n) =>
    match s.params[n - 1]? with
    | some (.value v) => some (column, v)
    | _ => none

end Statement

/-- Whether a count passes the condition on it in a query by retry band, `retry_count >= $1 AND
($2::integer IS NULL OR retry_count <= $2)`, with these parameters. -/
def bandAdmits : List Param → Int → Bool
  | [.value (some (.int4 least)), .value none], n => decide (least ≤ n)
  | [.value (some (.int4 least)), .value (some (.int4 greatest))], n =>
    decide (least ≤ n) && decide (n ≤ greatest)
  | _, _ => false

/-! ## What is sent -/

variable {c : Connection} {r : WorkRecord}

/-- Over an open connection a statement is sent, whatever the answer to it. -/
theorem sent_send (hc : c.closed = false) (text : String) (params : List Param) :
    (c.send text params).2.sent = c.sent ++ [⟨text, params⟩] := by
  simp only [Connection.send, hc, Bool.false_eq_true, if_false]
  rcases c.replies with _ | ⟨_ | _ | _ | _, replies⟩ <;> rfl

/-- A command is sent with its text and parameters as they are, behind all that was sent before. -/
theorem sent_execute (hc : c.closed = false) (text : String) (params : List Param) :
    (c.execute text params).2.sent = c.sent ++ [⟨text, params⟩] := by
  have h := sent_send hc text params
  rw [Connection.execute]
  rcases hs : c.send text params with ⟨_ | _ | _ | _ | _, c'⟩ <;> rwa [hs] at h

/-- A query likewise. -/
theorem sent_query (hc : c.closed = false) (text : String) (params : List Param) :
    (c.query text params).2.sent = c.sent ++ [⟨text, params⟩] := by
  have h := sent_send hc text params
  rw [Connection.query]
  rcases hs : c.send text params with ⟨_ | _ | _ | _ | _, c'⟩ <;> rwa [hs] at h

/-! ## What a row holds -/

/-- A row that has the values of a record under the names of their columns. -/
def Row.Holds (row : Row) (r : WorkRecord) : Prop :=
  ∀ cell ∈ (rowOf r).cells, row.cell cell.1 = .ok cell.2

/-- What a row holds of a record: of the retry count as much as there is room for, of the expiry
the whole second, and of the kind of event the name. -/
def held (r : WorkRecord) : WorkRecord :=
  { r with
    eventType := .parse r.eventType.name
    retryCount := .ofNat (min r.retryCount.toNat largestCount)
    expiry := r.expiry.wholeSecond }

/-- A record loses nothing if its expiry is at a whole second, its retry count is below `2 ^ 31`,
and its kind of event is one that is read from a name. -/
theorem held_eq_self (he : r.expiry.nano = 0) (hn : r.retryCount.toNat < 2 ^ 31)
    (hk : ∃ name, r.eventType = .parse name) : held r = r := by
  obtain ⟨name, hk⟩ := hk
  have hkind : EventType.parse r.eventType.name = r.eventType := by rw [hk, EventType.name_parse]
  have hcount : UInt32.ofNat (min r.retryCount.toNat largestCount) = r.retryCount := by
    rw [Nat.min_eq_left (by simp only [largestCount]; omega), UInt32.ofNat_toNat]
  have hexpiry : r.expiry.wholeSecond = r.expiry := Instant.ext rfl he.symm
  rw [held, hkind, hcount, hexpiry]

/-- Every instant has a second that is read back as an instant. -/
theorem of?_second (t : Instant) : Instant.of? t.second 0 = some t.wholeSecond :=
  dif_pos ⟨⟨t.earliest_le, t.le_latest⟩, by decide, fun h => absurd h (by decide)⟩

/-- A row with the cells of a record holds it, in whatever order they come. -/
theorem Row.Holds.of_perm {row : Row} (h : row.cells.Perm (rowOf r).cells) : row.Holds r := by
  have hnames : (row.cells.map Prod.fst).Nodup := by
    rw [(h.map Prod.fst).nodup_iff]
    exact (by decide : columns.Nodup)
  intro cell hcell
  rw [Row.cell]
  cases hfound : row.cells.find? (·.1 == cell.1) with
  | none =>
    have hnot := List.find?_eq_none.1 hfound cell (h.symm.subset hcell)
    simp at hnot
  | some found =>
    have hname : found.1 = cell.1 := by simpa using List.find?_some hfound
    obtain rfl : found = cell := List.inj_on_of_nodup_map hnames (List.mem_of_find?_eq_some hfound)
      (h.symm.subset hcell) hname
    rfl

/-- A column whose value is of the type that is read. -/
theorem required_eq_ok {α : Type} {row : Row} {name : String} {v : Datum} (f : Datum → Option α)
    {a : α} (h : row.cell name = .ok (some v)) (ha : f v = some a) :
    row.required name f = .ok a := by
  simp only [Row.required, Row.optional, h, ha]

/-- A column that may be null. -/
theorem optional_eq_ok {α : Type} {row : Row} {name : String} {mk : α → Datum}
    (f : Datum → Option α) {o : Option α} (h : row.cell name = .ok (o.map mk))
    (ha : ∀ a, f (mk a) = some a) : row.optional name f = .ok o := by
  rw [Row.optional, h]
  cases o with
  | none => rfl
  | some a => simp only [Option.map_some, ha]

/-- **A row that holds a record reads back** as what a row holds of it. -/
theorem Row.Holds.recordOfRow {row : Row} (h : row.Holds r) : recordOfRow row = .ok (held r) := by
  simp only [Row.Holds, rowOf, columns, valuesOf, List.zip_cons_cons, List.zip_nil_left,
    List.forall_mem_cons, List.not_mem_nil, false_imp_iff, implies_true, and_true] at h
  obtain ⟨hid, hentity, hkind, hpayload, hcreated, hcount, hexpiry, hprocessed, hstatus⟩ := h
  have hcolumns : Columns.ofRow row = .ok ⟨r.id, r.entity, r.eventType.name, r.payload, r.created,
      heldCount r.retryCount, r.expiry.second, r.processed, r.status⟩ := by
    rw [Columns.ofRow, required_eq_ok Datum.uuid? hid rfl,
      required_eq_ok entityIn hentity (EntityId.of?_val r.entity),
      required_eq_ok Datum.text? hkind rfl, required_eq_ok Datum.text? hpayload rfl,
      required_eq_ok Datum.instant? hcreated rfl, required_eq_ok Datum.int4? hcount rfl,
      required_eq_ok Datum.int8? hexpiry rfl,
      optional_eq_ok Datum.instant? hprocessed fun _ => rfl,
      optional_eq_ok Datum.text? hstatus fun _ => rfl]
    rfl
  have hcount0 : ¬ heldCount r.retryCount < 0 := by simp only [heldCount]; omega
  rw [Postgres.recordOfRow, hcolumns]
  simp only [Columns.record, hcount0, if_false, of?_second]
  rfl

/-! ## The statements that write -/

/-- An insertion writes the parameters into the columns in their order. -/
theorem places_insert :
    Statement.places insertRecord = columns.zip (List.range' 1 9) := by
  rw [Statement.places, Statement.words, insertRecord, String.toList_append, toList_lines]
  decide +kernel

/-- An update writes all parameters but the first, by which it picks the row. -/
theorem places_update :
    Statement.places updateRecord = (columns.zip (List.range' 1 9)).tail ++ [("id", 1)] := by
  rw [Statement.places, Statement.words, updateRecord, String.toList_append, toList_lines]
  decide +kernel

/-- **An insertion** leaves a row that holds its record. -/
theorem holds_insert (hc : c.closed = false) (r : WorkRecord) :
    ∃ s, (insert r c).2.sent = c.sent ++ [s] ∧ s.row.Holds r := by
  have hsent := sent_execute hc insertRecord (paramsOf r)
  refine ⟨_, Eq.trans ?_ hsent, .of_perm ?_⟩
  · rw [insert]
    split <;> rename_i h <;> rw [h]
  · rw [Statement.row, places_insert]
    exact .refl _

/-- **An update** leaves a row that holds its record. -/
theorem holds_update (hc : c.closed = false) (r : WorkRecord) :
    ∃ s, (update r c).2.sent = c.sent ++ [s] ∧ s.row.Holds r := by
  have hsent := sent_execute hc updateRecord (paramsOf r)
  refine ⟨_, Eq.trans ?_ hsent, .of_perm ?_⟩
  · rw [update]
    split <;> rename_i h <;> rw [h]
  · -- the key is the first column of a record and comes last in the statement
    rw [Statement.row, places_update]
    exact List.perm_append_singleton _ (rowOf r).cells.tail

/-! ## Retry bands -/

/-- The condition of a query by retry band. -/
def bandCondition : String :=
  "retry_count >= $1 AND ($2::integer IS NULL OR retry_count <= $2) AND processed_date IS NULL"

/-- A query by retry band sends the bounds of the band as a row could hold them. -/
theorem sent_unprocessedIn (hc : c.closed = false) (b : RetryBand) :
    (unprocessedIn b c).2.sent = c.sent ++ [⟨selectColumns ++ " WHERE " ++ bandCondition,
      [.value (some (.int4 (heldCount b.least))),
        .value (b.greatest.map fun n => .int4 (heldCount n))]⟩] := by
  refine Eq.trans ?_ (sent_query hc _ _)
  rw [unprocessedIn, select]
  split <;> rename_i h <;> exact congrArg (·.2.sent) h.symm

/-- **Counts and bounds are cut alike**, so a count that a row holds is in a band as it was sent
exactly when it is in the band, as long as both bounds are below the largest count. -/
theorem bandAdmits_heldCount {b : RetryBand} (hleast : b.least.toNat ≤ largestCount)
    (hgreatest : ∀ n ∈ b.greatest, n.toNat < largestCount) (n : UInt32) :
    bandAdmits [.value (some (.int4 (heldCount b.least))),
      .value (b.greatest.map fun n => .int4 (heldCount n))] (heldCount n) = b.contains n := by
  have hbelow : heldCount b.least ≤ heldCount n ↔ b.least ≤ n := by
    rw [UInt32.le_iff_toNat_le]
    simp only [heldCount, largestCount] at hleast ⊢
    omega
  rw [RetryBand.contains]
  cases hb : b.greatest with
  | none => simp only [Option.map_none, bandAdmits, hbelow, Bool.and_true]
  | some g =>
    have habove : heldCount n ≤ heldCount g ↔ n ≤ g := by
      have hg := hgreatest g hb
      rw [UInt32.le_iff_toNat_le]
      simp only [heldCount, largestCount] at hg ⊢
      omega
    simp only [Option.map_some, bandAdmits, hbelow, habove]

/-- The bands in use: those of the tiers, and the one of all counts. -/
def bandsInUse : List RetryBand := .atLeast 0 :: RetryTier.all.map (·.band)

/-- **A row loses nothing of what comes up.** The statements that write a record leave a row that
reads back as the record, with its retry count cut to what a row can hold, its expiry cut to whole
seconds and its kind of event read again from its name; so nothing is cut from a record whose
expiry is at a whole second, whose retry count is below `2 ^ 31` and whose kind of event is one
that is read from a name. And a query for a retry band in use admits exactly the rows of counts
in the band. -/
theorem rows_lose_nothing (hc : c.closed = false) :
    (∀ r : WorkRecord, ∃ inserted updated,
      (insert r c).2.sent = c.sent ++ [inserted] ∧ (update r c).2.sent = c.sent ++ [updated] ∧
      ∀ s ∈ [inserted, updated], recordOfRow s.row = .ok { r with
        retryCount := .ofNat (min r.retryCount.toNat (2 ^ 31 - 1))
        expiry := r.expiry.wholeSecond
        eventType := .parse r.eventType.name }) ∧
    (∀ r : WorkRecord, r.expiry.nano = 0 → r.retryCount.toNat < 2 ^ 31 →
      (∃ name, r.eventType = .parse name) → ∃ inserted updated,
        (insert r c).2.sent = c.sent ++ [inserted] ∧ (update r c).2.sent = c.sent ++ [updated] ∧
        ∀ s ∈ [inserted, updated], recordOfRow s.row = .ok r) ∧
    ∀ b ∈ bandsInUse, ∃ s, (unprocessedIn b c).2.sent = c.sent ++ [s] ∧
      s.text = selectColumns ++ " WHERE " ++ bandCondition ∧
      ∀ n, bandAdmits s.params (heldCount n) = b.contains n := by
  have hwritten : ∀ r : WorkRecord, ∃ inserted updated,
      (insert r c).2.sent = c.sent ++ [inserted] ∧ (update r c).2.sent = c.sent ++ [updated] ∧
      ∀ s ∈ [inserted, updated], recordOfRow s.row = .ok (held r) := by
    intro r
    obtain ⟨inserted, hinserted, hrow⟩ := holds_insert hc r
    obtain ⟨updated, hupdated, hrow'⟩ := holds_update hc r
    refine ⟨inserted, updated, hinserted, hupdated, fun s hs => ?_⟩
    rcases List.mem_pair.1 hs with rfl | rfl
    · exact hrow.recordOfRow
    · exact hrow'.recordOfRow
  refine ⟨hwritten, fun r he hn hk => ?_, fun b hb => ⟨_, sent_unprocessedIn hc b, rfl, ?_⟩⟩
  · have hr := hwritten r
    rwa [held_eq_self he hn hk] at hr
  · -- what is cut off from a count lies beyond the bounds of every band
    have hbounds : ∀ b ∈ bandsInUse, b.least.toNat ≤ largestCount ∧
        ∀ n ∈ b.greatest, n.toNat < largestCount := by
      simp [bandsInUse, RetryTier.all, RetryTier.band, RetryBand.atLeast, largestCount]
    exact bandAdmits_heldCount (hbounds b hb).1 (hbounds b hb).2

/-- A record at the ends of the ranges: expired since before there were instants in use, tried more
often than a row can count, and of a kind that goes by the name of another one. -/
def extremeRecord : WorkRecord :=
  { WorkRecord.new (.ofNat 1) ⟨-9223372036854775807, by decide, by decide⟩
      (.unknown "SENTENCE_IMPOSED") "" .earliest with
    retryCount := 4294967295
    expiry := .earliest }

/-- The count is cut and the kind of event becomes the known one. -/
theorem rows_lose_nothing_extreme :
    ∃ s, (insert extremeRecord (.fresh .earliest)).2.sent = [s] ∧
      recordOfRow s.row = .ok { extremeRecord with
        retryCount := 2147483647, eventType := .sentenceImposed } ∧
      ∃ q, (unprocessedIn RetryTier.longTerm.band (.fresh .earliest)).2.sent = [q] ∧
        bandAdmits q.params (heldCount extremeRecord.retryCount) = true := by
  obtain ⟨hwritten, -, hbands⟩ := rows_lose_nothing (c := .fresh .earliest) rfl
  obtain ⟨s, u, hs, -, hrow⟩ := hwritten extremeRecord
  obtain ⟨q, hq, -, hadmits⟩ := hbands RetryTier.longTerm.band (by decide)
  refine ⟨s, hs, (hrow s List.mem_cons_self).trans ?_, q, hq, hadmits _⟩
  decide

end Reconciliation.Postgres
