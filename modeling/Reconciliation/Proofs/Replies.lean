import Reconciliation.Proofs.Decoding
import Reconciliation.Proofs.Exchanges

/-!
# What is made of a server's reply

Each request to the records of a database takes one reply (`Connection.heard`), and what comes of
it is told for all requests together: from which replies there is an answer (`Request.Gives`),
and each kind of error from which others.

* `Request.run_of_ok`, `Request.run_of_error`: what a request makes of a statement that was carried
  out, and of one that was not.
* `Request.classifies_replies`: which replies lead to which results, for every request.
* `Request.get_passes_over_surplus`: who asks for one record is not told of rows behind the first.
-/

namespace Reconciliation.Postgres

variable {c : Connection} {text : String} {params : List Param} {reply : Reply} {t : Trouble}

/-! ## Replies -/

/-- What is heard of the next statement over a connection. -/
def Connection.heard (c : Connection) : Except Trouble Reply :=
  if c.closed then .error .closed else (nextReply c.replies).outcome

/-- How many rows a statement touched. -/
def Reply.touched : Reply → Nat
  | affected n => n
  | rows rs => rs.length
  | _ => 0

/-- The rows that a query gives. -/
def Reply.given : Reply → List Row
  | rows rs => rs
  | _ => []

/-- What a statement gets is what the connection hears next, whichever statement it is. -/
theorem send_eq_heard (text : String) (params : List Param) :
    (c.send text params).1 = c.heard := by
  rw [Connection.heard]
  cases hclosed : c.closed with
  | true => rw [Connection.send_closed hclosed]; rfl
  | false => rw [Connection.send_open hclosed]; rfl

/-- Of the reply to a command only the number of rows is taken. -/
theorem execute_eq_heard :
    c.execute text params = (c.heard.map Reply.touched, (c.send text params).2) := by
  rw [← send_eq_heard text params, Connection.execute]
  rcases c.send text params with ⟨_ | _ | _ | _ | _, d⟩ <;> rfl

/-- Of the reply to a query only the rows are. -/
theorem query_eq_heard :
    c.query text params = (c.heard.map Reply.given, (c.send text params).2) := by
  rw [← send_eq_heard text params, Connection.query]
  rcases c.send text params with ⟨_ | _ | _ | _ | _, d⟩ <;> rfl

/-- How a trouble is worded that befell an operation. -/
inductive Trouble.Worded (operation : String) : Trouble → String → Prop
  | database {code message : String} :
      Worded operation (.database code message)
        ("database error in " ++ operation ++ ": " ++ message)
  | closed : Worded operation .closed ("connection pool closed in " ++ operation)
  | broken {text : String} :
      Worded operation (.broken text) ("sqlx error in " ++ operation ++ ": " ++ text)

/-- What is heard is worded with the name of the operation. -/
theorem storeError_eq_iff (ht : c.heard = .error t) {operation : String} {e : StoreError} :
    storeError operation t = e ↔ ∃ why, e = .storage why ∧ t.Worded operation why := by
  have hkind : (∃ code message, t = .database code message) ∨ t = .closed ∨
      ∃ text, t = .broken text := by
    rw [Connection.heard] at ht
    split at ht
    · exact .inr (.inl (Except.error.inj ht).symm)
    · cases hreply : nextReply c.replies <;> rw [hreply] at ht <;> cases ht
      · exact .inl ⟨_, _, rfl⟩
      · exact .inr (.inr ⟨_, rfl⟩)
  constructor
  · rintro rfl
    obtain ⟨code, message, rfl⟩ | rfl | ⟨text, rfl⟩ := hkind
    · exact ⟨_, rfl, .database⟩
    · exact ⟨_, rfl, .closed⟩
    · exact ⟨_, rfl, .broken⟩
  · rintro ⟨why, rfl, hwhy⟩
    cases hwhy <;> rfl

/-! ## Requests -/

/-- What the records of a database are asked for. There is one for each operation, with all that the
operation is given. -/
inductive Request where
  | insert (r : WorkRecord)
  | update (r : WorkRecord)
  | delete (r : WorkRecord)
  | get (id : RecordId)
  | unprocessedOf (e : EntityId)
  | ofTypeAndCount (t : EventType) (n : UInt32)
  | unprocessedIn (b : RetryBand)
  | untriedBefore (t : Instant)
  | deleteExpired (now : Instant)

/-- What comes back if all goes well. -/
inductive Request.Answer where
  | done
  | found (o : Option WorkRecord)
  | listed (rs : List WorkRecord)
  | removed (n : Nat)

namespace Request

/-- What comes of a request. -/
def run (c : Connection) : Request → Except StoreError Answer
  | insert r => (Postgres.insert r c).1.map fun _ => .done
  | update r => (Postgres.update r c).1.map fun _ => .done
  | delete r => (Postgres.delete r c).1.map fun _ => .done
  | get id => (Postgres.get id c).1.map .found
  | unprocessedOf e => (Postgres.unprocessedOf e c).1.map .listed
  | ofTypeAndCount t n => (Postgres.ofTypeAndCount t n c).1.map .listed
  | unprocessedIn b => (Postgres.unprocessedIn b c).1.map .listed
  | untriedBefore t => (Postgres.untriedBefore t c).1.map .listed
  | deleteExpired now => (Postgres.deleteExpired now c).1.map .removed

/-- The name under which trouble with a request is reported. -/
def operation : Request → String
  | insert _ => "insert"
  | update _ => "update"
  | delete _ => "delete"
  | get _ => "get"
  | unprocessedOf _ => "find_unprocessed_by_entity"
  | ofTypeAndCount _ _ => "find_by_event_type_and_retry_count"
  | unprocessedIn _ => "find_unprocessed_by_retry_band"
  | untriedBefore _ => "find_unattempted_created_before"
  | deleteExpired _ => "delete_expired"

/-- The rows that a request looks at: of those that should be one, the first. -/
def heeded : Request → List Row → List Row
  | get _, rows => rows.take 1
  | unprocessedOf _, rows | ofTypeAndCount _ _, rows | unprocessedIn _, rows
  | untriedBefore _, rows => rows
  | _, _ => []

/-- The server refuses to insert a record since its key is taken. -/
def Conflicts (q : Request) (t : Trouble) : Prop :=
  ∃ r message, q = insert r ∧ t = .database "23505" message

/-- The answer to a request from the reply to its statement. -/
def Gives : Request → Reply → Answer → Prop
  | insert _, _, a | delete _, _, a => a = .done
  | update _, reply, a => reply.touched ≠ 0 ∧ a = .done
  | get _, reply, a => ∃ o : Option WorkRecord, a = .found o ∧
      List.Forall₂ Row.Decodes (reply.given.take 1) o.toList
  | unprocessedOf _, reply, a | ofTypeAndCount _ _, reply, a | unprocessedIn _, reply, a
  | untriedBefore _, reply, a => ∃ rs, a = .listed rs ∧ List.Forall₂ Row.Decodes reply.given rs
  | deleteExpired _, reply, a => a = .removed reply.touched

variable {q : Request} {a : Answer} {e : StoreError}

/-- What comes of rows that are all turned into records. -/
theorem map_records_eq_ok_iff {rows : List Row} (f : List WorkRecord → Answer) :
    (recordsOfRows rows).map f = .ok a ↔ ∃ rs, a = f rs ∧ List.Forall₂ Row.Decodes rows rs := by
  constructor
  · intro h
    obtain ⟨rs, hrs, ha⟩ := Json.ok_of_map h
    exact ⟨rs, ha.symm, recordsOfRows_eq_ok_iff.1 hrs⟩
  · rintro ⟨rs, rfl, hrs⟩
    rw [recordsOfRows_eq_ok_iff.2 hrs]
    rfl

/-- The rows of a list are refused for the first of them that is no record. -/
theorem map_records_eq_error_iff {rows : List Row} (f : List WorkRecord → Answer) :
    (recordsOfRows rows).map f = .error e ↔ ∃ why, e = .corrupt why ∧ FirstCorrupt rows why := by
  rw [← recordsOfRows_eq_error_iff]
  cases recordsOfRows rows <;> simp [Except.map]

/-- An insertion that is answered is done, however many rows the server has touched. -/
theorem run_insert (hreply : c.heard = .ok reply) (r : WorkRecord) :
    (insert r).run c = .ok .done := by
  rw [run, Postgres.insert, execute_eq_heard, hreply]
  rfl

/-- An update fails if no row was touched, and that is the only operation for which the number
matters. -/
theorem run_update (hreply : c.heard = .ok reply) (r : WorkRecord) :
    (update r).run c = if reply.touched = 0 then .error (.notFound r.id) else .ok .done := by
  rw [run, Postgres.update, execute_eq_heard, hreply]
  simp only [Except.map]
  by_cases hnone : reply.touched = 0 <;> simp [hnone]

/-- A deletion is done also if there was nothing to delete. -/
theorem run_delete (hreply : c.heard = .ok reply) (r : WorkRecord) :
    (delete r).run c = .ok .done := by
  rw [run, Postgres.delete, execute_eq_heard, hreply]
  rfl

/-- The number of rows that a purge has touched is its answer. -/
theorem run_deleteExpired (hreply : c.heard = .ok reply) (now : Instant) :
    (deleteExpired now).run c = .ok (.removed reply.touched) := by
  rw [run, Postgres.deleteExpired, execute_eq_heard, hreply]
  rfl

/-- A list is made of all the rows that a query gives. -/
theorem select_of_heard (hreply : c.heard = .ok reply) (operation condition : String)
    (params : List Param) :
    (select operation condition params c).1 = recordsOfRows reply.given := by
  rw [select, query_eq_heard, hreply]
  rfl

/-- One record is made of the first row, if there is one. -/
theorem run_get (hreply : c.heard = .ok reply) (id : RecordId) :
    (get id).run c = (recordsOfRows (reply.given.take 1)).map fun rs => .found rs.head? := by
  rw [run, Postgres.get, query_eq_heard, hreply]
  simp only [Except.map]
  rcases reply.given with _ | ⟨row, rows⟩
  · rfl
  · simp only [List.take_succ_cons, List.take_zero, recordsOfRows]
    cases recordOfRow row <;> rfl

/-- The first of the rows is found, or none if there is none. -/
theorem forall₂_take_one_iff {rows : List Row} {o : Option WorkRecord} :
    List.Forall₂ Row.Decodes (rows.take 1) o.toList ↔
      ∃ rs, o = rs.head? ∧ List.Forall₂ Row.Decodes (rows.take 1) rs := by
  constructor
  · intro h
    exact ⟨o.toList, by cases o <;> rfl, h⟩
  · rintro ⟨rs, rfl, h⟩
    have hlength : rs.length ≤ 1 := h.length_eq ▸ List.length_take_le 1 rows
    rcases rs with _ | ⟨r, _ | ⟨r', rs⟩⟩
    · exact h
    · exact h
    · simp at hlength

/-- **The answer to a request** whose statement was carried out. -/
theorem run_eq_ok_iff (hreply : c.heard = .ok reply) : q.run c = .ok a ↔ q.Gives reply a := by
  have hlisted : ∀ operation condition params,
      (select operation condition params c).1.map Answer.listed = .ok a ↔
        ∃ rs, a = .listed rs ∧ List.Forall₂ Row.Decodes reply.given rs := by
    intro operation condition params
    rw [select_of_heard hreply, map_records_eq_ok_iff]
  cases q with
  | insert r => rw [run_insert hreply, Except.ok.injEq, Gives, eq_comm]
  | update r =>
    rw [run_update hreply]
    by_cases hnone : reply.touched = 0 <;> simp [Gives, hnone, eq_comm]
  | delete r => rw [run_delete hreply, Except.ok.injEq, Gives, eq_comm]
  | get id =>
    rw [run_get hreply, map_records_eq_ok_iff]
    simp only [Gives, forall₂_take_one_iff]
    constructor
    · rintro ⟨rs, rfl, hrs⟩
      exact ⟨_, rfl, rs, rfl, hrs⟩
    · rintro ⟨_, rfl, rs, rfl, hrs⟩
      exact ⟨rs, rfl, hrs⟩
  | unprocessedOf e => exact hlisted _ _ _
  | ofTypeAndCount t n => exact hlisted _ _ _
  | unprocessedIn b => exact hlisted _ _ _
  | untriedBefore t => exact hlisted _ _ _
  | deleteExpired now => rw [run_deleteExpired hreply, Except.ok.injEq, Gives, eq_comm]

/-- Where no row is looked at, none is no record. -/
theorem not_firstCorrupt_nil {why : String} : ¬ FirstCorrupt [] why := by
  rintro ⟨good, bad, rest, h, -⟩
  cases good <;> cases h

/-- **The error of a request** whose statement was carried out: no record was there to be updated,
or one of the rows is no record. -/
theorem run_eq_error_iff (hreply : c.heard = .ok reply) : q.run c = .error e ↔
    (∃ r, q = update r ∧ reply.touched = 0 ∧ e = .notFound r.id) ∨
      ∃ why, e = .corrupt why ∧ FirstCorrupt (q.heeded reply.given) why := by
  have hlisted : ∀ operation condition params,
      (select operation condition params c).1.map Answer.listed = .error e ↔
        ∃ why, e = .corrupt why ∧ FirstCorrupt reply.given why := by
    intro operation condition params
    rw [select_of_heard hreply, map_records_eq_error_iff]
  cases q with
  | insert r => simp [run_insert hreply, heeded, not_firstCorrupt_nil]
  | update r =>
    rw [run_update hreply]
    by_cases hnone : reply.touched = 0 <;> simp [heeded, hnone, not_firstCorrupt_nil, eq_comm]
  | delete r => simp [run_delete hreply, heeded, not_firstCorrupt_nil]
  | get id =>
    rw [run_get hreply, map_records_eq_error_iff]
    simp [heeded]
  | unprocessedOf e => exact (hlisted _ _ _).trans (by simp [heeded])
  | ofTypeAndCount t n => exact (hlisted _ _ _).trans (by simp [heeded])
  | unprocessedIn b => exact (hlisted _ _ _).trans (by simp [heeded])
  | untriedBefore t => exact (hlisted _ _ _).trans (by simp [heeded])
  | deleteExpired now => simp [run_deleteExpired hreply, heeded, not_firstCorrupt_nil]

/-- The error of a request whose statement was not carried out. -/
theorem run_of_trouble (ht : c.heard = .error t) : q.run c = .error (match q with
    | insert r => insertError r t
    | q => storeError q.operation t) := by
  have hlisted : ∀ operation condition params,
      (select operation condition params c).1.map Answer.listed =
        .error (storeError operation t) := by
    intro operation condition params
    rw [select, query_eq_heard, ht]
    rfl
  cases q with
  | insert r => rw [run, Postgres.insert, execute_eq_heard, ht]; rfl
  | update r => rw [run, Postgres.update, execute_eq_heard, ht]; rfl
  | delete r => rw [run, Postgres.delete, execute_eq_heard, ht]; rfl
  | get id => rw [run, Postgres.get, query_eq_heard, ht]; rfl
  | unprocessedOf e => exact hlisted _ _ _
  | ofTypeAndCount t n => exact hlisted _ _ _
  | unprocessedIn b => exact hlisted _ _ _
  | untriedBefore t => exact hlisted _ _ _
  | deleteExpired now => rw [run, Postgres.deleteExpired, execute_eq_heard, ht]; rfl

/-- An insertion that is not refused because of its key fails like all else. -/
theorem insertError_of_not_conflicts {r : WorkRecord} (h : ¬ (insert r).Conflicts t) :
    insertError r t = storeError "insert" t := by
  cases t with
  | database code message =>
    refine if_neg fun hcode => h ⟨r, message, rfl, ?_⟩
    rw [hcode]
    rfl
  | _ => rfl

/-- **The error of a request** whose statement was not carried out: the record exists, or the
storage failed. -/
theorem run_eq_error_iff_of_trouble (ht : c.heard = .error t) : q.run c = .error e ↔
    (∃ r message, q = insert r ∧ t = .database "23505" message ∧ e = .alreadyExists r.id) ∨
      ¬ q.Conflicts t ∧ ∃ why, e = .storage why ∧ t.Worded q.operation why := by
  rw [run_of_trouble ht, Except.error.injEq]
  by_cases hconflicts : q.Conflicts t
  · obtain ⟨r, message, rfl, rfl⟩ := id hconflicts
    have htaken : insertError r (.database "23505" message) = .alreadyExists r.id := by
      rw [insertError, if_pos takenCode.eq_def.symm]
    simp [hconflicts, htaken, eq_comm]
  · have hnot : ∀ r message, ¬ (q = insert r ∧ t = .database "23505" message ∧
        e = .alreadyExists r.id) := fun r message h => hconflicts ⟨r, message, h.1, h.2.1⟩
    simp only [hnot, exists_false, false_or, hconflicts, not_false_iff, true_and]
    rw [← storeError_eq_iff ht]
    cases q with
    | insert r =>
      change insertError r t = e ↔ storeError "insert" t = e
      rw [insertError_of_not_conflicts hconflicts]
    | _ => rfl

/-- **Each reply is classified**, whatever is asked. An answer comes of a statement that was carried
out: a list is made of all rows, in their order, if all of them are records, one record is made of
the first row, if there is one and it is a record, and an update needs a row that it touched. A
record exists already where the server says that its key is taken, and only an insertion says so. A
record is not found where no row was touched, and only an update says so. What is stored is corrupt
where one of the rows that are looked at is no record, by the first reason of the first of them. All
else is a failure of the storage that names the operation. -/
theorem classifies_replies (q : Request) (c : Connection) :
    (∀ a, q.run c = .ok a ↔ ∃ reply, c.heard = .ok reply ∧ q.Gives reply a) ∧
    (∀ id, q.run c = .error (.alreadyExists id) ↔
      ∃ r message, q = insert r ∧ c.heard = .error (.database "23505" message) ∧ id = r.id) ∧
    (∀ id, q.run c = .error (.notFound id) ↔
      ∃ r reply, q = update r ∧ c.heard = .ok reply ∧ reply.touched = 0 ∧ id = r.id) ∧
    (∀ why, q.run c = .error (.corrupt why) ↔
      ∃ reply, c.heard = .ok reply ∧ FirstCorrupt (q.heeded reply.given) why) ∧
    ∀ why, q.run c = .error (.storage why) ↔
      ∃ t, c.heard = .error t ∧ ¬ q.Conflicts t ∧ t.Worded q.operation why := by
  cases hheard : c.heard with
  | error t =>
    have hrun := fun e => run_eq_error_iff_of_trouble (q := q) (e := e) hheard
    refine ⟨fun a => ?_, fun id => ?_, fun id => ?_, fun why => ?_, fun why => ?_⟩
    · simp [run_of_trouble hheard]
    all_goals
      rw [hrun]
      simp
  | ok reply =>
    have hrun := fun e => run_eq_error_iff (q := q) (e := e) hheard
    refine ⟨fun a => ?_, fun id => ?_, fun id => ?_, fun why => ?_, fun why => ?_⟩
    · simp [run_eq_ok_iff hheard]
    all_goals
      rw [hrun]
      simp

/-- A record, and a row that is none since its retry count is negative. -/
def foundRecord : WorkRecord :=
  WorkRecord.new (.ofNat 7) ⟨31, by decide, by decide⟩ .sentenceImposed "" (.ofSecond 20)

/-- The row of the record, but with a count that no record can have. -/
def negativeRow : Row where
  cells := (rowOf foundRecord).cells.map fun cell =>
    if cell.1 = "retry_count" then (cell.1, some (.int4 (-1))) else cell

/-- A server that gives two rows for one identifier, of which the second is no record. -/
def surplus : Connection :=
  { Connection.fresh .earliest with replies := [.rows [rowOf foundRecord, negativeRow]] }

/-- **Rows behind the first are passed over** by who asks for one record, also if they are no
records; so an answer does not mean that all rows are. -/
theorem get_passes_over_surplus :
    surplus.heard = .ok (.rows [rowOf foundRecord, negativeRow]) ∧
    negativeRow.Corrupt "negative retry_count on 00000000-0000-0000-0000-000000000007" ∧
    (get foundRecord.id).run surplus = .ok (.found (some foundRecord)) ∧
    ¬((∃ a, (get foundRecord.id).run surplus = .ok a) ↔
      ∀ row ∈ [rowOf foundRecord, negativeRow], ∃ r, Row.Decodes row r) := by
  have hfound : (get foundRecord.id).run surplus = .ok (.found (some foundRecord)) := by
    rfl
  have hbad : recordOfRow negativeRow =
      .error (.corrupt "negative retry_count on 00000000-0000-0000-0000-000000000007") := by
    decide
  obtain ⟨why, hwhy, hcorrupt⟩ := recordOfRow_eq_error_iff.1 hbad
  obtain rfl := StoreError.corrupt.inj hwhy
  refine ⟨rfl, hcorrupt, hfound, fun hiff => ?_⟩
  obtain ⟨r, hr⟩ := hiff.1 ⟨_, hfound⟩ negativeRow (by simp)
  rw [recordOfRow_eq_ok_iff.2 hr] at hbad
  cases hbad

end Request

end Reconciliation.Postgres
