import Reconciliation.Postgres.Connection

/-!
# What is said to a database server

Over a connection some statements are said, and each has its answer. What the server makes of
them depends on transactions alone (`Database`): the statements of one take effect together when
it is committed, and not at all otherwise, and a statement that fails has no effect.

* `Connection.Spoke`: what was said between two states of a connection.
* `Said`: a plan of statements that was carried out up to the first that failed. A transaction
  that was open then is rolled back.
* `Said.run_eq` and `Said.moments`: what such a plan has done to a database, at its end and at
  every moment before.
-/

namespace Reconciliation.Postgres

/-! ## Exchanges -/

/-- What comes of a reply. -/
def Reply.outcome : Reply → Except Trouble Reply
  | error code message => .error (.database code message)
  | broken text => .error (.broken text)
  | affected n => .ok (.affected n)
  | rows rs => .ok (.rows rs)

/-- The statement that opens a transaction. -/
def Statement.begin : Statement := ⟨"BEGIN", []⟩

/-- The statement that ends a transaction and keeps what it did. -/
def Statement.commit : Statement := ⟨"COMMIT", []⟩

/-- The statement that ends a transaction and drops what it did. -/
def Statement.rollback : Statement := ⟨"ROLLBACK", []⟩

/-- A statement and the answer to it. -/
structure Exchange where
  statement : Statement
  reply : Reply

/-- Whether the statement did not fail. -/
def Exchange.ok (x : Exchange) : Bool := x.reply.outcome.isOk

/-- A roll-back, for whose answer nobody waits. -/
def Exchange.rollback : Exchange := ⟨.rollback, .affected 0⟩

/-- What the server answers next: where the answers run out, that one row was touched. -/
def nextReply (replies : List Reply) : Reply := replies.headD (.affected 1)

/-- Statements with their answers. A roll-back takes none. -/
def exchanges : List Reply → List Statement → List Exchange
  | _, [] => []
  | replies, s :: statements =>
    if s = .rollback then .rollback :: exchanges replies statements
    else ⟨s, nextReply replies⟩ :: exchanges replies.tail statements

/-- Replies are paired with statements without changing these. -/
theorem statements_exchanges (replies : List Reply) (statements : List Statement) :
    (exchanges replies statements).map (·.statement) = statements := by
  induction statements generalizing replies with
  | nil => rfl
  | cons s statements ih =>
    rw [exchanges]
    split
    · rename_i hs
      rw [List.map_cons, ih, hs]
      rfl
    · rw [List.map_cons, ih]

namespace Connection

variable {c d e : Connection} {log rest : List Exchange} {text : String} {params : List Param}

/-- Between two states of a connection this was said, with these answers. -/
structure Spoke (c : Connection) (log : List Exchange) (d : Connection) : Prop where
  closed : d.closed = c.closed
  sent : d.sent = c.sent ++ log.map (·.statement)
  replies : ∀ statements, exchanges c.replies (log.map (·.statement) ++ statements) =
    log ++ exchanges d.replies statements

/-- A connection that nothing is sent to stays as it is. -/
theorem Spoke.refl (c : Connection) : c.Spoke [] c where
  closed := rfl
  sent := (List.append_nil c.sent).symm
  replies _ := rfl

/-- What is spoken one after another is spoken in one. -/
theorem Spoke.trans (h : c.Spoke log d) (k : d.Spoke rest e) : c.Spoke (log ++ rest) e where
  closed := k.closed.trans h.closed
  sent := by rw [k.sent, h.sent, List.map_append, List.append_assoc]
  replies statements := by
    rw [List.map_append, List.append_assoc, h.replies, k.replies, List.append_assoc]

/-- What was said can be told from what was sent. -/
theorem Spoke.exchanges_eq (h : c.Spoke log d) :
    exchanges c.replies (d.sent.drop c.sent.length) = log := by
  have hall := h.replies []
  rw [List.append_nil] at hall
  rw [h.sent, List.drop_left, hall]
  exact List.append_nil log

/-- What is sent to an open connection has the next reply. -/
theorem send_open (hopen : c.closed = false) :
    c.send text params = ((nextReply c.replies).outcome,
      { c with sent := c.sent ++ [⟨text, params⟩], replies := c.replies.tail }) := by
  obtain ⟨replies, sent, closed, now, lastToken⟩ := c
  obtain rfl : closed = false := hopen
  rcases replies with _ | ⟨reply, replies⟩
  · rfl
  · cases reply <;> rfl

/-- A statement over an open connection is said, and its answer is what comes back. -/
theorem send_spoke (hopen : c.closed = false) (hs : (⟨text, params⟩ : Statement) ≠ .rollback) :
    ∃ reply, c.Spoke [⟨⟨text, params⟩, reply⟩] (c.send text params).2 ∧
      (c.send text params).1 = reply.outcome := by
  rw [send_open hopen]
  refine ⟨nextReply c.replies, ⟨rfl, rfl, fun statements => ?_⟩, rfl⟩
  exact if_neg hs

/-- Over a closed pool nothing is said. -/
theorem send_closed (hclosed : c.closed = true) : c.send text params = (.error .closed, c) := by
  rw [send, if_pos hclosed]

/-- A statement is one exchange, and it fails as its reply does. -/
theorem execute_spoke (text : String) (params : List Param) (hopen : c.closed = false)
    (hs : (⟨text, params⟩ : Statement) ≠ .rollback) :
    ∃ reply, c.Spoke [⟨⟨text, params⟩, reply⟩] (c.execute text params).2 ∧
      (c.execute text params).1.isOk = reply.outcome.isOk := by
  obtain ⟨reply, hspoke, houtcome⟩ := send_spoke hopen hs
  have hsend : (c.execute text params).2 = (c.send text params).2 ∧
      (c.execute text params).1.isOk = (c.send text params).1.isOk := by
    rw [execute]
    rcases c.send text params with ⟨_ | _ | _ | _ | _, d⟩ <;> exact ⟨rfl, rfl⟩
  refine ⟨reply, ?_, ?_⟩
  · rwa [hsend.1]
  · rw [hsend.2, houtcome]

/-- So is a query; the rows that come back are the rows of the reply. -/
theorem query_spoke (text : String) (params : List Param) (hopen : c.closed = false)
    (hs : (⟨text, params⟩ : Statement) ≠ .rollback) :
    ∃ reply, c.Spoke [⟨⟨text, params⟩, reply⟩] (c.query text params).2 ∧
      (reply.outcome.isOk = false → ∃ e, (c.query text params).1 = .error e) ∧
      ∀ rs, reply = .rows rs → (c.query text params).1 = .ok rs := by
  obtain ⟨reply, hspoke, houtcome⟩ := send_spoke hopen hs
  have hsend : (c.query text params).2 = (c.send text params).2 := by
    rw [query]
    rcases c.send text params with ⟨_ | _ | _ | _ | _, d⟩ <;> rfl
  refine ⟨reply, by rwa [hsend], fun hfails => ?_, fun rs hrs => ?_⟩
  · rcases houter : c.send text params with ⟨e | r, d⟩ <;> rw [houter] at houtcome
    · exact ⟨e, by rw [query, houter]⟩
    · rw [← houtcome] at hfails
      cases hfails
  · subst hrs
    rcases houter : c.send text params with ⟨r, d⟩
    rw [houter] at houtcome
    obtain rfl : r = .ok (.rows rs) := houtcome
    rw [query, houter]

/-- A rollback is posted without waiting for a reply. -/
theorem post_spoke (c : Connection) : c.Spoke [.rollback] (c.post "ROLLBACK") where
  closed := rfl
  sent := rfl
  replies _ := rfl

end Connection

/-! ## Databases -/

/-- What statements have done to a database. The server is known by these alone: what statements
mean is left open, but for those that open and end a transaction. -/
structure Database where
  /-- What the transactions did that were committed, oldest first. -/
  commits : List (List Statement)
  /-- What was done outside of transactions. -/
  alone : List Statement
  /-- What the open transaction has done so far, if there is one. -/
  pending : Option (List Statement)

namespace Database

/-- The database to which nothing has been said. -/
def empty : Database := ⟨[], [], none⟩

/-- A statement that does not fail. In a transaction it counts once that is committed. -/
def take (db : Database) (s : Statement) : Database :=
  match db.pending with
  | none =>
    if s = .begin then { db with pending := some [] }
    else if s = .commit ∨ s = .rollback then db
    else { db with alone := db.alone ++ [s] }
  | some done =>
    if s = .commit then { db with commits := db.commits ++ [done], pending := none }
    else if s = .rollback then { db with pending := none }
    else { db with pending := some (done ++ [s]) }

/-- An exchange. A statement that fails has no effect. -/
def step (db : Database) (x : Exchange) : Database := if x.ok then db.take x.statement else db

/-- What was said, one exchange after another. -/
def run (db : Database) (log : List Exchange) : Database := log.foldl step db

/-- What is kept of a database, also when the open transaction is dropped. It is what a run that
breaks off leaves behind. -/
def kept (db : Database) : List (List Statement) × List Statement := (db.commits, db.alone)

variable {db : Database} {log rest : List Exchange}

/-- A database takes a log in by its parts. -/
theorem run_append (db : Database) (log rest : List Exchange) :
    db.run (log ++ rest) = (db.run log).run rest := List.foldl_append

/-- A statement that went well is taken. -/
theorem step_ok {x : Exchange} (h : x.ok = true) : db.step x = db.take x.statement := if_pos h

/-- It is taken before the rest of the log. -/
theorem run_ok {x : Exchange} (h : x.ok = true) (db : Database) (log : List Exchange) :
    db.run (x :: log) = (db.take x.statement).run log := by
  rw [← step_ok h]
  rfl

/-- A statement that failed is not taken. -/
theorem run_failed {x : Exchange} (h : x.ok = false) (db : Database) (log : List Exchange) :
    db.run (x :: log) = db.run log := by
  have hstep : db.step x = db := if_neg (by rw [h]; exact Bool.false_ne_true)
  rw [run, List.foldl_cons, hstep]
  rfl

/-- A roll-back drops the open transaction and nothing else. -/
theorem take_rollback (db : Database) : db.take .rollback = { db with pending := none } := by
  obtain ⟨commits, alone, pending⟩ := db
  cases pending <;> rfl

/-- In a transaction a statement counts as part of it. -/
theorem take_inside (db : Database) {s : Statement} {done : List Statement}
    (hdb : db.pending = some done) (hcommit : s ≠ .commit) (hrollback : s ≠ .rollback) :
    db.take s = { db with pending := some (done ++ [s]) } := by
  rw [take, hdb]
  exact (if_neg hcommit).trans (if_neg hrollback)

/-- Outside of transactions a statement counts by itself. -/
theorem take_outside (db : Database) {s : Statement} (hdb : db.pending = none)
    (hbegin : s ≠ .begin) (hcommit : s ≠ .commit) (hrollback : s ≠ .rollback) :
    db.take s = { db with alone := db.alone ++ [s] } := by
  rw [take, hdb]
  refine (if_neg hbegin).trans (if_neg ?_)
  rintro (h | h)
  · exact hcommit h
  · exact hrollback h

/-- What is kept is not undone by a rollback. -/
theorem kept_take_rollback (db : Database) : (db.take .rollback).kept = db.kept := by
  rw [take_rollback]
  rfl

end Database

/-- Whether a transaction is open after a statement. -/
def Statement.leaves (inside : Bool) (s : Statement) : Bool :=
  if s = .commit ∨ s = .rollback then false else inside || s = .begin

/-- A transaction stays open after a statement that does not end it. -/
theorem Statement.leaves_inside {s : Statement} (hcommit : s ≠ .commit)
    (hrollback : s ≠ .rollback) : s.leaves true = true := by
  simp [leaves, hcommit, hrollback]

/-- Whether a transaction is open afterwards can be told from the statement. -/
theorem Database.isSome_take (db : Database) (s : Statement) :
    (db.take s).pending.isSome = s.leaves db.pending.isSome := by
  obtain ⟨commits, alone, pending⟩ := db
  by_cases hcommit : s = .commit
  · subst hcommit
    cases pending <;> rfl
  by_cases hrollback : s = .rollback
  · subst hrollback
    cases pending <;> rfl
  by_cases hbegin : s = .begin
  · subst hbegin
    cases pending <;> rfl
  cases pending <;> simp [take, Statement.leaves, hcommit, hrollback, hbegin]

/-! ## Plans -/

/-- A plan of statements that was carried out, to its end or up to the first statement that
failed. A transaction that was open then is rolled back. -/
inductive Said : (inside : Bool) → List Statement → List Exchange → (ok : Bool) → Prop
  | nil (inside : Bool) : Said inside [] [] true
  | cons {inside ok : Bool} {plan : List Statement} {log : List Exchange} {x : Exchange}
      (hx : x.ok = true) (h : Said (x.statement.leaves inside) plan log ok) :
      Said inside (x.statement :: plan) (x :: log) ok
  | failed (inside : Bool) (plan : List Statement) {x : Exchange} (hx : x.ok = false) :
      Said inside (x.statement :: plan) (x :: if inside then [.rollback] else []) false

namespace Said

variable {inside ok : Bool} {plan rest : List Statement} {log more : List Exchange}
  {db : Database}

/-- One statement, outside of transactions. -/
theorem single_outside (x : Exchange) : Said false [x.statement] [x] x.ok := by
  cases hx : x.ok with
  | true => exact .cons hx (.nil _)
  | false => exact .failed false [] hx

/-- One statement of a transaction, which is rolled back if the statement fails. -/
theorem single_inside (x : Exchange) :
    Said true [x.statement] (x :: if x.ok then [] else [.rollback]) x.ok := by
  cases hx : x.ok with
  | true => exact .cons hx (.nil _)
  | false => exact .failed true [] hx

/-- One plan after another, if the first was carried out to its end. -/
theorem append (h : Said inside plan log true)
    (k : Said (plan.foldl Statement.leaves inside) rest more ok) :
    Said inside (plan ++ rest) (log ++ more) ok := by
  generalize hok : true = done at h
  induction h with
  | nil => exact k
  | cons hx h ih => exact .cons hx (ih k hok)
  | failed => cases hok

/-- What comes after a statement that failed is not said. -/
theorem append_failed (h : Said inside plan log false) (rest : List Statement) :
    Said inside (plan ++ rest) log false := by
  generalize hok : false = done at h
  induction h with
  | nil => cases hok
  | cons hx h ih => exact .cons hx (ih hok)
  | failed inside plan hx => exact .failed inside (plan ++ rest) hx

/-- A plan is carried out to its end if no statement fails. -/
theorem ok_iff (h : Said inside plan log ok) : ok = true ↔ ∀ x ∈ log, x.ok = true := by
  induction h with
  | nil => simp
  | cons hx h ih => simp [hx, ih]
  | failed inside plan hx => simp [hx]

/-- **To its end** a plan does what its statements do. -/
theorem run_eq (h : Said inside plan log true) (db : Database) :
    db.run log = plan.foldl Database.take db := by
  generalize hok : true = done at h
  induction h generalizing db with
  | nil => rfl
  | cons hx h ih => rw [Database.run_ok hx, ih _ hok, List.foldl_cons]
  | failed => cases hok

/-- **Cut short** a plan leaves no transaction open, and its last statement but for a roll-back of
that is the one that failed. -/
theorem cut_short (h : Said inside plan log false) (hinside : db.pending.isSome = inside) :
    (db.run log).pending = none ∧ ∃ said x, (∀ y ∈ said, y.ok = true) ∧ x.ok = false ∧
      log = said ++ x :: if (db.run said).pending.isSome then [.rollback] else [] := by
  generalize hok : false = done at h
  induction h generalizing db with
  | nil => cases hok
  | @cons inside ok plan log x hx h ih =>
    have hleaves : (db.take x.statement).pending.isSome = x.statement.leaves inside := by
      rw [Database.isSome_take, hinside]
    obtain ⟨hnone, said, y, hsaid, hy, hlog⟩ := ih hleaves hok
    refine ⟨?_, x :: said, y, List.forall_mem_cons.2 ⟨hx, hsaid⟩, hy, ?_⟩
    · rw [Database.run_ok hx]
      exact hnone
    · rw [Database.run_ok hx, List.cons_append, ← hlog]
  | @failed inside plan x hx =>
    refine ⟨?_, [], x, fun _ h => absurd h List.not_mem_nil, hx, ?_⟩
    · rw [Database.run_failed hx]
      -- the transaction was rolled back, or none was open
      cases inside with
      | true => exact congrArg Database.pending db.take_rollback
      | false => exact Option.isNone_iff_eq_none.1 (Option.isSome_eq_false_iff.1 hinside)
    · rw [← hinside]
      rfl

/-- **At every moment** what is kept is what some first statements of the plan have done. -/
theorem moments (h : Said inside plan log ok) {said : List Exchange} (hsaid : said <+: log)
    (db : Database) :
    ∃ first, first <+: plan ∧ (db.run said).kept = (first.foldl Database.take db).kept := by
  induction h generalizing said db with
  | nil =>
    rw [List.prefix_nil.1 hsaid]
    exact ⟨[], List.prefix_rfl, rfl⟩
  | @cons inside ok plan log x hx h ih =>
    rcases List.prefix_cons_iff.1 hsaid with rfl | ⟨said, rfl, hrest⟩
    · exact ⟨[], List.nil_prefix, rfl⟩
    · obtain ⟨first, hfirst, hkept⟩ := ih hrest (db.take x.statement)
      refine ⟨x.statement :: first, List.cons_prefix_cons.2 ⟨rfl, hfirst⟩, ?_⟩
      rw [Database.run_ok hx]
      exact hkept
  | @failed inside plan x hx =>
    -- neither what failed nor the roll-back changes what is kept
    refine ⟨[], List.nil_prefix, ?_⟩
    rcases List.prefix_cons_iff.1 hsaid with rfl | ⟨said, rfl, hrest⟩
    · rfl
    · rw [Database.run_failed hx]
      cases inside with
      | false =>
        rw [List.prefix_nil.1 hrest]
        rfl
      | true =>
        rcases List.prefix_cons_iff.1 hrest with rfl | ⟨said, rfl, hnil⟩
        · rfl
        · rw [List.prefix_nil.1 hnil]
          exact db.kept_take_rollback

end Said

namespace Connection

variable {c d e : Connection} {inside ok : Bool} {plan rest : List Statement}

/-- Between two states of a connection a plan was carried out. What was said is the plan, up to the
first statement that failed. -/
def Says (c : Connection) (inside : Bool) (plan : List Statement) (ok : Bool) (d : Connection) :
    Prop :=
  ∃ log, c.Spoke log d ∧ Said inside plan log ok

/-- Statements do not close the connection. -/
theorem Says.closed (h : c.Says inside plan ok d) : d.closed = c.closed := by
  obtain ⟨_, hspoke, -⟩ := h
  exact hspoke.closed

/-- Plans are carried out one after another. -/
theorem Says.append (h : c.Says inside plan true d)
    (k : d.Says (plan.foldl Statement.leaves inside) rest ok e) :
    c.Says inside (plan ++ rest) ok e := by
  obtain ⟨log, hspoke, hsaid⟩ := h
  obtain ⟨more, kspoke, ksaid⟩ := k
  exact ⟨log ++ more, hspoke.trans kspoke, hsaid.append ksaid⟩

/-- Once a plan has failed, what would have come next is left out. -/
theorem Says.append_failed (h : c.Says inside plan false d) (rest : List Statement) :
    c.Says inside (plan ++ rest) false d := by
  obtain ⟨log, hspoke, hsaid⟩ := h
  exact ⟨log, hspoke, hsaid.append_failed rest⟩

/-- A transaction that is opened, and then the rest of it. -/
theorem Says.append_begin (h : c.Says false [.begin] true d) (k : d.Says true rest ok e) :
    c.Says false (.begin :: rest) ok e := h.append k

/-- A statement of a transaction, and then the rest of it. -/
theorem Says.append_inside {s : Statement} (h : c.Says true [s] true d)
    (hs : s ≠ .commit ∧ s ≠ .rollback) (k : d.Says true rest ok e) :
    c.Says true (s :: rest) ok e := by
  rw [← Statement.leaves_inside hs.1 hs.2] at k
  exact h.append k

/-- A single statement outside of a transaction is a plan of its own. -/
theorem execute_says (text : String) (params : List Param) (hopen : c.closed = false)
    (hs : (⟨text, params⟩ : Statement) ≠ .rollback) :
    c.Says false [⟨text, params⟩] (c.execute text params).1.isOk (c.execute text params).2 := by
  obtain ⟨reply, hspoke, hok⟩ := execute_spoke text params hopen hs
  refine ⟨_, hspoke, ?_⟩
  rw [hok]
  exact .single_outside ⟨⟨text, params⟩, reply⟩

end Connection

end Reconciliation.Postgres
