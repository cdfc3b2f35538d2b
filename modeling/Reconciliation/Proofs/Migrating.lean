import Mathlib.Data.List.Nodup
import Reconciliation.Postgres.Migration
import Reconciliation.Proofs.Exchanges

/-!
# Migrations survive interruption

A run may break off at any of its statements, and the next one goes on from the highest version
that it finds noted. Since a migration and its note are one transaction, and since the versions
increase, the migrations above that version are just those that are not committed. The server
has to be honest about it (`Migration.Honest`), and no script may end the transaction it runs in.

* `Migration.migrate_says`: a run says its plan, up to the first statement that fails.
* `Migration.Committed.plan`: what a plan commits, at its end and at every moment before.
* `Migration.Committed.run_once` and `Migration.Committed.run_all`: one run keeps up what is said
  of the committed migrations, and so do all runs.
* `Migration.survive_interruption`: what follows for versions, commits, failures and results.
-/

namespace Reconciliation.Postgres

/-! ## Versions -/

/-- What is said to note a version as applied: a row of its number and its name. -/
def Statement.noteText : String := "INSERT INTO schema_version (version, name) VALUES ($1, $2)"

/-- What is said to learn the highest version noted; zero is told if there is none. -/
def Statement.askHighest : Statement :=
  ⟨"SELECT COALESCE(MAX(version), 0) AS version FROM schema_version", []⟩

/-- The version that a statement notes as applied. Scripts are not looked into. -/
def Statement.noted? (s : Statement) : Option Int :=
  if s.text = noteText then
    match s.params with
    | .value (some (.int4 n)) :: _ => some n
    | _ => none
  else none

/-- The versions that are noted as applied. -/
def Database.versions (db : Database) : List Int :=
  (db.commits.flatten ++ db.alone).filterMap Statement.noted?

/-- The highest version noted; zero if there is none. -/
def Database.highest (db : Database) : Int := db.versions.max?.getD 0

/-- The version that a reply tells. -/
def Reply.version? : Reply → Option Int
  | rows (row :: _) => (row.required "version" Datum.int4?).toOption
  | _ => none

/-- A reply gives a version if its first row has one; the rows behind it are not looked at. -/
theorem Reply.version?_eq_some {reply : Reply} {n : Int} (h : reply.version? = some n) :
    ∃ row rows, reply = .rows (row :: rows) ∧ row.required "version" Datum.int4? = .ok n := by
  rcases reply with _ | (_ | ⟨row, rows⟩) | _ | _
  · cases h
  · cases h
  · refine ⟨row, rows, rfl, ?_⟩
    rw [version?] at h
    rcases hrow : row.required "version" Datum.int4? with e | k <;> rw [hrow] at h <;> cases h
    rfl
  · cases h
  · cases h

namespace Migration

/-! ## What is said on a run -/

/-- The statement that notes a migration as applied. -/
def note (m : Migration) : Statement :=
  ⟨Statement.noteText, [.of (.int4 m.version), .of (.text m.name)]⟩

/-- What a migration does: its script, and the note that it was applied. Both take effect together
or not at all. -/
def effects (m : Migration) : List Statement := [⟨m.script, []⟩, m.note]

/-- What is said for a migration: all that it does, in a transaction. -/
def steps (m : Migration) : List Statement := .begin :: (m.effects ++ [.commit])

/-- The script does not end the transaction in which it runs, so that what is said in the
transaction takes effect together. -/
def Contained (m : Migration) : Prop :=
  (⟨m.script, []⟩ : Statement) ≠ .commit ∧ (⟨m.script, []⟩ : Statement) ≠ .rollback

instance (m : Migration) : Decidable m.Contained := inferInstanceAs (Decidable (_ ∧ _))

/-- What is said before any migration. -/
def setup : List Statement := [⟨createVersions, []⟩, .askHighest]

/-- The migrations above a version. -/
def above (version : Int) (ms : List Migration) : List Migration :=
  ms.filter fun m => decide (version < m.version)

/-- What is said on a run if no statement fails, from the version that it starts with. -/
def plan (ms : List Migration) (version : Int) : List Statement :=
  setup ++ (above version ms).flatMap steps

/-- What was said on a run. The server tells nothing else, so what it has done follows from this. -/
def talk (ms : List Migration) (c : Connection) : List Exchange :=
  exchanges c.replies ((migrate ms c).2.sent.drop c.sent.length)

/-- A server is honest about the versions: unless the query for them fails, it tells the highest
version noted. -/
def Honest : Database → List Exchange → Prop
  | _, [] => True
  | db, x :: log =>
    (x.statement = .askHighest → x.ok = true → x.reply.version? = some db.highest) ∧
      Honest (db.step x) log

instance decidableHonest : (db : Database) → (log : List Exchange) → Decidable (Honest db log)
  | _, [] => .isTrue trivial
  | db, x :: log =>
    have := decidableHonest (db.step x) log
    inferInstanceAs (Decidable
      ((x.statement = .askHighest → x.ok = true → x.reply.version? = some db.highest) ∧
        Honest (db.step x) log))

variable {ms done rest : List Migration} {m : Migration} {c d : Connection} {db : Database}
  {log more : List Exchange}

/-- A server is honest through one conversation and the next if it is through the first, and from
the database which that left through the second. It is by this that runs are told one at a time. -/
theorem honest_append : Honest db (log ++ more) ↔ Honest db log ∧ Honest (db.run log) more := by
  induction log generalizing db with
  | nil => simp [Honest, Database.run]
  | cons x log ih =>
    have hrun : db.run (x :: log) = (db.step x).run log := rfl
    rw [List.cons_append, Honest, Honest, ih, hrun, and_assoc]

/-- What was said on a run is what was sent on it. -/
theorem statements_talk (ms : List Migration) (c : Connection) :
    (talk ms c).map (·.statement) = (migrate ms c).2.sent.drop c.sent.length :=
  statements_exchanges _ _

/-! ## One run over a connection -/

/-- A statement within a transaction says itself, and if it is refused the transaction is taken
back. It must not be what takes one back, or it could not be told from that. -/
theorem inTransaction_says (step text : String) (params : List Param) (hopen : c.closed = false)
    (hs : (⟨text, params⟩ : Statement) ≠ .rollback) :
    c.Says true [⟨text, params⟩] (inTransaction c step text params).1.isOk
      (inTransaction c step text params).2 := by
  obtain ⟨reply, hspoke, hok⟩ := Connection.execute_spoke text params hopen hs
  have hsaid := Said.single_inside ⟨⟨text, params⟩, reply⟩
  rw [Exchange.ok, ← hok] at hsaid
  rw [inTransaction]
  rcases hexecute : c.execute text params with ⟨e | n, d⟩ <;> rw [hexecute] at hspoke hsaid
  · exact ⟨_, hspoke.trans d.post_spoke, hsaid⟩
  · exact ⟨_, hspoke, hsaid⟩

/-- The note of a version neither commits nor takes back, so what it does to the database is that it
is kept among the statements of its transaction. -/
theorem note_ne (m : Migration) : m.note ≠ .commit ∧ m.note ≠ .rollback := by
  have htext : Statement.noteText ≠ "COMMIT" ∧ Statement.noteText ≠ "ROLLBACK" := by
    decide +kernel
  exact ⟨fun h => htext.1 (congrArg Statement.text h), fun h => htext.2 (congrArg Statement.text h)⟩

/-- **A migration** says its steps, up to the first that fails. -/
theorem apply_says (hopen : c.closed = false) (hm : m.Contained) :
    c.Says false m.steps (m.apply c).1.isOk (m.apply c).2 := by
  have hbegin := Connection.execute_says "BEGIN" [] hopen (by decide +kernel)
  rw [apply]
  rcases hfirst : c.execute "BEGIN" [] with ⟨e | n, d⟩ <;> rw [hfirst] at hbegin
  · exact hbegin.append_failed (m.effects ++ [.commit])
  refine hbegin.append_begin ?_
  have hopen₁ : d.closed = false := hbegin.closed.trans hopen
  dsimp only
  have hscript := inTransaction_says
    ("migration " ++ Text.decimalText m.version ++ " (" ++ m.name ++ ") failed")
    m.script [] hopen₁ hm.2
  rcases hsecond : inTransaction d _ m.script [] with ⟨e | ⟨⟩, d₂⟩ <;>
    rw [hsecond] at hscript
  · exact hscript.append_failed [m.note, .commit]
  refine hscript.append_inside hm ?_
  have hopen₂ : d₂.closed = false := hscript.closed.trans hopen₁
  dsimp only
  have hnote := inTransaction_says "record migration" insertVersion _ hopen₂ m.note_ne.2
  rcases hthird : inTransaction d₂ "record migration" insertVersion _ with ⟨e | ⟨⟩, d₃⟩ <;>
    rw [hthird] at hnote
  · exact hnote.append_failed [.commit]
  refine hnote.append_inside m.note_ne ?_
  exact inTransaction_says "commit migration" "COMMIT" [] (hnote.closed.trans hopen₂)
    (by decide +kernel)

/-- After its steps a migration leaves no transaction open. -/
theorem leaves_steps (m : Migration) (inside : Bool) :
    m.steps.foldl Statement.leaves inside = false := by
  simp only [steps, effects, List.foldl_cons, List.foldl_append, List.foldl_nil]
  exact if_pos (.inl rfl)

/-- **Migrations** say their steps, up to the first that fails. -/
theorem applyAll_says (hopen : c.closed = false) (hms : ∀ m ∈ ms, m.Contained) :
    c.Says false (ms.flatMap steps) (applyAll ms c).1.isOk (applyAll ms c).2 := by
  induction ms generalizing c with
  | nil => exact ⟨[], .refl c, .nil false⟩
  | cons m ms ih =>
    obtain ⟨hm, hms⟩ := List.forall_mem_cons.1 hms
    have happly := apply_says hopen hm
    rw [applyAll]
    rcases hfirst : m.apply c with ⟨e | ⟨⟩, d⟩ <;> rw [hfirst] at happly
    · exact happly.append_failed (ms.flatMap steps)
    have hrest := ih (happly.closed.trans hopen) hms
    rw [← m.leaves_steps false] at hrest
    dsimp only
    rcases hthen : applyAll ms d with ⟨e | n, d'⟩ <;> rw [hthen] at hrest
    · exact happly.append hrest
    · exact happly.append hrest

/-- Migrations that are all applied are counted. -/
theorem applyAll_count {n : Nat} (h : (applyAll ms c).1 = .ok n) : n = ms.length := by
  induction ms generalizing c n with
  | nil =>
    cases h
    rfl
  | cons m ms ih =>
    rw [applyAll] at h
    rcases hfirst : m.apply c with ⟨e | ⟨⟩, d⟩ <;> rw [hfirst] at h
    · cases h
    · dsimp only at h
      rcases hthen : applyAll ms d with ⟨e | k, d'⟩ <;> rw [hthen] at h
      · cases h
      · cases h
        rw [ih (congrArg Prod.fst hthen), List.length_cons]

/-- The query for the version is said, and the version that is told comes back. -/
theorem applied_spoke (hopen : c.closed = false) :
    ∃ reply, c.Spoke [⟨.askHighest, reply⟩] (applied c).2 ∧
      (reply.outcome.isOk = false → (applied c).1.isOk = false) ∧
      ∀ n, reply.version? = some n → (applied c).1 = .ok n := by
  obtain ⟨reply, hspoke, hfails, hrows⟩ := Connection.query_spoke selectVersion []
    hopen (by decide +kernel)
  have happlied : (applied c).2 = (c.query selectVersion []).2 := by
    rw [applied]
    rcases c.query selectVersion [] with ⟨_ | _ | ⟨row, rows⟩, d⟩
    · rfl
    · rfl
    · dsimp only
      rcases row.required "version" Datum.int4? with _ | _ <;> rfl
  refine ⟨reply, by rwa [happlied], fun hbad => ?_, fun n hn => ?_⟩
  · obtain ⟨e, he⟩ := hfails hbad
    rcases hquery : c.query selectVersion [] with ⟨answer, d⟩
    rw [hquery] at he
    obtain rfl : answer = .error e := he
    rw [applied, hquery]
    rfl
  · obtain ⟨row, rows, hreply, hrow⟩ := Reply.version?_eq_some hn
    rcases hquery : c.query selectVersion [] with ⟨answer, d⟩
    have hanswer := hrows _ hreply
    rw [hquery] at hanswer
    obtain rfl : answer = .ok (row :: rows) := hanswer
    rw [applied, hquery]
    simp only [hrow]

/-- Making the table of versions notes no version. -/
theorem versions_take_create (db : Database) :
    (db.take ⟨createVersions, []⟩).versions = db.versions := by
  have hbegin : (⟨createVersions, []⟩ : Statement) ≠ .begin := by decide +kernel
  have hcommit : (⟨createVersions, []⟩ : Statement) ≠ .commit := by decide +kernel
  have hrollback : (⟨createVersions, []⟩ : Statement) ≠ .rollback := by decide +kernel
  have hnoted : Statement.noted? ⟨createVersions, []⟩ = none := by decide +kernel
  rcases hdb : db.pending with _ | done
  · rw [db.take_outside hdb hbegin hcommit hrollback, Database.versions, Database.versions,
      ← List.append_assoc, List.filterMap_append, List.filterMap_cons_none hnoted]
    exact List.append_nil _
  · rw [db.take_inside hdb hcommit hrollback]
    rfl

/-- No transaction is open after a statement that is said before any migration. -/
theorem leaves_setup {s : Statement} (hs : s ∈ setup) : s.leaves false = false := by
  have hsetup : ∀ s ∈ setup, s.leaves false = false := by decide +kernel
  exact hsetup s hs

/-- **A run** over an open connection to an honest server says its plan, up to the first statement
that fails, and counts the migrations if none does. -/
theorem migrate_says (hopen : c.closed = false) (hms : ∀ m ∈ ms, m.Contained) :
    ∃ log, c.Spoke log (migrate ms c).2 ∧ ∀ db, Honest db log →
      Said false (plan ms db.highest) log (migrate ms c).1.isOk ∧
      ∀ n, (migrate ms c).1 = .ok n → n = (above db.highest ms).length := by
  -- how far the run gets: the table, the query for the version, the migrations above it
  obtain ⟨reply, hcreate, hok⟩ := Connection.execute_spoke createVersions [] hopen
    (by decide +kernel)
  rw [migrate]
  rcases hfirst : c.execute createVersions [] with ⟨e | n, d⟩ <;> rw [hfirst] at hcreate hok
  · have hx : Exchange.ok ⟨⟨createVersions, []⟩, reply⟩ = false := hok.symm
    exact ⟨_, hcreate, fun db _ => ⟨.failed false _ hx, fun n hn => by cases hn⟩⟩
  have hx : Exchange.ok ⟨⟨createVersions, []⟩, reply⟩ = true := hok.symm
  have hhighest : ∀ db : Database,
      (db.step ⟨⟨createVersions, []⟩, reply⟩).highest = db.highest := by
    intro db
    rw [Database.step_ok hx, Database.highest, versions_take_create, Database.highest]
  obtain ⟨answer, hselect, hfails, htells⟩ := applied_spoke (hcreate.closed.trans hopen)
  dsimp only
  rcases hsecond : applied d with ⟨e | version, d'⟩ <;> rw [hsecond] at hselect hfails htells
  · refine ⟨_, hcreate.trans hselect, fun db hhonest => ⟨?_, fun n hn => by cases hn⟩⟩
    have hy : Exchange.ok ⟨.askHighest, answer⟩ = false := by
      by_contra hgood
      cases htells _ (hhonest.2.1 rfl (eq_true_of_ne_false hgood))
    refine .cons hx ?_
    rw [leaves_setup List.mem_cons_self]
    exact .failed false _ hy
  · dsimp only
    have hopen' : d'.closed = false := hselect.closed.trans (hcreate.closed.trans hopen)
    have habove : ∀ m ∈ above version ms, m.Contained := fun m hm =>
      hms m (List.mem_of_mem_filter hm)
    obtain ⟨log, hspoke, hsaid⟩ := applyAll_says hopen' habove
    refine ⟨_, (hcreate.trans hselect).trans hspoke, fun db hhonest => ?_⟩
    have hy : Exchange.ok ⟨.askHighest, answer⟩ = true := by
      by_contra hbad
      cases hfails (eq_false_of_ne_true hbad)
    have hversion : version = db.highest := by
      have htold := htells _ (hhonest.2.1 rfl hy)
      rw [hhighest] at htold
      exact Except.ok.inj htold
    subst hversion
    refine ⟨.cons hx (.cons hy ?_), fun n hn => applyAll_count hn⟩
    rw [leaves_setup List.mem_cons_self, leaves_setup (List.mem_cons_of_mem _ List.mem_cons_self)]
    exact hsaid

/-! ## What a run does to a database -/

/-- The first elements of two lists are first ones of the first list, or that and first ones of the
second. -/
theorem prefix_append_cases {α : Type} {first xs ys : List α} (h : first <+: xs ++ ys) :
    first <+: xs ∨ ∃ more, first = xs ++ more ∧ more <+: ys := by
  obtain ⟨last, hlast⟩ := h
  rcases List.append_eq_append_iff.1 hlast with ⟨gap, hgap, -⟩ | ⟨more, hmore, hys⟩
  · exact .inl ⟨gap, hgap.symm⟩
  · exact .inr ⟨more, hmore, last, hys.symm⟩

/-- The statements before any migration count by themselves. -/
theorem foldl_take_setup (db : Database) {first : List Statement} (hfirst : ∀ s ∈ first, s ∈ setup)
    (hdb : db.pending = none) :
    first.foldl Database.take db = { db with alone := db.alone ++ first } := by
  have hsetup : ∀ s ∈ setup, s ≠ .begin ∧ s ≠ .commit ∧ s ≠ .rollback := by decide +kernel
  induction first generalizing db with
  | nil => exact congrArg (fun alone => { db with alone }) (List.append_nil db.alone).symm
  | cons s first ih =>
    obtain ⟨hs, hfirst⟩ := List.forall_mem_cons.1 hfirst
    obtain ⟨hbegin, hcommit, hrollback⟩ := hsetup s hs
    have hrest := ih { db with alone := db.alone ++ [s] } hfirst hdb
    rw [List.foldl_cons, db.take_outside hdb hbegin hcommit hrollback, hrest, List.append_assoc]
    rfl

/-- The steps of a migration are one commit of what it does, and before the last of them nothing
is kept. -/
theorem foldl_take_steps (db : Database) (hm : m.Contained) (hdb : db.pending = none) :
    m.steps.foldl Database.take db = { db with commits := db.commits ++ [m.effects] } ∧
      ∀ first, first <+: m.steps → first = m.steps ∨
        (first.foldl Database.take db).kept = db.kept := by
  -- the database after each of the four steps
  have hbegin : db.take .begin = { db with pending := some [] } := by
    rw [Database.take, hdb]
    rfl
  have hscript : (db.take .begin).take ⟨m.script, []⟩ =
      { db with pending := some [⟨m.script, []⟩] } := by
    rw [hbegin]
    exact Database.take_inside { db with pending := some [] } rfl hm.1 hm.2
  have hnote : ((db.take .begin).take ⟨m.script, []⟩).take m.note =
      { db with pending := some m.effects } := by
    rw [hscript]
    exact Database.take_inside { db with pending := some [_] } rfl m.note_ne.1 m.note_ne.2
  have hcommit : (((db.take .begin).take ⟨m.script, []⟩).take m.note).take .commit =
      { db with commits := db.commits ++ [m.effects] } := by
    rw [hnote, Database.take, hdb]
    rfl
  refine ⟨hcommit, fun first hfirst => ?_⟩
  simp only [steps, effects, List.cons_append, List.nil_append, List.prefix_cons_iff,
    List.prefix_nil] at hfirst
  -- a part of the steps leads to one of those states, or is none of them yet
  rcases hfirst with rfl | ⟨_, rfl, rfl | ⟨_, rfl, rfl | ⟨_, rfl, rfl | ⟨_, rfl, rfl⟩⟩⟩⟩
  · exact .inr rfl
  · exact .inr (congrArg Database.kept hbegin :)
  · exact .inr (congrArg Database.kept hscript :)
  · exact .inr (congrArg Database.kept hnote :)
  · exact .inl rfl

/-- **The steps of migrations** are their commits, and at every moment those of the first of
them. -/
theorem foldl_take_flatMap (db : Database) (hms : ∀ m ∈ ms, m.Contained) (hdb : db.pending = none) :
    (ms.flatMap steps).foldl Database.take db =
        { db with commits := db.commits ++ ms.map effects } ∧
      ∀ first, first <+: ms.flatMap steps → ∃ done, done <+: ms ∧
        (first.foldl Database.take db).kept = (db.commits ++ done.map effects, db.alone) := by
  induction ms generalizing db with
  | nil =>
    refine ⟨?_, fun first hfirst => ⟨[], List.prefix_rfl, ?_⟩⟩
    · exact congrArg (fun commits => { db with commits }) (List.append_nil db.commits).symm
    · rw [List.prefix_nil.1 hfirst, List.map_nil, List.append_nil]
      rfl
  | cons m ms ih =>
    obtain ⟨hm, hms⟩ := List.forall_mem_cons.1 hms
    obtain ⟨hwhole, hpart⟩ := foldl_take_steps db hm hdb
    obtain ⟨hall, hmoments⟩ := ih { db with commits := db.commits ++ [m.effects] } hms hdb
    refine ⟨?_, fun first hfirst => ?_⟩
    · rw [List.flatMap_cons, List.foldl_append, hwhole, hall, List.map_cons, List.append_assoc]
      rfl
    -- the moment lies within the first migration or after it
    rw [List.flatMap_cons] at hfirst
    rcases prefix_append_cases hfirst with hfirst | ⟨more, rfl, hmore⟩
    · rcases hpart first hfirst with rfl | hkept
      · refine ⟨[m], List.cons_prefix_cons.2 ⟨rfl, List.nil_prefix⟩, ?_⟩
        rw [hwhole]
        rfl
      · refine ⟨[], List.nil_prefix, ?_⟩
        rw [hkept, List.map_nil, List.append_nil]
        rfl
    · obtain ⟨done, hdone, hkept⟩ := hmoments more hmore
      refine ⟨m :: done, List.cons_prefix_cons.2 ⟨rfl, hdone⟩, ?_⟩
      rw [List.foldl_append, hwhole, hkept, List.map_cons, List.append_assoc]
      rfl

/-! ## Migrations that are committed -/

/-- A database in which just these migrations are committed, each as a whole. Outside of
transactions nothing was done but what is said before any migration. -/
structure Committed (done : List Migration) (db : Database) : Prop where
  commits : db.commits = done.map effects
  alone : ∀ s ∈ db.alone, s ∈ setup

/-- A list of migrations that can be applied: their versions increase and lie above zero, and no
script ends its own transaction. -/
structure Valid (ms : List Migration) : Prop where
  increasing : (ms.map (·.version)).Pairwise (· < ·)
  positive : ∀ m ∈ ms, 0 < m.version
  contained : ∀ m ∈ ms, m.Contained

/-- Lines begin as the first of them does. -/
theorem head_lines {l : String} {a : Char} (hl : l.toList.head? = some a) (ls : List String) :
    (lines (l :: ls)).toList.head? = some a := by
  obtain ⟨rest, hrest⟩ := List.head?_eq_some_iff.1 hl
  rw [toList_lines, List.flatMap_cons, hrest]
  rfl

/-- A script that begins with a comment does not end its transaction. -/
theorem contained_of_head (h : m.script.toList.head? = some '-') : m.Contained := by
  refine ⟨fun heq => ?_, fun heq => ?_⟩
  · rw [show m.script = "COMMIT" from congrArg Statement.text heq] at h
    cases h
  · rw [show m.script = "ROLLBACK" from congrArg Statement.text heq] at h
    cases h

/-- **The migrations of the database** can be applied. -/
theorem all_valid : Valid all where
  increasing := by decide
  positive := by decide
  contained := by
    simp only [all, List.forall_mem_cons]
    exact ⟨contained_of_head (head_lines (by decide +kernel) _),
      contained_of_head (head_lines (by decide +kernel) _), fun m h => absurd h List.not_mem_nil⟩

/-- Of what a migration does in its transaction just one statement notes a version, and it notes its
own: a script of several lines is not taken for a note. -/
theorem noted_effects (m : Migration) : m.effects.filterMap Statement.noted? = [m.version] := by
  have hscript : Statement.noted? ⟨m.script, []⟩ = none := ite_self none
  have hnote : m.note.noted? = some m.version := if_pos rfl
  rw [effects, List.filterMap_cons_none hscript, List.filterMap_cons_some hnote,
    List.filterMap_nil]

/-- After these migrations the table of versions has their versions in the order of the migrations;
what was done outside of transactions, the setup, notes none. -/
theorem Committed.versions_eq (h : Committed done db) :
    db.versions = done.map (·.version) := by
  have hsetup : ∀ s ∈ setup, s.noted? = none := by decide +kernel
  have halone : db.alone.filterMap Statement.noted? = [] :=
    List.filterMap_eq_nil_iff.2 fun s hs => hsetup s (h.alone s hs)
  rw [Database.versions, List.filterMap_append, halone, List.append_nil, h.commits,
    List.filterMap_flatten, List.map_map]
  simp only [Function.comp_def, noted_effects]
  exact List.map_eq_flatMap.symm

/-- What is committed is read off from what the database has kept, so a transaction that is still
open does not count. -/
theorem Committed.of_kept {db' : Database} (h : Committed done db) (hkept : db'.kept = db.kept) :
    Committed done db' := by
  obtain ⟨hcommits, halone⟩ := Prod.mk.inj hkept
  exact ⟨hcommits.trans h.commits, halone ▸ h.alone⟩

/-- The highest version is at least as high as any, and it is one of them, or nothing is noted and
it is zero. -/
theorem highest_bounds (ns : List Int) :
    (∀ n ∈ ns, n ≤ ns.max?.getD 0) ∧ (ns.max?.getD 0 = 0 ∨ ns.max?.getD 0 ∈ ns) := by
  rcases hmax : ns.max? with _ | most
  · rw [List.max?_eq_none_iff.1 hmax]
    exact ⟨fun n hn => absurd hn List.not_mem_nil, .inl rfl⟩
  · obtain ⟨hmem, hle⟩ := List.max?_eq_some_iff.1 hmax
    exact ⟨hle, .inr hmem⟩

/-- **Above the highest version** that is committed there are the migrations that are not. -/
theorem Committed.above_highest (h : Committed done db) (hms : Valid (done ++ rest)) :
    above db.highest (done ++ rest) = rest := by
  obtain ⟨hle, hhighest⟩ := highest_bounds db.versions
  have hincreasing := hms.increasing
  rw [List.map_append, List.pairwise_append] at hincreasing
  rw [h.versions_eq] at hle hhighest
  rw [above, Database.highest, h.versions_eq, List.filter_append]
  have hdone : done.filter (fun m => decide ((done.map (·.version)).max?.getD 0 < m.version)) =
      [] := by
    refine List.filter_eq_nil_iff.2 fun m hm => ?_
    rw [decide_eq_true_iff]
    exact Int.not_lt.2 (hle _ (List.mem_map_of_mem hm))
  have hrest : rest.filter (fun m => decide ((done.map (·.version)).max?.getD 0 < m.version)) =
      rest := by
    refine List.filter_eq_self.2 fun m hm => ?_
    rw [decide_eq_true_iff]
    rcases hhighest with hzero | hmem
    · rw [hzero]
      exact hms.positive m (List.mem_append_right _ hm)
    · exact hincreasing.2.2 _ hmem _ (List.mem_map_of_mem hm)
  rw [hdone, hrest, List.nil_append]

/-- A plan that is carried out commits the migrations that are left, one after another. -/
theorem Committed.plan (h : Committed done db) (hdb : db.pending = none)
    (hms : ∀ m ∈ rest, m.Contained) :
    Committed (done ++ rest) ((setup ++ rest.flatMap steps).foldl Database.take db) ∧
      ((setup ++ rest.flatMap steps).foldl Database.take db).pending = none ∧
      ∀ first, first <+: setup ++ rest.flatMap steps → ∃ more, more <+: rest ∧
        Committed (done ++ more) (first.foldl Database.take db) := by
  have hsetup := foldl_take_setup db (fun s hs => hs) hdb
  obtain ⟨hall, hmoments⟩ :=
    foldl_take_flatMap { db with alone := db.alone ++ setup } hms hdb
  have halone : ∀ s ∈ db.alone ++ setup, s ∈ setup := fun s hs =>
    (List.mem_append.1 hs).elim (h.alone s) id
  rw [List.foldl_append, hsetup, hall]
  refine ⟨⟨?_, halone⟩, hdb, fun first hfirst => ?_⟩
  · rw [h.commits, List.map_append]
  rcases prefix_append_cases hfirst with hfirst | ⟨more, rfl, hmore⟩
  · refine ⟨[], List.nil_prefix, ?_⟩
    have hmem : ∀ s ∈ first, s ∈ setup := fun s hs => hfirst.subset hs
    rw [List.append_nil, foldl_take_setup db hmem hdb]
    exact ⟨h.commits, fun s hs => (List.mem_append.1 hs).elim (h.alone s) (hmem s)⟩
  · obtain ⟨applied, happlied, hkept⟩ := hmoments more hmore
    refine ⟨applied, happlied, ?_⟩
    obtain ⟨hcommits, hsame⟩ := Prod.mk.inj hkept
    rw [List.foldl_append, hsetup]
    refine ⟨hcommits.trans ?_, hsame ▸ halone⟩
    rw [h.commits, List.map_append]

/-! ## Runs -/

/-- Over a closed pool a run fails, and nothing is said. -/
theorem talk_closed (hclosed : c.closed = true) (ms : List Migration) :
    talk ms c = [] ∧ (migrate ms c).1.isOk = false := by
  have hmigrate : migrate ms c = (.error (stepError "create schema_version" .closed), c) := by
    rw [migrate, Connection.execute, Connection.send_closed hclosed]
  rw [talk, hmigrate, List.drop_length]
  exact ⟨rfl, rfl⟩

/-- What is said on a run is its plan, up to the first statement that fails. -/
theorem talk_said (hms : ∀ m ∈ ms, m.Contained) (hopen : c.closed = false)
    (hhonest : Honest db (talk ms c)) :
    Said false (plan ms db.highest) (talk ms c) (migrate ms c).1.isOk ∧
      ∀ n, (migrate ms c).1 = .ok n → n = (above db.highest ms).length := by
  obtain ⟨log, hspoke, hsaid⟩ := migrate_says hopen hms
  have htalk : talk ms c = log := hspoke.exchanges_eq
  rw [htalk] at hhonest ⊢
  exact hsaid db hhonest

/-- A run succeeds if the pool is open and no statement fails. -/
theorem isOk_migrate_iff (hms : ∀ m ∈ ms, m.Contained) (hhonest : Honest db (talk ms c)) :
    (migrate ms c).1.isOk = true ↔ c.closed = false ∧ ∀ x ∈ talk ms c, x.ok = true := by
  cases hclosed : c.closed with
  | true => simp [(talk_closed hclosed ms).2]
  | false => simp [(talk_said hms hclosed hhonest).1.ok_iff]

/-- **A run that fails** says nothing after the statement that failed, but for a roll-back of the
transaction that is open then. -/
theorem talk_cut_short (hms : ∀ m ∈ ms, m.Contained) (hdb : db.pending = none)
    (hhonest : Honest db (talk ms c)) (hfails : (migrate ms c).1.isOk = false) :
    talk ms c = [] ∧ c.closed = true ∨ ∃ said x, (∀ y ∈ said, y.ok = true) ∧ x.ok = false ∧
      talk ms c = said ++ x :: if (db.run said).pending.isSome then [.rollback] else [] := by
  cases hclosed : c.closed with
  | true => exact .inl ⟨(talk_closed hclosed ms).1, rfl⟩
  | false =>
    have hsaid := (talk_said hms hclosed hhonest).1
    rw [hfails] at hsaid
    exact .inr (hsaid.cut_short (congrArg Option.isSome hdb)).2

/-- **One run** commits some of the migrations that are left, one after another, and leaves no
transaction open. If it succeeds it commits all of them, and says how many they are. -/
theorem Committed.run_once (h : Committed done db) (hdb : db.pending = none)
    (hms : Valid (done ++ rest)) (hhonest : Honest db (talk (done ++ rest) c)) :
    (∀ said, said <+: talk (done ++ rest) c →
      ∃ more, more <+: rest ∧ Committed (done ++ more) (db.run said)) ∧
    (db.run (talk (done ++ rest) c)).pending = none ∧
    ∀ n, (migrate (done ++ rest) c).1 = .ok n →
      n = rest.length ∧ Committed (done ++ rest) (db.run (talk (done ++ rest) c)) := by
  cases hclosed : c.closed with
  | true =>
    obtain ⟨htalk, hfails⟩ := talk_closed hclosed (done ++ rest)
    rw [htalk]
    refine ⟨fun said hsaid => ⟨[], List.nil_prefix, ?_⟩, hdb, fun n hn => ?_⟩
    · rw [List.prefix_nil.1 hsaid, List.append_nil]
      exact h
    · rw [hn] at hfails
      cases hfails
  | false =>
    have hrest : ∀ m ∈ rest, m.Contained := fun m hm =>
      hms.contained m (List.mem_append_right _ hm)
    obtain ⟨hsaid, hcount⟩ := talk_said hms.contained hclosed hhonest
    rw [Migration.plan, h.above_highest hms] at hsaid
    rw [h.above_highest hms] at hcount
    obtain ⟨hwhole, hnone, hmoments⟩ := h.plan hdb hrest
    refine ⟨fun said hprefix => ?_, ?_, fun n hn => ⟨hcount n hn, ?_⟩⟩
    · -- at every moment as much is kept as after some beginning of the plan
      obtain ⟨first, hfirst, hkept⟩ := hsaid.moments hprefix db
      obtain ⟨more, hmore, hcommitted⟩ := hmoments first hfirst
      exact ⟨more, hmore, hcommitted.of_kept hkept⟩
    · cases hok : (migrate (done ++ rest) c).1.isOk with
      | true =>
        rw [hok] at hsaid
        rw [hsaid.run_eq]
        exact hnone
      | false =>
        rw [hok] at hsaid
        -- the run has failed, so what was open at its end was taken back
        exact (hsaid.cut_short (congrArg Option.isSome hdb)).1
    · rw [hn] at hsaid
      rw [hsaid.run_eq]
      exact hwhole

/-- **All runs**: at every moment some first migrations are committed, and no transaction is open
after a run. -/
theorem Committed.run_all {runs : List Connection} (h : Committed done db) (hdone : done <+: ms)
    (hdb : db.pending = none) (hms : Valid ms) (hhonest : Honest db (runs.flatMap (talk ms))) :
    (∀ said, said <+: runs.flatMap (talk ms) →
      ∃ more, more <+: ms ∧ Committed more (db.run said)) ∧
    (db.run (runs.flatMap (talk ms))).pending = none := by
  induction runs generalizing db done with
  | nil =>
    refine ⟨fun said hsaid => ⟨done, hdone, ?_⟩, hdb⟩
    rw [List.prefix_nil.1 hsaid]
    exact h
  | cons c runs ih =>
    obtain ⟨rest, rfl⟩ := hdone
    rw [List.flatMap_cons, honest_append] at hhonest
    obtain ⟨hmoments, hnone, -⟩ := h.run_once hdb hms hhonest.1
    obtain ⟨more, hmore, hcommitted⟩ := hmoments _ List.prefix_rfl
    obtain ⟨hlater, hend⟩ :=
      ih hcommitted ((List.prefix_append_right_inj done).2 hmore) hnone hhonest.2
    rw [List.flatMap_cons]
    refine ⟨fun said hsaid => ?_, by rw [Database.run_append]; exact hend⟩
    -- the moment lies within the first run or after it
    rcases prefix_append_cases hsaid with hsaid | ⟨later, rfl, hrest⟩
    · obtain ⟨first, hfirst, hkept⟩ := hmoments said hsaid
      exact ⟨done ++ first, (List.prefix_append_right_inj done).2 hfirst, hkept⟩
    · rw [Database.run_append]
      exact hlater later hrest

/-- The database after some runs. -/
def after (ms : List Migration) (runs : List Connection) : Database :=
  Database.empty.run (runs.flatMap (talk ms))

/-- **Migrations survive interruption.** Over any runs on an honest server, some of which fail, the
committed versions are at every moment those of some first migrations, each of which was
committed once and as a whole. A run fails if one of its statements does, and says nothing more
then but to roll back the transaction that is open. A run that succeeds leaves all migrations
committed and says how many it committed itself, so the next one, if it succeeds, has none to
commit. -/
theorem survive_interruption (hms : Valid ms) {runs : List Connection}
    (hhonest : Honest .empty (runs.flatMap (talk ms))) :
    (∀ said, said <+: runs.flatMap (talk ms) → ∃ done, done <+: ms ∧
      (Database.empty.run said).versions = done.map (·.version) ∧
      (Database.empty.run said).versions.Nodup ∧
      (Database.empty.run said).commits = done.map effects ∧
      ∀ s ∈ (Database.empty.run said).alone, s ∈ setup) ∧
    ∀ earlier c later, runs = earlier ++ c :: later →
      ((migrate ms c).1.isOk = true ↔ c.closed = false ∧ ∀ x ∈ talk ms c, x.ok = true) ∧
      ((migrate ms c).1.isOk = false → talk ms c = [] ∧ c.closed = true ∨
        ∃ said x, (∀ y ∈ said, y.ok = true) ∧ x.ok = false ∧ talk ms c = said ++ x ::
          if ((after ms earlier).run said).pending.isSome then [.rollback] else []) ∧
      ∀ n, (migrate ms c).1 = .ok n →
        (after ms (earlier ++ [c])).versions = ms.map (·.version) ∧
        (after ms (earlier ++ [c])).commits.length = (after ms earlier).commits.length + n ∧
        ∀ next rest, later = next :: rest → (migrate ms next).1.isOk = true →
          (migrate ms next).1 = .ok 0 := by
  have hempty : Committed [] .empty := ⟨rfl, fun s hs => absurd hs List.not_mem_nil⟩
  refine ⟨fun said hsaid => ?_, ?_⟩
  · obtain ⟨done, hdone, hcommitted⟩ :=
      (hempty.run_all List.nil_prefix rfl hms hhonest).1 said hsaid
    have hnodup : (done.map (·.version)).Nodup :=
      (hms.increasing.sublist (hdone.map _).sublist).imp Int.ne_of_lt
    exact ⟨done, hdone, hcommitted.versions_eq, hcommitted.versions_eq ▸ hnodup,
      hcommitted.commits, hcommitted.alone⟩
  rintro earlier c later rfl
  rw [List.flatMap_append, List.flatMap_cons, honest_append, honest_append] at hhonest
  obtain ⟨hbefore, hrun, hthen⟩ := hhonest
  obtain ⟨hmoments, hnone⟩ := hempty.run_all List.nil_prefix rfl hms hbefore
  obtain ⟨done, ⟨rest, rfl⟩, hcommitted⟩ := hmoments _ List.prefix_rfl
  obtain ⟨-, hend, hok⟩ := hcommitted.run_once hnone hms hrun
  have hafter : after (done ++ rest) (earlier ++ [c]) =
      (after (done ++ rest) earlier).run (talk (done ++ rest) c) := by
    rw [after, List.flatMap_append, Database.run_append, List.flatMap_singleton]
    rfl
  refine ⟨isOk_migrate_iff hms.contained hrun, talk_cut_short hms.contained hnone hrun,
    fun n hn => ?_⟩
  obtain ⟨rfl, hall⟩ := hok n hn
  refine ⟨?_, ?_, ?_⟩
  · rw [hafter]
    exact hall.versions_eq
  · rw [hafter]
    have hcount : (after (done ++ rest) earlier).commits = done.map effects := hcommitted.commits
    have hcounts := hall.commits
    rw [after] at hcount ⊢
    rw [hcounts, hcount, List.length_map, List.length_map, List.length_append]
  · -- with nothing left to commit, the next run can only count zero
    rintro next later' rfl hnext
    rw [List.flatMap_cons, honest_append] at hthen
    rw [← List.append_nil (done ++ rest)] at hms
    obtain ⟨-, -, hzero⟩ := hall.run_once hend hms (by rw [List.append_nil]; exact hthen.1)
    rw [List.append_nil] at hzero
    rcases hmigrate : (migrate (done ++ rest) next).1 with e | k
    · rw [hmigrate] at hnext
      cases hnext
    · rw [(hzero k hmigrate).1]
      rfl

/-- Two migrations, with a gap between their versions. -/
def sampleMigrations : List Migration := [⟨1, "first", "CREATE\n  A"⟩, ⟨4, "second", "CREATE B"⟩]

/-- The answer to the query for the version. -/
def sampleAnswer (version : Int) : Reply :=
  .rows [{ cells := [("version", some (.int4 version))] }]

/-- A connection over which these answers come. -/
def sampleConnection (replies : List Reply) : Connection :=
  (Connection.fresh .latest).expecting replies

/-- A run that breaks off in the second migration, one that goes on from there, and one that finds
nothing left. -/
def sampleRuns : List Connection :=
  [sampleConnection [.affected 0, sampleAnswer 0, .affected 0, .affected 0, .affected 1,
      .affected 0, .affected 0, .error "42601" "syntax error"],
    sampleConnection [.affected 0, sampleAnswer 1],
    sampleConnection [.affected 0, sampleAnswer 4]]

/-- Three runs over these connections: the first migration is kept although the second breaks off,
the next run does the second alone, and the last has nothing to do. -/
theorem survive_interruption_sampleRuns :
    Valid sampleMigrations ∧ Honest .empty (sampleRuns.flatMap (talk sampleMigrations)) ∧
      (sampleRuns.map fun c => (migrate sampleMigrations c).1.toOption) = [none, some 1, some 0] ∧
      (after sampleMigrations (sampleRuns.take 1)).versions = [1] ∧
      (after sampleMigrations (sampleRuns.take 2)).versions = [1, 4] := by
  have hms : Valid sampleMigrations := ⟨by decide, by decide, by decide +kernel⟩
  have hhonest : Honest .empty (sampleRuns.flatMap (talk sampleMigrations)) := by decide +kernel
  obtain ⟨-, hruns⟩ := survive_interruption hms hhonest
  have hsecond := (hruns [_] _ [_] rfl).2.2 1 (by decide +kernel)
  exact ⟨hms, hhonest, by decide +kernel, by decide +kernel, hsecond.1⟩

end Migration

end Reconciliation.Postgres
