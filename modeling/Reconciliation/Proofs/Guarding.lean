import Reconciliation.Proofs.Backends
import Reconciliation.Proofs.Exclusion
import Reconciliation.Scheduler

/-!
# Passes under their locks

A pass that is due asks for its lock. Without a lease it does not run; with one it runs, and
then the lease is given back, whatever became of the pass. A backend that is `Attended` does
what it does otherwise and keeps a list of what happened around its locks, so that this is a
statement about that list (`Guarded`).

Where the locks are those of a table, a turn of a pass can only make its own name free:
whoever holds a name keeps it until it runs out (`LockTable.Spares`).

* `Pass.attended_turn`: what happens on one turn of a pass.
* `Scheduler.attended_tick`: on a tick every pass has its turn, in order.
* `Scheduler.guards_and_gives_back`: both, and what they leave of a lock table.
-/

namespace Reconciliation

variable {σ τ α : Type}

/-! ## Backends seen through a function -/

/-- Locks that are other ones, seen through a function. Either operation answers the same through
it, and leaves what it shows of the other locks. -/
structure LockProvider.Mirrors [LockProvider σ] [LockProvider τ] (f : σ → τ) : Prop where
  acquire : ∀ name term s, LockProvider.acquire name term (f s) =
    ((LockProvider.acquire name term s).1, f (LockProvider.acquire name term s).2)
  release : ∀ lease s, LockProvider.release lease (f s) =
    ((LockProvider.release lease s).1, f (LockProvider.release lease s).2)

/-- A step that may crash mirrors another that crashes alike. -/
theorem Run.Mirrors.riskyStep {f : σ → τ} {g : σ → Except Crash α × σ} {h : τ → Except Crash α × τ}
    (hgh : ∀ s, h (f s) = ((g s).1, f (g s).2)) :
    Run.Mirrors f (Run.riskyStep g) (Run.riskyStep h) := by
  intro w
  have hw := hgh w.backend
  simp only [Run.riskyStep, World.map, hw]

/-- **A guarded pass** is the same on both backends, if the pass and the locks are. -/
theorem Pass.guarded_mirrors [LockProvider σ] [LockProvider τ] {f : σ → τ}
    (hf : LockProvider.Mirrors f) {p : Pass σ} {q : Pass τ} (hname : q.name = p.name)
    {now : Instant} (hrun : Run.Mirrors f (p.run now) (q.run now)) (term : Term) :
    Run.Mirrors f (p.guarded term now) (q.guarded term now) := by
  have hlocks : Run.Mirrors f (Locks.underLock p.name term (p.run now).caught)
      (Locks.underLock p.name term (q.run now).caught) := by
    refine (Run.Mirrors.riskyStep (hf.acquire p.name term)).bind fun answer => ?_
    rcases answer with e | _ | lease
    · exact .pure _
    · exact (Run.Mirrors.log _).bind fun _ => .pure _
    · refine hrun.caught.bind fun result => (Run.Mirrors.step (hf.release lease)).bind ?_
      rintro (e | _)
      · exact (Run.Mirrors.log _).bind fun _ => .pure _
      · exact .pure _
  rw [guarded, guarded, hname]
  refine hlocks.bind fun ended => ?_
  rcases ended with e | _ | c | e | report
  · exact (Run.Mirrors.log _).bind fun _ => .pure _
  · exact (Run.Mirrors.log _).bind fun _ => .pure _
  · exact (Run.Mirrors.log _).bind fun _ => .pure _
  · exact (Run.Mirrors.log _).bind fun _ => .pure _
  · exact .pure _

/-! ## What happens around a lock -/

/-- Something that happened around the locks. From the list of these it can be read off who had a
lock while a pass ran, and whether it was given back. -/
inductive GuardEvent where
  /-- A lock was asked for, and this was the answer. -/
  | asked (name : String) (term : Term) (answer : Except LockError (Option Lease))
  /-- A pass ran, to its end or to a crash. -/
  | ran (name : String) (result : Except Crash (Except StoreError Report))
  /-- A lease was given back, or that failed. -/
  | gaveBack (lease : Lease) (answer : Except LockError Unit)

/-- The name of the lock that was taken, if one was. -/
def GuardEvent.taken? : GuardEvent → Option String
  | asked name _ (.ok (some _)) => some name
  | _ => none

/-- A backend with a list of what happened around its locks, oldest first. Neither the locks nor the
passes can see the list. -/
structure Attended (σ : Type) where
  inner : σ
  events : List GuardEvent

instance [LockProvider σ] : LockProvider (Attended σ) where
  acquire name term s :=
    match LockProvider.acquire name term s.inner with
    | (.ok answer, inner) => (.ok answer, ⟨inner, s.events ++ [.asked name term answer]⟩)
    | (.error c, inner) => (.error c, ⟨inner, s.events⟩)
  release lease s :=
    let (answer, inner) := LockProvider.release lease s.inner
    (answer, ⟨inner, s.events ++ [.gaveBack lease answer]⟩)

/-- The pass on an attended backend. What the pass itself does there is not listed, only that it
ran. -/
def Pass.attended (p : Pass σ) : Pass (Attended σ) where
  name := p.name
  run now w :=
    let (result, v) := p.run now (w.map Attended.inner)
    (result, v.map fun inner => ⟨inner, w.backend.events ++ [.ran p.name result]⟩)

/-- The scheduler on an attended backend. -/
def Scheduler.attended (s : Scheduler σ) : Scheduler (Attended σ) :=
  ⟨s.passes.map fun p => (p.1.attended, p.2), s.term⟩

/-- What is said of a pass that ran and ended so. -/
def Tick.of : Except Crash (Except StoreError Report) → Tick
  | .ok (.ok report) => .ran report
  | .ok (.error _) | .error _ => .failed

/-- What happens on the turn of a pass, and what is said of it. The pass runs if there is a lease
for it, which is then given back, once. -/
inductive Guarded (name : String) (term : Term) : List GuardEvent → Tick → Prop
  | refused (e : LockError) : Guarded name term [.asked name term (.error e)] .failed
  | held : Guarded name term [.asked name term (.ok none)] .skipped
  | ran (lease : Lease) (result : Except Crash (Except StoreError Report))
      (answer : Except LockError Unit) :
      Guarded name term
        [.asked name term (.ok (some lease)), .ran name result, .gaveBack lease answer]
        (.of result)

namespace Guarded

variable {name : String} {term : Term} {events : List GuardEvent} {outcome : Tick}

/-- A pass is said to have run if it returned that report. -/
theorem ran_iff (h : Guarded name term events outcome) (report : Report) :
    outcome = .ran report ↔ .ran name (.ok (.ok report)) ∈ events := by
  cases h with
  | refused e => simp
  | held => simp
  | ran lease result answer => rcases result with c | e | other <;> simp [Tick.of, eq_comm]

/-- A pass is said to be skipped if its lock was held. -/
theorem skipped_iff (h : Guarded name term events outcome) :
    outcome = .skipped ↔ .asked name term (.ok none) ∈ events := by
  cases h with
  | refused e => simp
  | held => simp
  | ran lease result answer => rcases result with c | e | report <;> simp [Tick.of]

/-- A pass runs if it got a lease. -/
theorem runs_iff (h : Guarded name term events outcome) :
    (∃ result, .ran name result ∈ events) ↔
      ∃ lease, .asked name term (.ok (some lease)) ∈ events := by
  cases h <;> simp

end Guarded

/-! ## Lock tables -/

namespace LockTable

variable {t u v : LockTable} {name : String} {term : Term} {xs ys : List String}

/-- Between two states of a table, at most the taken names became free. Everyone else holds what
they held, also a taken name if they still hold it by the clock. -/
structure Spares (t : LockTable) (taken : List String) (u : LockTable) : Prop where
  clock : t.clock ≤ u.clock
  free : ∀ name ∈ taken, u.hold? name = none
  held : ∀ name hold, t.hold? name = some hold → u.clock < hold.ends → u.hold? name = some hold
  others : ∀ name, name ∉ taken → u.hold? name = t.hold? name

/-- Where time passes, everyone holds what they held. -/
theorem Spares.wait (t : LockTable) (time : Term) : t.Spares [] (t.wait time) where
  clock := Nat.le_add_right _ _
  free _ h := absurd h List.not_mem_nil
  held _ _ h _ := h
  others _ _ := rfl

/-- One change after the other frees the names that either of them frees. -/
theorem Spares.trans (h : t.Spares xs u) (k : u.Spares ys v) : t.Spares (xs ++ ys) v where
  clock := Nat.le_trans h.clock k.clock
  free name hname := by
    by_cases hy : name ∈ ys
    · exact k.free name hy
    · rw [k.others name hy]
      exact h.free name ((List.mem_append.1 hname).resolve_right hy)
  held name hold hhold hlt :=
    k.held name hold (h.held name hold hhold (Nat.lt_of_le_of_lt k.clock hlt)) hlt
  others name hname := by
    rw [List.mem_append, not_or] at hname
    rw [k.others name hname.2, h.others name hname.1]

/-- A call that gives no lease changes nothing. -/
theorem acquire_unchanged (h : ∀ lease, (t.acquire name term).1 ≠ .ok (some lease)) :
    (t.acquire name term).2 = t := by
  cases hterm : checkTerm name term with
  | error e => rw [acquire_error hterm]
  | ok =>
    cases hheld : t.isHeld name with
    | true => rw [acquire_held hterm hheld]
    | false =>
      rw [acquire_free hterm hheld] at h
      exact absurd rfl (h _)

/-- A lease is given for a name that is not held. -/
theorem acquire_taken {lease : Lease} (h : (t.acquire name term).1 = .ok (some lease)) :
    t.isHeld name = false ∧ lease = ⟨name, t.lastToken + 1, term⟩ ∧
      (t.acquire name term).2 = t.taken name term := by
  cases hterm : checkTerm name term with
  | error e =>
    rw [acquire_error hterm] at h
    cases h
  | ok =>
    cases hheld : t.isHeld name with
    | true =>
      rw [acquire_held hterm hheld] at h
      cases h
    | false =>
      rw [acquire_free hterm hheld] at h ⊢
      cases h
      exact ⟨rfl, rfl, rfl⟩

/-- **Taking a name and giving it back** some time later leaves it free, and all others alone. -/
theorem Spares.turn (hfree : t.isHeld name = false) (term time : Term) :
    t.Spares [name]
      (((t.taken name term).wait time).release ⟨name, t.lastToken + 1, term⟩) := by
  have hholds : ∀ other, (((t.taken name term).wait time).release
      ⟨name, t.lastToken + 1, term⟩).hold? other =
        if other = name then none else t.hold? other := by
    intro other
    rw [hold?_release]
    change (if other = name then ((t.taken name term).hold? other).filter _
      else (t.taken name term).hold? other) = _
    rw [hold?_taken]
    by_cases h : other = name
    · simp [h, Option.filter]
    · simp [h]
  refine ⟨?_, ?_, ?_, ?_⟩
  · rw [clock_release]
    exact Nat.le_add_right _ _
  · intro other hother
    rw [hholds, if_pos (List.mem_singleton.1 hother)]
  · intro other hold hhold hlt
    rw [hholds, if_neg, hhold]
    -- a name that is held at the end was held all the time, and so was not given out
    rintro rfl
    rw [clock_release] at hlt
    have hheld := isHeld_eq_true_iff.2
      ⟨hold, hhold, Nat.lt_of_le_of_lt (Nat.le_add_right t.clock time.nanos) hlt⟩
    rw [hfree] at hheld
    cases hheld
  · intro other hother
    rw [hholds, if_neg fun h => hother (List.mem_singleton.2 h)]

end LockTable

/-- Locks that are those of a table, seen through a function. Time may pass before each call. -/
structure LockProvider.Keeps [LockProvider σ] (table : σ → LockTable) : Prop where
  acquire : ∀ name term s, ∃ time,
    (LockProvider.acquire name term s).1 = .ok (((table s).wait time).acquire name term).1 ∧
      table (LockProvider.acquire name term s).2 = (((table s).wait time).acquire name term).2
  release : ∀ lease s, ∃ time,
    (LockProvider.release lease s).1 = .ok () ∧
      table (LockProvider.release lease s).2 = ((table s).wait time).release lease

/-- A lock table keeps itself. -/
theorem LockTable.keeps : LockProvider.Keeps (id : LockTable → LockTable) where
  acquire _ _ _ := ⟨⟨0⟩, rfl, rfl⟩
  release _ _ := ⟨⟨0⟩, rfl, rfl⟩

/-- A pass takes no locks and gives none back; time may pass while it runs. -/
def Pass.LeavesLocks (p : Pass σ) (table : σ → LockTable) : Prop :=
  ∀ now w, ∃ time, table (p.run now w).2.backend = (table w.backend).wait time

section Keeps

variable [LockProvider σ] {table : σ → LockTable} {name : String} {term : Term} {s u v : σ}

/-- A call that gives no lease leaves the table alone. -/
theorem LockProvider.Keeps.unanswered (h : Keeps table) {answer : Except LockError (Option Lease)}
    (hs : LockProvider.acquire name term s = (.ok answer, u))
    (hnone : ∀ lease, answer ≠ .ok (some lease)) : (table s).Spares [] (table u) := by
  obtain ⟨time, hfirst, hthen⟩ := h.acquire name term s
  rw [hs] at hfirst hthen
  cases hfirst
  rw [hthen, LockTable.acquire_unchanged hnone]
  exact .wait _ time

/-- A lease that is taken and given back, with some time in between, frees its own name and no
other. -/
theorem LockProvider.Keeps.turned (h : Keeps table) {lease : Lease} {time : Term}
    (hs : LockProvider.acquire name term s = (.ok (.ok (some lease)), u))
    (hv : table v = (table u).wait time) :
    (table s).Spares [name] (table (LockProvider.release lease v).2) := by
  obtain ⟨before, hfirst, hthen⟩ := h.acquire name term s
  rw [hs] at hfirst hthen
  obtain ⟨hfree, rfl, htaken⟩ := LockTable.acquire_taken (Except.ok.inj hfirst).symm
  obtain ⟨after, -, hrelease⟩ := h.release ⟨name, _, term⟩ v
  have hwaits : ((table u).wait time).wait after = (table u).wait ⟨time.nanos + after.nanos⟩ :=
    congrArg (fun clock => { table u with clock }) (Nat.add_assoc ..)
  rw [hrelease, hv, hwaits, hthen, htaken]
  exact (LockTable.Spares.wait _ before).trans (.turn hfree term _)

end Keeps

/-- Taking a lock never crashes, whatever else comes of it. The locks of a database are not calm, as
they crash for a term that leads past the last instant. -/
def LockProvider.Calm (σ : Type) [LockProvider σ] : Prop :=
  ∀ name term (s : σ), ∃ answer, (LockProvider.acquire name term s).1 = .ok answer

/-- A table of locks answers every request. -/
theorem LockTable.calm : LockProvider.Calm LockTable := fun name term t =>
  ⟨(t.acquire name term).1, rfl⟩

/-! ## Turns -/

/-- Attending to a provider does not change what it does. -/
theorem Attended.inner_mirrors [LockProvider σ] :
    LockProvider.Mirrors (Attended.inner : Attended σ → σ) where
  acquire name term s := by
    dsimp only [LockProvider.acquire]
    rcases LockProvider.acquire name term s.inner with ⟨_ | _, inner⟩ <;> rfl
  release _ _ := rfl

/-- A call that is answered is listed with its answer. -/
theorem Attended.acquire_apply [LockProvider σ] {name : String} {term : Term}
    {answer : Except LockError (Option Lease)} {inner : σ} {w : World (Attended σ)}
    (h : LockProvider.acquire name term w.backend.inner = (.ok answer, inner)) :
    (Locks.acquire name term : Run (Attended σ) _) w = (.ok answer, { w with
      backend := ⟨inner, w.backend.events ++ [.asked name term answer]⟩ }) := by
  simp only [Locks.acquire, Run.riskyStep, LockProvider.acquire]
  rw [h]

namespace Pass

variable [LockProvider σ] {p : Pass σ} {term : Term} {now : Instant} {w u v : World σ}

/-- A pass whose lock cannot be taken fails. -/
theorem guarded_refused {e : LockError}
    (h : (Locks.acquire p.name term : Run σ _) w = (.ok (.error e), u)) :
    p.guarded term now w = (.ok .failed, (Run.log (.lockUnavailable p.name e) u).2) := by
  have hlocks : Locks.underLock p.name term (p.run now).caught w = (.ok (.error e), u) :=
    Run.bind_ok h _
  exact Run.bind_ok hlocks _

/-- A pass whose lock is held elsewhere is skipped. -/
theorem guarded_held (now : Instant)
    (h : (Locks.acquire p.name term : Run σ _) w = (.ok (.ok none), u)) :
    ∃ v, p.guarded term now w = (.ok .skipped, v) ∧ v.backend = u.backend := by
  have hlocks : Locks.underLock p.name term (p.run now).caught w =
      (.ok (.ok none), (Run.log (.lockHeld p.name) u).2) := Run.bind_ok h _
  exact ⟨_, Run.bind_ok hlocks _, rfl⟩

/-- A pass with a lease runs, and then the lease is given back. -/
theorem guarded_taken {lease : Lease} {result : Except Crash (Except StoreError Report)}
    (h : (Locks.acquire p.name term : Run σ _) w = (.ok (.ok (some lease)), u))
    (hrun : p.run now u = (result, v)) :
    ∃ z, p.guarded term now w = (.ok (.of result), z) ∧
      z.backend = (LockProvider.release lease v.backend).2 := by
  have hcaught : (p.run now).caught u = (.ok result, v) := by
    rw [Run.caught, hrun]
    rcases result with c | r <;> rfl
  have hrelease : (Locks.release lease : Run σ _) v = (.ok (LockProvider.release lease v.backend).1,
      { v with backend := (LockProvider.release lease v.backend).2 }) := rfl
  have hlocks : ∃ y, Locks.underLock p.name term (p.run now).caught w =
      (.ok (.ok (some result)), y) ∧ y.backend = (LockProvider.release lease v.backend).2 := by
    rcases hanswer : (LockProvider.release lease v.backend).1 with e | _ <;>
      rw [hanswer] at hrelease
    · exact ⟨_, (Run.bind_ok h _).trans ((Run.bind_ok hcaught _).trans (Run.bind_ok hrelease _)),
        rfl⟩
    · exact ⟨_, (Run.bind_ok h _).trans ((Run.bind_ok hcaught _).trans (Run.bind_ok hrelease _)),
        rfl⟩
  obtain ⟨y, hy, hback⟩ := hlocks
  rw [guarded, Run.bind_ok hy]
  rcases result with c | e | report
  · exact ⟨_, rfl, hback⟩
  · exact ⟨_, rfl, hback⟩
  · exact ⟨_, rfl, hback⟩

omit [LockProvider σ] in
/-- The run of a pass is listed with its end. -/
theorem attended_run {w : World (Attended σ)} {result : Except Crash (Except StoreError Report)}
    (h : p.run now (w.map Attended.inner) = (result, v)) :
    p.attended.run now w = (result,
      v.map fun inner => ⟨inner, w.backend.events ++ [.ran p.name result]⟩) := by
  have hrun : p.attended.run now w = ((p.run now (w.map Attended.inner)).1,
      (p.run now (w.map Attended.inner)).2.map fun inner => ⟨inner, w.backend.events ++
        [.ran p.name (p.run now (w.map Attended.inner)).1]⟩) := rfl
  rw [hrun, h]

/-- **The turn of a pass**: what happens on it, and that a lock table is spared by it. -/
theorem attended_turn (hcalm : LockProvider.Calm σ) (p : Pass σ) (term : Term) (now : Instant)
    (w : World (Attended σ)) :
    ∃ events outcome v, p.attended.guarded term now w = (.ok outcome, v) ∧
      v.backend.events = w.backend.events ++ events ∧ Guarded p.name term events outcome ∧
      ∀ table : σ → LockTable, LockProvider.Keeps table → p.LeavesLocks table →
        (table w.backend.inner).Spares (events.filterMap GuardEvent.taken?)
          (table v.backend.inner) := by
  obtain ⟨answer, hanswer⟩ := hcalm p.name term w.backend.inner
  rcases hcall : LockProvider.acquire p.name term w.backend.inner with ⟨first, inner⟩
  rw [hcall] at hanswer
  obtain rfl : first = .ok answer := hanswer
  have hacquire : (Locks.acquire p.attended.name term : Run (Attended σ) _) w =
      (.ok answer, { w with
        backend := ⟨inner, w.backend.events ++ [.asked p.name term answer]⟩ }) :=
    Attended.acquire_apply hcall
  rcases answer with e | _ | lease
  · refine ⟨_, _, _, guarded_refused hacquire, rfl, .refused e, fun table hkeeps _ => ?_⟩
    exact hkeeps.unanswered hcall fun _ h => by cases h
  · obtain ⟨v, hv, hback⟩ := guarded_held now hacquire
    refine ⟨_, _, v, hv, by rw [hback], .held, fun table hkeeps _ => ?_⟩
    rw [hback]
    exact hkeeps.unanswered hcall fun _ h => by cases h
  · rcases hrun : p.run now { w with backend := inner } with ⟨result, v⟩
    obtain ⟨z, hz, hback⟩ := guarded_taken hacquire (attended_run hrun)
    refine ⟨_, _, z, hz, ?_, .ran lease result (LockProvider.release lease v.backend).1,
      fun table hkeeps hleaves => ?_⟩
    · rw [hback]
      change w.backend.events ++ _ ++ _ ++ _ = _
      rw [List.append_assoc, List.append_assoc]
      rfl
    · obtain ⟨time, htime⟩ := hleaves now { w with backend := inner }
      rw [hrun] at htime
      rw [hback]
      exact hkeeps.turned hcall htime

/-- Behind the list a guarded pass is the pass itself. -/
theorem attended_mirrors (p : Pass σ) (term : Term) (now : Instant) :
    Run.Mirrors Attended.inner (p.attended.guarded term now) (p.guarded term now) :=
  guarded_mirrors Attended.inner_mirrors rfl (fun _ => rfl) term

end Pass

/-! ## Ticks -/

namespace Scheduler

variable [LockProvider σ]

/-- Without passes a tick does nothing. -/
theorem tick_nil (term : Term) (now : Instant) :
    (⟨[], term⟩ : Scheduler σ).tick now = pure [] := rfl

/-- A tick is the turn of the first pass and then that of the others. -/
theorem tick_cons (p : Pass σ × Term) (passes : List (Pass σ × Term)) (term : Term)
    (now : Instant) :
    (⟨p :: passes, term⟩ : Scheduler σ).tick now = (do
      let outcome ← p.1.guarded term now
      let rest ← (⟨passes, term⟩ : Scheduler σ).tick now
      pure ((p.1.name, outcome) :: rest)) := by
  simp only [tick, List.mapM_cons, bind_assoc, pure_bind]

/-- Behind the list a tick is the tick itself. -/
theorem attended_mirrors (s : Scheduler σ) (now : Instant) :
    Run.Mirrors Attended.inner (s.attended.tick now) (s.tick now) := by
  obtain ⟨passes, term⟩ := s
  induction passes with
  | nil => exact .pure []
  | cons p passes ih =>
    have hattended : (⟨p :: passes, term⟩ : Scheduler σ).attended =
        ⟨(p.1.attended, p.2) :: (⟨passes, term⟩ : Scheduler σ).attended.passes, term⟩ := rfl
    rw [hattended, tick_cons, tick_cons]
    exact (p.1.attended_mirrors term now).bind fun _ => ih.bind fun _ => .pure _

/-- **On a tick** every pass has its turn, in order, whatever happened on the turns before. -/
theorem attended_tick (hcalm : LockProvider.Calm σ) (s : Scheduler σ) (now : Instant)
    (w : World (Attended σ)) :
    ∃ (turns : List (List GuardEvent × Tick)) (v : World (Attended σ)),
      s.attended.tick now w = (.ok (s.names.zip (turns.map (·.2))), v) ∧
      v.backend.events = w.backend.events ++ turns.flatMap (·.1) ∧
      List.Forall₂ (fun p turn => Guarded p.1.name s.term turn.1 turn.2) s.passes turns ∧
      ∀ table : σ → LockTable, LockProvider.Keeps table →
        (∀ p ∈ s.passes, p.1.LeavesLocks table) →
        (table w.backend.inner).Spares ((turns.flatMap (·.1)).filterMap GuardEvent.taken?)
          (table v.backend.inner) := by
  obtain ⟨passes, term⟩ := s
  induction passes generalizing w with
  | nil =>
    refine ⟨[], w, rfl, (List.append_nil _).symm, .nil, fun table _ _ => ?_⟩
    exact .wait _ ⟨0⟩
  | cons p passes ih =>
    -- a turn ends whatever its pass does, so the others have theirs
    obtain ⟨events, outcome, u, hu, hevents, hguarded, hspares⟩ :=
      p.1.attended_turn hcalm term now w
    obtain ⟨turns, v, hv, hrest, hall, hspares'⟩ := ih u
    refine ⟨(events, outcome) :: turns, v, ?_, ?_, .cons hguarded hall,
      fun table hkeeps hleaves => ?_⟩
    · have hattended : (⟨p :: passes, term⟩ : Scheduler σ).attended =
          ⟨(p.1.attended, p.2) :: (⟨passes, term⟩ : Scheduler σ).attended.passes, term⟩ := rfl
      rw [hattended, tick_cons]
      exact (Run.bind_ok hu _).trans (Run.bind_ok hv _)
    · rw [hrest, hevents, List.append_assoc]
      rfl
    · have hfirst := hspares table hkeeps (hleaves p List.mem_cons_self)
      have hothers := hspares' table hkeeps fun q hq => hleaves q (List.mem_cons_of_mem _ hq)
      rw [List.flatMap_cons, List.filterMap_append]
      exact hfirst.trans hothers

/-- **The scheduler guards its passes and gives their locks back**, whatever the passes do and
however the locks answer. A pass runs if it got a lease, which is then given back, once. It is
said to have run if it returned that report, to be skipped if its lock was held, and to have
failed otherwise. On a tick every pass has its turn, in order. If the locks are those of a table,
none of the names that were taken is held afterwards, and who held a name before still holds it
until it runs out. -/
theorem guards_and_gives_back (hcalm : LockProvider.Calm σ) :
    (∀ (p : Pass σ) (term : Term) (now : Instant),
      Run.Mirrors Attended.inner (p.attended.guarded term now) (p.guarded term now) ∧
      ∀ w, ∃ events outcome v, p.attended.guarded term now w = (.ok outcome, v) ∧
        v.backend.events = w.backend.events ++ events ∧ Guarded p.name term events outcome ∧
        ((∃ result, .ran p.name result ∈ events) ↔
          ∃ lease, .asked p.name term (.ok (some lease)) ∈ events) ∧
        (∀ report, outcome = .ran report ↔ .ran p.name (.ok (.ok report)) ∈ events) ∧
        (outcome = .skipped ↔ .asked p.name term (.ok none) ∈ events)) ∧
    ∀ (s : Scheduler σ) (now : Instant),
      Run.Mirrors Attended.inner (s.attended.tick now) (s.tick now) ∧
      ∀ w, ∃ (turns : List (List GuardEvent × Tick)) (v : World (Attended σ)),
      s.attended.tick now w = (.ok (s.names.zip (turns.map (·.2))), v) ∧
        v.backend.events = w.backend.events ++ turns.flatMap (·.1) ∧
        List.Forall₂ (fun p turn => Guarded p.1.name s.term turn.1 turn.2) s.passes turns ∧
        ∀ table : σ → LockTable, LockProvider.Keeps table →
          (∀ p ∈ s.passes, p.1.LeavesLocks table) →
          (∀ name ∈ (turns.flatMap (·.1)).filterMap GuardEvent.taken?,
            (table v.backend.inner).isHeld name = false) ∧
          ∀ name hold, (table w.backend.inner).hold? name = some hold →
            (table v.backend.inner).clock < hold.ends →
            (table v.backend.inner).hold? name = some hold ∧
              (table v.backend.inner).isHeld name = true := by
  refine ⟨fun p term now => ⟨p.attended_mirrors term now, fun w => ?_⟩,
    fun s now => ⟨s.attended_mirrors now, fun w => ?_⟩⟩
  · obtain ⟨events, outcome, v, hv, hevents, hguarded, -⟩ := p.attended_turn hcalm term now w
    exact ⟨events, outcome, v, hv, hevents, hguarded, hguarded.runs_iff, hguarded.ran_iff,
      hguarded.skipped_iff⟩
  · obtain ⟨turns, v, hv, hevents, hall, hspares⟩ := s.attended_tick hcalm now w
    refine ⟨turns, v, hv, hevents, hall, fun table hkeeps hleaves => ?_⟩
    have hspared := hspares table hkeeps hleaves
    refine ⟨fun name hname => ?_, fun name hold hhold hlt => ?_⟩
    · rw [LockTable.isHeld, hspared.free name hname]
    · have hheld := hspared.held name hold hhold hlt
      exact ⟨hheld, LockTable.isHeld_eq_true_iff.2 ⟨hold, hheld, hlt⟩⟩

/-- A pass that ends in some way after a while. -/
def samplePass (name : String) (result : Except Crash (Except StoreError Report)) :
    Pass LockTable :=
  ⟨name, fun _ w => (result, { w with backend := w.backend.wait ⟨100⟩ })⟩

/-- Four passes: the first one reports, the second one would, the third one crashes and the last one
fails. -/
def sampleScheduler : Scheduler LockTable where
  passes :=
    [(samplePass "stale" (.ok (.ok .empty)), ⟨1⟩), (samplePass "busy" (.ok (.ok .empty)), ⟨1⟩),
      (samplePass "broken" (.error (.of "crash")), ⟨1⟩),
      (samplePass "down" (.ok (.error (.storage "down"))), ⟨1⟩)]
  term := ⟨600⟩

/-- One name is held by somebody, and another one was until just now. -/
def sampleTable : LockTable := ⟨[("busy", ⟨1, 1000⟩), ("stale", ⟨2, 5⟩)], 10, 2⟩

/-- The three passes that got their locks have given them back, and the fourth lock is still
held. -/
theorem guards_and_gives_back_sampleTable :
    LockProvider.Calm LockTable ∧ LockProvider.Keeps (id : LockTable → LockTable) ∧
      ∃ v, sampleScheduler.tick .latest (World.of sampleTable) =
        (.ok [("stale", .ran .empty), ("busy", .skipped), ("broken", .failed), ("down", .failed)],
          v) ∧
        v.backend.isHeld "stale" = false ∧ v.backend.isHeld "broken" = false ∧
        v.backend.isHeld "down" = false ∧ v.backend.hold? "busy" = some ⟨1, 1000⟩ := by
  obtain ⟨-, hticks⟩ := guards_and_gives_back LockTable.calm
  obtain ⟨hmirrors, hturns⟩ := hticks sampleScheduler .latest
  obtain ⟨turns, v, hv, hevents, -, htable⟩ := hturns (World.of ⟨sampleTable, []⟩)
  have hleaves : ∀ p ∈ sampleScheduler.passes, p.1.LeavesLocks (id : LockTable → LockTable) := by
    simp only [sampleScheduler, List.forall_mem_cons]
    exact ⟨fun _ _ => ⟨⟨100⟩, rfl⟩, fun _ _ => ⟨⟨100⟩, rfl⟩, fun _ _ => ⟨⟨100⟩, rfl⟩,
      fun _ _ => ⟨⟨100⟩, rfl⟩, fun _ h => absurd h List.not_mem_nil⟩
  obtain ⟨hfree, hheld⟩ := htable id LockTable.keeps hleaves
  have hend : v = (sampleScheduler.attended.tick .latest (World.of ⟨sampleTable, []⟩)).2 := by
    rw [hv]
  have houtcomes : (sampleScheduler.tick .latest (World.of sampleTable)).1 =
      .ok [("stale", .ran .empty), ("busy", .skipped), ("broken", .failed), ("down", .failed)] := by
    decide +kernel
  have htick : sampleScheduler.tick .latest (World.of sampleTable) = (_, _) :=
    hmirrors (World.of ⟨sampleTable, []⟩)
  rw [htick] at houtcomes
  have htaken : (turns.flatMap (·.1)).filterMap GuardEvent.taken? =
      ["stale", "broken", "down"] := by
    have hall : v.backend.events = turns.flatMap (·.1) := hevents
    rw [← hall, hend]
    decide +kernel
  have hclock : v.backend.inner.clock = 310 := by
    rw [hend]
    decide +kernel
  rw [htaken] at hfree
  refine ⟨LockTable.calm, LockTable.keeps, v.map Attended.inner, ?_, hfree _ (by simp),
    hfree _ (by simp), hfree _ (by simp), (hheld "busy" ⟨1, 1000⟩ (by decide +kernel) ?_).1⟩
  · rw [htick, hend]
    exact Prod.ext houtcomes rfl
  · rw [id, hclock]
    decide +kernel

end Scheduler

end Reconciliation
