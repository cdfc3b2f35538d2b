import Reconciliation.Backend
import Reconciliation.Postgres.Lock
import Reconciliation.Proofs.Guarding
import Reconciliation.Proofs.Loading
import Reconciliation.Proofs.Trace
import Reconciliation.Redis.Lock

/-!
# Terms that locks are held for

The settings let a lock be kept for any number of seconds that reads, but a term that passes the
milliseconds of 64 bits is out of range. So the settings load with terms for which no lock can be
taken: the greatest number of seconds that makes a term is `Settings.longestLock`, and beyond it
every pass fails on every tick.

* `checkTerm_ofSeconds`: which whole seconds make a term.
* `LockProvider.ChecksTerms`: locks that refuse a term if the check does; those in memory, in a
  database and in a key-value server are such locks.
* `Scheduler.standard_unless_overlong`: what the loaded term makes of the passes.
-/

namespace Reconciliation

variable {σ α β : Type} {name : String} {term : Term}

/-! ## The check -/

/-- The most seconds that a lock can be kept for. -/
def Settings.longestLock : Nat := 9223372036854775

/-- Seconds make a term if there are any, and no more than the longest lock. -/
theorem checkTerm_ofSeconds (name : String) (n : Nat) :
    checkTerm name (.ofSeconds n) =
      if n = 0 then .error (.invalidDuration name .notPositive)
      else if n ≤ Settings.longestLock then .ok ()
      else .error (.invalidDuration name .outOfRange) := by
  have hzero : (Term.ofSeconds n).nanos = 0 ↔ n = 0 := by
    change n * 1000000000 = 0 ↔ n = 0
    omega
  have hlong : Term.longest.nanos < (Term.ofSeconds n).nanos ↔ ¬ n ≤ Settings.longestLock := by
    change 9223372036854775807 * 1000000 < n * 1000000000 ↔ ¬ n ≤ 9223372036854775
    omega
  simp only [checkTerm, hzero, hlong, ite_not]

/-- The milliseconds of a term fit 64 bits with sign. -/
theorem millis_of_checkTerm (h : checkTerm name term = .ok ()) :
    term.millis ≤ 9223372036854775807 := by
  unfold checkTerm at h
  split_ifs at h with hzero hlong
  change ¬ 9223372036854775807 * 1000000 < term.nanos at hlong
  rw [Term.millis]
  omega

/-! ## Locks that check their terms -/

/-- The error of a lock whose term is none. -/
def LockError.isTerm : LockError → Bool
  | invalidDuration _ _ => true
  | backend _ => false

/-- Locks that refuse a term if and only if the check does; what they refuse does nothing else. -/
structure LockProvider.ChecksTerms (σ : Type) [LockProvider σ] : Prop where
  refuses : ∀ {name term e}, checkTerm name term = .error e → ∀ s : σ,
    LockProvider.acquire name term s = (.ok (.error e), s)
  accepts : ∀ {name term}, checkTerm name term = .ok () → ∀ (s : σ) (e : LockError),
    (LockProvider.acquire name term s).1 = .ok (.error e) → e.isTerm = false

/-- The table in memory checks a term before it looks at the lock. -/
theorem LockTable.checksTerms : LockProvider.ChecksTerms LockTable where
  refuses {name term e} h t := by
    have hrefused : (t.acquire name term) = (.error e, t) := acquire_error h
    simp only [LockProvider.acquire, hrefused]
  accepts {name term} h t e he := by
    have hanswer : (t.acquire name term).1 = .error e := Except.ok.inj he
    simp only [acquire, h] at hanswer
    split at hanswer <;> cases hanswer

/-- The database is not asked if the term is refused. -/
theorem Postgres.checksTerms : LockProvider.ChecksTerms Postgres.Connection where
  refuses {name term e} h c := by
    simp only [LockProvider.acquire, acquire, h]
  accepts {name term} h c e he := by
    simp only [LockProvider.acquire, acquire, h] at he
    split at he
    · cases he
    · split at he
      · cases he
        rfl
      · split at he <;> cases he
        rfl

/-- Nor is the key-value server, where the second check refuses nothing that has passed the first.
-/
theorem Redis.checksTerms : LockProvider.ChecksTerms Redis.Link where
  refuses {name term e} h l := by
    simp only [LockProvider.acquire, acquire, h]
  accepts {name term} h l e he := by
    -- the second check refuses nothing that the first one lets through
    have hmillis : ¬ 18446744073709551615 < term.millis := by
      have hmost := millis_of_checkTerm h
      omega
    simp only [LockProvider.acquire, acquire, h, if_neg hmillis] at he
    split at he
    · cases he
      rfl
    · split at he <;> cases he
      rfl

/-- Beside a store the locks do as they do by themselves. -/
theorem Backend.checksTerms {σ κ : Type} [LockProvider κ] (h : LockProvider.ChecksTerms κ) :
    LockProvider.ChecksTerms (Backend σ κ) where
  refuses {name term e} hterm b := by
    simp only [LockProvider.acquire, onLocks, h.refuses hterm b.locks]
  accepts hterm b e he := h.accepts hterm b.locks e he

/-! ## Terms that fit -/

/-- Whether a lock was refused for its term. -/
def GuardEvent.refusesTerm : GuardEvent → Bool
  | asked _ _ (.error e) => e.isTerm
  | _ => false

/-- No lock has been refused for its term so far. Locks may have been refused for other reasons, or
been held. -/
def World.TermsFit (w : World (Attended σ)) : Prop :=
  ∀ e ∈ w.backend.events, e.refusesTerm = false

/-- Another event that refuses no term changes nothing. -/
theorem World.TermsFit.append {w : World (Attended σ)} (h : w.TermsFit) {e : GuardEvent}
    (he : e.refusesTerm = false) : ∀ x ∈ w.backend.events ++ [e], x.refusesTerm = false := by
  rw [List.forall_mem_append, List.forall_mem_singleton]
  exact ⟨h, he⟩

/-- To log is nothing that a guard is told. -/
theorem Run.log_fits (e : Log.Event) :
    Run.Maintains World.TermsFit (Run.log e : Run (Attended σ) Unit) := fun _ h => h

/-- That a pass has run is an event of its own, which refuses no term. -/
theorem Pass.attended_run_fits (p : Pass σ) (now : Instant) :
    Run.Maintains World.TermsFit (p.attended.run now) := fun _ h => h.append rfl

section Fits

variable [LockProvider σ]

/-- To take a lock for a term that was checked refuses no term, whatever else the lock says. -/
theorem Locks.acquire_fits (hchecks : LockProvider.ChecksTerms σ)
    (hterm : checkTerm name term = .ok ()) :
    Run.Maintains World.TermsFit (Locks.acquire name term : Run (Attended σ) _) := by
  intro w h
  have haccepts := hchecks.accepts hterm w.backend.inner
  rcases hanswer : LockProvider.acquire name term w.backend.inner with ⟨c | answer, inner⟩
  · -- a call that crashes is not listed
    have hcrash : (Locks.acquire name term : Run (Attended σ) _) w =
        (.error c, { w with backend := ⟨inner, w.backend.events⟩ }) := by
      simp only [Locks.acquire, Run.riskyStep, LockProvider.acquire]
      rw [hanswer]
    rw [hcrash]
    exact h
  · rw [Attended.acquire_apply hanswer]
    refine h.append ?_
    rcases answer with e | lease
    · exact haccepts e (by rw [hanswer])
    · rfl

/-- To give a lock back asks for no term. -/
theorem Locks.release_fits (lease : Lease) :
    Run.Maintains World.TermsFit (Locks.release lease : Run (Attended σ) _) :=
  fun _ h => h.append rfl

/-- No lock is refused for a term that passes the check. -/
theorem Pass.guarded_fits (hchecks : LockProvider.ChecksTerms σ) (p : Pass σ)
    (hterm : checkTerm p.name term = .ok ()) (now : Instant) :
    Run.Maintains World.TermsFit (p.attended.guarded term now) := by
  have hlocks : Run.Maintains World.TermsFit
      (Locks.underLock p.attended.name term (p.attended.run now).caught) := by
    refine (Locks.acquire_fits hchecks hterm).bind fun answer => ?_
    rcases answer with e | _ | lease
    · exact .pure _
    · exact (Run.log_fits _).bind fun _ => .pure _
    · refine (p.attended_run_fits now).caught.bind fun result => (Locks.release_fits lease).bind ?_
      rintro (e | _)
      · exact (Run.log_fits _).bind fun _ => .pure _
      · exact .pure _
  refine hlocks.bind fun ended => ?_
  rcases ended with e | _ | c | e | report
  · exact (Run.log_fits _).bind fun _ => .pure _
  · exact (Run.log_fits _).bind fun _ => .pure _
  · exact (Run.log_fits _).bind fun _ => .pure _
  · exact (Run.log_fits _).bind fun _ => .pure _
  · exact .pure _

/-- **With a term that passes the check** no lock is refused for it on a tick. -/
theorem Scheduler.tick_fits (hchecks : LockProvider.ChecksTerms σ) (s : Scheduler σ)
    (hterm : ∀ name, checkTerm name s.term = .ok ()) (now : Instant) :
    Run.Maintains World.TermsFit (s.attended.tick now) := by
  obtain ⟨passes, term⟩ := s
  induction passes with
  | nil => exact .pure []
  | cons p passes ih =>
    have hattended : (⟨p :: passes, term⟩ : Scheduler σ).attended =
        ⟨(p.1.attended, p.2) :: (⟨passes, term⟩ : Scheduler σ).attended.passes, term⟩ := rfl
    rw [hattended, tick_cons]
    exact (p.1.guarded_fits hchecks (hterm p.1.name) now).bind fun _ =>
      (ih hterm).bind fun _ => .pure _

end Fits

/-! ## Terms that do not fit -/

/-- **With a term that the check refuses** every pass fails on every tick, and says so in the
log. Nothing else happens. -/
theorem Scheduler.tick_refused [LockProvider σ] (hchecks : LockProvider.ChecksTerms σ)
    (s : Scheduler σ) {error : String → LockError}
    (hterm : ∀ name, checkTerm name s.term = .error (error name)) (now : Instant) (w : World σ) :
    s.tick now w = (.ok (s.names.map (·, .failed)), { w with
      log := w.log ++ s.names.map fun name => .lockUnavailable name (error name) }) := by
  obtain ⟨passes, term⟩ := s
  induction passes generalizing w with
  | nil => simp only [tick_nil, Run.pure_apply, names, List.map_nil, List.append_nil]
  | cons p passes ih =>
    have hacquire : (Locks.acquire p.1.name term : Run σ _) w =
        (.ok (.error (error p.1.name)), w) := by
      simp only [Locks.acquire, Run.riskyStep, hchecks.refuses (hterm p.1.name)]
    have hrest := ih (Run.log (.lockUnavailable p.1.name (error p.1.name)) w).2 hterm
    rw [tick_cons, Run.bind_ok (Pass.guarded_refused hacquire), Run.bind_ok hrest]
    simp only [Run.log, Run.pure_apply, names, List.map_cons, List.append_assoc,
      List.singleton_append]

/-! ## The loaded term -/

namespace Scheduler

/-- **The loaded term lets the passes run unless it is too long.** Up to the longest lock it passes
the check, and no lock is refused for it. Beyond that the settings load all the same, but the
check refuses the term as out of range, and every pass fails on every tick. -/
theorem standard_unless_overlong [RecordStore σ] [LockProvider σ]
    (hchecks : LockProvider.ChecksTerms σ) {lookup : String → Option String}
    {settings : Settings} (hload : Settings.load lookup = .ok settings) :
    (∀ name, checkTerm name (.ofSeconds settings.lockMax) =
      if settings.lockMax ≤ Settings.longestLock then .ok ()
      else .error (.invalidDuration name .outOfRange)) ∧
    ∀ (d : Dispatcher) (now : Instant),
      (settings.lockMax ≤ Settings.longestLock →
        Run.Maintains World.TermsFit ((standard settings d : Scheduler σ).attended.tick now)) ∧
      (Settings.longestLock < settings.lockMax → ∀ w : World σ,
        (standard settings d).tick now w =
          (.ok ((standard settings d : Scheduler σ).names.map (·, .failed)), { w with
            log := w.log ++ (standard settings d : Scheduler σ).names.map fun name =>
              .lockUnavailable name (.invalidDuration name .outOfRange) })) := by
  have hpositive : settings.lockMax ≠ 0 :=
    Nat.ne_of_gt (Settings.load_bounds hload .lockMax).1
  have hcheck : ∀ name, checkTerm name (.ofSeconds settings.lockMax) =
      if settings.lockMax ≤ Settings.longestLock then .ok ()
      else .error (.invalidDuration name .outOfRange) := by
    intro name
    rw [checkTerm_ofSeconds, if_neg hpositive]
  refine ⟨hcheck, fun d now => ⟨fun hshort => ?_, fun hlong w => ?_⟩⟩
  · refine tick_fits hchecks _ (fun name => ?_) now
    exact (hcheck name).trans (if_pos hshort)
  · refine tick_refused hchecks _ (fun name => ?_) now w
    exact (hcheck name).trans (if_neg (Nat.not_le.2 hlong))

/-- One second more than the longest lock loads, and every pass fails. -/
theorem standard_overlong :
    LockProvider.ChecksTerms (Backend Store LockTable) ∧ ∃ settings,
      Settings.load (Setting.lockMax.only 9223372036854776) = .ok settings ∧
      ((standard settings .new).tick .latest
        (World.of (⟨.empty, .empty⟩ : Backend Store LockTable))).1 =
          .ok [("aggregate-messages", .failed), ("retry-short-term", .failed),
            ("retry-medium-term", .failed), ("retry-long-term", .failed),
            ("purge-expired", .failed)] := by
  have hchecks : LockProvider.ChecksTerms (Backend Store LockTable) :=
    Backend.checksTerms LockTable.checksTerms
  obtain ⟨settings, hload, hvalue⟩ :=
    Settings.load_only (n := 9223372036854776) .lockMax (by decide) (by decide)
  have hterm : settings.lockMax = 9223372036854776 := hvalue .lockMax
  have hlong : Settings.longestLock < settings.lockMax := by
    rw [hterm]
    decide
  have htick := ((standard_unless_overlong hchecks hload).2 .new .latest).2 hlong
    (World.of ⟨.empty, .empty⟩)
  exact ⟨hchecks, settings, hload, congrArg Prod.fst htick⟩

/-- **Settings that load may have a term that the check refuses.** -/
theorem not_load_checks :
    ¬ ∀ lookup settings, Settings.load lookup = .ok settings →
      ∀ name, checkTerm name (.ofSeconds settings.lockMax) = .ok () := by
  intro hall
  obtain ⟨settings, hload, hvalue⟩ :=
    Settings.load_only (n := 9223372036854776) .lockMax (by decide) (by decide)
  have hok := hall _ settings hload "aggregate-messages"
  rw [show settings.lockMax = 9223372036854776 from hvalue .lockMax, checkTerm_ofSeconds] at hok
  exact absurd hok (by decide)

end Scheduler

end Reconciliation
