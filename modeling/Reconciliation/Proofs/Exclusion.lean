import Mathlib.Data.List.Nodup
import Reconciliation.Lock.Table

/-!
# Locks exclude

The lock table remembers one holder of each name and forgets the others. A history
remembers all of them: every lease that was ever granted, with its time, and every lease
that was given back, as often as it was. A grant *stands* while its lease has neither been
given back nor run out.

The invariant that ties the two together is `LockHistory.Sound`: what stands is what the
table holds, and what the table holds was granted and not given back. Since no two leases
have the same token, giving back a lease that no longer stands cannot meet a hold of
another one.

* `LockHistory.Sound.step`: every call keeps the invariant.
* `LockHistory.sound_run`: it holds after every sequence of calls.
* `LockHistory.excludes`: what follows for taking, asking and giving back.
-/

namespace Reconciliation

namespace LockTable

variable {t : LockTable} {name other : String} {term : Term}

/-- Leaving out one name does not change what is found under another. -/
theorem find?_filter_ne {holds : List (String × Hold)} (h : other ≠ name) :
    (holds.filter (·.1 != name)).find? (·.1 == other) = holds.find? (·.1 == other) := by
  rw [List.find?_filter]
  congr 1
  funext x
  by_cases hx : x.1 = other
  · simp [hx, h]
  · simp [hx]

/-- Under the name that is left out nothing is found. -/
theorem find?_filter_self {holds : List (String × Hold)} :
    (holds.filter (·.1 != name)).find? (·.1 == name) = none := by
  rw [List.find?_eq_none]
  intro x hx
  simpa using (List.mem_filter.1 hx).2

/-- A lock is held while the end of its hold is still to come. -/
theorem isHeld_eq_true_iff :
    t.isHeld name = true ↔ ∃ h, t.hold? name = some h ∧ t.clock < h.ends := by
  rw [isHeld]
  cases t.hold? name <;> simp

/-- A term that no lock can be held for is refused, whatever is held. -/
theorem acquire_error {e : LockError} (h : checkTerm name term = .error e) :
    t.acquire name term = (.error e, t) := by
  rw [acquire, h]

/-- A name that is held is not given out. -/
theorem acquire_held (hterm : checkTerm name term = .ok ()) (h : t.isHeld name = true) :
    t.acquire name term = (.ok none, t) := by
  rw [acquire, hterm]
  exact if_pos h

/-- The table in which a name has a new holder, under the next token. -/
def taken (t : LockTable) (name : String) (term : Term) : LockTable :=
  { t with
    holds := (name, ⟨t.lastToken + 1, t.clock + term.nanos⟩) :: t.holds.filter (·.1 != name)
    lastToken := t.lastToken + 1 }

/-- A name that is not held is given out. -/
theorem acquire_free (hterm : checkTerm name term = .ok ()) (h : t.isHeld name = false) :
    t.acquire name term = (.ok (some ⟨name, t.lastToken + 1, term⟩), t.taken name term) := by
  rw [acquire, hterm]
  exact if_neg (Bool.eq_false_iff.1 h)

/-- Taking a lock puts a new hold under its name and leaves the others. -/
theorem hold?_taken (t : LockTable) (name : String) (term : Term) (other : String) :
    (t.taken name term).hold? other =
      if other = name then some ⟨t.lastToken + 1, t.clock + term.nanos⟩ else t.hold? other := by
  rw [hold?, taken, List.find?_cons]
  by_cases h : other = name
  · simp [h]
  · have hne : (name == other) = false := beq_eq_false_iff_ne.2 fun he => h he.symm
    simp only [hne, find?_filter_ne h, h, if_false]
    rfl

/-- A call that takes one name leaves every other name as it is. -/
theorem hold?_acquire_of_ne (h : other ≠ name) :
    (t.acquire name term).2.hold? other = t.hold? other := by
  cases hterm : checkTerm name term with
  | error e => rw [acquire_error hterm]
  | ok =>
    cases hheld : t.isHeld name with
    | true => rw [acquire_held hterm hheld]
    | false => rw [acquire_free hterm hheld, hold?_taken, if_neg h]

/-- A lease frees its name from the hold with its token, and nothing else. -/
theorem hold?_release (t : LockTable) (lease : Lease) (other : String) :
    (t.release lease).hold? other =
      if other = lease.name then (t.hold? other).filter (·.token ≠ lease.token)
      else t.hold? other := by
  rw [release]
  by_cases h : other = lease.name
  · subst h
    rw [if_pos rfl]
    cases hhold : t.hold? lease.name with
    | none => simpa using hhold
    | some hold =>
      -- a hold that another grant has got since bears another token
      by_cases htoken : hold.token = lease.token
      · have hgone : ({ t with holds := t.holds.filter (·.1 != lease.name) } : LockTable).hold?
            lease.name = none := by
          rw [hold?, find?_filter_self]
          rfl
        simp [Option.filter, htoken, hgone]
      · simp [Option.filter, htoken, hhold]
  · rw [if_neg h]
    cases t.hold? lease.name with
    | none => rfl
    | some hold =>
      dsimp only
      split
      · rw [hold?, find?_filter_ne h]
        rfl
      · rfl

@[simp] theorem clock_release (t : LockTable) (lease : Lease) :
    (t.release lease).clock = t.clock := by
  rw [release]
  cases t.hold? lease.name with
  | none => rfl
  | some hold =>
    dsimp only
    split <;> rfl

@[simp] theorem lastToken_release (t : LockTable) (lease : Lease) :
    (t.release lease).lastToken = t.lastToken := by
  rw [release]
  cases t.hold? lease.name with
  | none => rfl
  | some hold =>
    dsimp only
    split <;> rfl

end LockTable

/-- A lease, and the time on the table's clock at which it was granted. -/
structure Grant where
  lease : Lease
  since : Nat
deriving DecidableEq

/-- When the lease runs out. -/
def Grant.ends (g : Grant) : Nat := g.since + g.lease.term.nanos

/-- What can happen to a lock table. Asking whether a name is held changes nothing. -/
inductive LockAction where
  | wait (time : Term)
  | acquire (name : String) (term : Term)
  | release (lease : Lease)
deriving DecidableEq

/-- A lock table with every lease that it has granted and every lease that was given back. -/
structure LockHistory where
  table : LockTable
  granted : List Grant
  released : List Lease

namespace LockHistory

/-- Before any call. -/
def start : LockHistory := ⟨.empty, [], []⟩

/-- After one call, or some time. A lease that was never granted cannot be given back; one that
was can be given back at any time, and again. -/
def step (h : LockHistory) : LockAction → LockHistory
  | .wait time => { h with table := h.table.wait time }
  | .acquire name term =>
    match h.table.acquire name term with
    | (.ok (some lease), table) =>
      { h with table, granted := h.granted ++ [⟨lease, h.table.clock⟩] }
    | (_, table) => { h with table }
  | .release lease =>
    if lease ∈ h.granted.map (·.lease) then
      { h with table := h.table.release lease, released := h.released ++ [lease] }
    else h

/-- After a sequence of calls. -/
def run (actions : List LockAction) : LockHistory := actions.foldl step start

/-- A grant whose lease has not run out and was not given back. For a name at most one grant stands.
-/
structure Stands (h : LockHistory) (g : Grant) : Prop where
  granted : g ∈ h.granted
  lasts : h.table.clock < g.ends
  kept : g.lease ∉ h.released

/-- The table and the history agree. No two grants have one token, so a late release can be told
from that of the holder. -/
structure Sound (h : LockHistory) : Prop where
  distinct : (h.granted.map (·.lease.token)).Nodup
  token_le : ∀ g ∈ h.granted, g.lease.token ≤ h.table.lastToken
  released : ∀ lease ∈ h.released, lease ∈ h.granted.map (·.lease)
  /-- Who holds a name was granted it and has not given it back. -/
  held : ∀ name hold, h.table.hold? name = some hold →
    ∃ g ∈ h.granted, g.lease.name = name ∧ hold = ⟨g.lease.token, g.ends⟩ ∧ g.lease ∉ h.released
  /-- What stands is held. -/
  stands : ∀ g, h.Stands g → h.table.hold? g.lease.name = some ⟨g.lease.token, g.ends⟩

variable {h : LockHistory} {g : Grant} {name : String} {term : Term} {lease : Lease}

/-- There is one grant for a token. -/
theorem Sound.eq_of_token (hs : h.Sound) {g₁ g₂ : Grant} (h₁ : g₁ ∈ h.granted)
    (h₂ : g₂ ∈ h.granted) (htoken : g₁.lease.token = g₂.lease.token) : g₁ = g₂ :=
  List.inj_on_of_nodup_map hs.distinct h₁ h₂ htoken

/-- **A name is held** exactly while a grant of it stands. -/
theorem Sound.isHeld_iff (hs : h.Sound) (name : String) :
    h.table.isHeld name = true ↔ ∃ g, h.Stands g ∧ g.lease.name = name := by
  rw [LockTable.isHeld_eq_true_iff]
  constructor
  · rintro ⟨hold, hhold, hlt⟩
    obtain ⟨g, hg, hname, rfl, hkept⟩ := hs.held name hold hhold
    exact ⟨g, ⟨hg, hlt, hkept⟩, hname⟩
  · rintro ⟨g, hg, rfl⟩
    exact ⟨_, hs.stands g hg, hg.lasts⟩

/-! ## Steps -/

/-- Before any action the history is sound. -/
theorem sound_start : start.Sound := by
  refine ⟨.nil, ?_, ?_, ?_, ?_⟩
  · intro g hg
    cases hg
  · intro lease hlease
    cases hlease
  · intro name hold hhold
    cases hhold
  · intro g hg
    cases hg.granted

/-- Time passes for all holds alike. -/
theorem Sound.wait (hs : h.Sound) (time : Term) : (h.step (.wait time)).Sound where
  distinct := hs.distinct
  token_le := hs.token_le
  released := hs.released
  held := hs.held
  stands g hg :=
    hs.stands g ⟨hg.granted, Nat.lt_of_le_of_lt (Nat.le_add_right _ _) hg.lasts, hg.kept⟩

/-- A lease that is granted has a token of its own, and its name had no standing grant. -/
theorem Sound.take (hs : h.Sound) (hfree : h.table.isHeld name = false) :
    Sound { h with
      table := h.table.taken name term
      granted := h.granted ++ [⟨⟨name, h.table.lastToken + 1, term⟩, h.table.clock⟩] } := by
  have hnew : ∀ g ∈ h.granted, g.lease.token ≠ h.table.lastToken + 1 := by
    intro g hg heq
    have := hs.token_le g hg
    omega
  have hunreleased : (⟨name, h.table.lastToken + 1, term⟩ : Lease) ∉ h.released := by
    intro hmem
    obtain ⟨g, hg, hlease⟩ := List.mem_map.1 (hs.released _ hmem)
    exact hnew g hg (by rw [hlease])
  refine ⟨?_, ?_, ?_, ?_, ?_⟩
  · rw [List.map_append, List.map_singleton, List.nodup_append]
    refine ⟨hs.distinct, List.nodup_singleton _, ?_⟩
    intro a ha b hb hab
    obtain ⟨g, hg, rfl⟩ := List.mem_map.1 ha
    exact hnew g hg (hab.trans (List.mem_singleton.1 hb))
  · intro g hg
    rcases List.mem_append.1 hg with hg | hg
    · exact Nat.le_succ_of_le (hs.token_le g hg)
    · rw [List.mem_singleton.1 hg]
      exact Nat.le_refl _
  · intro lease hlease
    rw [List.map_append]
    exact List.mem_append_left _ (hs.released lease hlease)
  · intro other hold hhold
    rw [LockTable.hold?_taken] at hhold
    split at hhold
    · rename_i hother
      obtain rfl := Option.some.inj hhold
      exact ⟨_, List.mem_append_right _ (List.mem_singleton_self _), hother.symm, rfl, hunreleased⟩
    · obtain ⟨g, hg, hrest⟩ := hs.held other hold hhold
      exact ⟨g, List.mem_append_left _ hg, hrest⟩
  · intro g hg
    rw [LockTable.hold?_taken]
    rcases List.mem_append.1 hg.granted with hold | hone
    · have hstood : h.Stands g := ⟨hold, hg.lasts, hg.kept⟩
      -- the name was not held, so what stood has another one
      have hother : g.lease.name ≠ name := by
        intro hname
        rw [(hs.isHeld_iff name).2 ⟨g, hstood, hname⟩] at hfree
        cases hfree
      rw [if_neg hother]
      exact hs.stands g hstood
    · rw [List.mem_singleton.1 hone]
      exact if_pos rfl

/-- A lock that is granted was free, and one that is refused changes nothing. -/
theorem Sound.acquire (hs : h.Sound) (name : String) (term : Term) :
    (h.step (.acquire name term)).Sound := by
  rw [LockHistory.step]
  cases hterm : checkTerm name term with
  | error e =>
    rw [LockTable.acquire_error hterm]
    exact hs
  | ok =>
    cases hheld : h.table.isHeld name with
    | true =>
      rw [LockTable.acquire_held hterm hheld]
      exact hs
    | false =>
      rw [LockTable.acquire_free hterm hheld]
      exact hs.take hheld

/-- **After a lease is given back**, a name has the holder that it had, unless that one held it by
this lease. -/
theorem Sound.hold?_release (hs : h.Sound) (hg : g ∈ h.granted) {name : String} {hold : Hold} :
    (h.table.release g.lease).hold? name = some hold ↔
      ∃ k ∈ h.granted, k ≠ g ∧ k.lease.name = name ∧ h.table.hold? name = some hold ∧
        hold = ⟨k.lease.token, k.ends⟩ ∧ k.lease ∉ h.released := by
  rw [LockTable.hold?_release]
  constructor
  · intro hhold
    have hbefore : h.table.hold? name = some hold := by
      split at hhold
      · exact (Option.filter_eq_some_iff.1 hhold).1
      · exact hhold
    obtain ⟨k, hk, hname, rfl, hkept⟩ := hs.held name hold hbefore
    refine ⟨k, hk, ?_, hname, hbefore, rfl, hkept⟩
    rintro rfl
    rw [if_pos hname.symm] at hhold
    simpa using (Option.filter_eq_some_iff.1 hhold).2
  · rintro ⟨k, hk, hne, hname, hbefore, rfl, -⟩
    split
    · refine Option.filter_eq_some_iff.2 ⟨hbefore, ?_⟩
      exact decide_eq_true fun htoken => hne (hs.eq_of_token hk hg htoken)
    · exact hbefore

/-- A lock that is given back is free, and a late release changes nothing. -/
theorem Sound.release (hs : h.Sound) (lease : Lease) : (h.step (.release lease)).Sound := by
  rw [LockHistory.step]
  split
  case isFalse => exact hs
  case isTrue hmem =>
    obtain ⟨g, hg, rfl⟩ := List.mem_map.1 hmem
    refine ⟨hs.distinct, ?_, ?_, ?_, ?_⟩
    · intro k hk
      rw [LockTable.lastToken_release]
      exact hs.token_le k hk
    · intro lease hlease
      rcases List.mem_append.1 hlease with hlease | hlease
      · exact hs.released lease hlease
      · rw [List.mem_singleton.1 hlease]
        exact hmem
    · intro name hold hhold
      obtain ⟨k, hk, hne, hname, -, hhold, hkept⟩ := (hs.hold?_release hg).1 hhold
      refine ⟨k, hk, hname, hhold, fun hreleased => ?_⟩
      rcases List.mem_append.1 hreleased with hreleased | hreleased
      · exact hkept hreleased
      · exact hne (hs.eq_of_token hk hg (by rw [List.mem_singleton.1 hreleased]))
    · intro k hk
      have hlasts := hk.lasts
      rw [LockTable.clock_release] at hlasts
      -- what still stands is another grant, so the release has left its hold
      have hkept : k.lease ∉ h.released := fun hr => hk.kept (List.mem_append_left _ hr)
      have hne : k ≠ g := by
        rintro rfl
        exact hk.kept (List.mem_append_right _ (List.mem_singleton_self _))
      exact (hs.hold?_release hg).2
        ⟨k, hk.granted, hne, rfl, hs.stands k ⟨hk.granted, hlasts, hkept⟩, rfl, hkept⟩

/-- **Every call keeps the table and the history in agreement.** -/
theorem Sound.step (hs : h.Sound) (a : LockAction) : (h.step a).Sound := by
  cases a with
  | wait time => exact hs.wait time
  | acquire name term => exact hs.acquire name term
  | release lease => exact hs.release lease

/-! ## Runs -/

/-- They agree after every sequence of calls. -/
theorem sound_run (actions : List LockAction) : (run actions).Sound := by
  have hfrom : ∀ (actions : List LockAction) (h : LockHistory), h.Sound →
      (actions.foldl LockHistory.step h).Sound := by
    intro actions
    induction actions with
    | nil => exact fun h hs => hs
    | cons a actions ih => exact fun h hs => ih _ (hs.step a)
  exact hfrom actions start sound_start

/-- After any granted lease is given back, a name is held exactly while a grant of another lease
stands. -/
theorem Sound.isHeld_release_iff (hs : h.Sound) (hg : g ∈ h.granted) (name : String) :
    (h.table.release g.lease).isHeld name = true ↔
      ∃ k, h.Stands k ∧ k ≠ g ∧ k.lease.name = name := by
  rw [LockTable.isHeld_eq_true_iff, LockTable.clock_release]
  constructor
  · rintro ⟨hold, hhold, hlt⟩
    obtain ⟨k, hk, hne, hname, -, rfl, hkept⟩ := (hs.hold?_release hg).1 hhold
    exact ⟨k, ⟨hk, hlt, hkept⟩, hne, hname⟩
  · rintro ⟨k, hk, hne, rfl⟩
    exact ⟨_, (hs.hold?_release hg).2
      ⟨k, hk.granted, hne, rfl, hs.stands k hk, rfl, hk.kept⟩, hk.lasts⟩

/-- **The lock table excludes.** After any sequence of calls: a name is refused, and nothing
changed, exactly while an earlier grant of it stands, and given out otherwise; it is held exactly
then; giving back a lease that was granted frees nothing that another grant holds; a call about one
name changes no other; and a term that no lock can be held for is an error that changes nothing. -/
theorem excludes (actions : List LockAction) :
    (∀ name term, checkTerm name term = .ok () →
      ((run actions).table.acquire name term = (.ok none, (run actions).table) ↔
        ∃ g, (run actions).Stands g ∧ g.lease.name = name) ∧
      ((¬ ∃ g, (run actions).Stands g ∧ g.lease.name = name) →
        ∃ lease table, (run actions).table.acquire name term = (.ok (some lease), table) ∧
          lease.name = name ∧ lease.term = term)) ∧
    (∀ name, (run actions).table.isHeld name = true ↔
      ∃ g, (run actions).Stands g ∧ g.lease.name = name) ∧
    (∀ g ∈ (run actions).granted, ∀ name,
      ((run actions).table.release g.lease).isHeld name = true ↔
        ∃ k, (run actions).Stands k ∧ k ≠ g ∧ k.lease.name = name) ∧
    (∀ name other, other ≠ name →
      (∀ term, ((run actions).table.acquire name term).2.hold? other =
        (run actions).table.hold? other) ∧
      ∀ lease : Lease, lease.name = name →
        ((run actions).table.release lease).hold? other = (run actions).table.hold? other) ∧
    ∀ name term e, checkTerm name term = .error e →
      (run actions).table.acquire name term = (.error e, (run actions).table) := by
  have hs := sound_run actions
  refine ⟨fun name term hterm => ?_, hs.isHeld_iff, fun g hg => hs.isHeld_release_iff hg, ?_,
    fun name term e => LockTable.acquire_error⟩
  · rw [← hs.isHeld_iff]
    cases hheld : (run actions).table.isHeld name with
    | true => exact ⟨iff_of_true (LockTable.acquire_held hterm hheld) rfl, fun hn => absurd rfl hn⟩
    | false =>
      rw [LockTable.acquire_free hterm hheld]
      exact ⟨iff_of_false (by simp) (by simp), fun _ => ⟨_, _, rfl, rfl, rfl⟩⟩
  · intro name other hne
    refine ⟨fun term => LockTable.hold?_acquire_of_ne hne, ?_⟩
    rintro lease rfl
    rw [LockTable.hold?_release, if_neg hne]

/-- A lease of a millisecond runs out, its name is taken for a minute by another, and then the
first lease is given back, twice. -/
def sampleActions : List LockAction :=
  [.acquire "a" (.ofMillis 1), .wait (.ofMillis 5), .acquire "a" (.ofSeconds 60),
    .release ⟨"a", 1, .ofMillis 1⟩, .release ⟨"a", 1, .ofMillis 1⟩]

/-- The second lease is not freed: the name is refused, and stays so if the first is given back once
more. -/
theorem excludes_sampleActions :
    checkTerm "a" (.ofSeconds 1) = .ok () ∧
      (run sampleActions).released = [⟨"a", 1, .ofMillis 1⟩, ⟨"a", 1, .ofMillis 1⟩] ∧
      (run sampleActions).table.acquire "a" (.ofSeconds 1) =
        (.ok none, (run sampleActions).table) ∧
      ((run sampleActions).table.release ⟨"a", 1, .ofMillis 1⟩).isHeld "a" = true ∧
      (run sampleActions).table.acquire "a" ⟨0⟩ =
        (.error (.invalidDuration "a" .notPositive), (run sampleActions).table) := by
  obtain ⟨htake, -, hrelease, -, herror⟩ := excludes sampleActions
  have hfirst : (⟨⟨"a", 1, .ofMillis 1⟩, 0⟩ : Grant) ∈ (run sampleActions).granted := by decide
  have hstands : (run sampleActions).Stands ⟨⟨"a", 2, .ofSeconds 60⟩, 5000000⟩ :=
    ⟨by decide, by decide, by decide⟩
  exact ⟨by decide, by decide, (htake "a" (.ofSeconds 1) (by decide)).1.2 ⟨_, hstands, rfl⟩,
    (hrelease _ hfirst "a").2 ⟨_, hstands, by decide, rfl⟩, herror "a" ⟨0⟩ _ (by decide)⟩

end LockHistory

end Reconciliation
