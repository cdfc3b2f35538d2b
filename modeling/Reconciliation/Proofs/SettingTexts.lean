import Reconciliation.Proofs.Loading

/-!
# Settings by their texts

What the text under a key says is told without reading it: it gives a number (`Setting.Gives`),
or it is refused with an error (`Setting.Refuses`), and never both. Addresses are kept as they
stand, unless they are blank (`Settings.Address`).

* `Settings.number_eq_ok_iff`, `Settings.number_eq_error_iff`: a number is read from the text
  under its own key, whatever else is set.
* `Settings.load_of_refused`: numbers are read in the order of `Setting.checked`, so of several
  texts that are refused the first in that order is reported.
* `Settings.loads_by_keys`: what is loaded from texts, and what is reported, for every lookup.
-/

namespace Reconciliation

open Text

namespace Setting

variable {s : Setting} {text : Option String} {raw : String} {n m : Nat} {e : SettingError}

/-- The order in which the numbers are read. -/
def checked : List Setting :=
  [defaultExpiry, lockMax, holdBack, failureWindow, aggregateInterval, shortTermInterval,
    mediumTermInterval, longTermInterval, purgeInterval]

/-- Every setting is checked. -/
theorem mem_checked (s : Setting) : s ∈ checked := by
  cases s <;> decide

/-- A text of blanks alone. -/
def Blank (raw : String) : Prop := ∀ c ∈ raw.toList, isBlank c = true

/-- What a key has where it has no text, or a blank one. -/
def Unset (text : Option String) : Prop := ∀ raw ∈ text, Blank raw

/-- A text that is a numeral when the blanks at its ends are gone, of a number that is not too
large to be read. -/
def Numeral (raw : String) (n : Nat) : Prop :=
  (∃ t, Trimmed raw.toList t ∧ SpellsNatural n t) ∧ n ≤ limit

/-- The numbers that a setting may have: no interval and no term of a lock is empty, a hold-back
and a failure window last a hundred years at most, and so does a default expiry, in days. -/
def InRange : Setting → Nat → Prop
  | holdBack, n | failureWindow, n => n ≤ 100 * 365 * 86400
  | defaultExpiry, n => 1 ≤ n ∧ n ≤ 36500
  | _, n => 1 ≤ n

/-- The number that a setting has by the text under its key. -/
inductive Gives (s : Setting) : Option String → Nat → Prop
  | default {text : Option String} (h : Unset text) : Gives s text s.default
  | number {raw : String} {n : Nat} (h : Numeral raw n) (hrange : s.InRange n) :
      Gives s (some raw) n

/-- The error with which the text under the key of a setting is refused: it shows a text that is
no numeral as it stands, and a number out of range in its plain form. -/
inductive Refuses (s : Setting) : Option String → SettingError → Prop
  | noNumeral {raw : String} (hraw : ¬ Blank raw) (h : ∀ n, ¬ Numeral raw n) :
      Refuses s (some raw) ⟨s.key, raw⟩
  | outOfRange {raw : String} {n : Nat} (h : Numeral raw n) (hrange : ¬ s.InRange n) :
      Refuses s (some raw) ⟨s.key, Nat.repr n⟩

/-- Among the numbers that can be read, those in range are the ones between the least and the
greatest value of the setting; for most of them only the least one is a bound. -/
theorem inRange_iff (hn : n ≤ limit) : s.InRange n ↔ s.least ≤ n ∧ n ≤ s.greatest := by
  cases s <;> simp [InRange, least, greatest, longestWindow, longestExpiry, hn]

/-- A numeral is what the reader of natural numbers accepts between white space. -/
theorem numeral_iff : Numeral raw n ↔ readNatural limit (trim raw.toList) = .ok n := by
  rw [readNatural_eq_ok_iff]
  exact and_congr_left fun _ =>
    ⟨fun ⟨t, ht, hspells⟩ => trimmed_iff.1 ht ▸ hspells, fun h => ⟨_, trimmed_trim _, h⟩⟩

/-- A numeral has a digit, so it is not blank. -/
theorem Numeral.not_blank (h : Numeral raw n) : ¬ Blank raw := by
  intro hblank
  have htrim : trim raw.toList = [] := trimmed_iff.1
    ⟨⟨raw.toList, [], by simp, hblank, by simp⟩, stops_nil, stops_nil⟩
  rw [numeral_iff, htrim] at h
  cases h

/-- A text gives a number or is refused. -/
theorem gives_or_refuses (s : Setting) (text : Option String) :
    (∃ n, s.Gives text n) ∨ ∃ e, s.Refuses text e := by
  by_cases hunset : Unset text
  · exact .inl ⟨_, .default hunset⟩
  · simp only [Unset, not_forall] at hunset
    obtain ⟨raw, rfl, hraw⟩ := hunset
    by_cases hnumeral : ∃ n, Numeral raw n
    · obtain ⟨n, hn⟩ := hnumeral
      by_cases hrange : s.InRange n
      · exact .inl ⟨n, .number hn hrange⟩
      · exact .inr ⟨_, .outOfRange hn hrange⟩
    · exact .inr ⟨_, .noNumeral hraw (not_exists.1 hnumeral)⟩

end Setting

namespace Settings

open Setting

variable {lookup : String → Option String} {settings : Settings} {s : Setting} {key raw : String}
  {n : Nat} {e : SettingError} {url : Option String}

/-! ## One number -/

/-- A text of nothing but white space is taken for none. -/
theorem allBlank_eq_true_iff : allBlank raw = true ↔ Blank raw := List.all_eq_true

/-- A variable is present with the text that was looked up, not trimmed, if that is not blank. -/
theorem present_eq_some_iff :
    present lookup key = some raw ↔ lookup key = some raw ∧ ¬ Blank raw := by
  rw [present, Option.filter_eq_some_iff, Bool.not_eq_true', ← Bool.not_eq_true,
    allBlank_eq_true_iff]

/-- It is absent if it is not set, or set to a blank text. -/
theorem present_eq_none_iff : present lookup key = none ↔ Unset (lookup key) := by
  rw [present, Option.filter_eq_none_iff]
  simp only [Bool.not_eq_true', Bool.not_eq_false, allBlank_eq_true_iff]
  rfl

/-- A setting that gives a number is read as that number. -/
theorem number_of_gives (h : s.Gives (lookup s.key) n) : number lookup s = .ok n := by
  generalize htext : lookup s.key = text at h
  cases h with
  | default h => rw [number, present_eq_none_iff.2 (htext ▸ h)]
  | number h hrange =>
    rw [number, present_eq_some_iff.2 ⟨htext, h.not_blank⟩]
    dsimp only
    rw [numeral_iff.1 h]
    exact if_pos ((inRange_iff h.2).1 hrange)

/-- A setting that is refused for a reason gives the error of that reason, with its own key. -/
theorem number_of_refuses (h : s.Refuses (lookup s.key) e) : number lookup s = .error e := by
  generalize htext : lookup s.key = text at h
  cases h with
  | @noNumeral raw hraw h =>
    rw [number, present_eq_some_iff.2 ⟨htext, hraw⟩]
    dsimp only
    cases hread : readNatural limit (trim raw.toList) with
    | error why => rfl
    | ok n => exact absurd (numeral_iff.2 hread) (h n)
  | outOfRange h hrange =>
    rw [number, present_eq_some_iff.2 ⟨htext, h.not_blank⟩]
    dsimp only
    rw [numeral_iff.1 h]
    exact if_neg fun hbounds => hrange ((inRange_iff h.2).2 hbounds)

/-- **A number is read** exactly where the text under its own key gives it. -/
theorem number_eq_ok_iff : number lookup s = .ok n ↔ s.Gives (lookup s.key) n := by
  refine ⟨fun h => ?_, number_of_gives⟩
  rcases gives_or_refuses s (lookup s.key) with ⟨m, hm⟩ | ⟨e, he⟩
  · rw [number_of_gives hm] at h
    exact Except.ok.inj h ▸ hm
  · rw [number_of_refuses he] at h
    cases h

/-- **A number is not read** exactly where the text under its own key is refused. -/
theorem number_eq_error_iff : number lookup s = .error e ↔ s.Refuses (lookup s.key) e := by
  refine ⟨fun h => ?_, number_of_refuses⟩
  rcases gives_or_refuses s (lookup s.key) with ⟨m, hm⟩ | ⟨e', he⟩
  · rw [number_of_gives hm] at h
    cases h
  · rw [number_of_refuses he] at h
    exact Except.error.inj h ▸ he

/-! ## All of them -/

/-- Settings with the given numbers, of which that for the expiry counts days. -/
def ofNumbers (f : Setting → Nat) (databaseUrl redisUrl : Option String) : Settings where
  holdBack := f .holdBack
  defaultExpiry := f .defaultExpiry * day
  failureWindow := f .failureWindow
  aggregateInterval := f .aggregateInterval
  shortTermInterval := f .shortTermInterval
  mediumTermInterval := f .mediumTermInterval
  longTermInterval := f .longTermInterval
  purgeInterval := f .purgeInterval
  lockMax := f .lockMax
  databaseUrl := databaseUrl
  redisUrl := redisUrl

/-- The address that is kept of the text under a key: the text as it stands, unless it is blank. -/
inductive Address : Option String → Option String → Prop
  | unset {text : Option String} (h : Unset text) : Address text none
  | shown {url : String} (h : ¬ Blank url) : Address (some url) (some url)

/-- An address is the text of its variable as it stands, if that is present; whether it is well
formed is not asked here. -/
theorem address_iff : Address (lookup key) url ↔ present lookup key = url := by
  generalize htext : lookup key = text
  constructor
  · rintro (h | h)
    · exact present_eq_none_iff.2 (htext ▸ h)
    · exact present_eq_some_iff.2 ⟨htext, h⟩
  · rintro rfl
    cases h : present lookup key with
    | none => exact .unset (htext ▸ present_eq_none_iff.1 h)
    | some raw =>
      obtain ⟨hraw, hblank⟩ := present_eq_some_iff.1 h
      rw [← htext, hraw]
      exact .shown hblank

/-- If each setting gives a number, then the numbers are loaded, each into its own field. -/
theorem load_of_gives {f : Setting → Nat} (h : ∀ s : Setting, s.Gives (lookup s.key) (f s)) :
    load lookup =
      .ok (ofNumbers f (present lookup "DATABASE_URL") (present lookup "REDIS_URL")) := by
  have hnumber : ∀ s, number lookup s = .ok (f s) := fun s => number_of_gives (h s)
  simp only [load, hnumber]
  rfl

/-- Loading reads the numbers in their order and does nothing else that can fail. -/
theorem load_eq_mapM (lookup : String → Option String) :
    load lookup = checked.mapM (number lookup) >>= fun ns =>
      pure (ofNumbers (fun s => ns.getD (checked.idxOf s) 0) (present lookup "DATABASE_URL")
        (present lookup "REDIS_URL")) := by
  simp only [checked, List.mapM_cons, List.mapM_nil, bind_assoc, pure_bind]
  rfl

/-- A list is gone through up to the first failure. -/
theorem mapM_of_error {α β ε : Type} {f : α → Except ε β} {a : α} {e : ε} {before : List α}
    (hbefore : ∀ b ∈ before, ∃ c, f b = .ok c) (ha : f a = .error e) (after : List α) :
    (before ++ a :: after).mapM f = .error e := by
  induction before with
  | nil => rw [List.nil_append, List.mapM_cons, ha]; rfl
  | cons b before ih =>
    obtain ⟨c, hc⟩ := hbefore b List.mem_cons_self
    rw [List.cons_append, List.mapM_cons, hc, ih fun x hx => hbefore x (List.mem_cons_of_mem b hx)]
    rfl

/-- The first text that is refused is reported. -/
theorem load_of_refused {before after : List Setting} (hchecked : checked = before ++ s :: after)
    (hbefore : ∀ t ∈ before, ∃ n, t.Gives (lookup t.key) n) (h : s.Refuses (lookup s.key) e) :
    load lookup = .error e := by
  have hread : checked.mapM (number lookup) = .error e := by
    rw [hchecked]
    refine mapM_of_error (fun t ht => ?_) (number_of_refuses h) after
    obtain ⟨n, hn⟩ := hbefore t ht
    exact ⟨n, number_of_gives hn⟩
  rw [load_eq_mapM, hread]
  rfl

/-- Where not all of some settings are given a number, there is a first one that is refused. -/
theorem exists_first_refused (lookup : String → Option String) (ss : List Setting) :
    (∀ s ∈ ss, ∃ n, s.Gives (lookup s.key) n) ∨
      ∃ before s after e, ss = before ++ s :: after ∧
        (∀ t ∈ before, ∃ n, t.Gives (lookup t.key) n) ∧ s.Refuses (lookup s.key) e := by
  induction ss with
  | nil => exact .inl (by simp)
  | cons s ss ih =>
    rcases gives_or_refuses s (lookup s.key) with hs | ⟨e, he⟩
    · rcases ih with hall | ⟨before, t, after, e, rfl, hbefore, ht⟩
      · exact .inl (List.forall_mem_cons.2 ⟨hs, hall⟩)
      · exact .inr ⟨s :: before, t, after, e, rfl, List.forall_mem_cons.2 ⟨hs, hbefore⟩, ht⟩
    · exact .inr ⟨[], s, ss, e, rfl, by simp, he⟩

/-- Loading succeeds where every key gives a number, and else it reports the first text that is
refused. -/
theorem load_cases (lookup : String → Option String) :
    (∃ f : Setting → Nat, (∀ s : Setting, s.Gives (lookup s.key) (f s)) ∧ load lookup =
      .ok (ofNumbers f (present lookup "DATABASE_URL") (present lookup "REDIS_URL"))) ∨
    ∃ before s after e, checked = before ++ s :: after ∧
      (∀ t ∈ before, ∃ n, t.Gives (lookup t.key) n) ∧ s.Refuses (lookup s.key) e ∧
        load lookup = .error e := by
  rcases exists_first_refused lookup checked with hall | ⟨before, s, after, e, hsplit, hbefore, hs⟩
  · obtain ⟨f, hf⟩ := Classical.skolem.1 fun s => hall s (mem_checked s)
    exact .inl ⟨f, hf, load_of_gives hf⟩
  · exact .inr ⟨before, s, after, e, hsplit, hbefore, hs, load_of_refused hsplit hbefore hs⟩

/-- What was loaded for a setting is found under that setting: no two share a field. -/
theorem value_ofNumbers (f : Setting → Nat) (databaseUrl redisUrl : Option String) (s : Setting) :
    (ofNumbers f databaseUrl redisUrl).value s = f s := by
  cases s with
  | defaultExpiry => exact Nat.mul_div_cancel _ (by decide)
  | _ => rfl

/-- Settings whose expiry is a number of days are made of their numbers and their addresses. -/
theorem ofNumbers_value (h : settings.defaultExpiry = settings.value .defaultExpiry * day) :
    ofNumbers settings.value settings.databaseUrl settings.redisUrl = settings := by
  cases settings
  simp only [ofNumbers, value] at h ⊢
  rw [← h]

/-- Settings that hold what the texts under their keys say: of each number what the text under its
own key gives, and of each address what is kept of its text. -/
structure Holds (lookup : String → Option String) (settings : Settings) : Prop where
  number : ∀ s : Setting, s.Gives (lookup s.key) (settings.value s)
  wholeDays : settings.defaultExpiry = settings.value .defaultExpiry * day
  databaseUrl : Address (lookup "DATABASE_URL") settings.databaseUrl
  redisUrl : Address (lookup "REDIS_URL") settings.redisUrl

/-- What loads holds what the texts say, and there is nothing else that does. -/
theorem load_eq_ok_iff : load lookup = .ok settings ↔ settings.Holds lookup := by
  constructor
  · intro h
    rcases load_cases lookup with ⟨f, hf, hload⟩ | ⟨-, -, -, e, -, -, -, hload⟩
    · obtain rfl := Except.ok.inj (hload.symm.trans h)
      refine ⟨fun s => ?_, ?_, address_iff.2 rfl, address_iff.2 rfl⟩
      · rw [value_ofNumbers]
        exact hf s
      · rw [value_ofNumbers]
        rfl
    · exact absurd (hload.symm.trans h) (by simp)
  · intro h
    rw [load_of_gives h.number, address_iff.1 h.databaseUrl, address_iff.1 h.redisUrl,
      ofNumbers_value h.wholeDays]

/-- The first text that is refused is reported, and there is nothing else to report. -/
theorem load_eq_error_iff : load lookup = .error e ↔
    ∃ before s after, checked = before ++ s :: after ∧
      (∀ t ∈ before, ∃ n, t.Gives (lookup t.key) n) ∧ s.Refuses (lookup s.key) e := by
  constructor
  · intro h
    rcases load_cases lookup with ⟨f, -, hload⟩ | ⟨before, s, after, e', hsplit, hbefore, hs, hload⟩
    · exact absurd (hload.symm.trans h) (by simp)
    · obtain rfl := Except.error.inj (hload.symm.trans h)
      exact ⟨before, s, after, hsplit, hbefore, hs⟩
  · rintro ⟨before, s, after, hsplit, hbefore, hs⟩
    exact load_of_refused hsplit hbefore hs

/-- A text gives one number at most. -/
theorem gives_unique {text : Option String} {m : Nat} (hn : s.Gives text n) (hm : s.Gives text m) :
    n = m := by
  have hread : number (fun _ => text) s = .ok n := number_of_gives hn
  exact Except.ok.inj (hread.symm.trans (number_of_gives hm))

/-- At most one address is kept of a text. -/
theorem Address.unique {text url' : Option String} (h : Address text url)
    (h' : Address text url') : url = url' := by
  have hkept {u : Option String} (h : Address ((fun _ => text) "") u) :
      present (fun _ => text) "" = u := address_iff.1 h
  exact (hkept h).symm.trans (hkept h')

/-- **Settings by their texts.** What loads holds what the texts under its keys say, and that is
all that does. Settings load exactly when every key gives its number. Else the first text that is
refused, in the order in which the numbers are read, is reported. Nothing that is held depends on
the text under another key. -/
theorem loads_by_keys (lookup : String → Option String) :
    (∀ settings, load lookup = .ok settings ↔ settings.Holds lookup) ∧
    ((∃ settings, load lookup = .ok settings) ↔ ∀ s : Setting, ∃ n, s.Gives (lookup s.key) n) ∧
    (∀ e, load lookup = .error e ↔ ∃ before s after, checked = before ++ s :: after ∧
      (∀ t ∈ before, ∃ n, t.Gives (lookup t.key) n) ∧ s.Refuses (lookup s.key) e) ∧
    ∀ other settings settings', load lookup = .ok settings → load other = .ok settings' →
      (∀ s : Setting, lookup s.key = other s.key → settings.value s = settings'.value s) ∧
      (lookup "DATABASE_URL" = other "DATABASE_URL" →
        settings.databaseUrl = settings'.databaseUrl) ∧
      (lookup "REDIS_URL" = other "REDIS_URL" → settings.redisUrl = settings'.redisUrl) := by
  refine ⟨fun settings => load_eq_ok_iff, ⟨?_, fun h => ?_⟩, fun e => load_eq_error_iff, ?_⟩
  · rintro ⟨settings, h⟩ s
    exact ⟨_, (load_eq_ok_iff.1 h).number s⟩
  · obtain ⟨f, hf⟩ := Classical.skolem.1 h
    exact ⟨_, load_of_gives hf⟩
  · intro other settings settings' hload hload'
    have h := load_eq_ok_iff.1 hload
    have h' := load_eq_ok_iff.1 hload'
    refine ⟨fun s htext => ?_, fun htext => ?_, fun htext => ?_⟩
    · exact gives_unique (htext ▸ h.number s) (h'.number s)
    · exact (htext ▸ h.databaseUrl).unique h'.databaseUrl
    · exact (htext ▸ h.redisUrl).unique h'.redisUrl

end Settings

end Reconciliation
