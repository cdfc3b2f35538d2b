import Reconciliation.Proofs.Json
import Reconciliation.Proofs.Numerals
import Reconciliation.Settings

/-!
# Settings that load

Settings load when each of the nine numbers does, and then every number lies within its bounds
(`Settings.load_bounds`). All numbers within the bounds can be had: a lookup that sets one key to
a numeral gives that number, and leaves the others as they are where nothing is set
(`Settings.load_only`).
-/

namespace Reconciliation

open Json (ok_of_bind)
open Text

namespace Setting

/-- No two settings have the same key. -/
theorem key_inj {s t : Setting} : s.key = t.key ↔ s = t := by
  refine ⟨fun h => ?_, fun h => h ▸ rfl⟩
  revert h
  cases s <;> cases t <;> decide +kernel

/-- The default of a number lies within its bounds. -/
theorem default_bounds (s : Setting) : s.least ≤ s.default ∧ s.default ≤ s.greatest := by
  cases s <;> decide

/-- No setting takes more than the numbers of 64 bits hold. -/
theorem greatest_le_limit (s : Setting) : s.greatest ≤ limit := by
  cases s <;> decide

/-- The lookup that sets one number and nothing else. -/
def only (s : Setting) (n : Nat) : String → Option String := fun key =>
  if key = s.key then some (Nat.repr n) else none

end Setting

namespace Settings

variable {lookup : String → Option String} {settings : Settings} {n : Nat}

/-- A number that loads lies within its bounds. -/
theorem number_bounds {s : Setting} (h : number lookup s = .ok n) :
    s.least ≤ n ∧ n ≤ s.greatest := by
  unfold number at h
  split at h
  · cases h
    exact s.default_bounds
  · split at h
    · cases h
    · split at h
      · rename_i hbounds
        cases h
        exact hbounds
      · cases h

/-- The number of a setting: days for the expiry, seconds for the others. -/
def value (settings : Settings) : Setting → Nat
  | .defaultExpiry => settings.defaultExpiry / day
  | .lockMax => settings.lockMax
  | .holdBack => settings.holdBack
  | .failureWindow => settings.failureWindow
  | .aggregateInterval => settings.aggregateInterval
  | .shortTermInterval => settings.shortTermInterval
  | .mediumTermInterval => settings.mediumTermInterval
  | .longTermInterval => settings.longTermInterval
  | .purgeInterval => settings.purgeInterval

/-- **Settings that load** hold the numbers that were read. -/
theorem load_number (h : load lookup = .ok settings) (s : Setting) :
    number lookup s = .ok (settings.value s) := by
  obtain ⟨defaultExpiry, hdefaultExpiry, h⟩ := ok_of_bind h
  obtain ⟨lockMax, hlockMax, h⟩ := ok_of_bind h
  obtain ⟨holdBack, hholdBack, h⟩ := ok_of_bind h
  obtain ⟨failureWindow, hfailureWindow, h⟩ := ok_of_bind h
  obtain ⟨aggregateInterval, haggregateInterval, h⟩ := ok_of_bind h
  obtain ⟨shortTermInterval, hshortTermInterval, h⟩ := ok_of_bind h
  obtain ⟨mediumTermInterval, hmediumTermInterval, h⟩ := ok_of_bind h
  obtain ⟨longTermInterval, hlongTermInterval, h⟩ := ok_of_bind h
  obtain ⟨purgeInterval, hpurgeInterval, h⟩ := ok_of_bind h
  cases h
  cases s with
  | defaultExpiry => rw [hdefaultExpiry, value, Nat.mul_div_cancel _ (by decide)]
  | lockMax => exact hlockMax
  | holdBack => exact hholdBack
  | failureWindow => exact hfailureWindow
  | aggregateInterval => exact haggregateInterval
  | shortTermInterval => exact hshortTermInterval
  | mediumTermInterval => exact hmediumTermInterval
  | longTermInterval => exact hlongTermInterval
  | purgeInterval => exact hpurgeInterval

/-- What loads lies within its bounds. -/
theorem load_bounds (h : load lookup = .ok settings) (s : Setting) :
    s.least ≤ settings.value s ∧ settings.value s ≤ s.greatest :=
  number_bounds (load_number h s)

/-- Numbers that all read give settings that hold them. -/
theorem load_of_numbers {f : Setting → Nat} (h : ∀ s, number lookup s = .ok (f s)) :
    ∃ settings, load lookup = .ok settings ∧ ∀ s, settings.value s = f s := by
  refine ⟨_, by simp only [load, h]; rfl, fun s => ?_⟩
  cases s with
  | defaultExpiry => exact Nat.mul_div_cancel _ (by decide)
  | _ => rfl

/-- A number that is set within its bounds is read, and the others keep their defaults. -/
theorem number_only (s : Setting) (hleast : s.least ≤ n) (hgreatest : n ≤ s.greatest)
    (t : Setting) : number (s.only n) t = .ok (if t = s then n else t.default) := by
  by_cases hts : t = s
  · subst hts
    have hdigits : (Nat.repr n).toList = Nat.toDigits 10 n := String.toList_ofList
    have hblank : ∀ c ∈ Nat.toDigits 10 n, isBlank c = false := fun c hc =>
      isBlank_of_isDigit (isDigit_of_mem_toDigits hc)
    have hpresent : present (t.only n) t.key = some (Nat.repr n) := by
      have hshown : allBlank (Nat.repr n) = false := by
        rw [allBlank, hdigits, List.all_eq_false]
        obtain ⟨c, hc⟩ := List.exists_mem_of_ne_nil _ (Nat.toDigits_ne_nil (b := 10) (n := n))
        exact ⟨c, hc, by rw [hblank c hc]; exact Bool.false_ne_true⟩
      simp only [present, Setting.only, if_true, Option.filter, hshown, Bool.not_false]
    simp only [number, hpresent, hdigits, trim_eq hblank,
      readNatural_toDigits (Nat.le_trans hgreatest t.greatest_le_limit)]
    rw [if_pos ⟨hleast, hgreatest⟩, if_pos trivial]
  · have hkey : t.key ≠ s.key := fun h => hts (Setting.key_inj.1 h)
    have hpresent : present (s.only n) t.key = none := by
      simp only [present, Setting.only, if_neg hkey, Option.filter]
    simp only [number, hpresent, if_neg hts]

/-- **Every number within its bounds** can be had, by itself. -/
theorem load_only (s : Setting) (hleast : s.least ≤ n) (hgreatest : n ≤ s.greatest) :
    ∃ settings, load (s.only n) = .ok settings ∧
      ∀ t, settings.value t = if t = s then n else t.default :=
  load_of_numbers (number_only s hleast hgreatest)

end Settings

end Reconciliation
