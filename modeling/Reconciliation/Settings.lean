import Reconciliation.Text.Classes
import Reconciliation.Text.Numeral
import Reconciliation.Text.Quoted
import Reconciliation.Time.Span

/-!
# Settings

The pipeline is set up by texts under fixed keys: nine numbers and two addresses. A key
that is unset or blank keeps its default. A number that does not read or lies outside its
range is an error that names its key; of several the first in a fixed order is reported.

Each number is described by one `Setting`, so that `Settings.load` treats them all alike.
-/

namespace Reconciliation

open Text

/-- The settings that are numbers, in the order in which they are checked. -/
inductive Setting where
  | defaultExpiry
  | lockMax
  | holdBack
  | failureWindow
  | aggregateInterval
  | shortTermInterval
  | mediumTermInterval
  | longTermInterval
  | purgeInterval
deriving DecidableEq, Repr

namespace Setting

/-- The key under which the number stands. -/
def key : Setting → String
  | defaultExpiry => "RECONCILER_DEFAULT_EXPIRY_DAYS"
  | lockMax => "RECONCILER_LOCK_MAX_SECS"
  | holdBack => "RECONCILER_HOLD_BACK_SECS"
  | failureWindow => "RECONCILER_FAILURE_METRIC_WINDOW_SECS"
  | aggregateInterval => "RECONCILER_AGGREGATE_INTERVAL_SECS"
  | shortTermInterval => "RECONCILER_SHORT_TERM_INTERVAL_SECS"
  | mediumTermInterval => "RECONCILER_MEDIUM_TERM_INTERVAL_SECS"
  | longTermInterval => "RECONCILER_LONG_TERM_INTERVAL_SECS"
  | purgeInterval => "RECONCILER_PURGE_INTERVAL_SECS"

/-- The largest number that is read at all. -/
def limit : Nat := 18446744073709551615

/-- The longest hold-back and failure window: a hundred years of seconds. -/
def longestWindow : Nat := 100 * 365 * 24 * 60 * 60

/-- The longest default expiry: a hundred years of days. -/
def longestExpiry : Nat := 100 * 365

/-- The least number allowed. -/
def least : Setting → Nat
  | holdBack | failureWindow => 0
  | _ => 1

/-- The greatest number allowed. -/
def greatest : Setting → Nat
  | holdBack | failureWindow => longestWindow
  | defaultExpiry => longestExpiry
  | _ => limit

/-- The number where the key is unset: days for the expiry, seconds for the others. -/
def default : Setting → Nat
  | defaultExpiry => 7
  | lockMax => 30 * 60
  | holdBack => 60
  | failureWindow => 2 * 60 * 60
  | aggregateInterval => 60
  | shortTermInterval => 10 * 60
  | mediumTermInterval => 60 * 60
  | longTermInterval => 6 * 60 * 60
  | purgeInterval => 60 * 60

end Setting

/-- A text that is no valid value for its key. -/
structure SettingError where
  key : String
  value : String
deriving DecidableEq, Repr

/-- The wording of a setting error. -/
def SettingError.message (e : SettingError) : String :=
  "invalid value for " ++ e.key ++ ": " ++ quoted e.value

/-- What the pipeline is set up with. All times are in seconds. -/
structure Settings where
  holdBack : Nat
  defaultExpiry : Nat
  failureWindow : Nat
  aggregateInterval : Nat
  shortTermInterval : Nat
  mediumTermInterval : Nat
  longTermInterval : Nat
  purgeInterval : Nat
  lockMax : Nat
  databaseUrl : Option String
  redisUrl : Option String
deriving DecidableEq, Repr

namespace Settings

/-- How long a day is, in seconds. -/
def day : Nat := 86400

/-- The settings where nothing is set. -/
def default : Settings where
  holdBack := Setting.holdBack.default
  defaultExpiry := Setting.defaultExpiry.default * day
  failureWindow := Setting.failureWindow.default
  aggregateInterval := Setting.aggregateInterval.default
  shortTermInterval := Setting.shortTermInterval.default
  mediumTermInterval := Setting.mediumTermInterval.default
  longTermInterval := Setting.longTermInterval.default
  purgeInterval := Setting.purgeInterval.default
  lockMax := Setting.lockMax.default
  databaseUrl := none
  redisUrl := none

/-- The text under a key, unless it is blank. -/
def present (lookup : String → Option String) (key : String) : Option String :=
  (lookup key).filter (!allBlank ·)

/-- The number of a setting. A text that is no number is reported as it stands, a number out
of range in its plain form. -/
def number (lookup : String → Option String) (s : Setting) : Except SettingError Nat :=
  match present lookup s.key with
  | none => .ok s.default
  | some raw =>
    match readNatural Setting.limit (trim raw.toList) with
    | .error _ => .error ⟨s.key, raw⟩
    | .ok n =>
      if s.least ≤ n ∧ n ≤ s.greatest then .ok n else .error ⟨s.key, Nat.repr n⟩

/-- The settings that a lookup of texts by key gives. -/
def load (lookup : String → Option String) : Except SettingError Settings := do
  -- the first setting in this order that is refused gives the error
  let defaultExpiry ← number lookup .defaultExpiry
  let lockMax ← number lookup .lockMax
  let holdBack ← number lookup .holdBack
  let failureWindow ← number lookup .failureWindow
  let aggregateInterval ← number lookup .aggregateInterval
  let shortTermInterval ← number lookup .shortTermInterval
  let mediumTermInterval ← number lookup .mediumTermInterval
  let longTermInterval ← number lookup .longTermInterval
  let purgeInterval ← number lookup .purgeInterval
  return {
    holdBack
    defaultExpiry := defaultExpiry * day
    failureWindow
    aggregateInterval
    shortTermInterval
    mediumTermInterval
    longTermInterval
    purgeInterval
    lockMax
    databaseUrl := present lookup "DATABASE_URL"
    redisUrl := present lookup "REDIS_URL" }

end Settings

end Reconciliation
