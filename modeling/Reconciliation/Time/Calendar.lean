/-!
# The civil calendar

Days since 1970-01-01 and dates of the Gregorian calendar, extended to all years. Both
directions count in years that begin on the first of March, so that the leap day is a
year's last day, and in eras of 400 years, which all have 146097 days.

`Date.dayNumber` gives a date's day, `Date.ofDayNumber` the date of a day, and
`Date.Exists` says which triples of numbers are dates.
-/

namespace Reconciliation

/-- A date of the Gregorian calendar: a year, a month from 1 and a day from 1. -/
structure Date where
  year : Int
  month : Nat
  day : Nat
deriving DecidableEq, Repr

namespace Date

/-- Whether a year has a 29th of February. -/
def leapYear (y : Int) : Bool := y % 4 == 0 && (y % 100 != 0 || y % 400 == 0)

/-- How many days a month has. -/
def monthLength (y : Int) (m : Nat) : Nat :=
  if m = 2 then (if leapYear y then 29 else 28)
  else if m = 4 ∨ m = 6 ∨ m = 9 ∨ m = 11 then 30
  else 31

/-- A triple is a date if its month exists and has that day. -/
def Exists (d : Date) : Prop :=
  1 ≤ d.month ∧ d.month ≤ 12 ∧ 1 ≤ d.day ∧ d.day ≤ monthLength d.year d.month

instance (d : Date) : Decidable d.Exists := by unfold Exists; infer_instance

/-- Days from 1970-01-01 to the date. -/
def dayNumber (d : Date) : Int :=
  let year := if d.month ≤ 2 then d.year - 1 else d.year
  let month : Int := if d.month ≤ 2 then d.month + 9 else d.month - 3
  let ofEra := year % 400
  let dayOfYear := (153 * month + 2) / 5 + d.day - 1
  year / 400 * 146097 + (ofEra * 365 + ofEra / 4 - ofEra / 100 + dayOfYear) - 719468

/-- The date so many days from 1970-01-01. -/
def ofDayNumber (n : Int) : Date :=
  let z := n + 719468
  let day := z % 146097
  let ofEra := (day - day / 1460 + day / 36524 - day / 146096) / 365
  let dayOfYear := day - (365 * ofEra + ofEra / 4 - ofEra / 100)
  let month := (5 * dayOfYear + 2) / 153
  let year := ofEra + z / 146097 * 400
  { year := if month < 10 then year else year + 1
    month := (if month < 10 then month + 3 else month - 9).toNat
    day := (dayOfYear - (153 * month + 2) / 5 + 1).toNat }

end Date

end Reconciliation
