import Reconciliation.Text.Numeral
import Reconciliation.Time.Calendar
import Reconciliation.Time.Instant

/-!
# Writing instants

An instant is written as a date and a time of day in UTC, in two forms that differ in
their separators only: the compact one of stored data and the spaced one of messages.
Years from 0 to 9999 have four digits, any other year a sign and at least four. The
fraction has 0, 3, 6 or 9 digits, the fewest that are exact. A leap second shows as
second 60.
-/

namespace Reconciliation.Instant

open Text

/-- What stands between date and time, and what closes the text. -/
structure Form where
  separator : List Char
  zone : List Char

/-- The form of stored data: `2023-11-14T22:13:20Z`. -/
def compact : Form := ⟨['T'], ['Z']⟩

/-- The form of messages: `2023-11-14 22:13:20 UTC`. -/
def spaced : Form := ⟨[' '], [' ', 'U', 'T', 'C']⟩

/-- A year: four digits, or a sign and at least four. -/
def yearDigits (y : Int) : List Char :=
  if 0 ≤ y ∧ y ≤ 9999 then padded 4 y.toNat
  else (if y < 0 then '-' else '+') :: padded 4 y.natAbs

/-- The fraction of a second in the fewest of 0, 3, 6 or 9 digits that are exact. -/
def fraction (nano : Nat) : List Char :=
  if nano = 0 then []
  else if nano % 1000000 = 0 then '.' :: padded 3 (nano / 1000000)
  else if nano % 1000 = 0 then '.' :: padded 6 (nano / 1000)
  else '.' :: padded 9 nano

/-- The time of day: hour, minute and second of the day's second, and the fraction; a leap
second is the sixtieth. -/
def timeOfDay (second nano : Nat) : List Char :=
  let extra := nano / 1000000000
  padded 2 (second / 3600) ++ ':' :: padded 2 (second / 60 % 60) ++
    ':' :: padded 2 (second % 60 + extra) ++ fraction (nano % 1000000000)

/-- The date: year, month and day. -/
def dateDigits (d : Date) : List Char :=
  yearDigits d.year ++ '-' :: padded 2 d.month ++ '-' :: padded 2 d.day

/-- The instant in one of the two forms. -/
def write (form : Form) (t : Instant) : List Char :=
  dateDigits (Date.ofDayNumber (t.second / 86400)) ++ form.separator ++
    timeOfDay t.secondOfDay.toNat t.nano ++ form.zone

/-- The form of stored data as a string. -/
def text (t : Instant) : String := String.ofList (t.write compact)

/-- The form of messages as a string. -/
def display (t : Instant) : String := String.ofList (t.write spaced)

end Reconciliation.Instant
