import Reconciliation.Text.Classes
import Reconciliation.Text.Numeral
import Reconciliation.Time.Calendar
import Reconciliation.Time.Instant

/-!
# Reading instants

The forms in which an instant may be given: a date, one of `T`, `t` or a space, a time of
day, and a zone. Blanks are allowed before numbers, before the marks `-` and `:`, before
the zone and at the end. The year is signed with any number of digits or has at most
four; other numbers have one or two. Of a fraction nine digits count. The zone is `Z`,
`UTC` or an offset of less than a day, which is taken off.

A reader takes what it needs from the front of the text and hands back the rest.
-/

namespace Reconciliation.Instant

open Text

/-- A reader of the front of a text: a value and the rest, or nothing. -/
abbrev Front (α : Type) := List Char → Option (α × List Char)

/-- The run of digits at the front, at most `most` of them, and the rest. -/
def digitRun (most : Nat) (s : List Char) : List Char × List Char :=
  let ds := (s.take most).takeWhile isDigit
  (ds, s.drop ds.length)

/-- A number of one to `most` digits. -/
def number (most : Nat) : Front Nat := fun s =>
  let (ds, rest) := digitRun most s
  if ds = [] then none else some (digitsValue 0 ds, rest)

/-- A number of one to two digits within bounds, blanks before it allowed. -/
def field (least greatest : Nat) : Front Nat := fun s => do
  let (n, rest) ← number 2 (trimStart s)
  if least ≤ n ∧ n ≤ greatest then some (n, rest) else none

/-- A mark that has to stand at the front, blanks before it allowed. -/
def mark (c : Char) (s : List Char) : Option (List Char) :=
  match trimStart s with
  | x :: rest => if x = c then some rest else none
  | [] => none

/-- A year: signed with any number of digits, or at most four digits. -/
def year : Front Int := fun s =>
  match trimStart s with
  | '-' :: rest => (number rest.length rest).map fun (n, r) => (-(n : Int), r)
  | '+' :: rest => (number rest.length rest).map fun (n, r) => ((n : Int), r)
  | rest => (number 4 rest).map fun (n, r) => ((n : Int), r)

/-- A date that exists. -/
def date : Front Date := fun s => do
  let (y, s) ← year s
  let s ← mark '-' s
  let (m, s) ← field 1 12 s
  let s ← mark '-' s
  let (d, s) ← field 1 31 s
  let date : Date := ⟨y, m, d⟩
  if date.Exists then some (date, s) else none

/-- The nanoseconds of a fraction: nine digits count, further ones are passed over. -/
def nanoseconds : Front Nat := fun s =>
  match s with
  | '.' :: rest =>
    let (ds, rest) := digitRun 9 rest
    if ds = [] then none
    else
      let zeros := List.replicate (9 - ds.length) '0'
      some (digitsValue 0 (ds ++ zeros), rest.dropWhile isDigit)
  | _ => some (0, s)

/-- A time of day as the second of the day and its nanoseconds; second 60 is a leap second. -/
def time : Front (Nat × Nat) := fun s => do
  let (h, s) ← field 0 23 s
  let s ← mark ':' s
  let (m, s) ← field 0 59 s
  let s ← mark ':' s
  let (sec, s) ← field 0 60 s
  let (nano, s) ← nanoseconds s
  if sec = 60 then some ((h * 3600 + m * 60 + 59, nano + 1000000000), s)
  else some ((h * 3600 + m * 60 + sec, nano), s)

/-- Two digits as a number. -/
def twoDigits : Front Nat := fun s =>
  match s with
  | a :: b :: rest =>
    if isDigit a ∧ isDigit b then some (digitsValue 0 [a, b], rest) else none
  | _ => none

/-- Hours and minutes of an offset, in seconds. -/
def offsetSize : Front Int := fun s => do
  let (h, s) ← twoDigits s
  let (m, s) ← twoDigits (s.dropWhile fun c => c == ':' || isBlank c)
  if m ≤ 59 then some ((h * 3600 + m * 60 : Nat), s) else none

/-- A zone as its offset from UTC in seconds. -/
def zone : Front Int := fun s =>
  match trimStart s with
  | 'Z' :: rest | 'z' :: rest => some (0, rest)
  | '+' :: rest => offsetSize rest
  | '-' :: rest => (offsetSize rest).map fun (n, r) => (-n, r)
  | '\u2212' :: rest => (offsetSize rest).map fun (n, r) => (-n, r)
  | u :: t :: c :: rest =>
    if u.toUpper = 'U' ∧ t.toUpper = 'T' ∧ c.toUpper = 'C' then some (0, rest) else none
  | _ => none

/-- The instant that a text gives, if it has one of the forms and the instant exists. -/
def read? (s : List Char) : Option Instant := do
  let (date, s) ← date s
  let s ← match s with
    | 'T' :: rest | 't' :: rest | ' ' :: rest => some rest
    | _ => none
  let ((second, nano), s) ← time s
  let (offset, s) ← zone s
  if trimStart s ≠ [] ∨ offset ≤ -86400 ∨ 86400 ≤ offset then none
  else
    let here := date.dayNumber * 86400 + second
    if here < earliestSecond ∨ latestSecond < here then none
    else of? (here - offset) nano

end Reconciliation.Instant
