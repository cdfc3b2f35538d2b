import Reconciliation.Time.Span

/-!
# Instants

A point in time, as the second since 1970-01-01 and the nanoseconds within it. The range
is closed: from the first second of the year -262143 to the last nanosecond of the year
262142. A leap second is written as the second before it with a billion nanoseconds or
more, and can only follow the last second of a minute.

Instants are ordered by second and then by nanosecond; `rank` puts that order into one
number. Moving an instant by a span (`add?`) fails where the result leaves the range.
-/

namespace Reconciliation

/-- The first second that has an instant, `-262143-01-01T00:00:00`. -/
def earliestSecond : Int := -8334601228800

/-- The last second that has an instant, `+262142-12-31T23:59:59`. -/
def latestSecond : Int := 8210266876799

/-- A point in time. -/
structure Instant where
  second : Int
  nano : Nat
  earliest_le : earliestSecond ≤ second
  le_latest : second ≤ latestSecond
  nano_lt : nano < 2000000000
  leap : 1000000000 ≤ nano → second % 60 = 59
deriving DecidableEq

namespace Instant

/-- The instant with this second and nanosecond, if there is one. -/
def of? (second : Int) (nano : Nat) : Option Instant :=
  if h : (earliestSecond ≤ second ∧ second ≤ latestSecond) ∧
      nano < 2000000000 ∧ (1000000000 ≤ nano → second % 60 = 59) then
    some ⟨second, nano, h.1.1, h.1.2, h.2.1, h.2.2⟩
  else none

/-- The instant so many nanoseconds after 1970-01-01, outside leap seconds. -/
def ofNanos? (n : Int) : Option Instant := of? (n / 1000000000) (n % 1000000000).toNat

/-- The start of the range. -/
def earliest : Instant :=
  ⟨earliestSecond, 0, by decide, by decide, by decide, by decide⟩

/-- The end of the range. -/
def latest : Instant :=
  ⟨latestSecond, 999999999, by decide, by decide, by decide, by decide⟩

/-- One number that orders instants by second, then by nanosecond. -/
def rank (t : Instant) : Int := t.second * 2000000000 + t.nano

instance : LE Instant := ⟨fun a b => a.rank ≤ b.rank⟩

instance : LT Instant := ⟨fun a b => a.rank < b.rank⟩

instance (a b : Instant) : Decidable (a ≤ b) := inferInstanceAs (Decidable (a.rank ≤ b.rank))

instance (a b : Instant) : Decidable (a < b) := inferInstanceAs (Decidable (a.rank < b.rank))

instance : Max Instant := ⟨fun a b => if a ≤ b then b else a⟩

instance : Min Instant := ⟨fun a b => if a ≤ b then a else b⟩

/-- The instant without its part of a second. -/
def wholeSecond (t : Instant) : Instant :=
  ⟨t.second, 0, t.earliest_le, t.le_latest, by decide, fun h => absurd h (by decide)⟩

/-- The second within the day. -/
def secondOfDay (t : Instant) : Int := t.second % 86400

/-- The instant a span later. Within a leap second only a step of less than a second that does
not leave it stays there; any other step leaves from the ordinary second it lies beside: the
one before when going forward, the one after when going back. -/
def add? (t : Instant) (d : Span) : Option Instant :=
  if t.nano < 1000000000 then
    ofNanos? (t.second * 1000000000 + t.nano + d.nanos)
  else if 0 < d.seconds ∨ (0 < d.subsecond ∧ 2000000000 ≤ t.nano + d.subsecond) then
    ofNanos? (t.second * 1000000000 + (t.nano - 1000000000) + d.nanos)
  else if d.seconds < 0 then
    ofNanos? ((t.second + 1) * 1000000000 + (t.nano - 1000000000) + d.nanos)
  else
    of? t.second (t.nano + d.subsecond).toNat

/-- The instant a span earlier. -/
def sub? (t : Instant) (d : Span) : Option Instant := t.add? (-d)

/-- The span from `u` to `t`. A leap second counts when it lies between the two within the
hours of a day. -/
def since (t u : Instant) : Span :=
  let leap : Int :=
    if u.secondOfDay < t.secondOfDay ∧ 1000000000 ≤ u.nano then 1
    else if t.secondOfDay < u.secondOfDay ∧ 1000000000 ≤ t.nano then -1
    else 0
  ⟨(t.second - u.second + leap) * 1000000000 + ((t.nano : Int) - u.nano)⟩

@[ext] theorem ext {a b : Instant} (hs : a.second = b.second) (hn : a.nano = b.nano) : a = b := by
  cases a; cases b; cases hs; cases hn; rfl

/-- The rank determines the instant. -/
theorem rank_inj {a b : Instant} : a.rank = b.rank ↔ a = b := by
  refine ⟨fun h => ?_, fun h => h ▸ rfl⟩
  have ha := a.nano_lt
  have hb := b.nano_lt
  simp only [rank] at h
  exact ext (by omega) (by omega)

@[simp] theorem wholeSecond_second (t : Instant) : t.wholeSecond.second = t.second := rfl

@[simp] theorem wholeSecond_nano (t : Instant) : t.wholeSecond.nano = 0 := rfl

end Instant

end Reconciliation
