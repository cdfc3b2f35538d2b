import Reconciliation.Proofs.Calendar
import Reconciliation.Proofs.Digits
import Reconciliation.Time.Layout
import Reconciliation.Time.Reader

/-!
# Instants are read from their written forms

Each part of a written instant is read by the reader of that part, which hands back what comes
after it: numbers of two digits, the year with or without sign, the date, the fraction, which
may be left out, and the time of day, where a leap second is the sixtieth.

Main statement: `Instant.read?_write`. Either written form is read as the instant that it was
made from.
-/

namespace Reconciliation.Instant

open Text

variable {c : Char} {ds rest : List Char} {n most : Nat}

/-! ## Numbers -/

/-- A run of digits is read up to the most there may be, or to where it stops. -/
theorem digitRun_append (hds : ∀ c ∈ ds, isDigit c = true) (hmost : ds.length ≤ most)
    (hrest : ds.length = most ∨ Stops isDigit rest) : digitRun most (ds ++ rest) = (ds, rest) := by
  have htake : ((ds ++ rest).take most).takeWhile isDigit = ds := by
    rw [List.take_append, List.take_of_length_le hmost]
    refine takeWhile_run hds ?_
    rcases hrest with hlen | hstop
    · rw [hlen, Nat.sub_self, List.take_zero]
      exact stops_nil
    · cases rest with
      | nil =>
        rw [List.take_nil]
        exact stops_nil
      | cons c rest =>
        cases most - ds.length with
        | zero => exact stops_nil
        | succ k => exact stops_cons.2 (stops_cons.1 hstop)
  simp only [digitRun, htake, List.drop_left]

/-- A number of at most so many digits is read from a text that begins with them and goes on with no
digit, or that has had so many already. -/
theorem number_append (hne : ds ≠ []) (hds : ∀ c ∈ ds, isDigit c = true) (hmost : ds.length ≤ most)
    (hrest : ds.length = most ∨ Stops isDigit rest) :
    number most (ds ++ rest) = some (digitsValue 0 ds, rest) := by
  rw [number, digitRun_append hds hmost hrest]
  exact if_neg hne

/-- What does not begin with a blank is read from its first character on. -/
theorem trimStart_eq (h : isBlank c = false) (s : List Char) : trimStart (c :: s) = c :: s :=
  List.dropWhile_cons_of_neg (by simp [h])

/-- A number that is filled up with zeros has no white space in front of it. -/
theorem trimStart_padded (width n : Nat) (rest : List Char) :
    trimStart (padded width n ++ rest) = padded width n ++ rest := by
  obtain ⟨c, ds, h, hc⟩ := padded_eq_cons width n
  rw [h]
  exact trimStart_eq (isBlank_of_isDigit hc) _

/-- A number of two digits within bounds. -/
theorem field_padded {least greatest : Nat} (hlt : n < 100) (hleast : least ≤ n)
    (hgreatest : n ≤ greatest) (rest : List Char) :
    field least greatest (padded 2 n ++ rest) = some (n, rest) := by
  have hlen : (padded 2 n).length = 2 := length_padded (by decide) hlt
  rw [field, trimStart_padded, number_append (padded_ne_nil 2 n) (fun _ => isDigit_of_mem_padded)
    (Nat.le_of_eq hlen) (.inl hlen), digitsValue_padded]
  exact if_pos ⟨hleast, hgreatest⟩

/-- A mark is read off if it stands at the front, and it is no white space. -/
theorem mark_cons (h : isBlank c = false) (s : List Char) : mark c (c :: s) = some s := by
  rw [mark, trimStart_eq h]
  exact if_pos rfl

/-! ## Dates -/

/-- **A year** with or without sign. -/
theorem year_yearDigits (y : Int) (hrest : Stops isDigit rest) :
    year (yearDigits y ++ rest) = some (y, rest) := by
  have hpadded : ∀ {n most : Nat}, (padded 4 n).length ≤ most →
      ((padded 4 n).length = most ∨ Stops isDigit rest) →
      number most (padded 4 n ++ rest) = some (n, rest) := by
    intro n most hmost h
    rw [number_append (padded_ne_nil 4 n) (fun _ => isDigit_of_mem_padded) hmost h,
      digitsValue_padded]
  have hsigned : ∀ n, number (padded 4 n ++ rest).length (padded 4 n ++ rest) = some (n, rest) :=
    fun n => hpadded (by rw [List.length_append]; omega) (.inr hrest)
  rw [yearDigits]
  split
  · -- four digits, of which the first one is no sign
    rename_i hy
    have hlen : (padded 4 y.toNat).length = 4 := length_padded (by decide) (by omega)
    obtain ⟨c, ds, hds, hc⟩ := padded_eq_cons 4 y.toNat
    have hstart : year (padded 4 y.toNat ++ rest) =
        (number 4 (padded 4 y.toNat ++ rest)).map fun p => ((p.1 : Int), p.2) := by
      rw [year, trimStart_padded, hds]
      split
      case h_3 => rfl
      all_goals
        rename_i heq
        obtain ⟨rfl, -⟩ := List.cons.inj heq
        exact absurd hc (by decide)
    rw [hstart, hpadded (Nat.le_of_eq hlen) (.inl hlen)]
    exact congrArg (fun y => some (y, rest)) (Int.toNat_of_nonneg hy.1)
  · rename_i hy
    split
    · rename_i hneg
      have hstart : year ('-' :: padded 4 y.natAbs ++ rest) =
          (number (padded 4 y.natAbs ++ rest).length (padded 4 y.natAbs ++ rest)).map
            fun p => (-(p.1 : Int), p.2) := rfl
      have hvalue : -((y.natAbs : Nat) : Int) = y := by omega
      rw [hstart, hsigned]
      exact congrArg (fun y => some (y, rest)) hvalue
    · have hstart : year ('+' :: padded 4 y.natAbs ++ rest) =
          (number (padded 4 y.natAbs ++ rest).length (padded 4 y.natAbs ++ rest)).map
            fun p => ((p.1 : Int), p.2) := rfl
      have hvalue : ((y.natAbs : Nat) : Int) = y := by omega
      rw [hstart, hsigned]
      exact congrArg (fun y => some (y, rest)) hvalue

/-- **A date** that exists. -/
theorem date_dateDigits {d : Date} (hd : d.Exists) (rest : List Char) :
    date (dateDigits d ++ rest) = some (d, rest) := by
  have hday31 : d.day ≤ 31 := by
    refine Nat.le_trans hd.2.2.2 ?_
    rw [Date.monthLength]
    split
    · split <;> decide
    · split <;> decide
  have hyear : ∀ s, year (yearDigits d.year ++ '-' :: s) = some (d.year, '-' :: s) :=
    fun s => year_yearDigits d.year (stops_cons.2 (by decide))
  have hmark : ∀ s, mark '-' ('-' :: s) = some s := mark_cons (by decide)
  have hmonth : ∀ s, field 1 12 (padded 2 d.month ++ s) = some (d.month, s) :=
    field_padded (Nat.lt_of_le_of_lt hd.2.1 (by decide)) hd.1 hd.2.1
  have hday : ∀ s, field 1 31 (padded 2 d.day ++ s) = some (d.day, s) :=
    field_padded (Nat.lt_of_le_of_lt hday31 (by decide)) hd.2.2.1 hday31
  simp only [date, dateDigits, List.append_assoc, List.cons_append, hyear, hmark, hmonth, hday,
    Option.bind_eq_bind, Option.bind_some]
  exact if_pos hd

/-! ## Times -/

/-- A fraction of so many digits counts in units of as many places. -/
theorem nanoseconds_point {width value : Nat} (hwidth : 0 < width) (hle : width ≤ 9)
    (hvalue : value < 10 ^ width) (hrest : Stops isDigit rest) :
    nanoseconds ('.' :: padded width value ++ rest) = some (value * 10 ^ (9 - width), rest) := by
  have hlen := length_padded hwidth hvalue
  have hrun : digitRun 9 (padded width value ++ rest) = (padded width value, rest) :=
    digitRun_append (fun _ => isDigit_of_mem_padded) (hlen.symm ▸ hle) (.inr hrest)
  rw [List.cons_append, nanoseconds, hrun]
  dsimp only
  rw [if_neg (padded_ne_nil width value), digitsValue_append_zeros, digitsValue_padded, hlen,
    hrest.dropWhile_eq]

/-- **A fraction**, which is left out where it is zero. -/
theorem nanoseconds_fraction {nano : Nat} (hnano : nano < 1000000000) (hrest : Stops isDigit rest)
    (hpoint : Stops (· == '.') rest) : nanoseconds (fraction nano ++ rest) = some (nano, rest) := by
  rw [fraction]
  split_ifs with hzero hmilli hmicro
  · rw [hzero, List.nil_append, nanoseconds]
    rintro r rfl
    exact absurd (stops_cons.1 hpoint) (by decide)
  · rw [nanoseconds_point (by decide) (by decide) (by omega) hrest]
    exact congrArg (fun n => some (n, rest)) (Nat.div_mul_cancel (Nat.dvd_of_mod_eq_zero hmilli))
  · rw [nanoseconds_point (by decide) (by decide) (by omega) hrest]
    exact congrArg (fun n => some (n, rest)) (Nat.div_mul_cancel (Nat.dvd_of_mod_eq_zero hmicro))
  · rw [nanoseconds_point (by decide) (by decide) hnano hrest]
    exact congrArg (fun n => some (n, rest)) (Nat.mul_one nano)

/-- **A time of day**, which may be a leap second. -/
theorem time_timeOfDay {second nano : Nat} (hsecond : second < 86400) (hnano : nano < 2000000000)
    (hleap : 1000000000 ≤ nano → second % 60 = 59) (hrest : Stops isDigit rest)
    (hpoint : Stops (· == '.') rest) :
    time (timeOfDay second nano ++ rest) = some ((second, nano), rest) := by
  have hmark : ∀ s, mark ':' (':' :: s) = some s := mark_cons (by decide)
  have hhour : ∀ s, field 0 23 (padded 2 (second / 3600) ++ s) = some (second / 3600, s) :=
    field_padded (by omega) (by omega) (by omega)
  have hminute : ∀ s, field 0 59 (padded 2 (second / 60 % 60) ++ s) =
      some (second / 60 % 60, s) := field_padded (by omega) (by omega) (by omega)
  have hshown : ∀ s, field 0 60 (padded 2 (second % 60 + nano / 1000000000) ++ s) =
      some (second % 60 + nano / 1000000000, s) := field_padded (by omega) (by omega) (by omega)
  have hfraction : nanoseconds (fraction (nano % 1000000000) ++ rest) =
      some (nano % 1000000000, rest) :=
    nanoseconds_fraction (Nat.mod_lt _ (by decide)) hrest hpoint
  simp only [time, timeOfDay, List.append_assoc, List.cons_append, hmark, hhour, hminute, hshown,
    hfraction, Option.bind_eq_bind, Option.bind_some]
  split
  · -- the sixtieth second is shown for a leap second alone
    congr 3
    · omega
    · omega
  · congr 3
    · omega
    · omega

/-- **A written instant**, in either form, is read as that instant. -/
theorem read?_write {form : Form} (hform : form = compact ∨ form = spaced) (t : Instant) :
    read? (t.write form) = some t := by
  have hdate : ∀ s, date (dateDigits (Date.ofDayNumber (t.second / 86400)) ++ s) =
      some (Date.ofDayNumber (t.second / 86400), s) :=
    date_dateDigits (Date.exists_ofDayNumber _)
  have hday : t.secondOfDay.toNat < 86400 := by
    rw [secondOfDay]
    omega
  have hsecond : (Date.ofDayNumber (t.second / 86400)).dayNumber * 86400 + t.secondOfDay.toNat =
      t.second := by
    rw [Date.dayNumber_ofDayNumber, secondOfDay]
    omega
  have hleap : 1000000000 ≤ t.nano → t.secondOfDay.toNat % 60 = 59 := by
    intro h
    have h59 := t.leap h
    rw [secondOfDay]
    omega
  have hof : of? t.second t.nano = some t :=
    dif_pos ⟨⟨t.earliest_le, t.le_latest⟩, t.nano_lt, t.leap⟩
  have hrange : ¬ (t.second < earliestSecond ∨ latestSecond < t.second) := by
    have h1 := t.earliest_le
    have h2 := t.le_latest
    omega
  have htime : time (timeOfDay t.secondOfDay.toNat t.nano ++ form.zone) =
      some ((t.secondOfDay.toNat, t.nano), form.zone) := by
    rcases hform with rfl | rfl <;>
      exact time_timeOfDay hday t.nano_lt hleap (stops_cons.2 (by decide))
        (stops_cons.2 (by decide))
  have hzone : zone form.zone = some (0, []) := by
    rcases hform with rfl | rfl <;> decide
  -- both forms are of UTC, so the second that is shown is the second itself
  have hend : (if trimStart [] ≠ [] ∨ (0 : Int) ≤ -86400 ∨ (86400 : Int) ≤ 0 then none
      else
        let here := (Date.ofDayNumber (t.second / 86400)).dayNumber * 86400 + t.secondOfDay.toNat
        if here < earliestSecond ∨ latestSecond < here then none else of? (here - 0) t.nano) =
      some t := by
    rw [if_neg (by decide)]
    simp only [hsecond, Int.sub_zero]
    rw [if_neg hrange]
    exact hof
  simp only [read?, write, List.append_assoc, hdate, Option.bind_eq_bind, Option.bind_some]
  rcases hform with rfl | rfl
  · exact Option.bind_eq_some_iff.2 ⟨_, htime, Option.bind_eq_some_iff.2 ⟨_, hzone, hend⟩⟩
  · exact Option.bind_eq_some_iff.2 ⟨_, htime, Option.bind_eq_some_iff.2 ⟨_, hzone, hend⟩⟩

end Reconciliation.Instant
