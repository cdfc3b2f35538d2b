import Reconciliation.Time.Calendar

/-!
# Days and their dates

The calendar counts in years that begin in March, in eras of 400 of them. Inside an era a day
is so many centuries, groups of four years, years and days after its start
(`Date.Counted`), where only the last year of a group has a 366th day, and of the last years of
centuries only that of the era. The division that finds the year agrees with that count
(`Date.Counted.year_eq`).

* `Date.exists_ofDayNumber`: the date of a day exists.
* `Date.dayNumber_ofDayNumber`: it has the number of that day.
-/

namespace Reconciliation.Date

/-! ## Years of an era -/

/-- A day of an era as centuries, groups of four years, years and days of its start. -/
structure Counted (day century group year rest : Int) : Prop where
  eq : day = 36524 * century + 1461 * group + 365 * year + rest
  century_nonneg : 0 ≤ century
  century_le : century ≤ 3
  group_nonneg : 0 ≤ group
  group_le : group ≤ 24
  year_nonneg : 0 ≤ year
  year_le : year ≤ 3
  rest_nonneg : 0 ≤ rest
  rest_le : rest ≤ 365
  leap : rest = 365 → year = 3 ∧ (group = 24 → century = 3)

/-- Every day of an era has a count. -/
theorem exists_counted {day : Int} (hnonneg : 0 ≤ day) (hlt : day < 146097) :
    ∃ century group year rest, Counted day century group year rest := by
  obtain ⟨c, hc0, hc3, hc, hc'⟩ : ∃ c : Int, 0 ≤ c ∧ c ≤ 3 ∧ 36524 * c ≤ day ∧
      (day < 36524 * c + 36524 ∨ c = 3 ∧ day = 146096) :=
    ⟨day / 36524 - day / 146096, by omega, by omega, by omega, by omega⟩
  obtain ⟨g, hg0, hg24, hg, hg'⟩ : ∃ g : Int, 0 ≤ g ∧ g ≤ 24 ∧ 1461 * g ≤ day - 36524 * c ∧
      day - 36524 * c < 1461 * g + 1461 :=
    ⟨(day - 36524 * c) / 1461, by omega, by omega, by omega, by omega⟩
  -- what is left is a day of a group, the last of which is the 366th of a year
  obtain ⟨s, hs⟩ : ∃ s, s = day - 36524 * c - 1461 * g := ⟨_, rfl⟩
  obtain ⟨y, hy0, hy3, hy, hy'⟩ : ∃ y : Int, 0 ≤ y ∧ y ≤ 3 ∧ 365 * y ≤ s ∧
      (s < 365 * y + 365 ∨ y = 3 ∧ s = 1460) :=
    ⟨s / 365 - s / 1460, by omega, by omega, by omega, by omega⟩
  exact ⟨c, g, y, s - 365 * y, by omega, hc0, hc3, hg0, hg24, hy0, hy3, by omega, by omega,
    by omega⟩

variable {day century group year rest : Int}

/-- The year of the era in which a day lies. -/
theorem Counted.year_eq (h : Counted day century group year rest) :
    (day - day / 1460 + day / 36524 - day / 146096) / 365 = 100 * century + 4 * group + year := by
  obtain ⟨rfl, hc0, hc3, hg0, hg24, hy0, hy3, hr0, hr, hleap⟩ := h
  have hlast : 1461 * group + 365 * year + rest < 36524 ∨
      century = 3 ∧ group = 24 ∧ year = 3 ∧ rest = 365 := by omega
  rcases hlast with hlast | ⟨rfl, rfl, rfl, rfl⟩
  · have hcentury : (36524 * century + 1461 * group + 365 * year + rest) / 36524 = century := by
      omega
    have hera : (36524 * century + 1461 * group + 365 * year + rest) / 146096 = 0 := by omega
    -- only late in the last year of a group is there a group more of 1460 days
    have hgroup : (36524 * century + 1461 * group + 365 * year + rest) / 1460 =
          25 * century + group ∨
        (36524 * century + 1461 * group + 365 * year + rest) / 1460 = 25 * century + group + 1 ∧
          3 ≤ year ∧ 1 ≤ rest := by omega
    rw [hcentury, hera]
    omega
  · rfl

/-- The days of that year before a day. -/
theorem Counted.rest_eq (h : Counted day century group year rest) :
    day - (365 * (100 * century + 4 * group + year) + (100 * century + 4 * group + year) / 4 -
      (100 * century + 4 * group + year) / 100) = rest := by
  obtain ⟨rfl, hc0, hc3, hg0, hg24, hy0, hy3, hr0, hr, hleap⟩ := h
  omega

/-- The rule of the calendar: every fourth year, but of the full centuries only every fourth. -/
theorem leapYear_iff (y : Int) : leapYear y = true ↔ y % 4 = 0 ∧ (y % 100 ≠ 0 ∨ y % 400 = 0) := by
  simp [leapYear]

/-- What the calendar computes for a day: the year from March, its era and the day of the year. -/
theorem ofDayNumber_eq (n : Int) : ∃ y dayOfYear : Int, 0 ≤ dayOfYear ∧ dayOfYear ≤ 365 ∧
    (dayOfYear = 365 → leapYear (y + 1) = true) ∧
    n = y / 400 * 146097 + (y % 400 * 365 + y % 400 / 4 - y % 400 / 100 + dayOfYear) - 719468 ∧
    ofDayNumber n =
      { year := if (5 * dayOfYear + 2) / 153 < 10 then y else y + 1
        month := (if (5 * dayOfYear + 2) / 153 < 10 then (5 * dayOfYear + 2) / 153 + 3
          else (5 * dayOfYear + 2) / 153 - 9).toNat
        day := (dayOfYear - (153 * ((5 * dayOfYear + 2) / 153) + 2) / 5 + 1).toNat } := by
  obtain ⟨day, hday⟩ : ∃ day, day = (n + 719468) % 146097 := ⟨_, rfl⟩
  have hday0 : 0 ≤ day := by omega
  have hday1 : day < 146097 := by omega
  obtain ⟨c, g, y, r, h⟩ := exists_counted hday0 hday1
  -- the year of the era, from its centuries, groups of four years and years
  obtain ⟨e, he⟩ : ∃ e, e = 100 * c + 4 * g + y := ⟨_, rfl⟩
  have hyear := h.year_eq
  have hrest := h.rest_eq
  have hrange : 0 ≤ e ∧ e ≤ 399 := by
    obtain ⟨-, hc0, hc3, hg0, hg24, hy0, hy3, -, -, -⟩ := h
    omega
  rw [← he] at hyear hrest
  refine ⟨e + (n + 719468) / 146097 * 400, r, h.rest_nonneg, h.rest_le, ?_, ?_, ?_⟩
  · intro hr
    obtain ⟨hy, hgroup⟩ := h.leap hr
    obtain ⟨-, hc0, hc3, hg0, hg24, -, -, -, -, -⟩ := h
    rw [leapYear_iff]
    omega
  · have hmod : (e + (n + 719468) / 146097 * 400) % 400 = e := by omega
    have hdiv : (e + (n + 719468) / 146097 * 400) / 400 = (n + 719468) / 146097 := by omega
    rw [hmod, hdiv]
    omega
  · rw [ofDayNumber]
    simp only [← hday, hyear, hrest]

/-! ## Months -/

/-- **The date of a day exists.** -/
theorem exists_ofDayNumber (n : Int) : (ofDayNumber n).Exists := by
  obtain ⟨y, dayOfYear, hnonneg, hle, hleap, -, hdate⟩ := ofDayNumber_eq n
  obtain ⟨m, hm⟩ : ∃ m, m = (5 * dayOfYear + 2) / 153 := ⟨_, rfl⟩
  have hm0 : 0 ≤ m := by omega
  have hm11 : m ≤ 11 := by omega
  rw [hdate, ← hm]
  by_cases hmonth : m < 10
  · simp only [Exists, monthLength, if_pos hmonth]
    refine ⟨by omega, by omega, by omega, ?_⟩
    rw [if_neg (by omega)]
    split
    · -- the months of 30 days
      have hshort : m = 1 ∨ m = 3 ∨ m = 6 ∨ m = 8 := by omega
      rcases hshort with rfl | rfl | rfl | rfl <;> omega
    · omega
  · simp only [Exists, monthLength, if_neg hmonth]
    refine ⟨by omega, by omega, by omega, ?_⟩
    obtain rfl | rfl : m = 10 ∨ m = 11 := by omega
    · rw [if_neg (by omega), if_neg (by omega)]
      omega
    · rw [if_pos (by decide)]
      -- February has a 29th exactly where the year from March has a 366th day
      by_cases hlast : dayOfYear = 365
      · rw [if_pos (hleap hlast)]
        omega
      · split <;> omega

/-- **The date of a day has its number.** -/
theorem dayNumber_ofDayNumber (n : Int) : (ofDayNumber n).dayNumber = n := by
  obtain ⟨y, dayOfYear, hnonneg, hle, -, hn, hdate⟩ := ofDayNumber_eq n
  obtain ⟨m, hm⟩ : ∃ m, m = (5 * dayOfYear + 2) / 153 := ⟨_, rfl⟩
  have hm0 : 0 ≤ m := by omega
  have hm11 : m ≤ 11 := by omega
  have hday : (153 * m + 2) / 5 ≤ dayOfYear := by omega
  rw [hdate, ← hm, dayNumber]
  by_cases hmonth : m < 10
  · simp only [if_pos hmonth]
    rw [if_neg (by omega), if_neg (by omega)]
    omega
  · simp only [if_neg hmonth]
    rw [if_pos (by omega), if_pos (by omega)]
    omega

end Reconciliation.Date
