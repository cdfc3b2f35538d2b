import Reconciliation.Time.Instant

/-!
# Exact arithmetic on instants

Moving an instant back by a span fails where the result lies before the first instant.
`Instant.rankBefore` is the same motion without that limit: the rank which the result
would have. Main statement: `Instant.rank_lt_rankBefore_iff`. An instant lies before the
exact result if and only if moving back succeeds and it lies before what that gives; so
where moving back fails, no instant does.

Moving back also keeps the order (`Instant.rankBefore_le_rankBefore`), except between a leap
second and the ordinary second after it, which have the same counts of nanoseconds.

Outside of leap seconds moving in either direction adds nanoseconds (`Instant.add?_ordinary`), and
fails exactly where the sum is outside of the range (`Instant.ofNanos?_eq_none_iff`). Moving
forward fails exactly beyond its end, from wherever (`Instant.add?_eq_none_iff`).
-/

namespace Reconciliation

/-- Going back, seconds and what they cut off count from the other side. -/
theorem Span.seconds_neg (d : Span) : (-d).seconds = -d.seconds := Int.neg_tdiv ..

/-- A span and its opposite have opposite parts of a second. -/
theorem Span.subsecond_neg (d : Span) : (-d).subsecond = -d.subsecond := Int.neg_tmod ..

/-- A span that is not negative has whole seconds rounded down. -/
theorem Span.seconds_of_nonneg {d : Span} (hd : 0 ≤ d.nanos) :
    d.seconds = d.nanos / 1000000000 := Int.tdiv_eq_ediv_of_nonneg hd

/-- The rest of it are nanoseconds below a second. -/
theorem Span.subsecond_of_nonneg {d : Span} (hd : 0 ≤ d.nanos) :
    d.subsecond = d.nanos % 1000000000 := Int.tmod_eq_emod_of_nonneg hd

namespace Instant

/-- The instant so many seconds after 1970-01-01, or the end of the range. -/
def ofSecond (n : Nat) : Instant := (of? n 0).getD latest

/-- The rank of the point a span before an instant, inside the range of instants or not. Within a
leap second less than a second back counts on its own scale; any longer step counts from the
ordinary second after it. -/
def rankBefore (t : Instant) (d : Span) : Int :=
  if t.nano < 1000000000 ∨ 1000000000 ≤ d.nanos then
    (t.second * 1000000000 + t.nano - d.nanos) / 1000000000 * 2000000000 +
      (t.second * 1000000000 + t.nano - d.nanos) % 1000000000
  else t.rank - d.nanos

/-- An instant that is made has the second and the nanoseconds that were given. -/
theorem of?_eq_some {second : Int} {nano : Nat} {t : Instant} :
    of? second nano = some t ↔ t.second = second ∧ t.nano = nano := by
  rw [of?]
  split
  · rw [Option.some_inj]
    exact ⟨fun h => h ▸ ⟨rfl, rfl⟩, fun h => ext h.1.symm h.2.symm⟩
  · rename_i h
    refine iff_of_false (by simp) ?_
    rintro ⟨rfl, rfl⟩
    exact h ⟨⟨t.earliest_le, t.le_latest⟩, t.nano_lt, t.leap⟩

/-- What lies before a count of nanoseconds, as long as that is not past the last instant. -/
theorem lt_ofNanos?_iff {n : Int} (hn : n / 1000000000 ≤ latestSecond) (x : Instant) :
    (∃ c, ofNanos? n = some c ∧ x < c) ↔
      x.rank < n / 1000000000 * 2000000000 + n % 1000000000 := by
  have hx := x.earliest_le
  have hnano := x.nano_lt
  constructor
  · rintro ⟨c, hc, hlt⟩
    obtain ⟨hs, hm⟩ := of?_eq_some.1 hc
    change x.rank < c.rank at hlt
    simp only [rank] at hlt ⊢
    omega
  · intro hlt
    have hs : earliestSecond ≤ n / 1000000000 := by
      simp only [rank] at hlt
      omega
    let c : Instant := ⟨n / 1000000000, (n % 1000000000).toNat, hs, hn, by omega, by omega⟩
    refine ⟨c, of?_eq_some.2 ⟨rfl, rfl⟩, ?_⟩
    change x.rank < c.rank
    simp only [rank, c] at hlt ⊢
    omega

/-- **Moving back is exact**: what lies before the exact result is what lies before the instant
that moving back gives. -/
theorem rank_lt_rankBefore_iff {t : Instant} {d : Span} (hd : 0 ≤ d.nanos) (x : Instant) :
    x.rank < t.rankBefore d ↔ ∃ c, t.sub? d = some c ∧ x < c := by
  have ht := t.le_latest
  have hnano := t.nano_lt
  have hneg : (-d).nanos = -d.nanos := rfl
  simp only [sub?, add?, rankBefore]
  rw [Span.seconds_neg, Span.subsecond_neg, Span.seconds_of_nonneg hd, Span.subsecond_of_nonneg hd,
    hneg]
  by_cases hleap : t.nano < 1000000000
  · rw [if_pos (.inl hleap), if_pos hleap]
    exact (lt_ofNanos?_iff (by omega) x).symm
  · have hforward : ¬ (0 < -(d.nanos / 1000000000) ∨
        0 < -(d.nanos % 1000000000) ∧ 2000000000 ≤ t.nano + -(d.nanos % 1000000000)) := by omega
    rw [if_neg hleap, if_neg hforward]
    by_cases hlong : 1000000000 ≤ d.nanos
    · have hn : (t.second + 1) * 1000000000 + ((t.nano : Int) - 1000000000) + -d.nanos =
          t.second * 1000000000 + t.nano - d.nanos := by omega
      rw [if_pos (.inr hlong), if_pos (by omega), hn]
      exact (lt_ofNanos?_iff (by omega) x).symm
    · -- the step stays on the scale of the leap second
      rw [if_neg (by omega), if_neg (by omega)]
      obtain ⟨c, hc⟩ : ∃ c, of? t.second (t.nano + -(d.nanos % 1000000000)).toNat = some c :=
        ⟨⟨t.second, (t.nano + -(d.nanos % 1000000000)).toNat, t.earliest_le, ht, by omega,
          fun _ => t.leap (by omega)⟩, of?_eq_some.2 ⟨rfl, rfl⟩⟩
      obtain ⟨hs, hm⟩ := of?_eq_some.1 hc
      have hrank : c.rank = t.rank - d.nanos := by
        simp only [rank]
        omega
      rw [hc, ← hrank]
      constructor
      · intro h
        exact ⟨c, rfl, h⟩
      · rintro ⟨c', hc', h⟩
        exact Option.some.inj hc' ▸ h

/-- Instants are in the order of their ranks. -/
theorem le_iff_rank_le {a b : Instant} : a ≤ b ↔ a.rank ≤ b.rank := Iff.rfl

/-- Nanoseconds since 1970-01-01. A leap second has the counts of the ordinary second after it. -/
def count (t : Instant) : Int := t.second * 1000000000 + t.nano

/-- Outside of leap seconds what is earlier has a smaller count. -/
theorem count_le_count {a b : Instant} (h : a ≤ b) (ha : a.nano < 1000000000) :
    a.count ≤ b.count := by
  rw [le_iff_rank_le] at h
  have hb := b.nano_lt
  simp only [rank] at h
  simp only [count]
  omega

/-- Going back the same span keeps the order of instants that have the order of their counts. -/
theorem rankBefore_le_rankBefore {a b : Instant} {d : Span} (hd : 0 ≤ d.nanos) (h : a ≤ b)
    (hcount : a.count ≤ b.count) : a.rankBefore d ≤ b.rankBefore d := by
  rw [le_iff_rank_le] at h
  have ha := a.nano_lt
  have hb := b.nano_lt
  simp only [rank] at h
  simp only [count] at hcount
  simp only [rankBefore, rank]
  split <;> split <;> omega

/-! ### Counts of nanoseconds -/

/-- No instant is counted before the first one. -/
theorem earliest_le_count (t : Instant) : earliest.count ≤ t.count := by
  have hsecond := t.earliest_le
  change earliestSecond * 1000000000 + 0 ≤ t.second * 1000000000 + t.nano
  omega

/-- Outside of leap seconds the count tells the instant. -/
theorem ofNanos?_eq_some_iff {n : Int} {t : Instant} :
    ofNanos? n = some t ↔ t.count = n ∧ t.nano < 1000000000 := by
  have hnano := t.nano_lt
  rw [ofNanos?, of?_eq_some, count]
  omega

theorem count_earliest : earliest.count = earliestSecond * 1000000000 := rfl

theorem count_latest : latest.count = latestSecond * 1000000000 + 999999999 := rfl

/-- **The range of counts**: what has no instant lies before the first or after the last. -/
theorem ofNanos?_eq_none_iff {n : Int} :
    ofNanos? n = none ↔ n < earliest.count ∨ latest.count < n := by
  rw [ofNanos?, of?, count_earliest, count_latest]
  split
  · rename_i h
    refine iff_of_false (Option.some_ne_none _) ?_
    omega
  · rename_i h
    refine iff_of_true rfl ?_
    omega

/-- Outside of leap seconds moving adds nanoseconds. -/
theorem add?_ordinary {t : Instant} (ht : t.nano < 1000000000) (d : Span) :
    t.add? d = ofNanos? (t.count + d.nanos) :=
  if_pos ht

/-- Where moving forward leads, in nanoseconds since 1970-01-01, inside the range of instants or
not. A step from a leap second counts from the ordinary second before it. -/
def countAfter (t : Instant) (d : Span) : Int :=
  (if t.nano < 1000000000 then t.count else t.count - 1000000000) + d.nanos

/-- **Moving forward fails** exactly where it leads past the last instant. -/
theorem add?_eq_none_iff {t : Instant} {d : Span} (hd : 0 ≤ d.nanos) :
    t.add? d = none ↔ latest.count < t.countAfter d := by
  have hlow := t.earliest_le_count
  have hnano := t.nano_lt
  have hsecond := t.le_latest
  have hcount : t.count = t.second * 1000000000 + t.nano := rfl
  have hearliest := count_earliest
  have hlatest := count_latest
  rw [countAfter]
  by_cases hleap : t.nano < 1000000000
  · rw [add?_ordinary hleap, ofNanos?_eq_none_iff, if_pos hleap]
    omega
  · rw [add?, if_neg hleap, if_neg hleap, Span.seconds_of_nonneg hd, Span.subsecond_of_nonneg hd]
    split
    · rw [ofNanos?_eq_none_iff]
      have hfirst := t.earliest_le
      omega
    · rename_i hstay
      -- the step stays within the leap second, which is an instant throughout
      obtain ⟨u, hu⟩ : ∃ u, of? t.second (t.nano + d.nanos % 1000000000).toNat = some u :=
        ⟨⟨t.second, (t.nano + d.nanos % 1000000000).toNat, t.earliest_le, hsecond, by omega,
          fun _ => t.leap (by omega)⟩, of?_eq_some.2 ⟨rfl, rfl⟩⟩
      rw [if_neg (by omega), hu]
      refine iff_of_false (Option.some_ne_none u) ?_
      omega

end Instant

end Reconciliation
