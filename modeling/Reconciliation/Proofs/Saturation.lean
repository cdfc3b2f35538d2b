import Reconciliation.Proofs.Expiry

/-!
# Expiry at the ends of the range

An event that comes in is to expire a span after it was received, at the whole second. The exact
sum may lie beyond either end of the range of instants, and then the expiry is at its last second:
past the end, where that is the nearest instant, and before the beginning too, where it is the
farthest. So a record that should be expired at once never expires.

* `Instant.saturated`: a count of nanoseconds, moved into the range and cut to the second.
* `Envelope.expiry_record`: the expiry of a record, in exact arithmetic.
* `Envelope.expires_saturated`: it is the saturated sum, and no later for a shorter span, as long as
  the sum does not lie before the first instant.
-/

namespace Reconciliation

namespace Instant

variable {n m : Int}

/-- A count of nanoseconds, moved into the range and cut to the whole second. -/
def saturated (n : Int) : Instant :=
  ((ofNanos? (max earliest.count (min latest.count n))).getD latest).wholeSecond

/-- Within the range there is an instant to be cut. -/
theorem second_saturated (n : Int) :
    (saturated n).second = max earliest.count (min latest.count n) / 1000000000 := by
  obtain ⟨t, ht⟩ : ∃ t, ofNanos? (max earliest.count (min latest.count n)) = some t := by
    rw [← Option.ne_none_iff_exists', ne_eq, ofNanos?_eq_none_iff, count_earliest, count_latest,
      earliestSecond, latestSecond]
    omega
  obtain ⟨hcount, hnano⟩ := ofNanos?_eq_some_iff.1 ht
  rw [saturated, ht]
  change t.second = _
  rw [count] at hcount
  omega

/-- What is later stays so, or falls together at an end. -/
theorem saturated_le_saturated (h : n ≤ m) : saturated n ≤ saturated m := by
  have hmoved :
      max earliest.count (min latest.count n) ≤ max earliest.count (min latest.count m) := by omega
  rw [le_iff_second_le rfl, second_saturated, second_saturated]
  exact Int.ediv_le_ediv (by decide) hmoved

/-- Moving by a span and cutting to the second, with the last second where there is no instant. -/
theorem wholeSecond_add? {t : Instant} (ht : t.nano < 1000000000) (d : Span) :
    ((t.add? d).getD latest).wholeSecond =
      if t.count + d.nanos < earliest.count then latest.wholeSecond
      else saturated (t.count + d.nanos) := by
  rw [add?_ordinary ht]
  cases hu : ofNanos? (t.count + d.nanos) with
  | none =>
    split
    · rfl
    · rename_i hlow
      -- it is not before the first instant, so it is beyond the last
      have hlarge := (ofNanos?_eq_none_iff.1 hu).resolve_left hlow
      refine ext ?_ rfl
      rw [second_saturated, Int.min_eq_left (Int.le_of_lt hlarge)]
      rfl
  | some u =>
    have hrange : ¬(t.count + d.nanos < earliest.count ∨ latest.count < t.count + d.nanos) := by
      rw [← ofNanos?_eq_none_iff, hu]
      exact Option.some_ne_none u
    obtain ⟨hcount, hnano⟩ := ofNanos?_eq_some_iff.1 hu
    rw [not_or, Int.not_lt, Int.not_lt] at hrange
    rw [if_neg (Int.not_lt.2 hrange.1)]
    refine ext ?_ rfl
    rw [second_saturated, Int.min_eq_right hrange.2, Int.max_eq_right hrange.1]
    change u.second = _
    rw [count] at hcount
    omega

end Instant

namespace Envelope

variable {received : Instant} {lifetime shorter : Span}

/-- **The expiry of a record** that was received outside of a leap second. -/
theorem expiry_record (hreceived : received.nano < 1000000000) (e : Envelope) (id : RecordId)
    (lifetime : Span) :
    (e.record id received lifetime).expiry =
      if received.count + lifetime.nanos < Instant.earliest.count then Instant.latest.wholeSecond
      else .saturated (received.count + lifetime.nanos) :=
  Instant.wholeSecond_add? hreceived lifetime

/-- **A record expires when it should** unless that is before the first instant: at the exact sum,
cut to the second and at the nearer end of the range, and for a shorter life no later. What should
expire before the first instant expires at the last second. -/
theorem expires_saturated (hreceived : received.nano < 1000000000) (e : Envelope) (id : RecordId)
    (lifetime : Span) :
    (Instant.earliest.count ≤ received.count + lifetime.nanos →
      (e.record id received lifetime).expiry = .saturated (received.count + lifetime.nanos) ∧
      ∀ shorter : Span, Instant.earliest.count ≤ received.count + shorter.nanos →
        shorter.nanos ≤ lifetime.nanos →
        (e.record id received shorter).expiry ≤ (e.record id received lifetime).expiry) ∧
    (received.count + lifetime.nanos < Instant.earliest.count →
      (e.record id received lifetime).expiry = Instant.latest.wholeSecond) := by
  have hlate : ∀ d : Span, Instant.earliest.count ≤ received.count + d.nanos →
      (e.record id received d).expiry = .saturated (received.count + d.nanos) := by
    intro d hd
    rw [expiry_record hreceived, if_neg (Int.not_lt.2 hd)]
  refine ⟨fun h => ⟨hlate lifetime h, fun shorter hs hle => ?_⟩, fun h => ?_⟩
  · rw [hlate lifetime h, hlate shorter hs]
    exact Instant.saturated_le_saturated (Int.add_le_add_left hle _)
  · rw [expiry_record hreceived, if_pos h]

/-- An event of some kind. -/
def sampleEnvelope : Envelope := ⟨.sentenceImposed, ⟨1200835, by decide, by decide⟩, ""⟩

/-- Half a second before 1970 a life of a quarter of a second ends in the second before, and the
longest one with the last second. -/
theorem expires_beforeEpoch :
    let received : Instant := ⟨-1, 500000000, by decide, by decide, by decide, by decide⟩
    received.nano < 1000000000 ∧
    (sampleEnvelope.record (.ofNat 1) received (.ofMillis 250)).expiry = .saturated (-250000000) ∧
    (Instant.saturated (-250000000)).second = -1 ∧
    (sampleEnvelope.record (.ofNat 1) received (.ofMillis 250)).expiry ≤
      (sampleEnvelope.record (.ofNat 1) received (.ofMillis 9223372036854775807)).expiry ∧
    (sampleEnvelope.record (.ofNat 1) received (.ofMillis (-9223372036854775807))).expiry =
      Instant.latest.wholeSecond := by
  intro received
  have hreceived : received.nano < 1000000000 := by decide
  have hshort := (expires_saturated hreceived sampleEnvelope (.ofNat 1) (.ofMillis 250)).1
    (by decide)
  have hlong := (expires_saturated hreceived sampleEnvelope (.ofNat 1)
    (.ofMillis 9223372036854775807)).1 (by decide)
  have hbefore := (expires_saturated hreceived sampleEnvelope (.ofNat 1)
    (.ofMillis (-9223372036854775807))).2 (by decide)
  exact ⟨hreceived, hshort.1, by decide, hlong.2 _ (by decide) (by decide), hbefore⟩

/-- **A record that should expire before the first instant** expires with the last one, and later
than one that should live longer. -/
theorem not_expires_saturated :
    (¬ ∀ (e : Envelope) (id : RecordId) (received : Instant) (lifetime : Span),
      received.nano < 1000000000 →
      (e.record id received lifetime).expiry = .saturated (received.count + lifetime.nanos)) ∧
    ¬ ∀ (e : Envelope) (id : RecordId) (received : Instant) (shorter lifetime : Span),
      received.nano < 1000000000 → shorter.nanos ≤ lifetime.nanos →
      (e.record id received shorter).expiry ≤ (e.record id received lifetime).expiry := by
  constructor
  · intro hall
    exact absurd (hall sampleEnvelope (.ofNat 1) .earliest (.ofSeconds (-1)) (by decide))
      (by decide)
  · intro hall
    exact absurd (hall sampleEnvelope (.ofNat 1) .earliest (.ofSeconds (-1)) (.ofSeconds 0)
      (by decide) (by decide)) (by decide)

end Envelope

end Reconciliation
