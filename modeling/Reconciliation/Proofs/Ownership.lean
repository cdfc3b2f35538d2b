import Mathlib.Data.List.Nodup
import Reconciliation.Proofs.Instant
import Reconciliation.Store.Basic

/-!
# Every pending record has one owner

Records that are still to be done are picked up by two kinds of passes: those that were never tried
by the aggregation, and those that failed by the tier of their retry count. What a query gives of a
stored record is told under its identifier (`WorkRecord.under`): the record alone, once, if it
passes (`Store.under_select`), and nothing otherwise.

* `RetryTier.exists_ofCount`: the bands of the tiers leave no count out.
* `Store.has_one_owner`: each pending record is given by one of these queries, and a record that is
  done by none.
-/

namespace Reconciliation

/-- What there is in a list under an identifier. -/
def WorkRecord.under (id : RecordId) (rs : List WorkRecord) : List WorkRecord :=
  rs.filter (·.id == id)

/-- A record that failed has a tier. -/
theorem RetryTier.exists_ofCount {n : UInt32} (h : 1 ≤ n) : ∃ tier, ofCount n = some tier := by
  have hpos : 1 ≤ n.toNat := UInt32.le_iff_toNat_le.1 h
  simp only [ofCount_eq_some_iff, RetryBand.contains, UInt32.le_iff_toNat_le]
  by_cases hshort : n.toNat ≤ 4
  · exact ⟨.shortTerm, by simp [band, hpos, hshort]⟩
  by_cases hmedium : n.toNat ≤ 10
  · have hlow : 5 ≤ n.toNat := Nat.lt_of_not_le hshort
    exact ⟨.mediumTerm, by simp [band, hlow, hmedium]⟩
  · have hlow : 11 ≤ n.toNat := Nat.lt_of_not_le hmedium
    exact ⟨.longTerm, by simp [band, RetryBand.atLeast, hlow]⟩

namespace Store

open WorkRecord

variable {s : Store} {r : WorkRecord}

/-- **A query gives a stored record once** if it passes, and otherwise nothing under its name. -/
theorem under_select (hr : r ∈ s.records) (p : WorkRecord → Bool) :
    under r.id (s.select p) = if p r then [r] else [] := by
  have hself : s.records.filter (·.id == r.id) = [r] := by
    have hdistinct := s.distinct
    obtain ⟨before, after, hsplit⟩ := List.append_of_mem hr
    rw [hsplit] at hdistinct ⊢
    rw [List.map_append, List.map_cons, List.nodup_middle, List.nodup_cons, ← List.map_append]
      at hdistinct
    have hother : ∀ x ∈ before ++ after, ¬(x.id == r.id) = true := by
      intro x hx hid
      exact hdistinct.1 (beq_iff_eq.1 hid ▸ List.mem_map_of_mem hx)
    rw [List.forall_mem_append] at hother
    have hafter : (r :: after).filter (·.id == r.id) = [r] := by
      rw [List.filter_cons, if_pos (beq_iff_eq.2 rfl), List.filter_eq_nil_iff.2 hother.2]
    rw [List.filter_append, List.filter_eq_nil_iff.2 hother.1, hafter, List.nil_append]
  have hboth : under r.id (s.select p) = (s.records.filter (·.id == r.id)).filter p := by
    rw [under, select, List.filter_filter, List.filter_filter]
    simp only [Bool.and_comm]
  rw [hboth, hself]
  cases hp : p r <;> simp [hp]

/-- **Every pending record has one owner.** A record that was never tried is given by no tier's
query, and by the query for such records exactly where it came in before the cutoff. One that
failed is given once, by the query of the tier of its count, by that of no other tier, and never as
untried. One that is done is given by none of them, and not as unprocessed work of an entity. -/
theorem has_one_owner (s : Store) : ∀ r ∈ s.records,
    (r.processed = none → r.retryCount = 0 →
      (∀ tier : RetryTier, under r.id (s.unprocessedIn tier.band) = []) ∧
      ∀ cutoff, under r.id (s.untriedBefore cutoff) = if r.created < cutoff then [r] else []) ∧
    (r.processed = none → 1 ≤ r.retryCount →
      (∀ cutoff, under r.id (s.untriedBefore cutoff) = []) ∧
      ∃ owner, RetryTier.ofCount r.retryCount = some owner ∧ ∀ tier : RetryTier,
        under r.id (s.unprocessedIn tier.band) = if tier = owner then [r] else []) ∧
    (r.processed ≠ none →
      (∀ band, under r.id (s.unprocessedIn band) = []) ∧
      (∀ cutoff, under r.id (s.untriedBefore cutoff) = []) ∧
      ∀ e, under r.id (s.unprocessedOf e) = []) := by
  intro r hr
  have hfailed : 1 ≤ r.retryCount → r.retryCount ≠ 0 := by
    intro hle hzero
    rw [hzero] at hle
    exact absurd hle (by decide)
  refine ⟨fun hpending hcount => ⟨fun tier => ?_, fun cutoff => ?_⟩,
    fun hpending hcount => ⟨fun cutoff => ?_, ?_⟩,
    fun hdone => ⟨fun band => ?_, fun cutoff => ?_, fun e => ?_⟩⟩
  · rw [unprocessedIn, under_select hr, hcount]
    cases tier <;> rfl
  · rw [untriedBefore, under_select hr]
    simp [hcount, isProcessed, hpending]
  · rw [untriedBefore, under_select hr]
    simp [hfailed hcount]
  · -- the bands leave out no count from one upwards, and no count is in two of them
    obtain ⟨owner, howner⟩ := RetryTier.exists_ofCount hcount
    refine ⟨owner, howner, fun tier => ?_⟩
    have hband : tier.band.contains r.retryCount = true ↔ tier = owner := by
      rw [← RetryTier.ofCount_eq_some_iff, howner, Option.some.injEq, eq_comm]
    rw [unprocessedIn, under_select hr]
    simp [hband, isProcessed, hpending]
  · rw [unprocessedIn, under_select hr]
    simp [isProcessed, hdone]
  · rw [untriedBefore, under_select hr]
    simp [isProcessed, hdone]
  · rw [unprocessedOf, under_select hr]
    simp [isProcessed, hdone]

/-- One record of each sort: never tried, often tried in vain, and done. -/
def sampleUntried : WorkRecord :=
  WorkRecord.new (.ofNat 1) ⟨12, by decide, by decide⟩ .sentenceImposed "" (.ofSecond 20)

/-- A record with the largest count there is. -/
def sampleFailed : WorkRecord := { sampleUntried.withId (.ofNat 2) with retryCount := 4294967295 }

/-- A record that is done, with a count that is in the first band. -/
def sampleDone : WorkRecord :=
  { sampleUntried.withId (.ofNat 3) with retryCount := 2, processed := some (.ofSecond 30) }

/-- A store in which their order is not that in which they were created. -/
def ownedStore : Store := ⟨[sampleFailed, sampleDone, sampleUntried], by decide⟩

/-- The cutoff is strict, the largest count is in the last tier, and a count in a band is not enough
for a record that is done. -/
theorem has_one_owner_ownedStore :
    under sampleUntried.id (ownedStore.untriedBefore (.ofSecond 20)) = [] ∧
    under sampleUntried.id (ownedStore.untriedBefore (.ofSecond 21)) = [sampleUntried] ∧
    under sampleFailed.id (ownedStore.unprocessedIn RetryTier.longTerm.band) = [sampleFailed] ∧
    under sampleDone.id (ownedStore.unprocessedIn RetryTier.shortTerm.band) = [] := by
  obtain ⟨huntried, -, -⟩ := has_one_owner ownedStore sampleUntried (by simp [ownedStore])
  obtain ⟨-, hfailed, -⟩ := has_one_owner ownedStore sampleFailed (by simp [ownedStore])
  obtain ⟨-, -, hdone⟩ := has_one_owner ownedStore sampleDone (by simp [ownedStore])
  obtain ⟨owner, howner, hgiven⟩ := (hfailed rfl (by decide)).2
  obtain rfl : owner = .longTerm := by
    have hlong : RetryTier.ofCount sampleFailed.retryCount = some .longTerm := by decide
    exact Option.some.inj (howner.symm.trans hlong)
  exact ⟨((huntried rfl rfl).2 _).trans (by decide), ((huntried rfl rfl).2 _).trans (by decide),
    hgiven .longTerm, (hdone (by decide)).1 _⟩

end Store

end Reconciliation
