import Reconciliation.Proofs.Aggregation

/-!
# The plan of a batch

A plan is made by putting in one record after another, so it could depend on their order. It
does not: which records survive is told by `WorkRecord.olderThan` alone, and sorting leaves no
choice about the rest.

* `Plan.Thins.filter_sameGroup`: of each group the newest record survives, and no other one.
* `Plan.ofList_perm`: a batch in another order has the same plan.
* `Plan.splits_and_sorts`: what a plan is, for every batch without repeated identifiers.
-/

namespace Reconciliation

variable {rs ss : List WorkRecord} {p : Plan} {r : WorkRecord}

namespace Plan

open WorkRecord (Precedes)

/-- The record that survives in the group of a record of the batch: it stands alone in its group,
and it is newer than all others of the group. -/
theorem Thins.filter_sameGroup (h : p.Thins rs) (hn : (rs.map (·.id)).Nodup) (hr : r ∈ rs) :
    ∃ s, p.dispatch.filter (r.sameGroup ·) = [s] ∧ s ∈ rs ∧
      ∀ x ∈ rs, r.sameGroup x = true → x = s ∨ x.olderThan s = true := by
  -- a record of the batch is a survivor, or a duplicate of a newer record of its group
  obtain ⟨t, ht, hgt⟩ : ∃ t ∈ p.dispatch, r.sameGroup t = true := by
    rcases List.mem_append.1 (h.perm.symm.subset hr) with hr | hr
    · exact ⟨r, hr, WorkRecord.sameGroup_refl r⟩
    · obtain ⟨s, hs, hg, -⟩ := h.newer r hr
      exact ⟨s, hs, WorkRecord.sameGroup_symm hg⟩
  cases hfind : p.dispatch.find? (r.sameGroup ·) with
  | none => exact absurd hgt (List.find?_eq_none.1 hfind t ht)
  | some s =>
    obtain ⟨before, after, hsplit, hg, hb, ha⟩ := exists_split h.groups hfind
    have hs : s ∈ p.dispatch := List.mem_of_find?_eq_some hfind
    obtain ⟨hsrs, hnewest⟩ := h.mem_dispatch_iff.1 hs
    refine ⟨s, ?_, hsrs, fun x hx hgx => ?_⟩
    · rw [hsplit, List.filter_append, List.filter_cons_of_pos hg,
        List.filter_eq_nil_iff.2 fun x hx => Bool.eq_false_iff.1 (hb x hx),
        List.filter_eq_nil_iff.2 fun x hx => Bool.eq_false_iff.1 (ha x hx), List.nil_append]
    · by_cases hid : s.id = x.id
      · exact .inl (List.inj_on_of_nodup_map hn hx hsrs hid.symm)
      · have hnot := hnewest x hx (WorkRecord.sameGroup_trans (WorkRecord.sameGroup_symm hg) hgx)
        exact .inr (WorkRecord.olderThan_of_not hid hnot)

/-- What a plan discards is in strictly increasing order. -/
theorem pairwise_duplicates_ofList (hn : (rs.map (·.id)).Nodup) :
    (ofList rs).duplicates.Pairwise Precedes := by
  have hids := (thins_ofList hn).nodup hn
  rw [List.map_append, List.nodup_append] at hids
  refine WorkRecord.pairwise_precedes_mergeSort ?_
  exact ((List.mergeSort_perm _ _).map _).nodup_iff.1 hids.2.1

/-- **The order of a batch** makes no difference to its plan. -/
theorem ofList_perm (hn : (rs.map (·.id)).Nodup) (h : rs.Perm ss) : ofList ss = ofList rs := by
  have hn' : (ss.map (·.id)).Nodup := (h.map _).nodup_iff.1 hn
  have hrs := thins_ofList hn
  have hss := thins_ofList hn'
  have hnewest : ∀ r : WorkRecord, r.NewestIn ss ↔ r.NewestIn rs := by
    intro r
    simp only [WorkRecord.NewestIn, h.mem_iff]
  have hdispatch : (ofList ss).dispatch = (ofList rs).dispatch := by
    refine WorkRecord.eq_of_pairwise_precedes (pairwise_dispatch_ofList hn')
      (pairwise_dispatch_ofList hn) fun r => ?_
    rw [hss.mem_dispatch_iff, hrs.mem_dispatch_iff, hnewest]
  have hduplicates : (ofList ss).duplicates = (ofList rs).duplicates := by
    refine WorkRecord.eq_of_pairwise_precedes (pairwise_duplicates_ofList hn')
      (pairwise_duplicates_ofList hn) fun r => ?_
    rw [hss.mem_duplicates_iff, hrs.mem_duplicates_iff, hnewest, h.mem_iff]
  exact congrArg₂ Plan.mk hdispatch hduplicates

/-- **The plan of a batch** without repeated identifiers has each of its records once. It
dispatches one record of each group, the newest; both its parts are in strictly increasing
dispatch order; and the order of the batch makes no difference. Dispatch order is a strict
order, total on records with different identifiers. -/
theorem splits_and_sorts (hn : (rs.map (·.id)).Nodup) :
    ((ofList rs).dispatch ++ (ofList rs).duplicates).Perm rs ∧
    (∀ r ∈ rs, ∃ s, (ofList rs).dispatch.filter (r.sameGroup ·) = [s] ∧ s ∈ rs ∧
      ∀ x ∈ rs, r.sameGroup x = true → x = s ∨ x.olderThan s = true) ∧
    ((ofList rs).dispatch.Pairwise Precedes ∧ (ofList rs).duplicates.Pairwise Precedes) ∧
    (∀ ss, rs.Perm ss → ofList ss = ofList rs) ∧
    (∀ a : WorkRecord, ¬ a.Precedes a) ∧
    (∀ a b c : WorkRecord, a.Precedes b → b.Precedes c → a.Precedes c) ∧
    ∀ a b : WorkRecord, a.id ≠ b.id → a.Precedes b ∨ b.Precedes a := by
  have hthins := thins_ofList hn
  refine ⟨hthins.perm, fun r hr => hthins.filter_sameGroup hn hr,
    ⟨pairwise_dispatch_ofList hn, pairwise_duplicates_ofList hn⟩, fun ss h => ofList_perm hn h,
    fun a h => h.asymm h, fun a b c => WorkRecord.Precedes.trans, fun a b hid => ?_⟩
  by_cases h : b.Precedes a
  · exact .inr h
  · exact .inl (WorkRecord.precedes_of_not hid h)

/-- A plan that holds what another one does, in dispatch order, is the other one sorted. -/
theorem sorted_eq {q : Plan} (hn : (p.dispatch.map (·.id)).Nodup)
    (hn' : (p.duplicates.map (·.id)).Nodup) (hdispatch : p.dispatch.Perm q.dispatch)
    (hduplicates : p.duplicates.Perm q.duplicates) (hq : q.dispatch.Pairwise Precedes)
    (hq' : q.duplicates.Pairwise Precedes) : p.sorted = q := by
  have hsorts : ∀ {rs ss : List WorkRecord}, (rs.map (·.id)).Nodup → rs.Perm ss →
      ss.Pairwise Precedes → rs.mergeSort WorkRecord.dispatchesBefore = ss := fun hn h hs =>
    WorkRecord.eq_of_pairwise_precedes (WorkRecord.pairwise_precedes_mergeSort hn) hs
      fun r => ((List.mergeSort_perm _ _).trans h).mem_iff
  exact congrArg₂ Plan.mk (hsorts hn hdispatch hq) (hsorts hn' hduplicates hq')

/-- A booking number and three sentences, the oldest record first. -/
def sampleBatch : List WorkRecord :=
  [Aggregate.sample 4 10 .bookingNumberChanged, Aggregate.sample 2 15 .sentenceImposed,
    Aggregate.sample 1 20 .sentenceImposed, Aggregate.sample 3 20 .sentenceImposed]

/-- The plan of the sample. -/
def samplePlan : Plan where
  dispatch := [Aggregate.sample 3 20 .sentenceImposed, Aggregate.sample 4 10 .bookingNumberChanged]
  duplicates := [Aggregate.sample 1 20 .sentenceImposed, Aggregate.sample 2 15 .sentenceImposed]

/-- Of two sentences of one instant the one with the larger identifier survives, whichever comes
first. -/
theorem splits_and_sorts_sampleBatch :
    (sampleBatch.map (·.id)).Nodup ∧ ofList sampleBatch = samplePlan ∧
      ofList sampleBatch.reverse = samplePlan := by
  have hn : (sampleBatch.map (·.id)).Nodup := by decide
  have hplan : ofList sampleBatch = samplePlan :=
    sorted_eq (by decide +kernel) (by decide +kernel) (by decide +kernel) (by decide +kernel)
      (by decide +kernel) (by decide +kernel)
  obtain ⟨-, -, -, hperm, -⟩ := splits_and_sorts hn
  exact ⟨hn, hplan, (hperm _ (List.reverse_perm _).symm).trans hplan⟩

end Plan

end Reconciliation
