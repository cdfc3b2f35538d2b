import Reconciliation.Proofs.Pipeline

/-!
# Dispatches keep the order of events

If whatever comes in is newer than all that came in before, then no event is dispatched
after a newer one of its group. No single pass ensures that: the aggregation dispatches
the newest of a group and deletes the others, but a retry takes every record of its tier,
and which records are left in the store depends on all passes before.

The invariant that carries it is `World.Ordered`. Of two unprocessed records of one group
the newer has never been tried, so a retry never meets both; and no unprocessed record is
older than a dispatched one of its group.

* `World.Ordered.takesIn`, `World.Ordered.advances`: what can happen in one step keeps the
  invariant.
* `Step.ordered`: it holds along every run.
* `Step.dispatches_in_order`: what follows for the dispatches of a run.
-/

namespace Reconciliation

namespace World

/-- The state of affairs where events come in one after the other, each newer than the last. -/
structure Ordered (w : World Store) : Prop where
  stored : ∀ r ∈ w.backend.records, ∃ q ∈ w.received, r.SameWork q
  dispatched : ∀ x ∈ w.dispatches, ∃ q ∈ w.received, x.record.SameWork q
  /-- Of two unprocessed records of one group, the newer has never been tried. -/
  untried : ∀ a ∈ w.backend.records, ∀ b ∈ w.backend.records, a.processed = none →
    b.processed = none → a.sameGroup b = true → a.olderThan b = true → b.retryCount = 0
  /-- No unprocessed record is older than a dispatched one of its group. -/
  ahead : ∀ r ∈ w.backend.records, r.processed = none → ∀ x ∈ w.dispatches,
    r.sameGroup x.record = true → r.olderThan x.record = false
  inOrder : w.dispatches.Pairwise fun a b =>
    a.record.sameGroup b.record = true → b.record.olderThan a.record = false

variable {w v : World Store} {xs : List Dispatch} {r : WorkRecord}

/-- Nothing is out of order before anything was received. -/
theorem ordered_empty : (World.of (∅ : Store)).Ordered := by
  refine ⟨?_, ?_, ?_, ?_, .nil⟩ <;> intro r hr <;> cases hr

/-- A record that is newer than all before may come in. -/
theorem Ordered.takesIn (h : w.Ordered) (ht : w.TakesIn v r)
    (hnew : ∀ q ∈ w.received, q.olderThan r = true) : v.Ordered := by
  obtain ⟨hreceived, hdispatches, hrecords, huntried, hunprocessed⟩ := ht
  have hmem : ∀ {x}, x ∈ v.backend.records ↔ x ∈ w.backend.records ∨ x = r := by
    intro x
    rw [hrecords, List.mem_append, List.mem_singleton]
  have hcame : ∀ {x q : WorkRecord}, q ∈ w.received → x.SameWork q → x.olderThan r = true := by
    intro x q hq hx
    rw [hx.olderThan (.refl r)]
    exact hnew q hq
  have hold : ∀ {x : WorkRecord}, (∃ q ∈ w.received, x.SameWork q) →
      ∃ q ∈ v.received, x.SameWork q := by
    rintro x ⟨q, hq, hx⟩
    exact ⟨q, hreceived ▸ List.mem_append_left _ hq, hx⟩
  refine ⟨?_, ?_, ?_, ?_, hdispatches ▸ h.inOrder⟩
  · intro x hx
    rcases hmem.1 hx with hx | rfl
    · exact hold (h.stored x hx)
    · exact ⟨x, by simp [hreceived], .refl x⟩
  · rw [hdispatches]
    exact fun x hx => hold (h.dispatched x hx)
  · intro a ha b hb hap hbp hg hab
    rcases hmem.1 hb with hb | rfl
    · rcases hmem.1 ha with ha | rfl
      · exact h.untried a ha b hb hap hbp hg hab
      · -- the new record is older than none
        obtain ⟨q, hq, hbq⟩ := h.stored b hb
        rw [WorkRecord.olderThan_asymm (hcame hq hbq)] at hab
        cases hab
    · exact huntried
  · rw [hdispatches]
    intro a ha hap x hx hg
    rcases hmem.1 ha with ha | rfl
    · exact h.ahead a ha hap x hx hg
    · obtain ⟨q, hq, hxq⟩ := h.dispatched x hx
      exact WorkRecord.olderThan_asymm (hcame hq hxq)

/-- Where the newer of two records has never been tried, dispatches of tried records leave nothing
older behind. -/
theorem Ordered.orderly (h : w.Ordered) (ha : w.Advances v xs)
    (htried : ∀ x ∈ xs, x.record.retryCount ≠ 0) : v.Orderly xs := by
  have hnewer : ∀ x ∈ xs, ∀ r ∈ w.backend.records, r.processed = none →
      r.sameGroup x.record = true → r.olderThan x.record = false := by
    intro x hx r hr hp hg
    obtain ⟨hxs, hxp⟩ := ha.stored x hx
    rw [Bool.eq_false_iff]
    exact fun hold => htried x hx (h.untried r hr x.record hxs hp hxp hg hold)
  refine ⟨?_, ?_⟩
  · -- of two of one group the newer would be untried
    refine (List.pairwise_map.1 ha.distinct).imp_of_mem ?_
    intro x y hx hy hid
    obtain ⟨hxs, hxp⟩ := ha.stored x hx
    obtain ⟨hys, hyp⟩ := ha.stored y hy
    rw [Bool.eq_false_iff]
    intro hg
    rcases w.backend.older_or_older hxs hys (fun he => hid (congrArg _ he)) with hold | hold
    · rw [hnewer y hy _ hxs hxp hg] at hold
      cases hold
    · rw [hnewer x hx _ hys hyp (WorkRecord.sameGroup_symm hg)] at hold
      cases hold
  · intro r hr hp x hx hg
    obtain ⟨old, hold, hsame, hprocessed⟩ := ha.exists_before hr
    rw [hsame.olderThan (.refl _)]
    rw [hsame.sameGroup (.refl _)] at hg
    exact hnewer x hx old hold (hprocessed hp) hg

/-- **An orderly advance keeps the order.** -/
theorem Ordered.advances (h : w.Ordered) (ha : w.Advances v xs) (ho : v.Orderly xs) :
    v.Ordered := by
  have hmem : ∀ {x}, x ∈ v.dispatches ↔ x ∈ w.dispatches ∨ x ∈ xs := by
    intro x
    rw [ha.dispatches, List.mem_append]
  refine ⟨?_, ?_, ?_, ?_, ?_⟩
  · intro r hr
    obtain ⟨old, hold, hsame, -⟩ := ha.exists_before hr
    obtain ⟨q, hq, hoq⟩ := h.stored old hold
    exact ⟨q, ha.received ▸ hq, hsame.trans hoq⟩
  · rw [ha.received]
    intro x hx
    rcases hmem.1 hx with hx | hx
    · exact h.dispatched x hx
    · exact h.stored _ (ha.stored x hx).1
  · intro a haa b hb hap hbp hg hab
    obtain ⟨a', ha', hsame, hprocessed⟩ := ha.exists_before haa
    rcases ha.kept b hb with ⟨hbw, -⟩ | ⟨x, hx, hleft⟩
    · rw [hsame.sameGroup (.refl b)] at hg
      rw [hsame.olderThan (.refl b)] at hab
      exact h.untried a' ha' b hbw (hprocessed hap) hbp hg hab
    · -- a failed attempt of the newer record, so the older one cannot be left
      have hb' := x.left_sameWork hleft
      rw [WorkRecord.SameWork.sameGroup (.refl a) hb'] at hg
      rw [WorkRecord.SameWork.olderThan (.refl a) hb', ho.newest a haa hap x hx hg] at hab
      cases hab
  · intro r hr hp x hx hg
    rcases hmem.1 hx with hx | hx
    · obtain ⟨old, hold, hsame, hprocessed⟩ := ha.exists_before hr
      rw [hsame.sameGroup (.refl _)] at hg
      rw [hsame.olderThan (.refl _)]
      exact h.ahead old hold (hprocessed hp) x hx hg
    · exact ho.newest r hr hp x hx hg
  · rw [ha.dispatches, List.pairwise_append]
    refine ⟨h.inOrder, ?_, ?_⟩
    · refine ho.apart.imp ?_
      intro a b hapart hg
      rw [hapart] at hg
      cases hg
    · intro a hax b hb hg
      obtain ⟨hbs, hbp⟩ := ha.stored b hb
      exact h.ahead b.record hbs hbp a hax (WorkRecord.sameGroup_symm hg)

end World

namespace Step

/-- Along a run in which whatever comes in is newer than all before, order is kept. -/
theorem ordered {steps : List Step} (hq : ∀ s ∈ steps, s.Quiet)
    (hr : (run steps).received.Pairwise fun a b => a.olderThan b = true) :
    (run steps).Ordered := by
  refine foldl_induction (P := fun w => w.received.Pairwise (fun a b => a.olderThan b = true) →
    w.Ordered) hq ?_ ?_ (fun _ => World.ordered_empty) hr
  · intro w v r hw ht hr
    rw [ht.received, List.pairwise_append] at hr
    exact (hw hr.1).takesIn ht fun q hq => hr.2.2 q hq r (by simp)
  · intro w v xs hw ha hxs hr
    have h := hw (ha.received ▸ hr)
    rcases hxs with ho | htried
    · exact h.advances ha ho
    · exact h.advances ha (h.orderly ha htried)

/-- **No event overtakes a newer one.** In a run of intakes, aggregations, retries and purges, in
any order and at any instants, with handlers that answer as they like: if every record that
comes in is newer than all that came in before, no record is dispatched after a newer one of
its entity and kind. -/
theorem dispatches_in_order {steps : List Step} (hq : ∀ s ∈ steps, s.Quiet)
    (hr : (run steps).received.Pairwise fun a b => a.olderThan b = true) :
    (run steps).dispatches.Pairwise fun a b =>
      a.record.sameGroup b.record = true → b.record.olderThan a.record = false :=
  (ordered hq hr).inOrder

/-- In a run of two events, the first is dispatched twice, then the second. -/
theorem sampleRun_in_order :
    (run sampleRun).dispatches.map (·.record.id) = [.ofNat 1, .ofNat 1, .ofNat 2] ∧
      (run sampleRun).dispatches.Pairwise fun a b =>
        a.record.sameGroup b.record = true → b.record.olderThan a.record = false := by
  refine ⟨by decide +kernel, ?_⟩
  have hnewer : (run sampleRun).received.Pairwise fun a b => a.olderThan b = true := by
    decide +kernel
  exact dispatches_in_order sampleRun_quiet hnewer

end Step

end Reconciliation
