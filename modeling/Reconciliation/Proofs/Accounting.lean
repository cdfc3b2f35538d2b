import Reconciliation.Proofs.Pipeline

/-!
# What a stored record tells of its past

A stored record is an intake and what its dispatches have made of it, nothing else:
`WorkRecord.AccountedBy` says how its state follows from its history, the dispatches under
its identifier, oldest first. One more attempt carries the account on
(`AccountedBy.attempt`).

Along a run two more facts are needed. A dispatch that completed work is either recorded
in the stored record or has removed it, so a record that can be dispatched again has no
such dispatch behind it. And identifiers come in once, so what is gone stays gone.

* `World.Balanced`: the invariant, kept by an intake under a new identifier
  (`World.Balanced.takesIn`) and by an advance (`World.Balanced.advances`).
* `Step.balanced`: it holds along every run.
* `Step.lifecycle_accounting`: the account of every stored record, at most one completed
  dispatch for each identifier and none after it, and no return of what is gone.
-/

namespace Reconciliation

namespace Dispatch

/-- Whether the work was done. -/
def completed (x : Dispatch) : Bool :=
  match x.result with
  | .ok (.completed _) => true
  | _ => false

/-- The expiry that a request for another attempt sets. -/
def deadline? (x : Dispatch) : Option Instant :=
  match x.result with
  | .ok (.retry (some t)) => some (max t x.now).wholeSecond
  | _ => none

/-- A completed dispatch sets no deadline, so it can move no expiry. -/
theorem deadline?_of_completed {x : Dispatch} (h : x.completed = true) : x.deadline? = none := by
  rw [completed] at h
  rw [deadline?]
  split at h
  · simp [*]
  · cases h

/-- **What an attempt can leave**: the record as done, by the aggregation only, or failed. -/
theorem left_cases {x : Dispatch} {r : WorkRecord} (h : x.left = some r) :
    (x.completed = true ∧ x.pass = Aggregate.name ∧
      ∃ status, r = { x.record with processed := some x.now, status := some status }) ∨
    (x.completed = false ∧
      ∃ status, r = x.record.failed status (x.deadline?.getD x.record.expiry)) := by
  obtain ⟨pass, record, now, result⟩ := x
  rcases result with message | status | (_ | t)
  · exact .inr ⟨rfl, Status.error, (Option.some.inj h).symm⟩
  · by_cases hp : pass = Aggregate.name
    · subst hp
      exact .inl ⟨rfl, rfl, status, (Option.some.inj h).symm⟩
    · simp only [left, if_neg hp, Pass.left] at h
      cases h
  · exact .inr ⟨rfl, Status.retry, (Option.some.inj h).symm⟩
  · exact .inr ⟨rfl, Status.retry, (Option.some.inj h).symm⟩

end Dispatch

namespace WorkRecord

/-- A record is what came in as `q` after the dispatches in its history. What a record is made of at
first never changes; its count, its expiry and its date each follow from the history alone. -/
structure AccountedBy (r q : WorkRecord) (history : List Dispatch) : Prop where
  work : r.SameWork q
  retryCount : r.retryCount.toNat = min (history.countP fun x => !x.completed) 4294967295
  expiry : r.expiry = (history.filterMap Dispatch.deadline?).getLast?.getD q.expiry
  processed : ∀ t, r.processed = some t ↔
    ∃ x ∈ history, x.pass = Aggregate.name ∧ x.completed = true ∧ x.now = t

variable {r q : WorkRecord} {history : List Dispatch} {x : Dispatch}

/-- A record that nothing was tried on is accounted for by no dispatch at all. -/
theorem AccountedBy.untried (hc : r.retryCount = 0) (hp : r.processed = none) :
    r.AccountedBy r [] := by
  refine ⟨.refl r, ?_, rfl, ?_⟩
  · rw [hc]
    rfl
  · intro t
    rw [hp]
    simp

/-- The aggregation has not completed what is unprocessed. -/
theorem AccountedBy.not_done (h : r.AccountedBy q history) (hp : r.processed = none)
    (hx : x ∈ history) (hpass : x.pass = Aggregate.name) : x.completed = false := by
  rw [Bool.eq_false_iff]
  intro hc
  have hdone := (h.processed x.now).2 ⟨x, hx, hpass, hc, rfl⟩
  rw [hp] at hdone
  cases hdone

/-- **One more attempt** is one more entry in the account. -/
theorem AccountedBy.attempt (h : x.record.AccountedBy q history)
    (hp : x.record.processed = none) (hx : x.left = some r) :
    r.AccountedBy q (history ++ [x]) := by
  have hwork : r.SameWork q := (x.left_sameWork hx).trans h.work
  rcases Dispatch.left_cases hx with ⟨hc, hpass, status, rfl⟩ | ⟨hc, status, rfl⟩
  · refine ⟨hwork, ?_, ?_, ?_⟩
    · simp only [List.countP_append, List.countP_singleton, hc]
      exact h.retryCount
    · rw [List.filterMap_append, List.filterMap_cons_none (Dispatch.deadline?_of_completed hc)]
      simpa using h.expiry
    · intro t
      constructor
      · intro ht
        exact ⟨x, by simp, hpass, hc, Option.some.inj ht⟩
      · rintro ⟨y, hy, hypass, hyc, rfl⟩
        rcases List.mem_append.1 hy with hy | hy
        · -- it was unprocessed up to this attempt, so none before it completed it
          rw [h.not_done hp hy hypass] at hyc
          cases hyc
        · rw [List.mem_singleton.1 hy]
  · refine ⟨hwork, ?_, ?_, ?_⟩
    · have hcount := h.retryCount
      simp only [failed, List.countP_append, List.countP_singleton, hc, UInt32.toNat_ofNat']
      simp only [Bool.not_false, if_true]
      omega
    · rw [List.filterMap_append]
      cases hdeadline : x.deadline? with
      | none => simpa [failed, hdeadline] using h.expiry
      | some t => simp [failed, hdeadline]
    · intro t
      refine iff_of_false (by simp [failed, hp]) ?_
      rintro ⟨y, hy, hypass, hyc, rfl⟩
      rcases List.mem_append.1 hy with hy | hy
      · rw [h.not_done hp hy hypass] at hyc
        cases hyc
      · rw [List.mem_singleton.1 hy, hc] at hyc
        cases hyc

end WorkRecord

namespace World

/-- The dispatches under an identifier, oldest first. A record that is stored again under the same
identifier would share them. -/
def history (w : World Store) (id : RecordId) : List Dispatch :=
  w.dispatches.filter fun x => x.record.id = id

/-- The history of an identifier is the dispatches of records under it. -/
theorem mem_history {w : World Store} {id : RecordId} {x : Dispatch} :
    x ∈ w.history id ↔ x ∈ w.dispatches ∧ x.record.id = id := by
  simp only [history, List.mem_filter, decide_eq_true_eq]

/-- The books of a world balance: every stored record is accounted for, and nothing was dispatched
after it was done. -/
structure Balanced (w : World Store) : Prop where
  distinct : (w.received.map (·.id)).Nodup
  came : ∀ x ∈ w.dispatches, x.record.id ∈ w.received.map (·.id)
  accounts : ∀ r ∈ w.backend.records, ∃ q ∈ w.received, r.AccountedBy q (w.history r.id)
  /-- What a retry has completed is gone. -/
  removed : ∀ x ∈ w.dispatches, x.completed = true →
    ∀ r ∈ w.backend.records, r.id = x.record.id → x.pass = Aggregate.name
  once : w.dispatches.Pairwise fun a b => a.record.id = b.record.id → a.completed = false

variable {w v : World Store} {xs : List Dispatch} {r : WorkRecord}

/-- The world in which nothing has happened is balanced: nothing came in and nothing is stored. -/
theorem balanced_empty : (World.of (∅ : Store)).Balanced := by
  refine ⟨List.nodup_nil, ?_, ?_, ?_, .nil⟩ <;> intro r hr <;> cases hr

/-- In a balanced world whatever is stored has come in at some time, under the same identifier. -/
theorem Balanced.mem_received (h : w.Balanced) (hr : r ∈ w.backend.records) :
    r.id ∈ w.received.map (·.id) := by
  obtain ⟨q, hq, hacc⟩ := h.accounts r hr
  exact List.mem_map.2 ⟨q, hq, hacc.work.id.symm⟩

/-- An intake under a new identifier keeps the balance. -/
theorem Balanced.takesIn (h : w.Balanced) (ht : w.TakesIn v r)
    (hnew : r.id ∉ w.received.map (·.id)) : v.Balanced := by
  obtain ⟨hreceived, hdispatches, hrecords, huntried, hunprocessed⟩ := ht
  have hhistory : ∀ id, v.history id = w.history id := by
    intro id
    rw [history, history, hdispatches]
  have hmem : ∀ {x}, x ∈ v.backend.records ↔ x ∈ w.backend.records ∨ x = r := by
    intro x
    rw [hrecords, List.mem_append, List.mem_singleton]
  refine ⟨?_, ?_, ?_, ?_, hdispatches ▸ h.once⟩
  · rw [hreceived, List.map_append, List.nodup_append]
    refine ⟨h.distinct, List.nodup_singleton _, ?_⟩
    intro a ha b hb hab
    rw [List.map_singleton, List.mem_singleton] at hb
    exact hnew (hb ▸ hab ▸ ha)
  · rw [hdispatches, hreceived, List.map_append]
    exact fun x hx => List.mem_append_left _ (h.came x hx)
  · intro a ha
    rw [hhistory, hreceived]
    rcases hmem.1 ha with ha | rfl
    · obtain ⟨q, hq, hacc⟩ := h.accounts a ha
      exact ⟨q, List.mem_append_left _ hq, hacc⟩
    · -- nothing was dispatched under the new identifier
      have hnil : w.history a.id = [] := by
        refine List.eq_nil_iff_forall_not_mem.2 fun x hx => ?_
        obtain ⟨hx, hid⟩ := mem_history.1 hx
        exact hnew (hid ▸ h.came x hx)
      rw [hnil]
      exact ⟨a, by simp, .untried huntried hunprocessed⟩
  · rw [hdispatches]
    intro x hx hc a ha hid
    rcases hmem.1 ha with ha | rfl
    · exact h.removed x hx hc a ha hid
    · exact absurd (hid ▸ h.came x hx) hnew

/-- Where no identifier is dispatched twice, a dispatch is the only one under its identifier. -/
theorem filter_dispatch {x : Dispatch} (hn : (xs.map (·.record.id)).Nodup) (hx : x ∈ xs) :
    xs.filter (fun y => y.record.id = x.record.id) = [x] := by
  obtain ⟨before, after, rfl⟩ := List.append_of_mem hx
  rw [List.map_append, List.map_cons, List.nodup_append, List.nodup_cons] at hn
  obtain ⟨-, ⟨hafter, -⟩, hcross⟩ := hn
  have hb : before.filter (fun y => y.record.id = x.record.id) = [] := by
    refine List.filter_eq_nil_iff.2 fun y hy => ?_
    simpa using hcross _ (List.mem_map_of_mem hy) _ List.mem_cons_self
  have ha : after.filter (fun y => y.record.id = x.record.id) = [] := by
    refine List.filter_eq_nil_iff.2 fun y hy => ?_
    have hne : y.record.id ≠ x.record.id := fun he => hafter (he ▸ List.mem_map_of_mem hy)
    simpa using hne
  simp [List.filter_append, hb, ha]

/-- The history of an identifier grows by those of the new dispatches that are of records under it.
-/
theorem Advances.history (ha : w.Advances v xs) (id : RecordId) :
    v.history id = w.history id ++ xs.filter fun x => x.record.id = id := by
  rw [World.history, World.history, ha.dispatches, List.filter_append]

/-- An unprocessed stored record has not been completed before. -/
theorem Balanced.not_completed (h : w.Balanced) (hr : r ∈ w.backend.records)
    (hp : r.processed = none) {x : Dispatch} (hx : x ∈ w.dispatches) (hid : x.record.id = r.id) :
    x.completed = false := by
  obtain ⟨q, -, hacc⟩ := h.accounts r hr
  cases hc : x.completed with
  | false => rfl
  | true =>
    have hpass := h.removed x hx hc r hr hid.symm
    rw [← hacc.not_done hp (mem_history.2 ⟨hx, hid⟩) hpass, hc]

/-- **An advance keeps the balance.** -/
theorem Balanced.advances (h : w.Balanced) (ha : w.Advances v xs) : v.Balanced := by
  refine ⟨ha.received ▸ h.distinct, ?_, ?_, ?_, ?_⟩
  · rw [ha.dispatches, ha.received]
    intro x hx
    rcases List.mem_append.1 hx with hx | hx
    · exact h.came x hx
    · exact h.mem_received (ha.stored x hx).1
  · intro r hr
    rw [ha.received, ha.history]
    rcases ha.kept r hr with ⟨hrw, hnot⟩ | ⟨x, hx, hleft⟩
    · have hnil : xs.filter (fun x => x.record.id = r.id) = [] :=
        List.filter_eq_nil_iff.2 fun x hx => by simpa using hnot x hx
      rw [hnil, List.append_nil]
      exact h.accounts r hrw
    · obtain ⟨hxw, hxp⟩ := ha.stored x hx
      obtain ⟨q, hq, hacc⟩ := h.accounts x.record hxw
      rw [(x.left_sameWork hleft).id, filter_dispatch ha.distinct hx]
      exact ⟨q, hq, hacc.attempt hxp hleft⟩
  · -- a record that is left by its own completed dispatch was not removed by it
    rw [ha.dispatches]
    intro x hx hc r hr hid
    rcases List.mem_append.1 hx with hx | hx
    · obtain ⟨old, hold, hsame, -⟩ := ha.exists_before hr
      exact h.removed x hx hc old hold (hsame.id ▸ hid)
    · rcases ha.kept r hr with ⟨-, hnot⟩ | ⟨y, hy, hleft⟩
      · exact absurd hid.symm (hnot x hx)
      · have hyx : y = x := List.inj_on_of_nodup_map ha.distinct hy hx
          ((y.left_sameWork hleft).id.symm.trans hid)
        subst hyx
        rcases Dispatch.left_cases hleft with ⟨-, hpass, -⟩ | ⟨hfailed, -⟩
        · exact hpass
        · rw [hc] at hfailed
          cases hfailed
  · rw [ha.dispatches, List.pairwise_append]
    refine ⟨h.once, ?_, ?_⟩
    · refine (List.pairwise_map.1 ha.distinct).imp ?_
      intro a b hab hid
      exact absurd hid hab
    · intro a hax b hb hid
      obtain ⟨hbw, hbp⟩ := ha.stored b hb
      exact h.not_completed hbw hbp hax hid

end World

namespace Step

/-- What came in came in under the identifiers of the intakes. -/
theorem received_sublist {steps : List Step} (hq : ∀ s ∈ steps, s.Quiet) :
    ((run steps).received.map (·.id)).Sublist (steps.filterMap newId?) := by
  -- from the last step, as what comes in is added at the end
  induction steps using List.reverseRecOn with
  | nil => exact .slnil
  | append_singleton steps s ih =>
    have ih := ih fun x hx => hq x (List.mem_append_left _ hx)
    rw [run_concat, List.filterMap_append]
    rcases after_cases (hq s (by simp)) (run steps) with ⟨r, hid, ht⟩ | ⟨xs, ha, -⟩
    · rw [ht.received, List.map_append]
      refine ih.append ?_
      simp [hid]
    · rw [ha.received]
      exact ih.trans (List.sublist_append_left _ _)

variable {steps : List Step}

/-- No identifier comes in twice if none is given out twice. -/
theorem nodup_received (hq : ∀ s ∈ steps, s.Quiet) (hn : (steps.filterMap newId?).Nodup) :
    ((run steps).received.map (·.id)).Nodup :=
  hn.sublist (received_sublist hq)

/-- The books balance along every run in which no identifier comes in twice. -/
theorem balanced (hq : ∀ s ∈ steps, s.Quiet) (hn : ((run steps).received.map (·.id)).Nodup) :
    (run steps).Balanced := by
  refine foldl_induction (P := fun w => (w.received.map (·.id)).Nodup → w.Balanced) hq ?_ ?_
    (fun _ => World.balanced_empty) hn
  · intro w v r hw ht hn
    rw [ht.received, List.map_append, List.nodup_append] at hn
    exact (hw hn.1).takesIn ht fun hmem => hn.2.2 _ hmem r.id (by simp) rfl
  · intro w v xs hw ha _ hn
    exact (hw (ha.received ▸ hn)).advances ha

/-- What came in stays in the list of what came in. -/
theorem received_extends {more : List Step} (hq : ∀ s ∈ more, s.Quiet) :
    (run steps).received <+: (run (steps ++ more)).received := by
  rw [run_append]
  refine foldl_induction (P := fun w => (run steps).received <+: w.received) hq ?_ ?_
    List.prefix_rfl
  · intro w v r hw ht
    rw [ht.received]
    exact hw.trans (List.prefix_append _ _)
  · intro w v xs hw ha _
    rw [ha.received]
    exact hw

/-- **What is gone stays gone.** An identifier that came in and is not stored is not stored after
any more steps. -/
theorem gone_of_gone {more : List Step} (hq : ∀ s ∈ more, s.Quiet)
    (hn : ((run (steps ++ more)).received.map (·.id)).Nodup) {id : RecordId}
    (hcame : id ∈ (run steps).received.map (·.id))
    (hgone : id ∉ (run steps).backend.records.map (·.id)) :
    id ∉ (run (steps ++ more)).backend.records.map (·.id) := by
  rw [run_append] at hn ⊢
  refine (foldl_induction (P := fun w => (w.received.map (·.id)).Nodup →
    id ∈ w.received.map (·.id) ∧ id ∉ w.backend.records.map (·.id)) hq ?_ ?_
    (fun _ => ⟨hcame, hgone⟩) hn).2
  · intro w v r hw ht hn
    rw [ht.received, List.map_append, List.nodup_append] at hn
    obtain ⟨hcame, hgone⟩ := hw hn.1
    have hne := hn.2.2 id hcame r.id (by simp)
    rw [ht.received, ht.records, List.map_append, List.map_append]
    exact ⟨List.mem_append_left _ hcame, by simpa [hne] using hgone⟩
  · intro w v xs hw ha _ hn
    rw [ha.received] at hn ⊢
    obtain ⟨hcame, hgone⟩ := hw hn
    refine ⟨hcame, fun hmem => ?_⟩
    -- what is stored after a pass was stored before it, under the same identifier
    obtain ⟨r, hr, rfl⟩ := List.mem_map.1 hmem
    obtain ⟨old, hold, hsame, -⟩ := ha.exists_before hr
    exact hgone (List.mem_map.2 ⟨old, hold, hsame.id.symm⟩)

/-- **Every stored record is accounted for.** In a run of intakes under distinct identifiers,
aggregations, retries and purges, in any order and at any instants, with handlers that answer
as they like: every stored record is its intake after its dispatches; no identifier is
dispatched after it was completed, so none is completed twice; and an identifier that has left
the store does not come back. -/
theorem lifecycle_accounting (hq : ∀ s ∈ steps, s.Quiet) (hn : (steps.filterMap newId?).Nodup) :
    (∀ r ∈ (run steps).backend.records,
      ∃ q ∈ (run steps).received, r.AccountedBy q ((run steps).history r.id)) ∧
    ((run steps).dispatches.Pairwise fun a b =>
      a.record.id = b.record.id → a.completed = false) ∧
    ∀ before between after id, steps = before ++ between ++ after →
      id ∈ (run before).backend.records.map (·.id) →
      id ∉ (run (before ++ between)).backend.records.map (·.id) →
      id ∉ (run steps).backend.records.map (·.id) := by
  have hids := nodup_received hq hn
  have h := balanced hq hids
  refine ⟨h.accounts, h.once, ?_⟩
  rintro before between after id rfl hstored hgone
  refine gone_of_gone (fun x hx => hq x (List.mem_append_right _ hx)) hids ?_ hgone
  -- what is stored before has come in before
  rw [List.append_assoc] at hq hn
  rw [List.filterMap_append] at hn
  have hbefore := fun x hx => hq x (List.mem_append_left _ hx)
  have hbalanced := balanced hbefore (nodup_received hbefore (List.nodup_append.1 hn).1)
  obtain ⟨r, hr, rfl⟩ := List.mem_map.1 hstored
  exact ((received_extends fun x hx => hq x (by simp [hx])).map _).subset
    (hbalanced.mem_received hr)

/-- Of a run of two events the second is left, done after its only dispatch. -/
theorem sampleRun_accounted :
    (run sampleRun).backend.records.map (fun r => (r.id, r.processed)) =
        [(.ofNat 2, some (.ofSecond 50))] ∧
      (∀ r ∈ (run sampleRun).backend.records, ∃ q ∈ (run sampleRun).received,
        r.AccountedBy q ((run sampleRun).history r.id)) ∧
      (.ofNat 1 ∉ (run sampleRun).backend.records.map (·.id)) := by
  have hids : (sampleRun.filterMap newId?).Nodup := by decide
  obtain ⟨haccounts, -, hgone⟩ := lifecycle_accounting sampleRun_quiet hids
  refine ⟨by decide +kernel, haccounts, ?_⟩
  exact hgone (sampleRun.take 1) ((sampleRun.take 5).drop 1) (sampleRun.drop 5) _ rfl
    (by decide +kernel) (by decide +kernel)

end Step

end Reconciliation
