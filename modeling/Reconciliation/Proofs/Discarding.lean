import Reconciliation.Proofs.Clearing
import Reconciliation.Proofs.Trace

/-!
# What an aggregation takes out of the store

The aggregation takes two kinds of records out of the store. A record is discarded because a
newer one of its entity and kind is pending, the survivor of their group. A survivor that is
expired is abandoned. Whether the survivor of a discarded record is dispatched thus depends on
its own expiry, which need not follow the order of creation: if it is expired, the group has no
attempt in that pass.

All of this is told of the records that are stored before and after the pass, and of its
dispatches. Handlers may do to the store what they like, so what is gone counts only if they did
not delete it.

* `Pass.treat_stores`: the treatment of a record takes no other out of the store, and none that is
  not expired.
* `Aggregate.Discards`: what is gone after a pass, and what becomes of the survivors.
* `Aggregate.discards_for_survivor`: so does every pass, whatever the store holds.
* `Aggregate.discards_for_expired`: an expired survivor takes a live record with it.
-/

namespace Reconciliation

/-! ## Stores -/

namespace Store

/-- A record of which nothing is left is gone, stored before or not. -/
theorem get?_leaveAll_none {rs : List WorkRecord} {r : WorkRecord} (hr : r ∈ rs)
    (s : Store) : (s.leaveAll (fun _ => none) rs).get? r.id = none := by
  have hnone : ∀ (rs : List WorkRecord) (s : Store), s.get? r.id = none →
      (s.leaveAll (fun _ => none) rs).get? r.id = none := by
    intro rs
    induction rs with
    | nil => exact fun _ h => h
    | cons x rs ih =>
      intro s h
      refine ih _ ?_
      change (s.erase x.id).get? r.id = none
      rw [get?_erase, h, ite_self]
  induction rs generalizing s with
  | nil => cases hr
  | cons x rs ih =>
    rcases List.mem_cons.1 hr with rfl | hr
    · refine hnone rs _ ?_
      change (s.erase r.id).get? r.id = none
      rw [get?_erase, if_pos rfl]
    · exact ih hr _

/-- Where something is left of a record, every identifier that has a record keeps one. -/
theorem contains_leave {s : Store} {id k : RecordId} {o : Option WorkRecord}
    (ho : ∀ r ∈ o, r.id = k) (hid : id = k → o.isSome = true) (h : s.contains id = true) :
    (s.leave k o).contains id = true := by
  rw [← isSome_get?] at h ⊢
  rw [get?_leave ho]
  split
  · rename_i hk
    obtain ⟨x, hx⟩ := Option.isSome_iff_exists.1 h
    rw [← hk, hx]
    exact hid hk
  · exact h

/-- Only a deletion under the identifier takes its record away. -/
theorem contains_edit {s : Store} {id : RecordId} {e : Edit} (he : e ≠ .delete id)
    (h : s.contains id = true) : (s.edit e).2.contains id = true := by
  cases e with
  | delete gone =>
    have hne : id = gone → (none : Option WorkRecord).isSome = true :=
      fun hid => absurd (congrArg Edit.delete hid).symm he
    exact contains_leave (by simp) hne h
  | insert r =>
    change (s.attempted (s.insert r)).2.contains id = true
    cases ht : s.insert r with
    | error e => exact h
    | ok t =>
      change t.contains id = true
      rw [← isSome_get?] at h ⊢
      rw [get?_insert ht]
      split
      · rfl
      · exact h

end Store

/-! ## Runs -/

/-- Some record is stored under an identifier. It need not be the record that was there first, as an
attempt puts another in its place. -/
def World.Stores (id : RecordId) (w : World Store) : Prop := w.backend.contains id = true

open Run (Maintains)

section Runs

variable {α : Type} {id : RecordId}

/-- What does nothing to the store leaves a record under every identifier that has one. -/
theorem World.Stores.of_backend {x : Run Store α} (hx : ∀ w, (x w).2.backend = w.backend) :
    Maintains (Stores id) x := by
  intro w h
  rw [Stores, hx w]
  exact h

/-- So does a step of the store that takes nothing away under the identifier. -/
theorem World.Stores.step {f : Store → α × Store}
    (hf : ∀ s : Store, s.contains id = true → (f s).2.contains id = true) :
    Maintains (Stores id) (Run.step f) := fun w => hf w.backend

/-- And so does what puts something in the place of a record, or clears away another. -/
theorem World.Stores.leave {w v : World Store} {k : RecordId} {o : Option WorkRecord}
    (h : w.Stores id) (hv : v.backend = w.backend.leave k o) (ho : ∀ r ∈ o, r.id = k)
    (hid : id = k → o.isSome = true) : v.Stores id := by
  rw [Stores, hv]
  exact Store.contains_leave ho hid h

end Runs

/-! ## Dispatches -/

namespace Dispatcher

/-- No handler deletes what is stored under an identifier. It may well put a record there, or crash.
-/
def NeverDeletes (d : Dispatcher) (id : RecordId) : Prop :=
  ∀ t h, d.handler? t = some h → ∀ history r, .delete id ∉ (h history r).edits

variable {id : RecordId}

/-- The changes of a handler that does not delete under the identifier. -/
theorem makeEdits_stores {es : List Edit} (hes : .delete id ∉ es) (made : Nat) :
    Maintains (World.Stores id) (makeEdits made es : Run Store _) := by
  induction es generalizing made with
  | nil => exact .pure _
  | cons e es ih =>
    rw [List.mem_cons, not_or] at hes
    refine Maintains.bind (World.Stores.step fun s => Store.contains_edit (Ne.symm hes.1))
      fun result => ?_
    cases result with
    | ok => exact ih hes.2 (made + 1)
    | error => exact .pure _

/-- A handler that is called may crash, but it takes nothing away by that. -/
theorem callHandler_stores {h : Handler} (hh : ∀ history r, .delete id ∉ (h history r).edits)
    (r : WorkRecord) : Maintains (World.Stores id) (callHandler h r : Run Store _) := by
  have hcall : ∀ c, Maintains (World.Stores id) (Run.call c : Run Store Unit) :=
    fun _ => World.Stores.of_backend fun _ => rfl
  refine Maintains.bind (World.Stores.of_backend fun _ => rfl) fun w => ?_
  refine (makeEdits_stores (hh _ r) 0).bind fun made => (hcall _).bind fun _ => ?_
  rcases made with ⟨n, e | _⟩
  · exact .pure _
  · dsimp only
    split
    · exact .pure _
    · exact .pure _
    · exact World.Stores.of_backend fun _ => rfl

/-- **A dispatch** leaves in the store what no handler deletes. -/
theorem NeverDeletes.dispatch {d : Dispatcher} (hd : d.NeverDeletes id) (r : WorkRecord)
    (now : Instant) : Maintains (World.Stores id) (d.dispatch r now : Run Store _) := by
  have houtcome : Maintains (World.Stores id) (d.outcome r : Run Store _) := by
    rw [outcome]
    split
    · rename_i h hh
      exact callHandler_stores (hd _ h hh) r
    · exact (World.Stores.of_backend fun _ => rfl).bind fun _ => .pure _
  refine houtcome.bind fun result => ?_
  rcases result with message | status | until?
  · exact .pure _
  · exact (World.Stores.of_backend fun w => (noteSuccess_harmless d r now w).backend).bind
      fun _ => .pure _
  · exact (World.Stores.of_backend fun w => (noteFailure_harmless d r now w).backend).bind
      fun _ => .pure _

end Dispatcher

/-! ## Passes -/

variable {d : Dispatcher} {now : Instant} {id : RecordId}

namespace Pass

variable {r : WorkRecord}

/-- Where records that are done are kept, an attempt leaves something of each. -/
theorem isSome_left_keep (now : Instant) (r : WorkRecord) (result : Except String Outcome) :
    (left .keep now r result).isSome = true := by
  rcases result with message | status | until?
  · rw [left_error]
    rfl
  · rfl
  · rw [left_retry]
    rfl

/-- A result that is written back puts a record in the place of the one that was tried. -/
theorem conclude_stores (pass : String) (hr : r.processed = none) (report : Report)
    (result : Except String Outcome) :
    Maintains (World.Stores id) (conclude pass d .keep now report r result) := by
  intro w h
  rcases conclude_cases (d := d) pass .keep now hr report result w with
    ⟨report', v, hv, hleads⟩ | ⟨-, crash, v, hv, halike⟩
  · rw [hv]
    exact h.leave hleads.backend (fun x hx => (left_sameWork hx).id)
      fun _ => isSome_left_keep now r result
  · rw [hv]
    change v.backend.contains id = true
    rw [halike.backend]
    exact h

/-- **A treated record** takes nothing but itself out of the store, and that only if it is
expired. -/
theorem treat_stores (pass : String) (hd : d.NeverDeletes id) (hr : r.processed = none)
    (hid : r.id = id → r.isExpired now = false) (report : Report) :
    Maintains (World.Stores id) (treat pass d .keep now report r) := by
  rw [treat]
  cases he : r.isExpired now with
  | true =>
    -- only an expired record is deleted here, and the one that is watched is not expired
    have hne : id ≠ r.id := by
      intro h
      rw [hid h.symm] at he
      cases he
    intro w h
    obtain ⟨report', v, hv, hleads⟩ := abandon_ok pass report r w
    rw [if_pos rfl, hv]
    exact h.leave hleads.backend (by simp) fun h => absurd h hne
  | false =>
    have htry : Maintains (World.Stores id) (tryDispatch d r now : Run Store _) := by
      refine (hd.dispatch r now).caught.bind fun result => ?_
      cases result with
      | ok => exact .pure _
      | error => exact .pure _
    refine htry.bind fun result => (World.Stores.of_backend fun _ => rfl).bind fun _ => ?_
    exact conclude_stores pass hr _ result

end Pass

/-- Records treated one after another. -/
theorem Pass.foldlM_treat_stores (pass : String) (hd : d.NeverDeletes id) {rs : List WorkRecord}
    (hp : ∀ r ∈ rs, r.processed = none) (hlive : ∀ r ∈ rs, r.id = id → r.isExpired now = false)
    (report : Report) : Maintains (World.Stores id) (rs.foldlM (treat pass d .keep now) report) :=
  .foldlM (fun r hr => treat_stores pass hd (hp r hr) (hlive r hr)) report

namespace Aggregate

/-- **A plan is carried out** to its end, or a crash ends the treatment of the survivors; then no
duplicate has been discarded. -/
theorem carryOut_cases (d : Dispatcher) (now : Instant) (report : Report) (plan : Plan)
    (w : World Store) :
    ∃ xs : List Dispatch, (carryOut d now report plan w).2.dispatches = w.dispatches ++ xs ∧
      xs.map (·.record) <+: plan.dispatch.filter (fun r => !r.isExpired now) ∧
      ((∃ c v, carryOut d now report plan w = (.error c, v) ∧
        plan.dispatch.foldlM (Pass.treat name d .keep now) { report with
          selected := plan.dispatch.length + plan.duplicates.length } w = (.error c, v)) ∨
      ∃ report' v, carryOut d now report plan w = (.ok report', v) ∧
        xs.map (·.record) = plan.dispatch.filter (fun r => !r.isExpired now) ∧
        ∀ r ∈ plan.duplicates, v.backend.get? r.id = none) := by
  obtain ⟨xs, hfirst, hall, hxs, -⟩ := Pass.foldlM_treat_trace name d .keep now
    plan.dispatch { report with selected := plan.dispatch.length + plan.duplicates.length } w
  refine ⟨xs, (congrArg Prod.fst (carryOut_trace d now report plan w)).trans hxs, hfirst, ?_⟩
  rcases h : plan.dispatch.foldlM (Pass.treat name d .keep now)
    { report with selected := plan.dispatch.length + plan.duplicates.length } w
    with ⟨c | report₁, u⟩
  · exact .inl ⟨c, u, Run.bind_crash h _, rfl⟩
  · obtain ⟨report₂, v, hv, hleads⟩ := foldlM_discard plan.duplicates report₁ u
    refine .inr ⟨report₂, (Run.log (.aggregated report₂) v).2, ?_, hall _ (by rw [h]), ?_⟩
    · rw [carryOut, Run.bind_ok h, Run.bind_ok hv]
      rfl
    · intro r hr
      change v.backend.get? r.id = none
      rw [hleads.backend]
      exact Store.get?_leaveAll_none hr _

/-- A plan that is carried out takes nothing out of the store but its duplicates, and of the
survivors those that are expired. -/
theorem carryOut_stores (hd : d.NeverDeletes id) {plan : Plan}
    (hp : ∀ r ∈ plan.dispatch, r.processed = none)
    (hdispatch : ∀ r ∈ plan.dispatch, r.id = id → r.isExpired now = false)
    (hduplicates : ∀ r ∈ plan.duplicates, r.id ≠ id) (report : Report) :
    Maintains (World.Stores id) (carryOut d now report plan) := by
  refine (Pass.foldlM_treat_stores name hd hp hdispatch _).bind fun report => ?_
  refine (Maintains.foldlM (fun r hr report => ?_) _).bind fun report =>
    (World.Stores.of_backend fun _ => rfl).bind fun _ => .pure _
  intro w h
  obtain ⟨report', v, hv, hleads⟩ := discard_ok report r w
  rw [hv]
  exact h.leave hleads.backend (by simp) fun h => absurd h.symm (hduplicates r hr)

/-- An expired survivor is gone once the plan is carried out, if no handler puts another record in
its place. -/
theorem carryOut_abandons {plan : Plan} (hn : (plan.dispatch.map (·.id)).Nodup)
    (hp : ∀ r ∈ plan.dispatch, r.processed = none) {s : WorkRecord} (hs : s ∈ plan.dispatch)
    (hexpired : s.isExpired now = true) (hd : d.NeverInserts fun x => x.id = s.id)
    {report report' : Report} {v w : World Store}
    (hv : carryOut d now report plan w = (.ok report', v)) : v.backend.get? s.id = none := by
  -- the survivors have distinct identifiers, so what is left of a live one is another record
  have hleft : ∀ r ∈ plan.dispatch, r.isExpired now = false →
      Pass.NeverLeaves .keep now (fun x => x.id = s.id) r := by
    intro r hr hlive result x hx hid
    have hsame : r = s :=
      List.inj_on_of_nodup_map hn hr hs ((Pass.left_sameWork hx).id.symm.trans hid)
    rw [hsame, hexpired] at hlive
    cases hlive
  rcases carryOut_clears hd hp hleft report w with ⟨a, u, hu, hclears⟩ | ⟨-, c, u, hu, -⟩
  · rw [hv] at hu
    cases hu
    cases hx : v.backend.get? s.id with
    | none => rfl
    | some x =>
      obtain ⟨hxs, hid⟩ := Store.get?_eq_some_iff.1 hx
      have hnot := (hclears x hxs hid).2
      rw [hid] at hnot
      exact absurd (List.mem_append_left _ (List.mem_map_of_mem hs)) hnot
  · rw [hv] at hu
    cases hu

/-- A stored record that is gone after a plan was carried out is one of its duplicates, and then no
crash has cut it short, or an expired survivor. -/
theorem mem_of_carryOut_gone {plan : Plan} {w : World Store} {r : WorkRecord}
    (hn : ((plan.dispatch ++ plan.duplicates).map (·.id)).Nodup)
    (hstored : ∀ x ∈ plan.dispatch ++ plan.duplicates, x ∈ w.backend.records ∧ x.processed = none)
    (hr : r ∈ w.backend.records) (hd : d.NeverDeletes r.id) {report : Report}
    (hgone : (carryOut d now report plan w).2.backend.get? r.id = none) :
    (r ∈ plan.duplicates ∧ ∃ report', (carryOut d now report plan w).1 = .ok report') ∨
      r ∈ plan.dispatch ∧ r.isExpired now = true := by
  have hbefore : w.backend.contains r.id = true := by
    rw [← Store.isSome_get?, Store.get?_eq_some_iff.2 ⟨hr, rfl⟩]
    rfl
  have hafter : ¬ (carryOut d now report plan w).2.backend.contains r.id = true := by
    rw [← Store.isSome_get?, hgone]
    exact Bool.false_ne_true
  have hp : ∀ x ∈ plan.dispatch, x.processed = none :=
    fun x hx => (hstored x (List.mem_append_left _ hx)).2
  have hsame : ∀ x ∈ plan.dispatch ++ plan.duplicates, x.id = r.id → x = r :=
    fun x hx => Store.eq_of_id (hstored x hx).1 hr
  rw [List.map_append, List.nodup_append] at hn
  by_cases hdup : r ∈ plan.duplicates
  · refine .inl ⟨hdup, ?_⟩
    obtain ⟨-, -, -, ⟨c, v, hv, hcrash⟩ | ⟨report', v, hv, -, -⟩⟩ :=
      carryOut_cases d now report plan w
    · -- a crash comes before the duplicates have their turn
      have hother : ∀ x ∈ plan.dispatch, x.id = r.id → x.isExpired now = false :=
        fun x hx hid => absurd hid
          (hn.2.2 x.id (List.mem_map_of_mem hx) r.id (List.mem_map_of_mem hdup))
      have hstores := Pass.foldlM_treat_stores name hd hp hother
        { report with selected := plan.dispatch.length + plan.duplicates.length } w hbefore
      rw [hcrash] at hstores
      rw [hv] at hafter
      exact absurd hstores hafter
    · exact ⟨report', by rw [hv]⟩
  · refine .inr (Decidable.byContradiction fun hlive => hafter ?_)
    refine carryOut_stores hd hp (fun x hx hid => ?_) (fun x hx hid => ?_) report w hbefore
    · obtain rfl := hsame x (List.mem_append_left _ hx) hid
      exact Bool.eq_false_iff.2 fun hexpired => hlive ⟨hx, hexpired⟩
    · obtain rfl := hsame x (List.mem_append_right _ hx) hid
      exact hdup hx

/-! ## What is gone -/

/-- What became of the survivor of a record's group, the newest unprocessed one of its entity and
kind. It was dispatched if it was not expired. If it was, it was not dispatched, and it is gone
unless a handler put another record in its place. -/
def Outlived (d : Dispatcher) (now : Instant) (before after : Store)
    (dispatched : List WorkRecord) (r : WorkRecord) : Prop :=
  ∃ s ∈ before.records, s.processed = none ∧ r.sameGroup s = true ∧ r.olderThan s = true ∧
    ¬ Superseded before s ∧ (s ∈ dispatched ↔ ¬ s.expiry ≤ now) ∧
    (s.expiry ≤ now → (d.NeverInserts fun x => x.id = s.id) → after.get? s.id = none)

/-- What a pass takes out of the store. The store before the pass says what it has to, and the store
after it and the dispatches say what it did. -/
structure Discards (d : Dispatcher) (limit : Int) (now : Instant) (before after : Store)
    (dispatched : List WorkRecord) (ended : Prop) : Prop where
  /-- What is gone, and was not deleted by a handler, is a stale duplicate or an expired survivor. A
  pass that a crash cuts short discards no duplicates. -/
  gone : ∀ r ∈ before.records, after.get? r.id = none → d.NeverDeletes r.id →
    r.processed = none ∧ Touched before limit r.entity ∧
      (Superseded before r ∧ ended ∧ Outlived d now before after dispatched r ∨
        ¬ Superseded before r ∧ r.expiry ≤ now ∧ r ∉ dispatched)
  /-- A pass that is not cut short discards all of them. -/
  stale : ended → ∀ r ∈ before.records, r.processed = none → Touched before limit r.entity →
    Superseded before r →
      after.get? r.id = none ∧ Outlived d now before after dispatched r

variable {before after : Store} {limit : Int} {dispatched : List WorkRecord}

/-- Whether a pass has ended may be said in any way. -/
theorem Discards.of_iff {ended ended' : Prop}
    (h : Discards d limit now before after dispatched ended) (hiff : ended ↔ ended') :
    Discards d limit now before after dispatched ended' where
  gone r hr hgone hd := by
    rw [← hiff]
    exact h.gone r hr hgone hd
  stale hended := h.stale (hiff.2 hended)

section Batch

variable {batch : List WorkRecord} {plan : Plan} {r : WorkRecord} (hn : (batch.map (·.id)).Nodup)
  (hb : ∀ r, r ∈ batch ↔ r ∈ before.records ∧ r.processed = none ∧ Touched before limit r.entity)
  (hplan : plan.Thins batch)
include hb hplan

/-- The survivors are the records of the batch that are not superseded in the store. -/
theorem mem_dispatch_iff_not_superseded :
    r ∈ plan.dispatch ↔ r ∈ batch ∧ ¬ Superseded before r := by
  rw [hplan.mem_dispatch_iff, newestIn_iff hb]

/-- The duplicates are those that are. -/
theorem mem_duplicates_iff_superseded :
    r ∈ plan.duplicates ↔ r ∈ batch ∧ Superseded before r := by
  rw [hplan.mem_duplicates_iff, newestIn_iff hb]
  refine and_congr_right fun hr => ?_
  rw [not_and, not_not]
  exact ⟨fun h => h hr, fun h _ => h⟩

/-- A duplicate is outlived if the survivors are dispatched that are not expired, and the others are
gone. -/
theorem outlived_of_mem_duplicates (hr : r ∈ plan.duplicates)
    (hdispatched : dispatched = plan.dispatch.filter fun s => !s.isExpired now)
    (hgone : ∀ s ∈ plan.dispatch, s.isExpired now = true →
      (d.NeverInserts fun x => x.id = s.id) → after.get? s.id = none) :
    Outlived d now before after dispatched r := by
  obtain ⟨s, hs, hgroup, hold⟩ := hplan.newer r hr
  obtain ⟨hsb, hsup⟩ := (mem_dispatch_iff_not_superseded hb hplan).1 hs
  obtain ⟨hss, hsp, -⟩ := (hb s).1 hsb
  refine ⟨s, hss, hsp, WorkRecord.sameGroup_symm hgroup, hold, hsup, ?_, fun hexpired => ?_⟩
  · rw [hdispatched, List.mem_filter]
    simp [hs, WorkRecord.isExpired]
  · exact hgone s hs (decide_eq_true hexpired)

include hn

/-- **A plan that is carried out discards** what the pass has to, if its batch is every unprocessed
record of the touched entities. -/
theorem carryOut_discards (d : Dispatcher) (now : Instant) (report : Report) {w : World Store}
    (hw : w.backend = before) :
    ∃ xs : List Dispatch, (carryOut d now report plan w).2.dispatches = w.dispatches ++ xs ∧
      Discards d limit now before (carryOut d now report plan w).2.backend (xs.map (·.record))
        (∃ report', (carryOut d now report plan w).1 = .ok report') := by
  subst hw
  have hids := hplan.nodup hn
  have hstored : ∀ x ∈ plan.dispatch ++ plan.duplicates,
      x ∈ w.backend.records ∧ x.processed = none := by
    intro x hx
    obtain ⟨hxs, hxp, -⟩ := (hb x).1 (hplan.perm.subset hx)
    exact ⟨hxs, hxp⟩
  obtain ⟨xs, hxs, hfirst, hcases⟩ := carryOut_cases d now report plan w
  have hended : ∀ report', (carryOut d now report plan w).1 = .ok report' →
      ∀ r ∈ plan.duplicates, (carryOut d now report plan w).2.backend.get? r.id = none ∧
        Outlived d now w.backend (carryOut d now report plan w).2.backend
          (xs.map (·.record)) r := by
    -- a pass that returned has come to the end of its plan
    intro report' hok r hr
    rcases hcases with ⟨c, v, hv, -⟩ | ⟨report₂, v, hv, hdispatched, hnone⟩
    · rw [hv] at hok
      cases hok
    · rw [List.map_append] at hids
      have habandoned : ∀ s ∈ plan.dispatch, s.isExpired now = true →
          (d.NeverInserts fun x => x.id = s.id) → v.backend.get? s.id = none :=
        fun s hs hexpired hd => carryOut_abandons hids.of_append_left
          (fun x hx => (hstored x (List.mem_append_left _ hx)).2) hs hexpired hd hv
      rw [hv]
      exact ⟨hnone r hr, outlived_of_mem_duplicates hb hplan hr hdispatched habandoned⟩
  refine ⟨xs, hxs, fun r hr hgone hd => ?_, ?_⟩
  · rcases mem_of_carryOut_gone hids hstored hr hd hgone with
      ⟨hdup, report', hok⟩ | ⟨hs, hexpired⟩
    · obtain ⟨hrb, hsup⟩ := (mem_duplicates_iff_superseded hb hplan).1 hdup
      obtain ⟨-, hrp, ht⟩ := (hb r).1 hrb
      exact ⟨hrp, ht, .inl ⟨hsup, ⟨report', hok⟩, (hended report' hok r hdup).2⟩⟩
    · obtain ⟨hrb, hsup⟩ := (mem_dispatch_iff_not_superseded hb hplan).1 hs
      obtain ⟨-, hrp, ht⟩ := (hb r).1 hrb
      refine ⟨hrp, ht, .inr ⟨hsup, of_decide_eq_true hexpired, fun hmem => ?_⟩⟩
      have hlive := (List.mem_filter.1 (hfirst.subset hmem)).2
      simp [hexpired] at hlive
  · rintro ⟨report', hok⟩ r hr hrp ht hsup
    exact hended report' hok r
      ((mem_duplicates_iff_superseded hb hplan).2 ⟨(hb r).2 ⟨hr, hrp, ht⟩, hsup⟩)

end Batch

/-- **A record is discarded for the survivor of its group.** What a pass takes out of the store is
stale duplicates and expired survivors, if handlers do not do it. The survivor of a discarded
record, the newest unprocessed record of its entity and kind, is dispatched in the same pass if
and only if it is not expired itself; if it is, it leaves the store with the discarded one. -/
theorem discards_for_survivor (d : Dispatcher) (holdBack : Span) (now : Instant)
    (w : World Store) :
    ∃ xs : List Dispatch, (run d holdBack now w).2.dispatches = w.dispatches ++ xs ∧
      Discards d (cutoff holdBack now) now w.backend (run d holdBack now w).2.backend
        (xs.map (·.record)) (∃ report, (run d holdBack now w).1 = .ok (.ok report)) := by
  obtain ⟨report, batch, u, hu, halike, hn, hb⟩ := collect_ok holdBack now w
  have hrun : run d holdBack now w = process d now report batch u := by
    rw [run]
    exact Run.bind_ok hu _
  rw [hrun]
  cases batch with
  | nil =>
    refine ⟨[], halike.dispatches.trans (List.append_nil _).symm, fun r hr hgone _ => ?_, ?_⟩
    · change u.backend.get? r.id = none at hgone
      rw [halike.backend, Store.get?_eq_some_iff.2 ⟨hr, rfl⟩] at hgone
      cases hgone
    · exact fun _ r hr hrp ht _ => absurd ((hb r).2 ⟨hr, hrp, ht⟩) List.not_mem_nil
  | cons b batch =>
    obtain ⟨xs, hxs, h⟩ :=
      carryOut_discards hn hb (Plan.thins_ofList hn) d now report halike.backend
    rw [halike.dispatches] at hxs
    refine ⟨xs, ?_⟩
    rcases hv : carryOut d now report (Plan.ofList (b :: batch)) u with ⟨c | report', v⟩ <;>
      rw [hv] at hxs h
    · have hcrash : process d now report (b :: batch) u = (.error c, v) := Run.bind_crash hv _
      rw [hcrash]
      exact ⟨hxs, h.of_iff (by simp)⟩
    · have hok : process d now report (b :: batch) u = (.ok (.ok report'), v) := Run.bind_ok hv _
      rw [hok]
      exact ⟨hxs, h.of_iff (by simp)⟩

/-- Two records of one kind, the older one with time left. -/
def liveDuplicate : Store :=
  ⟨[sample 1 10 .sentenceImposed, sample 2 20 .sentenceImposed], by decide⟩

/-- The older one is discarded, and the newer one is dispatched. -/
theorem discards_for_dispatched :
    (run .new (.ofSeconds 60) (.ofSecond 100) (World.of liveDuplicate)).2.backend.get? (.ofNat 1) =
        none ∧
      ∃ x ∈ (run .new (.ofSeconds 60) (.ofSecond 100) (World.of liveDuplicate)).2.dispatches,
        x.record = sample 2 20 .sentenceImposed := by
  obtain ⟨xs, hxs, h⟩ :=
    discards_for_survivor .new (.ofSeconds 60) (.ofSecond 100) (World.of liveDuplicate)
  have hended : ((run .new (.ofSeconds 60) (.ofSecond 100)
      (World.of liveDuplicate)).1.toOption.bind Except.toOption).isSome = true := by
    decide +kernel
  have hreport : ∃ report, (run .new (.ofSeconds 60) (.ofSecond 100)
      (World.of liveDuplicate)).1 = .ok (.ok report) := by
    rcases hr : (run .new (.ofSeconds 60) (.ofSecond 100) (World.of liveDuplicate)).1 with
      c | e | report
    · rw [hr] at hended
      cases hended
    · rw [hr] at hended
      cases hended
    · exact ⟨report, rfl⟩
  obtain ⟨hgone, s, hs, -, -, hold, -, hdispatched, -⟩ := h.stale hreport
    (sample 1 10 .sentenceImposed) (by decide) rfl (by decide +kernel) (by decide +kernel)
  have hs2 : s = sample 2 20 .sentenceImposed := by
    rcases List.mem_pair.1 hs with rfl | rfl
    · exact absurd hold (by decide)
    · rfl
  subst hs2
  rw [hxs]
  exact ⟨hgone, List.mem_map.1 (hdispatched.2 (by decide))⟩

/-- The same two records, where the newer one is expired. -/
def expiredSurvivor : Store :=
  ⟨[sample 1 10 .sentenceImposed, (sample 2 20 .sentenceImposed).withExpiry (.ofSecond 50)],
    by decide⟩

/-- **An expired survivor takes a live record with it**: the older one has time left and is
discarded, the newer one is expired and abandoned, as the report says too, and nothing is
dispatched. -/
theorem discards_for_expired :
    ¬ (sample 1 10 .sentenceImposed).expiry ≤ .ofSecond 100 ∧
      Superseded expiredSurvivor (sample 1 10 .sentenceImposed) ∧
      (run .new (.ofSeconds 60) (.ofSecond 100) (World.of expiredSurvivor)).2.backend.records = [] ∧
      (((run .new (.ofSeconds 60) (.ofSecond 100) (World.of expiredSurvivor)).1.toOption.bind
        Except.toOption).map fun report => (report.discarded, report.abandoned)) = some (1, 1) ∧
      ¬ ∃ x ∈ (run .new (.ofSeconds 60) (.ofSecond 100) (World.of expiredSurvivor)).2.dispatches,
        x.record = (sample 2 20 .sentenceImposed).withExpiry (.ofSecond 50) := by
  decide +kernel

end Aggregate

end Reconciliation
