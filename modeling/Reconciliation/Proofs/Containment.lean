import Reconciliation.Proofs.Aggregation
import Reconciliation.Proofs.Faults
import Reconciliation.Proofs.Retrying

/-!
# Faults of the store are contained

A pass over a store some of whose calls fail is set next to the same pass over the store
without faults. Only a failing selection ends a pass, before it has done anything. Any other
failure costs no more than what the call was about: an entity that cannot be fetched is left
out, and a record that cannot be written stays as it is. Everything else ends as it does
without faults, in the same order, and the report counts each failure.

* `Pass.Refused`, `Pass.Contained`: the two ways a pass can end.
* `Pass.contains_faults`: both kinds of pass end in one of these, whatever the store holds and
  whichever calls fail.
-/

namespace Reconciliation

namespace StoreCall

/-- Whether a call selects what a pass is about. If such a call fails the pass is refused, as it has
nothing to go on. -/
def selects : StoreCall → Bool
  | untriedBefore _ | unprocessedIn _ => true
  | _ => false

/-- The entity whose records a call fetches. If the call fails the entity is left out of the pass.
-/
def fetched? : StoreCall → Option EntityId
  | unprocessedOf e => some e
  | _ => none

/-- The record that a call writes. If the call fails the record stays as it was. -/
def written? : StoreCall → Option RecordId
  | update r | delete r => some r.id
  | _ => none

/-- A write selects nothing. -/
theorem selects_leaving (r : WorkRecord) (o : Option WorkRecord) :
    (leaving r o).selects = false := by
  cases o <;> rfl

/-- It fetches nothing either. -/
theorem fetched?_leaving (r : WorkRecord) (o : Option WorkRecord) :
    (leaving r o).fetched? = none := by
  cases o <;> rfl

/-- It writes the record that it is about. -/
theorem written?_leaving {r : WorkRecord} {o : Option WorkRecord} (ho : ∀ x ∈ o, x.id = r.id) :
    (leaving r o).written? = some r.id := by
  cases o with
  | none => rfl
  | some x => exact congrArg some (ho x rfl)

variable {missed : List EntityId} {lost : List WorkRecord}
  {left : WorkRecord → Option WorkRecord}

/-- Of failed fetches and writes, in this order, the former tell the entities. -/
theorem filterMap_fetched? (missed : List EntityId) (lost : List WorkRecord)
    (left : WorkRecord → Option WorkRecord) :
    (missed.map unprocessedOf ++ lost.map fun r => leaving r (left r)).filterMap fetched? =
      missed := by
  have hfetches : ∀ e, (fetched? ∘ unprocessedOf) e = some e := fun _ => rfl
  have hwrites : ∀ r, (fetched? ∘ fun r => leaving r (left r)) r = none :=
    fun r => fetched?_leaving r (left r)
  rw [List.filterMap_append, List.filterMap_map, List.filterMap_map, funext hfetches,
    funext hwrites, List.filterMap_some, List.filterMap_none, List.append_nil]

/-- The latter tell the records. -/
theorem filterMap_written? (missed : List EntityId) (hl : ∀ r ∈ lost, ∀ x ∈ left r, x.id = r.id) :
    (missed.map unprocessedOf ++ lost.map fun r => leaving r (left r)).filterMap written? =
      lost.map (·.id) := by
  have hfetches : ∀ e, (written? ∘ unprocessedOf) e = none := fun _ => rfl
  rw [List.filterMap_append, List.filterMap_map, List.filterMap_map, funext hfetches,
    List.filterMap_none, List.nil_append, ← List.filterMap_eq_map]
  exact List.filterMap_congr fun r hr => written?_leaving (hl r hr)

end StoreCall

/-- A store with faults, before any call. -/
def Watched.of (s : Store) (fs : List Fault) : Watched FaultyStore := ⟨⟨s, fs, false⟩, []⟩

/-- The entities that could not be fetched. -/
def World.unfetched (w : World (Watched FaultyStore)) : List EntityId :=
  w.backend.failed.filterMap StoreCall.fetched?

/-- The records that could not be written. -/
def World.unwritten (w : World (Watched FaultyStore)) : List RecordId :=
  w.backend.failed.filterMap StoreCall.written?

namespace Pass

/-- How a pass ends whose selection fails: with an error, and having done nothing. -/
structure Refused (s : Store) (result : Except Crash (Except StoreError Report))
    (v : World (Watched FaultyStore)) : Prop where
  error : ∃ e, result = .ok (.error e)
  selection : ∃ c, v.backend.failed = [c] ∧ c.selects = true
  dispatches : v.dispatches = []
  store : v.store = s

/-- How a pass ends whose selection does not fail, next to the end of the same pass without
faults. -/
structure Contained (s : Store) (result : Except Crash (Except StoreError Report))
    (v : World (Watched FaultyStore)) (sound : World Store) : Prop where
  selection : ∀ c ∈ v.backend.failed, c.selects = false
  /-- Every failed call is counted, once. -/
  report : ∃ report, result = .ok (.ok report) ∧ report.storeErrors = v.backend.failed.length
  /-- The dispatches are those without faults, but for the entities that were not fetched. -/
  dispatches : v.dispatches = sound.dispatches.filter fun x => x.record.entity ∉ v.unfetched
  unfetched : ∀ r ∈ s.records, r.entity ∈ v.unfetched → v.store.get? r.id = some r
  unwritten : ∀ r ∈ s.records, r.id ∈ v.unwritten → v.store.get? r.id = some r
  others : ∀ id, id ∉ v.unwritten → (∀ r ∈ s.get? id, r.entity ∉ v.unfetched) →
    v.store.get? id = sound.backend.get? id

variable {s : Store} {fs : List Fault} {left : WorkRecord → Option WorkRecord}
  {batch : List WorkRecord} {missed : List EntityId} {report : Report} {n : Nat}
  {u v : World (Watched FaultyStore)} {sound : World Store} {xs : List Dispatch}

/-- Some entities could not be fetched, and then a batch of stored records has been written about.
That is contained if the batch leaves out nothing but those entities and what stays as it is. -/
theorem Contained.of
    (hfetch : (World.of (Watched.of s fs)).Endures [] (missed.map .unprocessedOf) s u)
    (hsettled : u.Settled left batch xs n v) (hcount : report.storeErrors = missed.length + n)
    (hn : (batch.map (·.id)).Nodup) (hl : ∀ r, ∀ x ∈ left r, x.id = r.id)
    (hb : ∀ r ∈ batch, r ∈ s.records ∧ r.entity ∉ missed)
    (hrest : ∀ r ∈ s.records, r.entity ∉ missed → r ∉ batch → left r = some r)
    (hsound : ∀ id, sound.backend.get? id = (s.get? id).bind left)
    (hxs : xs = sound.dispatches.filter fun x => x.record.entity ∉ missed) :
    Contained s (.ok (.ok report)) v sound := by
  obtain ⟨done, lost, hperm, rfl, hwrites⟩ := hsettled
  rw [hfetch.store] at hwrites
  have h := hfetch.trans hwrites
  have hdone : ∀ r ∈ done, r ∈ batch := fun r hr => hperm.subset (List.mem_append_left _ hr)
  have hids := (hperm.map (·.id)).nodup_iff.2 hn
  rw [List.map_append, List.nodup_append] at hids
  have hfailed : v.backend.failed =
      missed.map .unprocessedOf ++ lost.map fun r => .leaving r (left r) := h.failed
  have hunfetched : v.unfetched = missed := by
    rw [World.unfetched, hfailed, StoreCall.filterMap_fetched?]
  have hunwritten : v.unwritten = lost.map (·.id) := by
    rw [World.unwritten, hfailed, StoreCall.filterMap_written? _ fun r _ => hl r]
  have hstored : ∀ r ∈ done, r ∈ s.records := fun r hr => (hb r (hdone r hr)).1
  have hkept : ∀ r ∈ s.records, r ∉ done → v.store.get? r.id = some r := by
    intro r hr hnot
    rw [h.store]
    exact Store.get?_leaveAll_of_stored (fun r _ => hl r) hstored hr hnot
  refine ⟨?_, ⟨report, rfl, ?_⟩, ?_, ?_, ?_, ?_⟩
  · intro c hc
    rw [hfailed, List.mem_append, List.mem_map, List.mem_map] at hc
    rcases hc with ⟨e, -, rfl⟩ | ⟨r, -, rfl⟩
    · rfl
    · exact StoreCall.selects_leaving r _
  · rw [hcount, hfailed, List.length_append, List.length_map, List.length_map]
  · rw [hunfetched, ← hxs]
    exact h.dispatches
  · intro r hr hmem
    rw [hunfetched] at hmem
    exact hkept r hr fun hrd => (hb r (hdone r hrd)).2 hmem
  · intro r hr hmem
    rw [hunwritten] at hmem
    exact hkept r hr fun hrd => hids.2.2 r.id (List.mem_map_of_mem hrd) r.id hmem rfl
  · intro id hid hentity
    rw [hunwritten] at hid
    rw [hunfetched] at hentity
    rw [hsound id, h.store]
    refine Store.get?_leaveAll_bind (fun r _ => hl r) hids.1 hstored fun r hr hrid hnot => ?_
    refine hrest r hr (hentity r (Store.get?_eq_some_iff.2 ⟨hr, hrid⟩)) fun hmem => ?_
    -- of the batch only what is lost is not done
    rcases List.mem_append.1 (hperm.symm.subset hmem) with hmem | hmem
    · exact hnot hmem
    · exact hid (hrid ▸ List.mem_map_of_mem hmem)

end Pass

namespace Aggregate

variable {d : Dispatcher} {answer : WorkRecord → Answer} {now : Instant}
  {left : WorkRecord → Option WorkRecord}

/-- The call by which a pass selects; if the hold-back leads past the first instant, there is
none. -/
def selection? (holdBack : Span) (now : Instant) : Option StoreCall :=
  (now.sub? holdBack).map .untriedBefore

/-- The selection fails if a fault hits it, and otherwise it gives the touched entities. -/
theorem select_cases (holdBack : Span) (now : Instant) (w : World (Watched FaultyStore)) :
    ((∃ c ∈ selection? holdBack now, Fault.Strikes w.backend.inner.faults c) ∧
      ∃ e c v, select holdBack now w = (.ok (.error e), v) ∧ c.selects = true ∧
        w.Endures [] [c] w.store v) ∨
    (∀ c ∈ selection? holdBack now, ¬ Fault.Strikes w.backend.inner.faults c) ∧
      ∃ es v, select holdBack now w = (.ok (.ok es), v) ∧ w.Endures [] [] w.store v ∧ es.Nodup ∧
        ∀ e, e ∈ es ↔ Touched w.store (cutoff holdBack now) e := by
  simp only [select, cutoff, selection?]
  cases now.sub? holdBack with
  | none =>
    exact .inr ⟨by simp, [], _, rfl, (Run.Harmless.log rfl w).endures, List.nodup_nil,
      fun e => iff_of_false List.not_mem_nil not_touched_earliest⟩
  | some t =>
    dsimp only
    rcases Watched.step_cases (.untriedBefore t) (f := RecordStore.untriedBefore t)
      (g := RecordStore.untriedBefore t) (w := w) rfl rfl with
      ⟨hhit, e, v, h, hv⟩ | ⟨hmiss, v, h, hv⟩
    · refine .inl ⟨⟨.untriedBefore t, rfl, hhit⟩, e, .untriedBefore t,
        (Run.log (.selectionFailed e) v).2, ?_, rfl, hv.dispatches, hv.failed, hv.store, hv.stale⟩
      exact Run.bind_ok h _
    · refine .inr ⟨fun c hc => ?_, entitiesOf (w.store.untriedBefore t), v, Run.bind_ok h _, hv,
        nodup_entitiesOf _, fun e => mem_entitiesOf_untriedBefore⟩
      rw [← Option.some.inj hc]
      exact hmiss

/-- Each entity is fetched, or it is counted as a failure and left out. -/
theorem fetch_endures (es : List EntityId) (report : Report) (w : World (Watched FaultyStore))
    (hw : w.backend.inner.stale = false) :
    ∃ (fetched missed : List EntityId) (v : World (Watched FaultyStore)),
      fetch report es w = (.ok ({ report with storeErrors := report.storeErrors + missed.length },
        fetched.flatMap w.store.unprocessedOf), v) ∧
      (fetched ++ missed).Perm es ∧ w.Endures [] (missed.map .unprocessedOf) w.store v := by
  induction es generalizing report w with
  | nil => exact ⟨[], [], w, rfl, .refl _, .refl w⟩
  | cons e es ih =>
    have hseen : RecordStore.unprocessedOf e w.backend.inner =
        w.backend.inner.call (.unprocessedOf e) (RecordStore.unprocessedOf e) := by
      have hseenOf : w.backend.inner.seenOf e = fun inner => inner.unprocessedOf e := by
        funext inner
        rw [FaultyStore.seenOf, hw]
        rfl
      change w.backend.inner.call _ (fun inner => (.ok (w.backend.inner.seenOf e inner), inner)) = _
      rw [hseenOf]
      rfl
    rcases Watched.step_cases (.unprocessedOf e) (f := RecordStore.unprocessedOf e)
      (g := RecordStore.unprocessedOf e) (w := w) hseen rfl with ⟨-, err, u, h, hu⟩ | ⟨-, u, h, hu⟩
    · -- the fetch has failed: it is counted, and its entity is left out
      have hlog : w.Endures [] [.unprocessedOf e] w.store
          (Run.log (.entityUnavailable e err) u).2 :=
        ⟨hu.dispatches, hu.failed, hu.store, hu.stale⟩
      obtain ⟨fetched, missed, v, hv, hperm, hendures⟩ :=
        ih { report with storeErrors := report.storeErrors + 1 } _ (hlog.stale.trans hw)
      rw [hlog.store] at hv hendures
      refine ⟨fetched, e :: missed, v, ?_, List.perm_middle.trans (hperm.cons e),
        hlog.trans hendures⟩
      rw [fetch]
      refine (Run.bind_ok h _).trans (hv.trans ?_)
      rw [List.length_cons, Nat.add_right_comm, Nat.add_assoc]
    · obtain ⟨fetched, missed, v, hv, hperm, hendures⟩ := ih report u (hu.stale.trans hw)
      have hstore : u.store = w.store := hu.store
      rw [hstore] at hv hendures
      refine ⟨e :: fetched, missed, v, ?_, hperm.cons e, hu.trans hendures⟩
      rw [fetch]
      refine (Run.bind_ok h _).trans ?_
      exact Run.bind_ok hv _

/-- The batch of a pass has every unprocessed record of the touched entities that were fetched,
once. -/
theorem collect_cases (holdBack : Span) (now : Instant) (w : World (Watched FaultyStore))
    (hw : w.backend.inner.stale = false) :
    ((∃ c ∈ selection? holdBack now, Fault.Strikes w.backend.inner.faults c) ∧
      ∃ e c v, collect holdBack now w = (.ok (.error e), v) ∧ c.selects = true ∧
        w.Endures [] [c] w.store v) ∨
    (∀ c ∈ selection? holdBack now, ¬ Fault.Strikes w.backend.inner.faults c) ∧
      ∃ (report : Report) (batch : List WorkRecord) (missed : List EntityId)
          (v : World (Watched FaultyStore)),
        collect holdBack now w = (.ok (.ok (report, batch)), v) ∧
        report.storeErrors = missed.length ∧
        w.Endures [] (missed.map .unprocessedOf) w.store v ∧ (batch.map (·.id)).Nodup ∧
        ∀ r, r ∈ batch ↔ r ∈ w.store.records ∧ r.processed = none ∧
          (Touched w.store (cutoff holdBack now) r.entity ∧ r.entity ∉ missed) := by
  rw [collect]
  rcases select_cases holdBack now w with
    ⟨hhit, e, c, v, hv, hc, h⟩ | ⟨hmiss, es, u, hu, h, hes, htouched⟩
  · exact .inl ⟨hhit, e, c, v, Run.bind_ok hv _, hc, h⟩
  · obtain ⟨fetched, missed, v, hv, hperm, h'⟩ := fetch_endures es .empty u (h.stale.trans hw)
    rw [h.store] at hv h'
    have hnodup := hperm.nodup_iff.2 hes
    rw [List.nodup_append] at hnodup
    refine .inr ⟨hmiss, _, _, missed, v, (Run.bind_ok hu _).trans (Run.bind_ok hv _),
      Nat.zero_add _, h.trans h', nodup_flatMap_unprocessedOf _ hnodup.1, fun r => ?_⟩
    -- no entity is in the list twice, so none was both fetched and missed
    have hfetched : ∀ e, e ∈ fetched ↔ e ∈ es ∧ e ∉ missed := by
      intro e
      rw [← hperm.mem_iff, List.mem_append]
      exact ⟨fun he => ⟨.inl he, fun hm => hnodup.2.2 e he e hm rfl⟩,
        fun he => he.1.resolve_right he.2⟩
    rw [List.mem_flatMap, ← htouched, ← hfetched]
    constructor
    · rintro ⟨e, he, hr⟩
      obtain ⟨hrs, rfl, hp⟩ := mem_unprocessedOf.1 hr
      exact ⟨hrs, hp, he⟩
    · rintro ⟨hr, hp, he⟩
      exact ⟨r.entity, he, mem_unprocessedOf.2 ⟨hr, rfl, hp⟩⟩

/-- The deletion of a stale duplicate is done, or it fails and is counted. -/
theorem discard_settles {r : WorkRecord} {dispatches : WorkRecord → List Dispatch}
    (hleft : left r = none) (hnone : dispatches r = []) :
    Pass.Settles discard left dispatches r :=
  Pass.delete_settles hleft hnone (.duplicateFound r) (.duplicateKept r)
    (fun report => { report with discarded := report.discarded + 1 }) (fun _ => rfl) fun _ => rfl

/-- **A plan that is carried out**: some of its writes are done and the others are lost. -/
theorem carryOut_settles (hd : d.Answers answer) (hs : ∀ name, d.sinkCrashes name = false)
    {plan : Plan} (hn : ((plan.dispatch ++ plan.duplicates).map (·.id)).Nodup)
    (hp : ∀ r ∈ plan.dispatch, r.processed = none) (hl : ∀ r, ∀ x ∈ left r, x.id = r.id)
    (hdispatch : ∀ r ∈ plan.dispatch, left r = Pass.remains .keep now (Pass.ends d answer) r)
    (hduplicates : ∀ r ∈ plan.duplicates, left r = none) (report : Report)
    (w : World (Watched FaultyStore))
    (hstored : ∀ r ∈ plan.dispatch ++ plan.duplicates, w.store.get? r.id = some r) :
    ∃ n report' v, carryOut d now report plan w = (.ok report', v) ∧
      report'.storeErrors = report.storeErrors + n ∧
      w.Settled left (plan.dispatch ++ plan.duplicates)
        (Pass.dispatchesOf name now (Pass.ends d answer) plan.dispatch) n v := by
  rw [List.map_append, List.nodup_append] at hn
  obtain ⟨hdistinct, hdistinct', hcross⟩ := hn
  obtain ⟨m, report₁, u, hu, hcount, hsettled⟩ := Pass.foldlM_settles hl hdistinct
    (fun r hr => Pass.treat_settles name .keep hd hs (hp r hr) (hdispatch r hr))
    { report with selected := plan.dispatch.length + plan.duplicates.length } w
    fun r hr => hstored r (List.mem_append_left _ hr)
  -- the dispatched records have other identifiers than the duplicates
  have hstored' : ∀ r ∈ plan.duplicates, u.store.get? r.id = some r := by
    intro r hr
    rw [hsettled.get?_eq hl fun hmem => hcross _ hmem _ (List.mem_map_of_mem hr) rfl]
    exact hstored r (List.mem_append_right _ hr)
  have hdiscard : ∀ r ∈ plan.duplicates, Pass.Settles discard left (fun _ => []) r :=
    fun r hr => discard_settles (hduplicates r hr) rfl
  obtain ⟨n, report₂, v, hv, hcount', hsettled'⟩ :=
    Pass.foldlM_settles hl hdistinct' hdiscard report₁ u hstored'
  have hlog := (Run.Harmless.log (e := .aggregated report₂) rfl v).endures
  have hall := (hsettled.append hsettled').alike hlog
  rw [Pass.flatMap_dispatchesOf, List.flatMap_eq_nil_iff.2 fun _ _ => rfl, List.append_nil] at hall
  refine ⟨m + n, report₂, (Run.log (.aggregated report₂) v).2, ?_, ?_, hall⟩
  · rw [carryOut]
    rw [Run.bind_ok hu, Run.bind_ok hv]
    rfl
  · rw [hcount', hcount, Nat.add_assoc]

/-- The plan of a batch is carried out, if there is anything in the batch. -/
theorem process_settles (hd : d.Answers answer) (hs : ∀ name, d.sinkCrashes name = false)
    {batch : List WorkRecord} (hn : (batch.map (·.id)).Nodup)
    (hp : ∀ r ∈ batch, r.processed = none) (hl : ∀ r, ∀ x ∈ left r, x.id = r.id)
    (hdispatch : ∀ r ∈ (Plan.ofList batch).dispatch,
      left r = Pass.remains .keep now (Pass.ends d answer) r)
    (hduplicates : ∀ r ∈ (Plan.ofList batch).duplicates, left r = none) (report : Report)
    (w : World (Watched FaultyStore)) (hstored : ∀ r ∈ batch, w.store.get? r.id = some r) :
    ∃ n report' v, process d now report batch w = (.ok (.ok report'), v) ∧
      report'.storeErrors = report.storeErrors + n ∧
      w.Settled left batch
        (Pass.dispatchesOf name now (Pass.ends d answer) (Plan.ofList batch).dispatch) n v := by
  have hplan := Plan.thins_ofList hn
  cases batch with
  | nil =>
    have hnone : (Plan.ofList []).dispatch = [] := List.mergeSort_nil
    rw [hnone]
    exact ⟨0, report, w, rfl, rfl, .nil w⟩
  | cons b batch =>
    obtain ⟨n, report', v, hv, hcount, hsettled⟩ := carryOut_settles hd hs (hplan.nodup hn)
      (fun r hr => hp r (hplan.perm.subset (List.mem_append_left _ hr))) hl hdispatch hduplicates
      report w fun r hr => hstored r (hplan.perm.subset hr)
    exact ⟨n, report', v, Run.bind_ok hv _, hcount, hsettled.perm hplan.perm⟩

/-- A pass without faults, where handlers answer by the record alone. -/
theorem run_answers (hd : d.Answers answer) (hs : ∀ name, d.sinkCrashes name = false)
    (holdBack : Span) (now : Instant) (s : Store) :
    ∃ survivors, survivors.Pairwise WorkRecord.Precedes ∧
      (∀ r, r ∈ survivors ↔ r ∈ s.records ∧ r.processed = none ∧
        Touched s (cutoff holdBack now) r.entity ∧ ¬ Superseded s r) ∧
      (run d holdBack now (World.of s)).2.dispatches =
        Pass.dispatchesOf name now (Pass.ends d answer) survivors ∧
      ∀ id, (run d holdBack now (World.of s)).2.backend.get? id =
        (s.get? id).bind (leaves s (cutoff holdBack now) now (Pass.ends d answer)) := by
  obtain ⟨result, survivors, report, v, hv, -, hsorted, hmem, hend, -, hdispatches, hstore⟩ :=
    run_ok ⟨hd.onlyAnswers, hs _⟩ holdBack now (World.of s)
  have hresult : ∀ r ∈ survivors, result r = Pass.ends d answer r :=
    fun r hr => (hend r hr).eq_ends hd hs
  rw [hv]
  refine ⟨survivors, hsorted, hmem, ?_, fun id => (hstore id).trans ?_⟩
  · exact hdispatches.trans (Pass.dispatchesOf_congr hresult)
  · change (s.get? id).bind _ = _
    cases hg : s.get? id with
    | none => rfl
    | some r =>
      refine leaves_congr (fun _ => Iff.rfl) fun hp htouched hnot => hresult r ?_
      exact (hmem r).2 ⟨(Store.get?_eq_some_iff.1 hg).1, hp, htouched, hnot⟩

/-- **The aggregation contains faults.** -/
theorem run_contained (hd : d.Answers answer) (hs : ∀ name, d.sinkCrashes name = false)
    (holdBack : Span) (now : Instant) (s : Store) (fs : List Fault) :
    ∃ result v, run d holdBack now (World.of (Watched.of s fs)) = (result, v) ∧
      ((∃ c ∈ selection? holdBack now, Fault.Strikes fs c) ∧ Pass.Refused s result v ∨
        (∀ c ∈ selection? holdBack now, ¬ Fault.Strikes fs c) ∧
          Pass.Contained s result v (run d holdBack now (World.of s)).2) := by
  obtain ⟨survivors, hsorted, hsurvivors, hsound, hstore⟩ := run_answers hd hs holdBack now s
  rw [run]
  rcases collect_cases holdBack now (World.of (Watched.of s fs)) rfl with
    ⟨hhit, e, c, v, hv, hc, h⟩ | ⟨hmiss, report, batch, missed, u, hu, hmissed, h, hn, hb⟩
  · exact ⟨_, v, Run.bind_ok hv _,
      .inl ⟨hhit, ⟨e, rfl⟩, ⟨c, h.failed, hc⟩, h.dispatches, h.store⟩⟩
  · replace hb : ∀ r, r ∈ batch ↔ r ∈ s.records ∧ r.processed = none ∧
        (Touched s (cutoff holdBack now) r.entity ∧ r.entity ∉ missed) := hb
    have hstored : ∀ r ∈ batch, u.store.get? r.id = some r := by
      intro r hr
      rw [h.store]
      exact Store.get?_eq_some_iff.2 ⟨((hb r).1 hr).1, rfl⟩
    -- the survivors among what was fetched are those of the whole pass
    have hplan := Plan.thins_ofList hn
    have hnewest : ∀ r, r.NewestIn batch ↔ r ∈ batch ∧ ¬ Superseded s r := fun r =>
      newestIn_iff (p := fun e => Touched s (cutoff holdBack now) e ∧ e ∉ missed) hb
    have hdispatch : ∀ r, r ∈ (Plan.ofList batch).dispatch ↔
        r ∈ survivors ∧ r.entity ∉ missed := by
      intro r
      rw [hplan.mem_dispatch_iff, hnewest, hb, hsurvivors]
      constructor
      · rintro ⟨⟨hrs, hp, ht, hm⟩, hnot⟩
        exact ⟨⟨hrs, hp, ht, hnot⟩, hm⟩
      · rintro ⟨⟨hrs, hp, ht, hnot⟩, hm⟩
        exact ⟨⟨hrs, hp, ht, hm⟩, hnot⟩
    have hsame : (Plan.ofList batch).dispatch = survivors.filter fun r => r.entity ∉ missed := by
      refine WorkRecord.eq_of_pairwise_precedes (Plan.pairwise_dispatch_ofList hn)
        (hsorted.sublist List.filter_sublist) fun r => ?_
      rw [hdispatch, List.mem_filter, decide_eq_true_iff]
    have htouched : ∀ e, Touched s (cutoff holdBack now) e ∧ e ∉ missed →
        Touched s (cutoff holdBack now) e := fun _ he => he.1
    have hl : ∀ r, ∀ x ∈ leaves s (cutoff holdBack now) now (Pass.ends d answer) r, x.id = r.id :=
      fun r x hx => (leaves_sameWork hx).id
    obtain ⟨n, report', v, hv, hcount, hsettled⟩ := process_settles hd hs hn
      (fun r hr => ((hb r).1 hr).2.1) hl (fun r hr => leaves_dispatch hplan hb htouched _ hr)
      (fun r hr => leaves_duplicate hplan hb htouched _ hr) report u hstored
    refine ⟨_, v, (Run.bind_ok hu _).trans hv,
      .inr ⟨hmiss, .of h hsettled ?_ hn hl ?_ ?_ hstore ?_⟩⟩
    · rw [hcount, hmissed]
    · intro r hr
      obtain ⟨hrs, -, -, hnot⟩ := (hb r).1 hr
      exact ⟨hrs, hnot⟩
    · intro r hr hnot hout
      exact leaves_of_not (fun h => hout ((hb r).2 ⟨hr, h.1, h.2, hnot⟩)) _
    · rw [hsame, hsound, Pass.dispatchesOf_filter]

end Aggregate

namespace Retry

variable {d : Dispatcher} {answer : WorkRecord → Answer}

/-- A pass without faults, where handlers answer by the record alone. -/
theorem run_answers (hd : d.Answers answer) (hs : ∀ name, d.sinkCrashes name = false)
    (tier : RetryTier) (now : Instant) (s : Store) :
    (run d tier now (World.of s)).2.dispatches =
        Pass.dispatchesOf tier.name now (Pass.ends d answer) (selected s tier) ∧
      ∀ id, (run d tier now (World.of s)).2.backend.get? id =
        (s.get? id).bind (leaves tier now (Pass.ends d answer)) := by
  obtain ⟨result, report, v, hv, hend, -, hdispatches, hstore⟩ :=
    run_ok ⟨hd.onlyAnswers, hs _⟩ tier now (World.of s)
  have hresult : ∀ r ∈ selected s tier, result r = Pass.ends d answer r :=
    fun r hr => (hend r hr).eq_ends hd hs
  rw [hv]
  refine ⟨hdispatches.trans (Pass.dispatchesOf_congr hresult), fun id => (hstore id).trans ?_⟩
  change (s.get? id).bind _ = _
  cases hg : s.get? id with
  | none => rfl
  | some r =>
    have hrs := (Store.get?_eq_some_iff.1 hg).1
    exact leaves_congr fun hwaits => hresult r (mem_selected.2 ⟨hrs, hwaits⟩)

/-- The selection fails if a fault hits it, and otherwise it gives the records that wait for the
tier. -/
theorem select_cases (tier : RetryTier) (w : World (Watched FaultyStore)) :
    (Fault.Strikes w.backend.inner.faults (.unprocessedIn tier.band) ∧
      ∃ e c v, select tier w = (.ok (.error e), v) ∧ c.selects = true ∧
        w.Endures [] [c] w.store v) ∨
    ¬ Fault.Strikes w.backend.inner.faults (.unprocessedIn tier.band) ∧
      ∃ v, select tier w = (.ok (.ok (w.store.unprocessedIn tier.band)), v) ∧
        w.Endures [] [] w.store v := by
  rw [select]
  rcases Watched.step_cases (.unprocessedIn tier.band) (f := RecordStore.unprocessedIn tier.band)
    (g := RecordStore.unprocessedIn tier.band) (w := w) rfl rfl with
    ⟨hhit, e, v, h, hv⟩ | ⟨hmiss, v, h, hv⟩
  · exact .inl ⟨hhit, e, .unprocessedIn tier.band, (Run.log (.tierSelectionFailed tier.name e) v).2,
      Run.bind_ok h _, rfl, hv.dispatches, hv.failed, hv.store, hv.stale⟩
  · exact .inr ⟨hmiss, v, Run.bind_ok h _, hv⟩

/-- **The records of a tier are treated**, if there are any: some of the writes are done and the
others are lost. -/
theorem treat_selected (hd : d.Answers answer) (hs : ∀ name, d.sinkCrashes name = false)
    (tier : RetryTier) (now : Instant) {s : Store} {w u : World (Watched FaultyStore)}
    (hselect : select tier w = (.ok (.ok (s.unprocessedIn tier.band)), u)) (hu : u.store = s) :
    ∃ n report v, run d tier now w = (.ok (.ok report), v) ∧ report.storeErrors = n ∧
      u.Settled (leaves tier now (Pass.ends d answer)) (selected s tier)
        (Pass.dispatchesOf tier.name now (Pass.ends d answer) (selected s tier)) n v := by
  have hperm : (selected s tier).Perm (s.unprocessedIn tier.band) := List.mergeSort_perm _ _
  have hsettles : ∀ r ∈ selected s tier, Pass.Settles (Pass.treat tier.name d .remove now)
      (leaves tier now (Pass.ends d answer))
      (fun r => Pass.dispatchesOf tier.name now (Pass.ends d answer) [r]) r := by
    intro r hr
    have hwaits := (mem_selected.1 hr).2
    exact Pass.treat_settles tier.name .remove hd hs hwaits.1 (if_pos hwaits)
  have hstored : ∀ r ∈ selected s tier, u.store.get? r.id = some r := by
    intro r hr
    rw [hu]
    exact Store.get?_eq_some_iff.2 ⟨(mem_selected.1 hr).1, rfl⟩
  rw [run]
  rw [Run.bind_ok hselect]
  cases hrs : s.unprocessedIn tier.band with
  | nil =>
    have hnone : selected s tier = [] := List.perm_nil.1 (hrs ▸ hperm)
    rw [hnone]
    exact ⟨0, .empty, u, rfl, rfl, .nil u⟩
  | cons x xs =>
    obtain ⟨n, report, v, hv, hcount, hsettled⟩ := Pass.foldlM_settles
      (fun r x hx => (leaves_sameWork hx).id) (nodup_selected s tier) hsettles
      { Report.empty with selected := (selected s tier).length } u hstored
    rw [Pass.flatMap_dispatchesOf] at hsettled
    have hlog := (Run.Harmless.log (e := .retried tier.name report) rfl v).endures
    refine ⟨n, report, (Run.log (.retried tier.name report) v).2, ?_,
      hcount.trans (Nat.zero_add n), hsettled.alike hlog⟩
    rw [selected, hrs] at hv
    exact Run.bind_ok (Run.bind_ok hv _) _

/-- **A retry tier contains faults.** -/
theorem run_contained (hd : d.Answers answer) (hs : ∀ name, d.sinkCrashes name = false)
    (tier : RetryTier) (now : Instant) (s : Store) (fs : List Fault) :
    ∃ result v, run d tier now (World.of (Watched.of s fs)) = (result, v) ∧
      (Fault.Strikes fs (.unprocessedIn tier.band) ∧ Pass.Refused s result v ∨
        ¬ Fault.Strikes fs (.unprocessedIn tier.band) ∧
          Pass.Contained s result v (run d tier now (World.of s)).2) := by
  obtain ⟨hsound, hstore⟩ := run_answers hd hs tier now s
  rcases select_cases tier (World.of (Watched.of s fs)) with
    ⟨hhit, e, c, v, hv, hc, h⟩ | ⟨hmiss, u, hu, h⟩
  · rw [run]
    exact ⟨_, v, Run.bind_ok hv _,
      .inl ⟨hhit, ⟨e, rfl⟩, ⟨c, h.failed, hc⟩, h.dispatches, h.store⟩⟩
  · obtain ⟨n, report, v, hv, hcount, hsettled⟩ :=
      treat_selected (s := s) hd hs tier now hu h.store
    have hfetch : (World.of (Watched.of s fs)).Endures [] (([] : List EntityId).map .unprocessedOf)
        s u := h
    refine ⟨_, v, hv, .inr ⟨hmiss, .of hfetch hsettled ?_ (nodup_selected s tier)
      (fun r x hx => (leaves_sameWork hx).id) ?_ ?_ hstore ?_⟩⟩
    · rw [hcount, List.length_nil, Nat.zero_add]
    · exact fun r hr => ⟨(mem_selected.1 hr).1, List.not_mem_nil⟩
    · exact fun r hr _ hout => if_neg fun hwaits => hout (mem_selected.2 ⟨hr, hwaits⟩)
    · rw [hsound]
      simp

end Retry

namespace Pass

variable {d : Dispatcher} {answer : WorkRecord → Answer}

/-- **Faults of the store are contained**, whatever it holds, whichever calls fail, and whatever
handlers answer. A pass over the aggregation or over a tier ends with an error if a fault hits its
selection, and then it has done nothing. Otherwise it ends with a report that counts each failed
call; it dispatches what it dispatches without faults, in the same order, but for the entities
that it could not fetch; what it could not fetch or write is as it was; and every other record
is as it is without faults. The list of failed calls is kept beside the store: the pass is the
same without it. -/
theorem contains_faults (hd : d.Answers answer) (hs : ∀ name, d.sinkCrashes name = false)
    (now : Instant) (s : Store) (fs : List Fault) :
    (∀ holdBack, ∃ result v,
      Aggregate.run d holdBack now (World.of (Watched.of s fs)) = (result, v) ∧
        Aggregate.run d holdBack now (World.of ⟨s, fs, false⟩) = (result, v.map Watched.inner) ∧
        ((∃ c ∈ Aggregate.selection? holdBack now, Fault.Strikes fs c) ∧ Refused s result v ∨
          (∀ c ∈ Aggregate.selection? holdBack now, ¬ Fault.Strikes fs c) ∧
            Contained s result v (Aggregate.run d holdBack now (World.of s)).2)) ∧
    ∀ tier, ∃ result v, Retry.run d tier now (World.of (Watched.of s fs)) = (result, v) ∧
      Retry.run d tier now (World.of ⟨s, fs, false⟩) = (result, v.map Watched.inner) ∧
      (Fault.Strikes fs (.unprocessedIn tier.band) ∧ Refused s result v ∨
        ¬ Fault.Strikes fs (.unprocessedIn tier.band) ∧
          Contained s result v (Retry.run d tier now (World.of s)).2) := by
  constructor
  · intro holdBack
    obtain ⟨result, v, hv, h⟩ := Aggregate.run_contained hd hs holdBack now s fs
    have hplain := Aggregate.run_mirrors Watched.inner_mirrors d holdBack now
      (World.of (Watched.of s fs))
    rw [hv] at hplain
    exact ⟨result, v, hv, hplain, h⟩
  · intro tier
    obtain ⟨result, v, hv, h⟩ := Retry.run_contained hd hs tier now s fs
    have hplain := Retry.run_mirrors Watched.inner_mirrors d tier now (World.of (Watched.of s fs))
    rw [hv] at hplain
    exact ⟨result, v, hv, hplain, h⟩

/-- A record that came in at the tenth second. -/
def sample (id : Nat) : WorkRecord := Aggregate.sample id 10 .sentenceImposed

/-- Two records of one entity and kind, so that the first one is a stale duplicate. -/
def sampleStore : Store := ⟨[sample 1, sample 2], by decide⟩

/-- The deletion of the first record fails. -/
def sampleFaults : List Fault := [⟨.delete, some (.ofNat 1), none, none, .storage "down"⟩]

/-- The stale duplicate stays, and the other record is done as it is without the fault. -/
theorem contains_sampleFaults :
    ∃ report v, Aggregate.run .new (.ofSeconds 60) (.ofSecond 100)
        (World.of (Watched.of sampleStore sampleFaults)) = (.ok (.ok report), v) ∧
      report.storeErrors = 1 ∧ v.store.get? (.ofNat 1) = some (sample 1) ∧
      v.store.get? (.ofNat 2) = some { sample 2 with
        processed := some (.ofSecond 100), status := some Status.noHandler } := by
  obtain ⟨result, v, hv, -, h⟩ := (contains_faults (Dispatcher.answers_new fun _ => .failure "down")
    (fun _ => rfl) (.ofSecond 100) sampleStore sampleFaults).1 (.ofSeconds 60)
  have hcalls : (Aggregate.run .new (.ofSeconds 60) (.ofSecond 100)
      (World.of (Watched.of sampleStore sampleFaults))).2.backend.failed.map StoreCall.written? =
        [some (.ofNat 1)] ∧
      (Aggregate.run .new (.ofSeconds 60) (.ofSecond 100)
        (World.of (Watched.of sampleStore sampleFaults))).2.unfetched = [] := by
    decide +kernel
  rw [hv] at hcalls
  obtain ⟨hwritten, hunfetched⟩ := hcalls
  have hunwritten : v.unwritten = [.ofNat 1] := by
    have hids := congrArg (List.filterMap id) hwritten
    rwa [List.filterMap_map] at hids
  rcases h with ⟨-, h⟩ | ⟨-, h⟩
  · -- the one call that failed is a deletion, and a selection deletes nothing
    obtain ⟨c, hc, hselects⟩ := h.selection
    rw [hc] at hwritten
    cases c <;> cases hselects <;> cases hwritten
  · obtain ⟨report, rfl, hcount⟩ := h.report
    refine ⟨report, v, hv, ?_, ?_, ?_⟩
    · rw [hcount, ← List.length_map StoreCall.written?, hwritten]
      rfl
    · exact h.unwritten (sample 1) (by decide) (by rw [hunwritten]; decide)
    · refine (h.others (.ofNat 2) (by rw [hunwritten]; decide) ?_).trans (by decide +kernel)
      rw [hunfetched]
      exact fun _ _ => List.not_mem_nil

end Pass

end Reconciliation
