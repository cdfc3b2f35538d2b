import Mathlib.Data.List.Induction
import Reconciliation.Pass.Aggregate
import Reconciliation.Proofs.Attempt
import Reconciliation.Proofs.DispatchOrder
import Reconciliation.Proofs.Instant

/-!
# What aggregation leaves of each record

The pass selects, sweeps in, thins, dispatches and deletes. Seen from one record all of
that comes to a few questions, put together in `Aggregate.leaves`: is the record
unprocessed and its entity `Touched`, is it `Superseded`, is it expired, and what did its
own attempt give.

* `Aggregate.collect_ok`: the batch has every unprocessed record of a touched entity,
  once.
* `Aggregate.run_ok`: a pass runs to its end, dispatches the survivors that are not
  expired, and leaves of every stored record what `leaves` says.
* `Aggregate.run_eq_leaves`: where handlers answer by the record alone, the store after a
  pass is that function of the store before, with the hold-back counted exactly.
-/

namespace Reconciliation

namespace Aggregate

variable {s : Store} {holdBack : Span} {now : Instant} {limit : Int} {e : EntityId}

/-- An entity with untried, unprocessed work that came in before a limit, given as a rank. -/
def Touched (s : Store) (limit : Int) (e : EntityId) : Prop :=
  ∃ r ∈ s.records, r.entity = e ∧ r.processed = none ∧ r.retryCount = 0 ∧ r.created.rank < limit

instance (s : Store) (limit : Int) (e : EntityId) : Decidable (Touched s limit e) :=
  inferInstanceAs (Decidable (∃ r ∈ s.records, _))

/-- A record for which a later one is stored and unprocessed, of the same entity and kind. -/
def Superseded (s : Store) (r : WorkRecord) : Prop :=
  ∃ x ∈ s.records, x.processed = none ∧ x.entity = r.entity ∧ x.eventType = r.eventType ∧
    (r.created < x.created ∨ r.created = x.created ∧ r.id < x.id)

instance (s : Store) (r : WorkRecord) : Decidable (Superseded s r) :=
  inferInstanceAs (Decidable (∃ x ∈ s.records, _))

/-- What a pass leaves of a stored record, given the result that its attempt has. -/
def leaves (s : Store) (limit : Int) (now : Instant) (result : WorkRecord → Except String Outcome)
    (r : WorkRecord) : Option WorkRecord :=
  if r.processed.isSome ∨ ¬ Touched s limit r.entity then some r
  else if Superseded s r then none
  else Pass.remains .keep now result r

/-- What a pass leaves of a record is the same work: identifier, entity, kind, body and time of
arrival stay. -/
theorem leaves_sameWork {result : WorkRecord → Except String Outcome} {r x : WorkRecord}
    (hx : x ∈ leaves s limit now result r) : x.SameWork r := by
  rw [leaves] at hx
  split at hx
  · cases hx
    exact .refl r
  · split at hx
    · cases hx
    · exact Pass.remains_sameWork hx

/-- What is left unprocessed in a touched entity is not superseded. -/
theorem not_superseded_of_leaves {result : WorkRecord → Except String Outcome} {r x : WorkRecord}
    (hx : x ∈ leaves s limit now result r) (hp : x.processed = none)
    (htouched : Touched s limit r.entity) : r.processed = none ∧ ¬ Superseded s r := by
  rw [leaves] at hx
  split at hx
  · rename_i hcond
    cases hx
    rcases hcond with hcond | hcond
    · rw [hp] at hcond
      cases hcond
    · exact absurd htouched hcond
  · rename_i hcond
    rw [not_or, Bool.not_eq_true, Option.isSome_eq_false_iff, Option.isNone_iff_eq_none] at hcond
    split at hx
    · cases hx
    · exact ⟨hcond.1, ‹_›⟩

/-- The limit that a pass sets, as a rank; there is nothing before the first instant. -/
def cutoff (holdBack : Span) (now : Instant) : Int :=
  match now.sub? holdBack with
  | some t => t.rank
  | none => Instant.earliest.rank

/-- A hold-back is counted exactly, also where it reaches out of the range of instants. -/
theorem rank_lt_cutoff_iff (h : 0 ≤ holdBack.nanos) (t : Instant) :
    t.rank < cutoff holdBack now ↔ t.rank < now.rankBefore holdBack := by
  rw [Instant.rank_lt_rankBefore_iff h]
  rw [cutoff]
  cases now.sub? holdBack with
  | some c => exact ⟨fun hlt => ⟨c, rfl, hlt⟩, fun ⟨_, hc, hlt⟩ => Option.some.inj hc ▸ hlt⟩
  | none =>
    -- nothing lies before the first instant
    have hsecond := t.earliest_le
    refine iff_of_false ?_ (by simp)
    simp only [Instant.rank, Instant.earliest]
    omega

/-- Whether an entity is touched depends on the limit only through the instants that lie before it.
-/
theorem touched_congr {limit' : Int} (h : ∀ t : Instant, t.rank < limit ↔ t.rank < limit') :
    Touched s limit e ↔ Touched s limit' e := by
  simp only [Touched, h]

/-- Only results of records that are dispatched count. -/
theorem leaves_congr {limit' : Int} (h : ∀ t : Instant, t.rank < limit ↔ t.rank < limit')
    {f g : WorkRecord → Except String Outcome} {r : WorkRecord}
    (hr : r.processed = none → Touched s limit r.entity → ¬ Superseded s r → f r = g r) :
    leaves s limit now f r = leaves s limit' now g r := by
  simp only [leaves, touched_congr h]
  split
  · rfl
  · rename_i hcond
    rw [not_or, not_not, Bool.not_eq_true, Option.isSome_eq_false_iff,
      Option.isNone_iff_eq_none] at hcond
    split
    · rfl
    · exact Pass.remains_congr (hr hcond.1 ((touched_congr h).2 hcond.2) ‹_›)

/-! ## The batch -/

/-- What is left once the repetitions are erased has none. -/
theorem nodup_eraseDups (es : List EntityId) : es.eraseDups.Nodup := by
  induction es using List.reverseRecOn with
  | nil => exact List.nodup_nil
  | append_singleton es e ih =>
    rw [List.eraseDups_append]
    by_cases he : e ∈ es
    · simpa [List.removeAll, he] using ih
    · have hone : ([e].removeAll es).eraseDups = [e] := by
        simp [List.removeAll, he, List.eraseDups_cons]
      rw [hone, List.nodup_append]
      refine ⟨ih, List.nodup_singleton e, fun a ha b hb hab => he ?_⟩
      rwa [← List.mem_singleton.1 hb, ← hab, ← List.mem_eraseDups]

/-- The entities of some records are those that one of them is about. -/
theorem mem_entitiesOf {rs : List WorkRecord} : e ∈ entitiesOf rs ↔ ∃ r ∈ rs, r.entity = e := by
  rw [entitiesOf, List.mem_mergeSort, List.mem_eraseDups, List.mem_map]

/-- They are sorted after the repetitions are erased, and so each comes once. -/
theorem nodup_entitiesOf (rs : List WorkRecord) : (entitiesOf rs).Nodup :=
  (List.mergeSort_perm _ _).nodup_iff.2 (nodup_eraseDups _)

/-- Without faults every entity is fetched. -/
theorem fetch_apply (report : Report) (es : List EntityId) (w : World Store) :
    fetch report es w = (.ok (report, es.flatMap w.backend.unprocessedOf), w) := by
  induction es with
  | nil => rfl
  | cons e es ih =>
    have hstep : (Records.unprocessedOf e : Run Store _) w =
        (.ok (.ok (w.backend.unprocessedOf e)), w) := rfl
    rw [fetch, Run.bind_ok hstep]
    change (fetch report es >>= _) w = _
    rw [Run.bind_ok ih]
    rfl

/-- The query by entity, told of a record: it is stored, of this entity, and not done. -/
theorem mem_unprocessedOf {r : WorkRecord} :
    r ∈ s.unprocessedOf e ↔ r ∈ s.records ∧ r.entity = e ∧ r.processed = none := by
  simp [Store.unprocessedOf, Store.select, WorkRecord.isProcessed]

/-- The query for untried work, told of a record: it is stored, neither done nor tried, and came in
before the instant. -/
theorem mem_untriedBefore {r : WorkRecord} {t : Instant} :
    r ∈ s.untriedBefore t ↔
      r ∈ s.records ∧ r.processed = none ∧ r.retryCount = 0 ∧ r.created.rank < t.rank := by
  have hlt : r.created < t ↔ r.created.rank < t.rank := Iff.rfl
  simp only [Store.untriedBefore, Store.select, WorkRecord.isProcessed, List.mem_filter,
    Bool.and_eq_true, beq_iff_eq, decide_eq_true_eq, Bool.not_eq_true', Option.isSome_eq_false_iff,
    Option.isNone_iff_eq_none, hlt]
  grind

/-- Records of different entities have different identifiers. -/
theorem nodup_flatMap_unprocessedOf (s : Store) {es : List EntityId} (h : es.Nodup) :
    ((es.flatMap s.unprocessedOf).map (·.id)).Nodup := by
  rw [List.map_flatMap, List.nodup_flatMap]
  refine ⟨fun e _ => s.distinct.sublist (List.filter_sublist.map _), h.imp fun {a b} hab => ?_⟩
  intro id ha hb
  obtain ⟨x, hx, hxid⟩ := List.mem_map.1 ha
  obtain ⟨y, hy, hyid⟩ := List.mem_map.1 hb
  obtain ⟨hx, hxe, -⟩ := mem_unprocessedOf.1 hx
  obtain ⟨hy, hye, -⟩ := mem_unprocessedOf.1 hy
  obtain rfl : x = y := s.eq_of_id hx hy (hxid.trans hyid.symm)
  exact hab (hxe.symm.trans hye)

/-- The entities of the untried records before an instant are the touched ones. -/
theorem mem_entitiesOf_untriedBefore {t : Instant} :
    e ∈ entitiesOf (s.untriedBefore t) ↔ Touched s t.rank e := by
  rw [mem_entitiesOf]
  constructor
  · rintro ⟨x, hx, hxe⟩
    obtain ⟨hx, hxp, hx0, hxt⟩ := mem_untriedBefore.1 hx
    exact ⟨x, hx, hxe, hxp, hx0, hxt⟩
  · rintro ⟨x, hx, hxe, hxp, hx0, hxt⟩
    exact ⟨x, mem_untriedBefore.2 ⟨hx, hxp, hx0, hxt⟩, hxe⟩

/-- Nothing lies before the first instant. -/
theorem not_touched_earliest : ¬ Touched s Instant.earliest.rank e := by
  rintro ⟨x, -, -, -, -, hx⟩
  have hsecond := x.created.earliest_le
  simp only [Instant.rank, Instant.earliest] at hx
  omega

/-- **A pass selects the touched entities**, each once. -/
theorem select_ok (holdBack : Span) (now : Instant) (w : World Store) :
    ∃ es v, select holdBack now w = (.ok (.ok es), v) ∧ w.Alike v ∧ es.Nodup ∧
      ∀ e, e ∈ es ↔ Touched w.backend (cutoff holdBack now) e := by
  simp only [select, cutoff]
  cases now.sub? holdBack with
  | none =>
    exact ⟨[], _, rfl, Run.Harmless.log rfl w, List.nodup_nil,
      fun e => iff_of_false List.not_mem_nil not_touched_earliest⟩
  | some t =>
    have hstep : (Records.untriedBefore t : Run Store _) w =
        (.ok (.ok (w.backend.untriedBefore t)), w) := rfl
    dsimp only
    rw [Run.bind_ok hstep]
    exact ⟨_, w, rfl, .refl w, nodup_entitiesOf _, fun e => mem_entitiesOf_untriedBefore⟩

/-- **The batch of a pass** has every unprocessed record of a touched entity, once. -/
theorem collect_ok (holdBack : Span) (now : Instant) (w : World Store) :
    ∃ report batch v, collect holdBack now w = (.ok (.ok (report, batch)), v) ∧ w.Alike v ∧
      (batch.map (·.id)).Nodup ∧
      ∀ r, r ∈ batch ↔ r ∈ w.backend.records ∧ r.processed = none ∧
        Touched w.backend (cutoff holdBack now) r.entity := by
  obtain ⟨es, v, hv, halike, hes, hmem⟩ := select_ok holdBack now w
  refine ⟨.empty, es.flatMap v.backend.unprocessedOf, v, ?_, halike,
    nodup_flatMap_unprocessedOf _ hes, fun r => ?_⟩
  · rw [collect]
    rw [Run.bind_ok hv]
    exact Run.bind_ok (fetch_apply .empty es v) _
  · rw [halike.backend, List.mem_flatMap]
    constructor
    · rintro ⟨e, he, hr⟩
      obtain ⟨hrs, rfl, hp⟩ := mem_unprocessedOf.1 hr
      exact ⟨hrs, hp, (hmem r.entity).1 he⟩
    · rintro ⟨hr, hp, htouched⟩
      exact ⟨r.entity, (hmem r.entity).2 htouched, mem_unprocessedOf.2 ⟨hr, rfl, hp⟩⟩

/-! ## The pass -/

variable {d : Dispatcher}

/-- What discards a record removes it. -/
theorem discard_ok (report : Report) (r : WorkRecord) (w : World Store) :
    ∃ report' v, discard report r w = (.ok report', v) ∧
      w.Leads [] (w.backend.leave r.id none) v := by
  have hlog := Run.Harmless.log (e := .duplicateFound r) rfl w
  exact ⟨_, _, rfl, hlog.received, (List.append_nil _).symm, rfl⟩

/-- Discarding some records one after another leaves nothing of any of them, and dispatches nothing.
-/
theorem foldlM_discard (rs : List WorkRecord) (report : Report) (w : World Store) :
    ∃ report' v, rs.foldlM discard report w = (.ok report', v) ∧
      w.Leads [] (w.backend.leaveAll (fun _ => none) rs) v := by
  induction rs generalizing report w with
  | nil => exact ⟨report, w, rfl, rfl, (List.append_nil _).symm, rfl⟩
  | cons r rs ih =>
    obtain ⟨report₁, u, hu, hleads⟩ := discard_ok report r w
    obtain ⟨report₂, v, hv, hleads'⟩ := ih report₁ u
    refine ⟨report₂, v, ?_, ?_⟩
    · rw [List.foldlM_cons, Run.bind_ok hu]
      exact hv
    · rw [hleads.backend] at hleads'
      exact hleads.trans hleads'

/-- The store after a plan has been carried out: something is left of the dispatched records,
nothing of the duplicates. -/
def afterPlan (s : Store) (now : Instant) (result : WorkRecord → Except String Outcome)
    (plan : Plan) : Store :=
  (s.leaveAll (Pass.remains .keep now result) plan.dispatch).leaveAll (fun _ => none)
    plan.duplicates

/-- **A plan is carried out to its end** where handlers only answer: the survivors that are not
expired are dispatched, and the store is the one that the plan leaves. -/
theorem carryOut_ok (hd : d.Quiet) {plan : Plan} (hn : (plan.dispatch.map (·.id)).Nodup)
    (hp : ∀ r ∈ plan.dispatch, r.processed = none) (now : Instant) (report : Report)
    (w : World Store) :
    ∃ result report' v, carryOut d now report plan w = (.ok report', v) ∧
      (∀ r ∈ plan.dispatch, Pass.CanEnd d now r (result r)) ∧
      w.Leads (Pass.dispatchesOf name now result plan.dispatch)
        (afterPlan w.backend now result plan) v := by
  obtain ⟨result, report₁, u, hu, hend, hleads⟩ := Pass.foldlM_treat name .keep now hd hn hp
    { report with selected := plan.dispatch.length + plan.duplicates.length } w
  obtain ⟨report₂, v, hv, hleads'⟩ := foldlM_discard plan.duplicates report₁ u
  have hlog := Run.Harmless.log (e := .aggregated report₂) rfl v
  refine ⟨result, report₂, (Run.log (.aggregated report₂) v).2, ?_, hend, ?_⟩
  · rw [carryOut]
    rw [Run.bind_ok hu, Run.bind_ok hv]
    rfl
  · rw [hleads.backend] at hleads'
    have h := (hleads.trans hleads').trans_alike hlog
    rw [List.append_nil] at h
    exact h

/-- That a record is superseded, said with the two relations by which a batch is thinned. -/
theorem superseded_iff {r : WorkRecord} : Superseded s r ↔
    ∃ x ∈ s.records, x.processed = none ∧ r.sameGroup x = true ∧ r.olderThan x = true := by
  have hlt : ∀ x : WorkRecord, r.olderThan x = true ↔
      r.created < x.created ∨ r.created = x.created ∧ r.id < x.id := by
    intro x
    simp only [WorkRecord.olderThan, Bool.or_eq_true, Bool.and_eq_true, decide_eq_true_eq,
      beq_iff_eq]
  have heq : ∀ x : WorkRecord, r.sameGroup x = true ↔
      x.entity = r.entity ∧ x.eventType = r.eventType := by
    intro x
    rw [WorkRecord.sameGroup_iff]
    exact and_congr eq_comm eq_comm
  simp only [Superseded, hlt, heq, and_assoc]

/-- The newest in a batch of all the unprocessed records of some entities are those that are not
superseded in the whole store. -/
theorem newestIn_iff {p : EntityId → Prop} {batch : List WorkRecord} {r : WorkRecord}
    (hb : ∀ r, r ∈ batch ↔ r ∈ s.records ∧ r.processed = none ∧ p r.entity) :
    r.NewestIn batch ↔ r ∈ batch ∧ ¬ Superseded s r := by
  refine and_congr_right fun hr => ?_
  obtain ⟨-, -, hentity⟩ := (hb r).1 hr
  rw [superseded_iff]
  constructor
  · rintro hnew ⟨x, hx, hp, hg, hold⟩
    have hxb : x ∈ batch := (hb x).2 ⟨hx, hp, (WorkRecord.sameGroup_iff.1 hg).1 ▸ hentity⟩
    rw [hnew x hxb hg] at hold
    cases hold
  · intro hnot x hx hg
    obtain ⟨hxs, hp, -⟩ := (hb x).1 hx
    exact Bool.eq_false_iff.2 fun hold => hnot ⟨x, hxs, hp, hg, hold⟩

/-- A record that is processed, or not of a touched entity, stays. -/
theorem leaves_of_not {r : WorkRecord} (hr : ¬ (r.processed = none ∧ Touched s limit r.entity))
    (result : WorkRecord → Except String Outcome) : leaves s limit now result r = some r := by
  refine if_pos ?_
  by_contra h
  rw [not_or, not_not, Bool.not_eq_true, Option.isSome_eq_false_iff,
    Option.isNone_iff_eq_none] at h
  exact hr h

/-- Of any other the pass leaves nothing if it is superseded, and else what its treatment leaves. -/
theorem leaves_of_touched {r : WorkRecord} (hp : r.processed = none)
    (htouched : Touched s limit r.entity) (result : WorkRecord → Except String Outcome) :
    leaves s limit now result r =
      if Superseded s r then none else Pass.remains .keep now result r := by
  refine if_neg ?_
  rw [hp, not_or, not_not]
  exact ⟨Bool.false_ne_true, htouched⟩

section Plans

variable {plan : Plan} {batch : List WorkRecord} {p : EntityId → Prop} {r : WorkRecord}

/-- Of what the plan of such a batch dispatches, its treatment decides. -/
theorem leaves_dispatch (hplan : plan.Thins batch)
    (hb : ∀ r, r ∈ batch ↔ r ∈ s.records ∧ r.processed = none ∧ p r.entity)
    (htouched : ∀ e, p e → Touched s limit e) (result : WorkRecord → Except String Outcome)
    (hr : r ∈ plan.dispatch) :
    leaves s limit now result r = Pass.remains .keep now result r := by
  obtain ⟨-, hp, he⟩ := (hb r).1 (hplan.perm.subset (List.mem_append_left _ hr))
  rw [leaves_of_touched hp (htouched _ he)]
  exact if_neg ((newestIn_iff hb).1 (hplan.mem_dispatch_iff.1 hr)).2

/-- Of the duplicates nothing is left. -/
theorem leaves_duplicate (hplan : plan.Thins batch)
    (hb : ∀ r, r ∈ batch ↔ r ∈ s.records ∧ r.processed = none ∧ p r.entity)
    (htouched : ∀ e, p e → Touched s limit e) (result : WorkRecord → Except String Outcome)
    (hr : r ∈ plan.duplicates) : leaves s limit now result r = none := by
  obtain ⟨hrb, hnot⟩ := hplan.mem_duplicates_iff.1 hr
  obtain ⟨-, hp, he⟩ := (hb r).1 hrb
  rw [newestIn_iff hb, not_and, not_not] at hnot
  rw [leaves_of_touched hp (htouched _ he)]
  exact if_pos (hnot hrb)

/-- The store after the plan of a batch, seen from each record. -/
theorem get?_afterPlan (hplan : plan.Thins batch) (hn : (batch.map (·.id)).Nodup)
    (hb : ∀ r, r ∈ batch ↔ r ∈ s.records ∧ r.processed = none ∧ Touched s limit r.entity)
    (result : WorkRecord → Except String Outcome) (id : RecordId) :
    (afterPlan s now result plan).get? id = (s.get? id).bind (leaves s limit now result) := by
  have hdispatch : ∀ r ∈ plan.dispatch,
      Pass.remains .keep now result r = leaves s limit now result r :=
    fun r hr => (leaves_dispatch hplan hb (fun _ he => he) result hr).symm
  have hduplicates : ∀ r ∈ plan.duplicates, none = leaves s limit now result r :=
    fun r hr => (leaves_duplicate hplan hb (fun _ he => he) result hr).symm
  rw [afterPlan, Store.leaveAll_congr hdispatch, Store.leaveAll_congr hduplicates,
    ← Store.leaveAll_append]
  refine Store.get?_leaveAll_bind (fun r _ x hx => (leaves_sameWork hx).id) (hplan.nodup hn)
    (fun r hr => ((hb r).1 (hplan.perm.subset hr)).1) fun r hr _ hout => ?_
  exact leaves_of_not (fun h => hout (hplan.perm.symm.subset ((hb r).2 ⟨hr, h⟩))) _

end Plans

/-- **A pass of the aggregation**, whatever its handlers answer. It runs to its end; it dispatches
the unprocessed records of touched entities that are not superseded and not expired; and it
leaves of each stored record what `leaves` says, given the results of those dispatches. -/
theorem run_ok (hd : d.Quiet) (holdBack : Span) (now : Instant) (w : World Store) :
    ∃ result survivors report v, run d holdBack now w = (.ok (.ok report), v) ∧
      (survivors.map (·.id)).Nodup ∧ survivors.Pairwise WorkRecord.Precedes ∧
      (∀ r, r ∈ survivors ↔ r ∈ w.backend.records ∧ r.processed = none ∧
        Touched w.backend (cutoff holdBack now) r.entity ∧ ¬ Superseded w.backend r) ∧
      (∀ r ∈ survivors, Pass.CanEnd d now r (result r)) ∧
      v.received = w.received ∧
      v.dispatches = w.dispatches ++ Pass.dispatchesOf name now result survivors ∧
      ∀ id, v.backend.get? id =
        (w.backend.get? id).bind (leaves w.backend (cutoff holdBack now) now result) := by
  obtain ⟨report, batch, u, hu, halike, hn, hb⟩ := collect_ok holdBack now w
  -- who survives in a plan is told from the store alone, not from the plan
  have hsurvivors : ∀ {plan : Plan}, plan.Thins batch → ∀ r, r ∈ plan.dispatch ↔
      r ∈ w.backend.records ∧ r.processed = none ∧
        Touched w.backend (cutoff holdBack now) r.entity ∧ ¬ Superseded w.backend r := by
    intro plan hplan r
    rw [hplan.mem_dispatch_iff, newestIn_iff hb, hb]
    simp only [and_assoc]
  rw [run]
  rw [Run.bind_ok hu]
  cases batch with
  | nil =>
    have hempty : (⟨[], []⟩ : Plan).Thins [] := ⟨.refl _, .nil, fun x hx => by cases hx⟩
    refine ⟨fun _ => .error "", [], report, u, rfl, List.nodup_nil, .nil, hsurvivors hempty,
      fun r hr => (List.not_mem_nil hr).elim, halike.received, ?_, fun id => ?_⟩
    · rw [halike.dispatches]
      exact (List.append_nil _).symm
    · rw [halike.backend]
      exact get?_afterPlan hempty hn hb _ id
  | cons r rs =>
    have hplan := Plan.thins_ofList hn
    have hids := hplan.nodup hn
    rw [List.map_append, List.nodup_append] at hids
    have hp : ∀ x ∈ (Plan.ofList (r :: rs)).dispatch, x.processed = none :=
      fun x hx => ((hsurvivors hplan x).1 hx).2.1
    obtain ⟨result, report', v, hv, hend, hleads⟩ := carryOut_ok hd hids.1 hp now report u
    have h := halike.leads_trans hleads
    rw [halike.backend] at h
    refine ⟨result, (Plan.ofList (r :: rs)).dispatch, report', v, Run.bind_ok hv _, hids.1,
      Plan.pairwise_dispatch_ofList hn, hsurvivors hplan, hend, h.received, h.dispatches,
      fun id => ?_⟩
    rw [h.backend]
    exact get?_afterPlan hplan hn hb result id

/-- **The aggregation, record by record.** Where handlers answer by the record alone, a pass runs
to its end, and the store after it is that of `leaves`: processed records and those of
untouched entities are as they were, superseded and expired ones are gone, and of any other
there is what its own answer leaves. The hold-back is counted exactly. -/
theorem run_eq_leaves {answer : WorkRecord → Answer} (hd : d.Answers answer)
    (hs : ∀ name, d.sinkCrashes name = false) (hh : 0 ≤ holdBack.nanos) (now : Instant)
    (w : World Store) :
    ∃ report v, run d holdBack now w = (.ok (.ok report), v) ∧
      ∀ id, v.backend.get? id = (w.backend.get? id).bind
        (leaves w.backend (now.rankBefore holdBack) now (Pass.ends d answer)) := by
  obtain ⟨result, survivors, report, v, hv, -, -, hsurvivors, hend, -, -, hstore⟩ :=
    run_ok ⟨hd.onlyAnswers, hs _⟩ holdBack now w
  refine ⟨report, v, hv, fun id => (hstore id).trans ?_⟩
  cases hg : w.backend.get? id with
  | none => rfl
  | some r =>
    refine leaves_congr (rank_lt_cutoff_iff hh) fun hp htouched hnot => ?_
    have hmem := (hsurvivors r).2 ⟨(Store.get?_eq_some_iff.1 hg).1, hp, htouched, hnot⟩
    exact (hend r hmem).eq_ends hd hs

/-- A record of one entity that came in so many seconds after 1970-01-01. -/
def sample (id second : Nat) (kind : EventType) : WorkRecord :=
  .new (.ofNat id) ⟨7, by decide, by decide⟩ kind "" (.ofSecond second)

/-- Three records of one entity, two of them of the same kind. -/
def sampleStore : Store :=
  ⟨[sample 2 90 .sentenceImposed, sample 1 30 .sentenceImposed, sample 3 95 .bookingNumberChanged],
    by decide⟩

/-- Of two records of the same kind the older one is gone. The newer one failed, and the third, of
a kind without a handler, is done. -/
theorem run_sampleStore :
    ∃ report v, run (Dispatcher.new.register .sentenceImposed fun _ _ => ⟨[], .failure "down"⟩)
        (.ofSeconds 60) (.ofSecond 100) (World.of sampleStore) = (.ok (.ok report), v) ∧
      v.backend.get? (.ofNat 1) = none ∧
      v.backend.get? (.ofNat 2) = some { sample 2 90 .sentenceImposed with
        retryCount := 1, status := some Status.error } ∧
      v.backend.get? (.ofNat 3) = some { sample 3 95 .bookingNumberChanged with
        processed := some (.ofSecond 100), status := some Status.noHandler } := by
  have hanswers := (Dispatcher.answers_new fun _ => .failure "down").register .sentenceImposed
  have hspan : 0 ≤ (Span.ofSeconds 60).nanos := by decide
  obtain ⟨report, v, hv, h⟩ :=
    run_eq_leaves hanswers (fun _ => rfl) hspan (.ofSecond 100) (World.of sampleStore)
  refine ⟨report, v, hv, (h _).trans ?_, (h _).trans ?_, (h _).trans ?_⟩ <;> decide

end Aggregate

end Reconciliation
