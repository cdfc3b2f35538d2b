import Mathlib.Logic.Relation
import Reconciliation.Pass.Course
import Reconciliation.Proofs.Pipeline

/-!
# A pass is its steps

A pass that takes its steps without a pause does what the pass does as one run, to the
world and in its result, also where it crashes: `Aggregate.course_runs` and
`Retry.course_runs`.
-/

namespace Reconciliation

/-- The phase in which a run of a pass is over. -/
def Phase.over : Except Crash (Except StoreError Report) → Phase
  | .ok result => .ended result
  | .error crash => .crashed crash

namespace Course

variable {σ α : Type} [RecordStore σ] (c : Course σ)

/-- Some steps without a pause lead from one point to another. The points are phases together with
worlds. -/
def Runs : Phase × World σ → Phase × World σ → Prop :=
  Relation.ReflTransGen fun x y => y = c.turn x.1 x.2

variable {c}

/-- A step that is the first part of a run, and then the rest of that run. -/
theorem Runs.bind {p : Phase} {x : Run σ α} {f : α → Phase}
    {g : α → Run σ (Except StoreError Report)} (hstep : c.step p = x >>= fun a => pure (f a))
    (h : ∀ a v, c.Runs (f a, v) (.over (g a v).1, (g a v).2)) (w : World σ) :
    c.Runs (p, w) (.over ((x >>= g) w).1, ((x >>= g) w).2) := by
  rcases hx : x w with ⟨crash | a, v⟩
  · have hturn : c.turn p w = (.crashed crash, v) := by
      rw [turn, hstep, Run.bind_crash hx]
    rw [Run.bind_crash hx]
    exact .single hturn.symm
  · have hturn : c.turn p w = (f a, v) := by
      rw [turn, hstep, Run.bind_ok hx, Run.pure_apply]
    rw [Run.bind_ok hx]
    exact .head hturn.symm (h a v)

variable (c)

/-- The rest of a pass that has its records to treat. -/
def rest (report : Report) (todo duplicates : List WorkRecord) :
    Run σ (Except StoreError Report) := do
  let report ← todo.foldlM (Pass.treat c.name c.dispatcher c.whenDone c.now) report
  let report ← duplicates.foldlM Aggregate.discard report
  Run.log (c.closing report)
  pure (.ok report)

/-- The rest of a pass that has its batch. -/
def restOfBatch (report : Report) : List WorkRecord → Run σ (Except StoreError Report)
  | [] => pure (.ok report)
  | batch =>
    let plan := Plan.ofList batch
    c.rest { report with selected := plan.dispatch.length + plan.duplicates.length }
      plan.dispatch plan.duplicates

variable {c}

/-- Discarding duplicates step by step leads where the rest of the pass leads. -/
theorem runs_discarding (report : Report) (duplicates : List WorkRecord) (w : World σ) :
    c.Runs (.treating report [] duplicates, w)
      (.over (c.rest report [] duplicates w).1, (c.rest report [] duplicates w).2) := by
  induction duplicates generalizing report w with
  | nil => exact .single rfl
  | cons r duplicates ih =>
    simp only [rest, List.foldlM_nil, List.foldlM_cons, pure_bind, bind_assoc] at ih ⊢
    exact Runs.bind rfl ih w

/-- So does treating records step by step, each in one step or two, before the duplicates. -/
theorem runs_treating (report : Report) (todo duplicates : List WorkRecord) (w : World σ) :
    c.Runs (.treating report todo duplicates, w)
      (.over (c.rest report todo duplicates w).1, (c.rest report todo duplicates w).2) := by
  induction todo generalizing report w with
  | nil => exact runs_discarding report duplicates w
  | cons r todo ih =>
    have hrest : c.rest report (r :: todo) duplicates =
        Pass.treat c.name c.dispatcher c.whenDone c.now report r >>= fun report =>
          c.rest report todo duplicates := by
      simp only [rest, List.foldlM_cons, bind_assoc]
    rw [hrest]
    by_cases he : r.isExpired c.now = true
    · rw [Pass.treat, if_pos he]
      refine Runs.bind (f := fun report => .treating report todo duplicates) ?_
        (fun a v => ih a v) w
      rw [step, if_pos he]
    · -- two steps: the dispatch, then the write
      let try_ : Run σ (Except String Outcome) := do
        let result ← Pass.tryDispatch c.dispatcher r c.now
        Run.dispatched ⟨c.name, r, c.now, result⟩
        pure result
      have htreat : Pass.treat c.name c.dispatcher c.whenDone c.now report r = try_ >>=
          Pass.conclude c.name c.dispatcher c.whenDone c.now
            { report with dispatched := report.dispatched + 1 } r := by
        rw [Pass.treat, if_neg he, Pass.attempt]
        simp only [try_, bind_assoc, pure_bind]
      rw [htreat, bind_assoc]
      refine Runs.bind (x := try_) (f := fun result =>
        .concluding { report with dispatched := report.dispatched + 1 } r result todo duplicates)
        ?_ (fun result v => Runs.bind rfl (fun a v => ih a v) v) w
      rw [step, if_neg he]
      simp only [try_, bind_assoc, pure_bind]

/-- A batch that is planned and then carried out leads where the rest of the pass leads. -/
theorem runs_planned (report : Report) (batch : List WorkRecord) (w : World σ) :
    c.Runs (.planned report batch, w)
      (.over (c.restOfBatch report batch w).1, (c.restOfBatch report batch w).2) := by
  cases batch with
  | nil => exact .refl
  | cons r rs => exact runs_treating _ _ _ w

/-- Entities are fetched one by one. -/
theorem fetch_cons (report : Report) (e : EntityId) (es : List EntityId) :
    (Aggregate.fetch report (e :: es) : Run σ _) = Aggregate.fetch report [e] >>= fun x =>
      Aggregate.fetch x.1 es >>= fun y => pure (y.1, x.2 ++ y.2) := by
  simp only [Aggregate.fetch, bind_assoc]
  refine bind_congr fun result => ?_
  cases result with
  | ok rs => simp only [pure_bind, List.append_nil]
  | error err => simp only [bind_assoc, pure_bind, List.nil_append, Prod.eta, bind_pure]

/-- Entities that are fetched step by step make up the batch that they make up in one go. -/
theorem runs_fetching (report : Report) (es : List EntityId) (batch : List WorkRecord)
    (w : World σ) :
    let rest : Run σ (Except StoreError Report) := Aggregate.fetch report es >>= fun x =>
      c.restOfBatch x.1 (batch ++ x.2)
    c.Runs (.fetching report es batch, w) (.over (rest w).1, (rest w).2) := by
  induction es generalizing report batch w with
  | nil =>
    simp only [Aggregate.fetch, pure_bind, List.append_nil]
    exact .head rfl (runs_planned report batch w)
  | cons e es ih =>
    rw [fetch_cons]
    simp only [bind_assoc, pure_bind, ← List.append_assoc]
    exact Runs.bind rfl (fun x v => ih x.1 (batch ++ x.2) v) w

end Course

variable {σ : Type} [RecordStore σ]

/-- What follows the batch in the course of the aggregation is what follows it in the pass. -/
theorem Aggregate.restOfBatch_course (d : Dispatcher) (holdBack : Span) (now : Instant)
    (report : Report) (batch : List WorkRecord) :
    (course (σ := σ) d holdBack now).restOfBatch report batch = process d now report batch := by
  cases batch with
  | nil => rfl
  | cons r rs =>
    simp only [process, carryOut, Course.restOfBatch, Course.rest, course, bind_assoc, pure_bind]

/-- **The aggregation is its steps.** -/
theorem Aggregate.course_runs (d : Dispatcher) (holdBack : Span) (now : Instant) (w : World σ) :
    (course d holdBack now).Runs (.start, w)
      (.over (run d holdBack now w).1, (run d holdBack now w).2) := by
  simp only [run, collect, bind_assoc]
  refine Course.Runs.bind rfl (fun selected v => ?_) w
  cases selected with
  | error e => exact .refl
  | ok es =>
    simp only [bind_assoc, pure_bind]
    have h := Course.runs_fetching (c := course d holdBack now) .empty es [] v
    simp only [restOfBatch_course, List.nil_append] at h
    exact h

/-- **A retry is its steps.** -/
theorem Retry.course_runs (d : Dispatcher) (tier : RetryTier) (now : Instant) (w : World σ) :
    (course d tier now).Runs (.start, w)
      (.over (run d tier now w).1, (run d tier now w).2) := by
  simp only [run]
  refine Course.Runs.bind rfl (fun selected v => ?_) w
  rcases selected with e | (_ | ⟨r, rs⟩)
  · exact .refl
  · exact .refl
  · have h := Course.runs_treating (c := course d tier now)
      { Report.empty with selected := ((r :: rs).mergeSort WorkRecord.dispatchesBefore).length }
      ((r :: rs).mergeSort WorkRecord.dispatchesBefore) [] v
    simp only [Course.rest, course, List.foldlM_nil, pure_bind] at h
    simp only [carryOut, bind_assoc, pure_bind]
    exact h

/-! ## What a step changes -/

namespace WorkRecord

/-- A record is a state of a piece of work that a store held at first. -/
def Known (origin : Store) (x : WorkRecord) : Prop := ∃ q ∈ origin.records, x.SameWork q

/-- Where only known work is stored, an identifier names one entity. -/
theorem Known.entity_eq {origin : Store} {x y : WorkRecord} (hx : x.Known origin)
    (hy : y.Known origin) (hid : x.id = y.id) : x.entity = y.entity := by
  obtain ⟨p, hp, hxp⟩ := hx
  obtain ⟨q, hq, hyq⟩ := hy
  obtain rfl : p = q := origin.eq_of_id hp hq (hxp.id.symm.trans (hid.trans hyq.id))
  exact hxp.entity.trans hyq.entity.symm

end WorkRecord

/-- After something was left under an identifier, a stored record was there before under another
one, or is what was left. -/
theorem Store.mem_leave {s : Store} {id : RecordId} {o : Option WorkRecord}
    (ho : ∀ r ∈ o, r.id = id) {y : WorkRecord} (hy : y ∈ (s.leave id o).records) :
    (y ∈ s.records ∧ y.id ≠ id) ∨ o = some y := by
  have hg := s.get?_leave ho y.id
  rw [get?_eq_some_iff.2 ⟨hy, rfl⟩] at hg
  split at hg
  · obtain ⟨-, -, hoy⟩ := Option.bind_eq_some_iff.1 hg.symm
    exact .inr hoy
  · exact .inl ⟨(get?_eq_some_iff.1 hg.symm).1, ‹_›⟩

/-- What may be relied on in a pass at work: its copies are unprocessed states of known work, each
under an identifier of its own, and what it has dispatched is on record. -/
structure Phase.Sound (origin : Store) (c : Course Store) (w : World Store) (p : Phase) : Prop where
  known : ∀ x ∈ p.copies, x.Known origin
  unprocessed : ∀ x ∈ p.copies, x.processed = none
  distinct : (p.copies.map (·.id)).Nodup
  fetched : ∀ report es batch, p = .fetching report es batch →
    es.Nodup ∧ ∀ x ∈ batch, x.entity ∉ es
  dispatched : ∀ report r result todo duplicates,
    p = .concluding report r result todo duplicates → ⟨c.name, r, c.now, result⟩ ∈ w.dispatches

/-- What a step of a pass does. It reads; or it deletes a record; or it writes back the result of a
dispatch. -/
inductive Course.Effect (c : Course Store) (p : Phase) (w : World Store) (q : Phase)
    (v : World Store) : Prop where
  | reads (backend : v.backend = w.backend)
      (copies : ∀ x ∈ q.copies, x ∈ p.copies ∨
        p.isEarly = true ∧ x ∈ w.backend.records ∧ x.processed = none)
  | deletes (id : RecordId) (backend : v.backend = w.backend.leave id none)
      (late : p.isEarly = false) (copies : ∀ x ∈ q.copies, x ∈ p.copies)
  | writes (r : WorkRecord) (result : Except String Outcome)
      (backend : v.backend = w.backend.leave r.id (Pass.left c.whenDone c.now r result))
      (late : p.isEarly = false) (copies : p.copies = r :: q.copies)
      (dispatched : ⟨c.name, r, c.now, result⟩ ∈ w.dispatches)

/-- A pass selects unprocessed stored records, each once, or entities, each once. -/
def Course.Opens (c : Course Store) : Prop :=
  ∀ w, ∃ p v, c.start w = (.ok p, v) ∧ w.Alike v ∧
    (∀ x ∈ p.copies, x ∈ w.backend.records ∧ x.processed = none) ∧
    (p.copies.map (·.id)).Nodup ∧
    (∀ report es batch, p = .fetching report es batch → es.Nodup ∧ batch = []) ∧
    ∀ report r result todo duplicates, p ≠ .concluding report r result todo duplicates

/-- The aggregation opens with entities, each once, and has no copies of records yet. -/
theorem Aggregate.course_opens (d : Dispatcher) (holdBack : Span) (now : Instant) :
    (course d holdBack now).Opens := by
  intro w
  obtain ⟨es, v, hv, halike, hes, -⟩ := select_ok holdBack now w
  refine ⟨.fetching .empty es [], v, Run.bind_ok hv _, halike, by simp [Phase.copies],
    List.nodup_nil, ?_, by simp⟩
  intro report es' batch h
  cases h
  exact ⟨hes, rfl⟩

/-- A retry opens with copies of the records of its tier, each once. -/
theorem Retry.course_opens (d : Dispatcher) (tier : RetryTier) (now : Instant) :
    (course d tier now).Opens := by
  intro w
  refine ⟨.ofRecords (.ok (w.backend.unprocessedIn tier.band)), w,
    Run.bind_ok (select_apply tier w) _, .refl w, ?_⟩
  cases hrs : w.backend.unprocessedIn tier.band with
  | nil =>
    exact ⟨by simp [Phase.ofRecords, Phase.copies], List.nodup_nil, by simp [Phase.ofRecords],
      by simp [Phase.ofRecords]⟩
  | cons r rs =>
    have hcopies : (Phase.ofRecords (.ok (r :: rs))).copies = selected w.backend tier := by
      rw [selected, hrs]
      rfl
    rw [hcopies]
    refine ⟨?_, nodup_selected w.backend tier, by simp [Phase.ofRecords], by simp [Phase.ofRecords]⟩
    intro x hx
    obtain ⟨hxs, hwaits⟩ := mem_selected.1 hx
    exact ⟨hxs, hwaits.1⟩

/-- A step of a pass keeps to what a step may do, and leaves a pass that can be relied on. -/
structure Course.Moves (c : Course Store) (origin : Store) (p : Phase) (w : World Store) (q : Phase)
    (v : World Store) : Prop where
  effect : c.Effect p w q v
  sound : q.Sound origin c v
  dispatches : w.dispatches ⊆ v.dispatches
  early : q.isEarly = true → p.isEarly = true

namespace Course

variable {c : Course Store} {origin : Store} {p : Phase} {w v : World Store}

/-- A pass that has done with some of its copies. -/
theorem sound_of_subset {q : Phase} (hp : p.Sound origin c w)
    (hsub : q.copies ⊆ p.copies) (hdistinct : (q.copies.map (·.id)).Nodup)
    (hfetching : ∀ report es batch, q ≠ .fetching report es batch)
    (hdispatched : ∀ report r result todo duplicates,
      q = .concluding report r result todo duplicates → ⟨c.name, r, c.now, result⟩ ∈ v.dispatches) :
    q.Sound origin c v :=
  ⟨fun x hx => hp.known x (hsub hx), fun x hx => hp.unprocessed x (hsub hx), hdistinct,
    fun report es batch h => absurd h (hfetching report es batch), hdispatched⟩

/-- The first step only reads: what a pass has after it are stored, unprocessed records. -/
theorem moves_start (hc : c.Opens) (hw : ∀ x ∈ w.backend.records, x.Known origin) :
    c.Moves origin .start w (c.turn .start w).1 (c.turn .start w).2 := by
  obtain ⟨q, v, hstart, halike, hcopies, hdistinct, hfetching, hconcluding⟩ := hc w
  have hturn : c.turn .start w = (q, v) := by simp only [turn, step, hstart]
  rw [hturn]
  refine ⟨.reads halike.backend fun x hx => .inr ⟨rfl, hcopies x hx⟩,
    ⟨fun x hx => hw x (hcopies x hx).1, fun x hx => (hcopies x hx).2, hdistinct, ?_, ?_⟩, ?_,
    fun _ => rfl⟩
  · rintro report es batch hq
    obtain ⟨hes, rfl⟩ := hfetching report es batch hq
    exact ⟨hes, by simp⟩
  · intro report r result todo duplicates hq
    exact absurd hq (hconcluding report r result todo duplicates)
  · rw [halike.dispatches]
    exact List.Subset.refl _

/-- A plan dispatches records of its batch, each once. -/
theorem planned_copies (report : Report) {batch : List WorkRecord}
    (hn : (batch.map (·.id)).Nodup) :
    (Phase.planned report batch).copies ⊆ batch ∧
      ((Phase.planned report batch).copies.map (·.id)).Nodup ∧
      (Phase.planned report batch).isEarly = false ∧
      ∀ report' r result todo duplicates,
        Phase.planned report batch ≠ .concluding report' r result todo duplicates := by
  cases batch with
  | nil => exact ⟨List.Subset.refl _, List.nodup_nil, rfl, by simp [Phase.planned]⟩
  | cons r rs =>
    have hplan := Plan.thins_ofList hn
    have hids := hplan.nodup hn
    rw [List.map_append] at hids
    refine ⟨fun x hx => hplan.perm.subset (List.mem_append_left _ hx), ?_, rfl,
      by simp [Phase.planned]⟩
    exact (List.nodup_append.1 hids).1

/-- Fetching reads unprocessed records of one more entity; the complete batch is planned. -/
theorem moves_fetching {report : Report} {es : List EntityId} {batch : List WorkRecord}
    (hw : ∀ x ∈ w.backend.records, x.Known origin)
    (hp : (Phase.fetching report es batch).Sound origin c w) :
    c.Moves origin (.fetching report es batch) w (c.turn (.fetching report es batch) w).1
      (c.turn (.fetching report es batch) w).2 := by
  cases es with
  | nil =>
    have hturn : c.turn (.fetching report [] batch) w = (.planned report batch, w) := rfl
    rw [hturn]
    have hbatch : (batch.map (·.id)).Nodup := hp.distinct
    obtain ⟨hsub, hdistinct, hearly, hconcluding⟩ := planned_copies report hbatch
    refine ⟨.reads rfl fun x hx => .inl (hsub hx), sound_of_subset hp hsub hdistinct ?_ ?_,
      List.Subset.refl _, fun _ => rfl⟩
    · intro report' es batch' h
      dsimp only at h
      rw [h] at hearly
      cases hearly
    · intro report' r result todo duplicates h
      exact absurd h (hconcluding report' r result todo duplicates)
  | cons e es =>
    have hturn : c.turn (.fetching report (e :: es) batch) w =
        (.fetching report es (batch ++ w.backend.unprocessedOf e), w) := by
      simp only [turn, step, Run.bind_ok (Aggregate.fetch_apply report [e] w), Run.pure_apply,
        List.flatMap_singleton]
    rw [hturn]
    obtain ⟨hknown, hunprocessed, hdistinct, hfetched, -⟩ := hp
    obtain ⟨hes, hbatch⟩ := hfetched report (e :: es) batch rfl
    rw [List.nodup_cons] at hes
    have hmem : ∀ x ∈ batch ++ w.backend.unprocessedOf e, x ∈ batch ∨
        x ∈ w.backend.records ∧ x.entity = e ∧ x.processed = none := by
      intro x hx
      exact (List.mem_append.1 hx).imp_right Aggregate.mem_unprocessedOf.1
    refine ⟨.reads rfl ?_, ⟨?_, ?_, ?_, ?_, by simp⟩, List.Subset.refl _, fun _ => rfl⟩
    · intro x hx
      exact (hmem x hx).imp_right fun ⟨hxs, _, hxp⟩ => ⟨rfl, hxs, hxp⟩
    · intro x hx
      rcases hmem x hx with hx | ⟨hxs, -, -⟩
      · exact hknown x hx
      · exact hw x hxs
    · intro x hx
      rcases hmem x hx with hx | ⟨-, -, hxp⟩
      · exact hunprocessed x hx
      · exact hxp
    · -- the new records are of another entity than those of the batch
      change ((batch ++ w.backend.unprocessedOf e).map (·.id)).Nodup
      rw [List.map_append, List.nodup_append]
      refine ⟨hdistinct, w.backend.distinct.sublist (List.filter_sublist.map _), ?_⟩
      intro a ha b hb hab
      obtain ⟨x, hx, rfl⟩ := List.mem_map.1 ha
      obtain ⟨y, hy, rfl⟩ := List.mem_map.1 hb
      obtain ⟨hys, hye, -⟩ := Aggregate.mem_unprocessedOf.1 hy
      have hentity := (hknown x hx).entity_eq (hw y hys) hab
      exact hbatch x hx (by simp [hentity, hye])
    · intro report' es' batch' h
      cases h
      refine ⟨hes.2, fun x hx => ?_⟩
      rcases hmem x hx with hx | ⟨-, rfl, -⟩
      · exact fun he => hbatch x hx (List.mem_cons_of_mem _ he)
      · exact hes.1

/-- Treating a record dispatches it or deletes it; a duplicate is deleted. -/
theorem moves_treating (hd : c.dispatcher.OnlyAnswers) {report : Report}
    {todo duplicates : List WorkRecord}
    (hp : (Phase.treating report todo duplicates).Sound origin c w) :
    c.Moves origin (.treating report todo duplicates) w
      (c.turn (.treating report todo duplicates) w).1
      (c.turn (.treating report todo duplicates) w).2 := by
  have hdistinct : (todo.map (·.id)).Nodup := hp.distinct
  rcases todo with _ | ⟨r, todo⟩
  · rcases duplicates with _ | ⟨r, duplicates⟩
    · -- nothing is left to treat, so the report is logged and the pass has ended
      have hturn : c.turn (.treating report [] []) w =
          (.ended (.ok report), (Run.log (c.closing report) w).2) := rfl
      rw [hturn]
      exact ⟨.reads rfl (by simp [Phase.copies]),
        sound_of_subset hp (List.nil_subset _) List.nodup_nil (by simp) (by simp),
        List.Subset.refl _, fun h => by cases h⟩
    · obtain ⟨report', v, h, hleads⟩ := Aggregate.discard_ok report r w
      have hturn : c.turn (.treating report [] (r :: duplicates)) w =
          (.treating report' [] duplicates, v) := by
        simp only [turn, step, Run.bind_ok h, Run.pure_apply]
      rw [hturn]
      refine ⟨.deletes r.id hleads.backend rfl fun x hx => hx,
        sound_of_subset hp (List.Subset.refl _) List.nodup_nil (by simp) (by simp), ?_,
        fun h => by cases h⟩
      rw [hleads.dispatches]
      exact List.subset_append_left _ _
  · by_cases he : r.isExpired c.now = true
    · obtain ⟨report', v, h, hleads⟩ := Pass.abandon_ok c.name report r w
      have hturn : c.turn (.treating report (r :: todo) duplicates) w =
          (.treating report' todo duplicates, v) := by
        simp only [turn, step, if_pos he, Run.bind_ok h, Run.pure_apply]
      rw [hturn]
      rw [List.map_cons, List.nodup_cons] at hdistinct
      refine ⟨.deletes r.id hleads.backend rfl fun x hx => List.mem_cons_of_mem r hx,
        sound_of_subset hp (List.subset_cons_self r todo) hdistinct.2 (by simp) (by simp), ?_,
        fun h => by cases h⟩
      rw [hleads.dispatches]
      exact List.subset_append_left _ _
    · -- the record stays among the copies, as its result is written by the turn after this one
      obtain ⟨result, u, h, halike⟩ := Pass.tryDispatch_ok hd r c.now w
      let x : Dispatch := ⟨c.name, r, c.now, result⟩
      have hturn : c.turn (.treating report (r :: todo) duplicates) w =
          (.concluding { report with dispatched := report.dispatched + 1 } r result todo duplicates,
            (Run.dispatched x u).2) := by
        simp only [turn, step, if_neg he, Run.bind_ok h]
        rfl
      have hdispatches : (Run.dispatched x u).2.dispatches = w.dispatches ++ [x] := by
        rw [← halike.dispatches]
        rfl
      rw [hturn]
      refine ⟨.reads halike.backend fun x hx => .inl hx,
        sound_of_subset hp (List.Subset.refl _) hdistinct (by simp) ?_, ?_, fun h => by cases h⟩
      · intro report' r' result' todo' duplicates' hq
        cases hq
        rw [hdispatches]
        exact List.mem_append_right _ (List.mem_singleton_self x)
      · rw [hdispatches]
        exact List.subset_append_left _ _

/-- The result of a dispatch is written back, or the pass crashes. -/
theorem moves_concluding {report : Report} {r : WorkRecord} {result : Except String Outcome}
    {todo duplicates : List WorkRecord}
    (hp : (Phase.concluding report r result todo duplicates).Sound origin c w) :
    c.Moves origin (.concluding report r result todo duplicates) w
      (c.turn (.concluding report r result todo duplicates) w).1
      (c.turn (.concluding report r result todo duplicates) w).2 := by
  have hr : r.processed = none := hp.unprocessed r List.mem_cons_self
  have hdistinct : ((r :: todo).map (·.id)).Nodup := hp.distinct
  rw [List.map_cons, List.nodup_cons] at hdistinct
  rcases Pass.conclude_cases (d := c.dispatcher) c.name c.whenDone c.now hr report result w with
    ⟨report', v, h, hleads⟩ | ⟨-, crash, v, h, halike⟩
  · have hturn : c.turn (.concluding report r result todo duplicates) w =
        (.treating report' todo duplicates, v) := by
      simp only [turn, step, Run.bind_ok h, Run.pure_apply]
    rw [hturn]
    refine ⟨.writes r result hleads.backend rfl rfl (hp.dispatched _ _ _ _ _ rfl),
      sound_of_subset hp (List.subset_cons_self r todo) hdistinct.2 (by simp) (by simp), ?_,
      fun h => by cases h⟩
    rw [hleads.dispatches]
    exact List.subset_append_left _ _
  · -- the sink has crashed: nothing was written, and no copy is left that could be
    have hturn : c.turn (.concluding report r result todo duplicates) w = (.crashed crash, v) := by
      simp only [turn, step, Run.bind_crash h]
    rw [hturn]
    refine ⟨.reads halike.backend (by simp [Phase.copies]),
      sound_of_subset hp (List.nil_subset _) List.nodup_nil (by simp) (by simp), ?_,
      fun h => by cases h⟩
    rw [halike.dispatches]
    exact List.Subset.refl _

/-- **What a step of a pass does.** Where the pass can be relied on and only known work is stored, a
step reads, deletes or writes a result, and the pass can be relied on after it. -/
theorem turn_moves (hc : c.Opens) (hd : c.dispatcher.OnlyAnswers)
    (hw : ∀ x ∈ w.backend.records, x.Known origin) (hp : p.Sound origin c w) :
    c.Moves origin p w (c.turn p w).1 (c.turn p w).2 := by
  cases p with
  | start => exact moves_start hc hw
  | fetching report es batch => exact moves_fetching hw hp
  | treating report todo duplicates => exact moves_treating hd hp
  | concluding report r result todo duplicates => exact moves_concluding hp
  | ended result => exact ⟨.reads rfl fun x hx => .inl hx, hp, List.Subset.refl _, id⟩
  | crashed crash => exact ⟨.reads rfl fun x hx => .inl hx, hp, List.Subset.refl _, id⟩

/-- A record stored after a step was stored before, or is the result that the step wrote for one of
its copies. -/
theorem Effect.stored {q : Phase} (h : c.Effect p w q v) {y : WorkRecord}
    (hy : y ∈ v.backend.records) : y ∈ w.backend.records ∨
      ∃ r result, p.isEarly = false ∧ p.copies = r :: q.copies ∧ y.SameWork r ∧
        ⟨c.name, r, c.now, result⟩ ∈ w.dispatches ∧
        Pass.left c.whenDone c.now r result = some y := by
  cases h with
  | reads hbackend _ => exact .inl (hbackend ▸ hy)
  | deletes id hbackend _ _ =>
    rw [hbackend] at hy
    rcases Store.mem_leave (by simp) hy with ⟨hy, -⟩ | hy
    · exact .inl hy
    · cases hy
  | writes r result hbackend hlate hcopies hdispatched =>
    rw [hbackend] at hy
    rcases Store.mem_leave (fun z hz => (Pass.left_sameWork hz).id) hy with ⟨hy, -⟩ | hy
    · exact .inl hy
    · exact .inr ⟨r, result, hlate, hcopies, Pass.left_sameWork hy, hdispatched, hy⟩

/-- A copy after a step was one before, or was read by that step. -/
theorem Effect.copies {q : Phase} (h : c.Effect p w q v) {x : WorkRecord} (hx : x ∈ q.copies) :
    x ∈ p.copies ∨ p.isEarly = true ∧ x ∈ w.backend.records ∧ x.processed = none := by
  cases h with
  | reads _ hcopies => exact hcopies x hx
  | deletes _ _ _ hcopies => exact .inl (hcopies x hx)
  | writes r _ _ _ hcopies _ => exact .inl (hcopies ▸ List.mem_cons_of_mem r hx)

/-- After a step only known work is stored. -/
theorem Effect.known {q : Phase} (h : c.Effect p w q v) (hp : p.Sound origin c w)
    (hw : ∀ x ∈ w.backend.records, x.Known origin) : ∀ x ∈ v.backend.records, x.Known origin := by
  intro x hx
  rcases h.stored hx with hx | ⟨r, result, -, hcopies, hsame, -, -⟩
  · exact hw x hx
  · obtain ⟨o, ho, hro⟩ := hp.known r (by simp [hcopies])
    exact ⟨o, ho, hsame.trans hro⟩

/-- What a step wrote is not under the identifier of another copy. -/
theorem id_ne_of_copies {q : Phase} (hp : p.Sound origin c w) {r : WorkRecord}
    (hcopies : p.copies = r :: q.copies) {x : WorkRecord} (hx : x ∈ q.copies) : x.id ≠ r.id := by
  have hdistinct := hp.distinct
  rw [hcopies, List.map_cons, List.nodup_cons] at hdistinct
  exact fun hid => hdistinct.1 (hid ▸ List.mem_map_of_mem hx)

end Course

end Reconciliation
