import Reconciliation.Pass.Aggregate
import Reconciliation.Pass.Basic
import Reconciliation.Pass.Retry
import Reconciliation.Store.Faulty

/-!
# Backends that answer alike

A pass knows its backend by the answers to its calls and nothing else. So where one backend is
seen through another one, as a store is behind a list of what was asked of it, a pass over the
one is the pass over the other: it ends alike and leaves the same traces.

* `RecordStore.Mirrors`: every call of the one backend is the same call of the other.
* `Aggregate.run_mirrors`, `Retry.run_mirrors`, `Purge.run_mirrors`: then so is every pass.
* `FaultyStore.sound_mirrors`: a store without faults is the store.
-/

namespace Reconciliation

variable {σ τ α β : Type} {f : σ → τ}

/-- The same world with another backend. The log and the traces are as they were. -/
def World.map (f : σ → τ) (w : World σ) : World τ := { w with backend := f w.backend }

namespace Run

/-- A run that is another one, seen on the other backend. Whatever holds of the values and the
traces of one then holds of the other. -/
def Mirrors (f : σ → τ) (x : Run σ α) (y : Run τ α) : Prop :=
  ∀ w, y (w.map f) = ((x w).1, (x w).2.map f)

namespace Mirrors

theorem pure (a : α) : Mirrors f (pure a) (pure a) := fun _ => rfl

theorem crash (c : Crash) : Mirrors f (Run.crash c : Run σ α) (Run.crash c) := fun _ => rfl

theorem log (e : Log.Event) : Mirrors f (Run.log e) (Run.log e) := fun _ => rfl

theorem dispatched (x : Dispatch) : Mirrors f (Run.dispatched x) (Run.dispatched x) := fun _ => rfl

theorem call (c : Call) : Mirrors f (Run.call c) (Run.call c) := fun _ => rfl

theorem record (e : MetricEvent) : Mirrors f (Run.record e) (Run.record e) := fun _ => rfl

/-- A step of one backend mirrors a step of the other if both answer alike and the view of what they
leave agrees. -/
theorem step {g : σ → α × σ} {h : τ → α × τ} (hgh : ∀ s, h (f s) = ((g s).1, f (g s).2)) :
    Mirrors f (Run.step g) (Run.step h) := by
  intro w
  have hw := hgh w.backend
  simp only [Run.step, World.map, hw]

/-- Runs that mirror each other do so one after another: up to a crash, which both have then. -/
theorem bind {x : Run σ α} {y : Run τ α} {k : α → Run σ β} {l : α → Run τ β} (h : Mirrors f x y)
    (hk : ∀ a, Mirrors f (k a) (l a)) : Mirrors f (x >>= k) (y >>= l) := by
  intro w
  have hw := h w
  rcases hx : x w with ⟨c | a, v⟩ <;> rw [hx] at hw
  · rw [bind_crash hx, bind_crash hw]
  · rw [bind_ok hx, bind_ok hw]
    exact hk a v

/-- What looks at the world may not look at its backend. -/
theorem world_bind {k : World σ → Run σ β} {l : World τ → Run τ β}
    (hk : ∀ w, Mirrors f (k w) (l (w.map f))) : Mirrors f (Run.world >>= k) (Run.world >>= l) :=
  fun w => hk w w

/-- A crash that is caught on one side is caught on the other. -/
theorem caught {x : Run σ α} {y : Run τ α} (h : Mirrors f x y) : Mirrors f x.caught y.caught := by
  intro w
  have hw := h w
  rw [Run.caught, Run.caught, hw]
  rcases x w with ⟨c | a, v⟩ <;> rfl

/-- So do runs about the elements of a list, from the first to the last. -/
theorem foldlM {x : β → α → Run σ β} {y : β → α → Run τ β} (h : ∀ b a, Mirrors f (x b a) (y b a))
    (as : List α) (b : β) : Mirrors f (as.foldlM x b) (as.foldlM y b) := by
  induction as generalizing b with
  | nil => exact .pure b
  | cons a as ih =>
    rw [List.foldlM_cons, List.foldlM_cons]
    exact (h b a).bind ih

end Mirrors

end Run

/-- A backend that is another one, seen through a function: each call gives the same answer, and
the backend after it is seen as the other one after it. -/
structure RecordStore.Mirrors [RecordStore σ] [RecordStore τ] (f : σ → τ) : Prop where
  insert : ∀ r s, RecordStore.insert r (f s) =
    ((RecordStore.insert r s).1, f (RecordStore.insert r s).2)
  update : ∀ r s, RecordStore.update r (f s) =
    ((RecordStore.update r s).1, f (RecordStore.update r s).2)
  delete : ∀ r s, RecordStore.delete r (f s) =
    ((RecordStore.delete r s).1, f (RecordStore.delete r s).2)
  get : ∀ id s, RecordStore.get id (f s) = ((RecordStore.get id s).1, f (RecordStore.get id s).2)
  unprocessedOf : ∀ e s, RecordStore.unprocessedOf e (f s) =
    ((RecordStore.unprocessedOf e s).1, f (RecordStore.unprocessedOf e s).2)
  ofTypeAndCount : ∀ t n s, RecordStore.ofTypeAndCount t n (f s) =
    ((RecordStore.ofTypeAndCount t n s).1, f (RecordStore.ofTypeAndCount t n s).2)
  unprocessedIn : ∀ b s, RecordStore.unprocessedIn b (f s) =
    ((RecordStore.unprocessedIn b s).1, f (RecordStore.unprocessedIn b s).2)
  untriedBefore : ∀ t s, RecordStore.untriedBefore t (f s) =
    ((RecordStore.untriedBefore t s).1, f (RecordStore.untriedBefore t s).2)
  deleteExpired : ∀ t s, RecordStore.deleteExpired t (f s) =
    ((RecordStore.deleteExpired t s).1, f (RecordStore.deleteExpired t s).2)
  edit : ∀ e s, RecordStore.edit e (f s) = ((RecordStore.edit e s).1, f (RecordStore.edit e s).2)

open Run (Mirrors)

/-! ## Dispatches -/

namespace Dispatcher

variable (d : Dispatcher) (r : WorkRecord) (now : Instant)

/-- The sink is the same for both backends, so both crash on the same names. -/
theorem emit_mirrors (e : MetricEvent) : Mirrors f (d.emit e) (d.emit e) := by
  refine (Mirrors.record e).bind fun _ => ?_
  split
  · exact .crash _
  · exact .pure _

/-- Whether a failure is counted does not depend on the backend. -/
theorem noteFailure_mirrors : Mirrors f (d.noteFailure r now) (d.noteFailure r now) := by
  rw [noteFailure, noteFailure]
  split
  · exact d.emit_mirrors _
  · exact .pure _

/-- Nor does what is counted of a success. -/
theorem noteSuccess_mirrors : Mirrors f (d.noteSuccess r now) (d.noteSuccess r now) :=
  (d.emit_mirrors _).bind fun _ => d.emit_mirrors _

variable [RecordStore σ] [RecordStore τ]

/-- Changes are made up to the same first refusal. -/
theorem makeEdits_mirrors (hf : RecordStore.Mirrors f) (made : Nat) (es : List Edit) :
    Mirrors f (makeEdits made es) (makeEdits made es) := by
  induction es generalizing made with
  | nil => exact .pure _
  | cons e es ih =>
    refine (Mirrors.step (hf.edit e)).bind fun result => ?_
    cases result with
    | ok => exact ih (made + 1)
    | error e => exact .pure _

/-- A handler sees its earlier calls only, which both worlds share, so it does the same in both. -/
theorem callHandler_mirrors (hf : RecordStore.Mirrors f) (h : Handler) :
    Mirrors f (callHandler h r) (callHandler h r) := by
  -- a handler is told of its earlier calls, which are the same in both worlds
  refine .world_bind fun w => ?_
  dsimp only [World.map]
  refine (makeEdits_mirrors hf 0 _).bind fun made => (Mirrors.call _).bind fun _ => ?_
  rcases made with ⟨n, e | _⟩
  · exact .pure _
  · dsimp only
    split
    · exact .pure _
    · exact .pure _
    · exact .crash _

/-- **A dispatch** goes alike over both backends. -/
theorem dispatch_mirrors (hf : RecordStore.Mirrors f) :
    Mirrors f (d.dispatch r now) (d.dispatch r now) := by
  have houtcome : Mirrors f (d.outcome r) (d.outcome r) := by
    rw [outcome, outcome]
    cases d.handler? r.eventType with
    | some h => exact callHandler_mirrors r hf h
    | none => exact (Mirrors.log _).bind fun _ => .pure _
  refine houtcome.bind fun result => ?_
  rcases result with message | status | until?
  · exact .pure _
  · exact (d.noteSuccess_mirrors r now).bind fun _ => .pure _
  · exact (d.noteFailure_mirrors r now).bind fun _ => .pure _

end Dispatcher

/-! ## Records of a pass -/

namespace Pass

/-- Counting a result has nothing to do with the backend. -/
theorem settle_mirrors (report : Report) (result : Except StoreError Unit)
    (event : StoreError → Log.Event) :
    Mirrors f (settle report result event) (settle report result event) := by
  cases result with
  | ok => exact .pure _
  | error e => exact (Mirrors.log _).bind fun _ => .pure _

variable [RecordStore σ] [RecordStore τ] (hf : RecordStore.Mirrors f)
include hf

/-- The text of a crash is the same on both sides. -/
theorem tryDispatch_mirrors (d : Dispatcher) (r : WorkRecord) (now : Instant) :
    Mirrors f (tryDispatch d r now) (tryDispatch d r now) := by
  refine (d.dispatch_mirrors r now hf).caught.bind fun result => ?_
  cases result with
  | ok => exact .pure _
  | error => exact .pure _

/-- A completed record is written back alike. -/
theorem writeDone_mirrors (pass : String) (whenDone : WhenDone) (r : WorkRecord) (status : String)
    (now : Instant) :
    Mirrors f (writeDone pass whenDone r status now) (writeDone pass whenDone r status now) := by
  cases whenDone with
  | remove => exact .step (hf.delete r)
  | keep =>
    rw [writeDone, writeDone]
    cases r.markProcessed status now with
    | ok done => exact .step (hf.update done)
    | error before => exact (Mirrors.log _).bind fun _ => .pure _

/-- **The result of an attempt** is written back alike, whatever it is. -/
theorem conclude_mirrors (pass : String) (d : Dispatcher) (whenDone : WhenDone) (now : Instant)
    (report : Report) (r : WorkRecord) (result : Except String Outcome) :
    Mirrors f (conclude pass d whenDone now report r result)
      (conclude pass d whenDone now report r result) := by
  rcases result with message | status | until?
  · refine (Mirrors.log _).bind fun _ => (d.noteFailure_mirrors r now).bind fun _ => ?_
    exact (Mirrors.step (hf.update _)).bind fun _ => settle_mirrors _ _ _
  · refine (Mirrors.log _).bind fun _ => ?_
    exact (writeDone_mirrors hf pass whenDone r status now).bind fun _ => settle_mirrors _ _ _
  · refine (Mirrors.log _).bind fun _ => ?_
    exact (Mirrors.step (hf.update _)).bind fun _ => settle_mirrors _ _ _

/-- **The treatment of a record** is the same on both backends. -/
theorem treat_mirrors (pass : String) (d : Dispatcher) (whenDone : WhenDone) (now : Instant)
    (report : Report) (r : WorkRecord) :
    Mirrors f (treat pass d whenDone now report r) (treat pass d whenDone now report r) := by
  rw [treat, treat]
  cases r.isExpired now with
  | true =>
    refine (Mirrors.log _).bind fun _ => (Mirrors.step (hf.delete r)).bind fun result => ?_
    cases result with
    | ok => exact .pure _
    | error e => exact settle_mirrors _ _ _
  | false =>
    refine (tryDispatch_mirrors hf d r now).bind fun result => ?_
    exact (Mirrors.dispatched _).bind fun _ => conclude_mirrors hf pass d whenDone now _ r result

end Pass

/-! ## Passes -/

variable [RecordStore σ] [RecordStore τ]

namespace Aggregate

/-- The entities are fetched one after another, and those that fail are the same. -/
theorem fetch_mirrors (hf : RecordStore.Mirrors f) (report : Report) (es : List EntityId) :
    Mirrors f (fetch report es) (fetch report es) := by
  induction es generalizing report with
  | nil => exact .pure _
  | cons e es ih =>
    refine (Mirrors.step (hf.unprocessedOf e)).bind fun result => ?_
    cases result with
    | ok rs => exact (ih report).bind fun _ => .pure _
    | error err => exact (Mirrors.log _).bind fun _ => ih _

/-- The batches of both are the same, or both selections fail. -/
theorem collect_mirrors (hf : RecordStore.Mirrors f) (holdBack : Span) (now : Instant) :
    Mirrors f (collect holdBack now) (collect holdBack now) := by
  have hselect : Mirrors f (select holdBack now) (select holdBack now) := by
    rw [select, select]
    cases now.sub? holdBack with
    | none => exact (Mirrors.log _).bind fun _ => .pure _
    | some cutoff =>
      refine (Mirrors.step (hf.untriedBefore cutoff)).bind fun result => ?_
      cases result with
      | ok => exact .pure _
      | error => exact (Mirrors.log _).bind fun _ => .pure _
  refine hselect.bind fun result => ?_
  cases result with
  | ok es => exact (fetch_mirrors hf _ es).bind fun _ => .pure _
  | error => exact .pure _

/-- A stale duplicate is deleted in both, or in neither. -/
theorem discard_mirrors (hf : RecordStore.Mirrors f) (report : Report) (r : WorkRecord) :
    Mirrors f (discard report r) (discard report r) := by
  refine (Mirrors.log _).bind fun _ => (Mirrors.step (hf.delete r)).bind fun result => ?_
  cases result with
  | ok => exact .pure _
  | error e => exact Pass.settle_mirrors _ _ _

/-- **An aggregation** is the same on both backends. -/
theorem run_mirrors (hf : RecordStore.Mirrors f) (d : Dispatcher) (holdBack : Span)
    (now : Instant) : Mirrors f (run d holdBack now) (run d holdBack now) := by
  refine (collect_mirrors hf holdBack now).bind fun collected => ?_
  rcases collected with e | ⟨report, _ | ⟨r, rs⟩⟩
  · exact .pure _
  · exact .pure _
  · refine Mirrors.bind ?_ fun _ => .pure _
    refine (Mirrors.foldlM (Pass.treat_mirrors hf name d .keep now) _ _).bind fun report => ?_
    refine (Mirrors.foldlM (discard_mirrors hf) _ report).bind fun report => ?_
    exact (Mirrors.log _).bind fun _ => .pure report

end Aggregate

/-- **A retry** is the same on both backends. -/
theorem Retry.run_mirrors (hf : RecordStore.Mirrors f) (d : Dispatcher) (tier : RetryTier)
    (now : Instant) : Mirrors f (run d tier now) (run d tier now) := by
  have hselect : Mirrors f (select tier) (select tier) := by
    refine (Mirrors.step (hf.unprocessedIn tier.band)).bind fun result => ?_
    cases result with
    | ok => exact .pure _
    | error => exact (Mirrors.log _).bind fun _ => .pure _
  refine hselect.bind fun selected => ?_
  rcases selected with e | _ | ⟨r, rs⟩
  · exact .pure _
  · exact .pure _
  · refine Mirrors.bind ?_ fun _ => .pure _
    refine (Mirrors.foldlM (Pass.treat_mirrors hf tier.name d .remove now) _ _).bind ?_
    intro report
    exact (Mirrors.log _).bind fun _ => .pure report

/-- **A purge** is the same on both backends. -/
theorem Purge.run_mirrors (hf : RecordStore.Mirrors f) (now : Instant) :
    Mirrors f (run now) (run now) := by
  refine (Mirrors.step (hf.deleteExpired now)).bind fun result => ?_
  rcases result with e | _ | n
  · exact .pure _
  · exact .pure _
  · exact (Mirrors.log _).bind fun _ => .pure _

/-- A store without faults is seen as the store. -/
theorem FaultyStore.sound_mirrors : RecordStore.Mirrors FaultyStore.sound where
  insert _ _ := rfl
  update _ _ := rfl
  delete _ _ := rfl
  get _ _ := rfl
  unprocessedOf _ _ := rfl
  ofTypeAndCount _ _ _ := rfl
  unprocessedIn _ _ := rfl
  untriedBefore _ _ := rfl
  deleteExpired _ _ := rfl
  edit _ _ := rfl

end Reconciliation
