import Reconciliation.Pass.Aggregate
import Reconciliation.Pass.Retry
import Reconciliation.Proofs.Attempt

/-!
# What a pass leaves in the traces

The store is not safe from handlers, as a handler may change it on its own, but the traces
are: only a pass makes dispatches, and a handler is called by a dispatch and by nothing
else. So what the traces say of a pass holds whatever its handlers do, over any backend and
also if a handler or the sink crashes.

* `Run.Keeps`: a run that leaves a view of the world as it is. Such runs compose.
* `Run.Maintains`: a run that keeps up a property of the world. So do such runs.
* `Pass.foldlM_treat_trace`: a pass over some records dispatches those that are not expired,
  in order, each once; if it crashes it has dispatched the first of them.
* `Aggregate.run_handsOver`, `Retry.run_handsOver`: the calls of handlers are the dispatches
  of those records that have one.
-/

namespace Reconciliation

variable {σ α β : Type}

/-- What a handler is called for: a record by its kind, its identifier and its retry count. -/
structure Subject where
  eventType : EventType
  id : RecordId
  retryCount : UInt32

/-- What a handler is called for if it is handed the record as it is. -/
def WorkRecord.subject (r : WorkRecord) : Subject := ⟨r.eventType, r.id, r.retryCount⟩

/-- What a handler was called for. How many changes it made does not matter here. -/
def Call.subject (c : Call) : Subject := ⟨c.eventType, c.id, c.retryCount⟩

/-- What handlers have been called for, oldest first. Of each call only its record counts, and not
what the handler did. -/
def World.called (w : World σ) : List Subject := w.calls.map Call.subject

/-- What handlers are called for if some records are dispatched: those that have a handler, each
once. -/
def Dispatcher.handed (d : Dispatcher) (rs : List WorkRecord) : List Subject :=
  (rs.filter fun r => d.hasHandler r.eventType).map (·.subject)

/-- Records dispatched one after another are handed over one after another. -/
theorem Dispatcher.handed_append (d : Dispatcher) (rs ts : List WorkRecord) :
    d.handed (rs ++ ts) = d.handed rs ++ d.handed ts := by
  rw [handed, List.filter_append, List.map_append]
  rfl

/-- What passes alone leave in the traces: their dispatches, and what they call handlers for. -/
def World.passTrace (w : World σ) : List Dispatch × List Subject := (w.dispatches, w.called)

namespace Run

variable {γ : Type} {view : World σ → γ}

/-- A run that leaves a view of the world as it is, also if it crashes. The view is all that a
statement is about, and whatever else there is in the world may change. -/
def Keeps (view : World σ → γ) (x : Run σ α) : Prop := ∀ w, view (x w).2 = view w

namespace Keeps

/-- A run that only answers keeps every view. -/
theorem pure (a : α) : Keeps view (pure a : Run σ α) := fun _ => rfl

/-- So does a crash by itself. -/
theorem crash (c : Crash) : Keeps view (Run.crash c : Run σ α) := fun _ => rfl

/-- And so does a look at the world. -/
theorem world : Keeps view (Run.world : Run σ (World σ)) := fun _ => rfl

/-- One program after another keeps what both keep. A crash of the first leaves out the second. -/
theorem bind {x : Run σ α} {f : α → Run σ β} (hx : Keeps view x) (hf : ∀ a, Keeps view (f a)) :
    Keeps view (x >>= f) := by
  intro w
  have hw := hx w
  rcases h : x w with ⟨c | a, v⟩ <;> rw [h] at hw
  · rw [bind_crash h]
    exact hw
  · rw [bind_ok h]
    exact (hf a v).trans hw

/-- To catch a crash takes back nothing that was done before it, and so nothing of the view. -/
theorem caught {x : Run σ α} (hx : Keeps view x) : Keeps view x.caught := by
  intro w
  obtain ⟨result, h⟩ := exists_caught x w
  rw [h]
  exact hx w

/-- A view that the rest of a run keeps is the one after its first part. -/
theorem after {f : α → Run σ β} (hf : ∀ a, Keeps view (f a)) (x : Run σ α) (w : World σ) :
    view ((x >>= f) w).2 = view (x w).2 := by
  rcases h : x w with ⟨c | a, v⟩
  · rw [bind_crash h]
  · rw [bind_ok h]
    exact hf a v

/-- A loop keeps what each round of it keeps. -/
theorem foldlM {f : β → α → Run σ β} (hf : ∀ b a, Keeps view (f b a)) (as : List α) (b : β) :
    Keeps view (as.foldlM f b) := by
  induction as generalizing b with
  | nil => exact .pure b
  | cons a as ih =>
    rw [List.foldlM_cons]
    exact (hf b a).bind ih

/-- An operation of the backend is neither a dispatch nor a call of a handler. -/
theorem step (f : σ → α × σ) : Keeps World.passTrace (Run.step f) := fun _ => rfl

/-- Nor is a metric. -/
theorem record (e : MetricEvent) : Keeps World.passTrace (Run.record e : Run σ Unit) := fun _ => rfl

/-- Nor is an event of the log. -/
theorem log (e : Log.Event) : Keeps World.passTrace (Run.log e : Run σ Unit) := fun _ => rfl

end Keeps

/-- A run that keeps up a property of the world, also if it crashes. In contrast to a view such a
property may hold in a new way, as it does where a list gets longer. -/
def Maintains (inv : World σ → Prop) (x : Run σ α) : Prop := ∀ w, inv w → inv (x w).2

namespace Maintains

variable {inv : World σ → Prop}

/-- The rules for an invariant are those for a view, one for each way to build a program. -/
theorem pure (a : α) : Maintains inv (pure a : Run σ α) := fun _ h => h

/-- One after the other two runs keep up what both of them do. -/
theorem bind {x : Run σ α} {f : α → Run σ β} (hx : Maintains inv x)
    (hf : ∀ a, Maintains inv (f a)) : Maintains inv (x >>= f) := by
  intro w h
  have hmid := hx w h
  rw [bind_apply]
  rcases hxw : x w with ⟨c | a, v⟩ <;> rw [hxw] at hmid
  · exact hmid
  · exact hf a v hmid

/-- It does not matter whether the crash of a run is caught. -/
theorem caught {x : Run σ α} (hx : Maintains inv x) : Maintains inv x.caught := by
  intro w h
  have hend := hx w h
  rw [Run.caught]
  rcases hxw : x w with ⟨c | a, v⟩ <;> rw [hxw] at hend <;> exact hend

/-- Runs about the elements of a list keep up what each of them does. -/
theorem foldlM {f : β → α → Run σ β} {as : List α} (hf : ∀ a ∈ as, ∀ b, Maintains inv (f b a))
    (b : β) : Maintains inv (as.foldlM f b) := by
  induction as generalizing b with
  | nil => exact .pure b
  | cons a as ih =>
    rw [List.foldlM_cons]
    refine (hf a List.mem_cons_self b).bind fun b => ?_
    exact ih (fun x hx => hf x (List.mem_cons_of_mem a hx)) b

end Maintains

/-- What is only done to the value of a run does nothing to the world. -/
theorem bind_pure_snd (f : α → β) (x : Run σ α) (w : World σ) :
    ((x >>= fun a => pure (f a)) w).2 = (x w).2 :=
  Keeps.after (fun _ _ => rfl : ∀ a, Keeps id (pure (f a))) x w

end Run

open Run (Keeps)

namespace Dispatcher

/-- To emit a metric calls no handler, also if the sink crashes. -/
theorem emit_keeps (d : Dispatcher) (e : MetricEvent) :
    Keeps World.passTrace (d.emit e : Run σ Unit) := by
  refine (Keeps.record e).bind fun _ => ?_
  split
  · exact .crash _
  · exact .pure _

/-- To note a failure emits the metrics of it and no more. -/
theorem noteFailure_keeps (d : Dispatcher) (r : WorkRecord) (now : Instant) :
    Keeps World.passTrace (d.noteFailure r now : Run σ Unit) := by
  rw [noteFailure]
  split
  · exact emit_keeps d _
  · exact .pure _

/-- To note a success likewise. -/
theorem noteSuccess_keeps (d : Dispatcher) (r : WorkRecord) (now : Instant) :
    Keeps World.passTrace (d.noteSuccess r now : Run σ Unit) :=
  (emit_keeps d _).bind fun _ => emit_keeps d _

variable [RecordStore σ]

/-- Changes of the store do not crash, and leave no traces of passes. -/
theorem makeEdits_ok (made : Nat) (es : List Edit) (w : World σ) :
    ∃ result v, makeEdits made es w = (.ok result, v) ∧ v.passTrace = w.passTrace := by
  induction es generalizing made w with
  | nil => exact ⟨_, w, rfl, rfl⟩
  | cons e es ih =>
    obtain ⟨result, u, hu, hkept⟩ : ∃ result u,
        (Records.edit e : Run σ _) w = (.ok result, u) ∧ u.passTrace = w.passTrace :=
      ⟨_, _, rfl, rfl⟩
    rw [makeEdits, Run.bind_ok hu]
    cases result with
    | ok =>
      obtain ⟨result, v, hv, hkept'⟩ := ih (made + 1) u
      exact ⟨result, v, hv, hkept'.trans hkept⟩
    | error error => exact ⟨_, u, rfl, hkept⟩

/-- **A handler that is called leaves one call**, whether its changes go through or not, and also if
it crashes. -/
theorem callHandler_trace (h : Handler) (r : WorkRecord) (w : World σ) :
    (callHandler h r w).2.passTrace = (w.dispatches, w.called ++ [r.subject]) := by
  obtain ⟨⟨changes, result⟩, u, hu, hkept⟩ :=
    makeEdits_ok 0 (h (historyOf r.eventType w.calls) r).edits w
  let call : Call := ⟨r.eventType, r.id, r.retryCount, changes⟩
  have hcall : (Run.call call u).2.passTrace = (w.dispatches, w.called ++ [r.subject]) := by
    have hcalled : (Run.call call u).2.called = u.called ++ [r.subject] := List.map_append
    rw [World.passTrace, hcalled]
    exact congrArg (fun t : List Dispatch × List Subject => (t.1, t.2 ++ [r.subject])) hkept
  refine Eq.trans ?_ hcall
  rw [callHandler, Run.bind_ok (rfl : Run.world w = (.ok w, w)), Run.bind_ok hu]
  refine Keeps.after (fun _ => ?_) (Run.call call) u
  rcases result with e | _
  · exact .pure _
  · dsimp only
    split
    · exact .pure _
    · exact .pure _
    · exact .crash _

/-- **A dispatch hands the record to its handler** if there is one, once, and leaves no other
traces of passes, whatever the handler does. -/
theorem dispatch_trace (d : Dispatcher) (r : WorkRecord) (now : Instant) (w : World σ) :
    (d.dispatch r now w).2.passTrace = (w.dispatches, w.called ++ d.handed [r]) := by
  have houtcome : (d.outcome r w).2.passTrace = (w.dispatches, w.called ++ d.handed [r]) := by
    rw [outcome]
    cases hh : d.handler? r.eventType with
    | some h =>
      have hhanded : d.handed [r] = [r.subject] := by simp [handed, hasHandler, hh]
      rw [hhanded]
      exact callHandler_trace h r w
    | none =>
      have hhanded : d.handed [r] = [] := by simp [handed, hasHandler, hh]
      rw [hhanded, List.append_nil]
      rfl
  refine (Keeps.after (fun result => ?_) _ w).trans houtcome
  rcases result with message | status | until?
  · exact .pure _
  · exact (noteSuccess_keeps d r now).bind fun _ => .pure _
  · exact (noteFailure_keeps d r now).bind fun _ => .pure _

end Dispatcher

namespace Pass

/-- The report of a write is made of its result, and of the log if it failed. -/
theorem settle_keeps (report : Report) (result : Except StoreError Unit)
    (event : StoreError → Log.Event) :
    Keeps World.passTrace (settle report result event : Run σ Report) := by
  cases result with
  | ok => exact .pure _
  | error e => exact (Keeps.log _).bind fun _ => .pure _

variable [RecordStore σ]

/-- A crash of the handler leaves the same traces as its answers. -/
theorem tryDispatch_trace (d : Dispatcher) (r : WorkRecord) (now : Instant) (w : World σ) :
    (tryDispatch d r now w).2.passTrace = (w.dispatches, w.called ++ d.handed [r]) := by
  obtain ⟨result, hcaught⟩ := Run.exists_caught (d.dispatch r now) w
  refine Eq.trans ?_ (Dispatcher.dispatch_trace d r now w)
  rw [tryDispatch, Run.bind_ok hcaught]
  cases result with
  | ok => rfl
  | error => rfl

/-- What is written of a record that is done is a matter between the pass and the store. -/
theorem writeDone_keeps (pass : String) (whenDone : WhenDone) (r : WorkRecord) (status : String)
    (now : Instant) : Keeps World.passTrace (writeDone pass whenDone r status now : Run σ _) := by
  cases whenDone with
  | remove => exact .step _
  | keep =>
    rw [writeDone]
    split
    · exact .step _
    · exact (Keeps.log _).bind fun _ => .pure _

/-- So whatever the handler has answered, the trace ends with its answer: what follows it calls no
handler again. -/
theorem conclude_keeps (pass : String) (d : Dispatcher) (whenDone : WhenDone) (now : Instant)
    (report : Report) (r : WorkRecord) (result : Except String Outcome) :
    Keeps World.passTrace (conclude pass d whenDone now report r result : Run σ Report) := by
  rcases result with message | status | until?
  · refine (Keeps.log _).bind fun _ => (Dispatcher.noteFailure_keeps d r now).bind fun _ => ?_
    exact (Keeps.step _).bind fun _ => settle_keeps _ _ _
  · refine (Keeps.log _).bind fun _ => (writeDone_keeps pass whenDone r status now).bind ?_
    exact fun _ => settle_keeps _ _ _
  · refine (Keeps.log _).bind fun _ => (Keeps.step _).bind ?_
    exact fun _ => settle_keeps _ _ _

/-- A record that has expired is removed without a call. -/
theorem abandon_keeps (pass : String) (report : Report) (r : WorkRecord) :
    Keeps World.passTrace (abandon pass report r : Run σ Report) := by
  refine (Keeps.log _).bind fun _ => (Keeps.step _).bind fun result => ?_
  cases result with
  | ok => exact .pure _
  | error e => exact settle_keeps _ _ _

variable (pass : String) (d : Dispatcher) (whenDone : WhenDone) (now : Instant)

/-- **A treated record** is dispatched unless it is expired, and only then its handler is called. -/
theorem treat_trace (report : Report) (r : WorkRecord) (w : World σ) :
    ∃ xs : List Dispatch, xs.map (·.record) = [r].filter (fun r => !r.isExpired now) ∧
      (treat pass d whenDone now report r w).2.dispatches = w.dispatches ++ xs ∧
      (treat pass d whenDone now report r w).2.called =
        w.called ++ d.handed (xs.map (·.record)) := by
  rw [treat]
  cases he : r.isExpired now with
  | true =>
    have h := abandon_keeps pass report r w
    refine ⟨[], by simp [he], ?_, ?_⟩
    · exact (congrArg Prod.fst h).trans (List.append_nil _).symm
    · exact (congrArg Prod.snd h).trans (List.append_nil _).symm
  | false =>
    obtain ⟨result, v, hv⟩ : ∃ result v, tryDispatch d r now w = (.ok result, v) :=
      ⟨_, _, Prod.ext (tryDispatch_fst d r now w) rfl⟩
    let x : Dispatch := ⟨pass, r, now, result⟩
    have htried := tryDispatch_trace d r now w
    rw [hv] at htried
    -- writing the result adds nothing to the trace
    have h := conclude_keeps pass d whenDone now { report with dispatched := report.dispatched + 1 }
      r result (Run.dispatched x v).2
    have hrun : attempt pass d whenDone now report r w =
        conclude pass d whenDone now { report with dispatched := report.dispatched + 1 } r result
          (Run.dispatched x v).2 := by
      rw [attempt]
      rw [Run.bind_ok hv]
      rfl
    have hbefore : v.dispatches = w.dispatches := congrArg Prod.fst htried
    refine ⟨[x], by simp [x, he], ?_, ?_⟩
    · rw [if_neg Bool.false_ne_true, hrun, ← hbefore]
      exact congrArg Prod.fst h
    · rw [if_neg Bool.false_ne_true, hrun]
      exact (congrArg Prod.snd h).trans (congrArg Prod.snd htried)

/-- **A pass over some records**, whatever its handlers do: it dispatches those that are not
expired, each once and in order; if it crashes, it has dispatched the first of them. Handlers are
called for what is dispatched. -/
theorem foldlM_treat_trace (rs : List WorkRecord) (report : Report) (w : World σ) :
    ∃ xs : List Dispatch, xs.map (·.record) <+: rs.filter (fun r => !r.isExpired now) ∧
      (∀ report', (rs.foldlM (treat pass d whenDone now) report w).1 = .ok report' →
        xs.map (·.record) = rs.filter fun r => !r.isExpired now) ∧
      (rs.foldlM (treat pass d whenDone now) report w).2.dispatches = w.dispatches ++ xs ∧
      (rs.foldlM (treat pass d whenDone now) report w).2.called =
        w.called ++ d.handed (xs.map (·.record)) := by
  induction rs generalizing report w with
  | nil =>
    exact ⟨[], List.nil_prefix, fun _ _ => rfl, (List.append_nil _).symm, (List.append_nil _).symm⟩
  | cons r rs ih =>
    obtain ⟨ys, hys, hdispatches, hcalled⟩ := treat_trace pass d whenDone now report r w
    -- the first record is dispatched unless it is expired, and then the others are looked at
    have hcut : (r :: rs).filter (fun r => !r.isExpired now) =
        ys.map (·.record) ++ rs.filter (fun r => !r.isExpired now) := by
      rw [hys, ← List.filter_append, List.singleton_append]
    rcases h : treat pass d whenDone now report r w with ⟨c | report₁, u⟩ <;>
      rw [h] at hdispatches hcalled
    · -- a crash leaves out the others, so the dispatches are only the first of them
      rw [List.foldlM_cons, Run.bind_crash h]
      refine ⟨ys, ?_, fun _ hok => ?_, hdispatches, hcalled⟩
      · rw [hcut]
        exact List.prefix_append _ _
      · cases hok
    · rw [List.foldlM_cons, Run.bind_ok h]
      obtain ⟨xs, hfirst, hall, hxs, hxs'⟩ := ih report₁ u
      refine ⟨ys ++ xs, ?_, fun report' hok => ?_, ?_, ?_⟩
      · rw [hcut, List.map_append]
        exact (List.prefix_append_right_inj _).2 hfirst
      · rw [hcut, List.map_append, hall report' hok]
      · rw [hxs, hdispatches, List.append_assoc]
      · rw [hxs', hcalled, List.map_append, Dispatcher.handed_append, List.append_assoc]

end Pass

namespace Aggregate

/-- To fetch the records of the entities is to ask the store for each. -/
theorem fetch_keeps [RecordStore σ] (report : Report) (es : List EntityId) :
    Keeps World.passTrace (fetch report es : Run σ _) := by
  induction es generalizing report with
  | nil => exact .pure _
  | cons e es ih =>
    refine (Keeps.step _).bind fun result => ?_
    cases result with
    | ok rs => exact (ih report).bind fun _ => .pure _
    | error err => exact (Keeps.log _).bind fun _ => ih _

/-- Nothing is dispatched while the batch is collected. -/
theorem collect_keeps [RecordStore σ] (holdBack : Span) (now : Instant) :
    Keeps World.passTrace (collect holdBack now : Run σ _) := by
  have hselect : Keeps World.passTrace (select holdBack now : Run σ _) := by
    rw [select]
    split
    · exact (Keeps.log _).bind fun _ => .pure _
    · refine (Keeps.step _).bind fun result => ?_
      cases result with
      | ok => exact .pure _
      | error => exact (Keeps.log _).bind fun _ => .pure _
  refine hselect.bind fun result => ?_
  cases result with
  | ok es => exact (fetch_keeps _ es).bind fun _ => .pure _
  | error => exact .pure _

/-- A duplicate is removed without a call. -/
theorem discard_keeps [RecordStore σ] (report : Report) (r : WorkRecord) :
    Keeps World.passTrace (discard report r : Run σ Report) := by
  refine (Keeps.log _).bind fun _ => (Keeps.step _).bind fun result => ?_
  cases result with
  | ok => exact .pure _
  | error e => exact Pass.settle_keeps _ _ _

/-- What follows the treatment of the survivors leaves no traces of passes. -/
theorem carryOut_trace [RecordStore σ] (d : Dispatcher) (now : Instant) (report : Report)
    (plan : Plan) (w : World σ) :
    (carryOut d now report plan w).2.passTrace =
      (plan.dispatch.foldlM (Pass.treat name d .keep now) { report with
        selected := plan.dispatch.length + plan.duplicates.length } w).2.passTrace := by
  refine Keeps.after (fun report => ?_) _ w
  refine (Keeps.foldlM discard_keeps plan.duplicates report).bind fun report => ?_
  exact (Keeps.log _).bind fun _ => .pure report

end Aggregate

/-- What follows the treatment of the selected records leaves no traces of passes. -/
theorem Retry.carryOut_trace [RecordStore σ] (d : Dispatcher) (tier : RetryTier)
    (now : Instant) (rs : List WorkRecord) (w : World σ) :
    (carryOut d tier now rs w).2.passTrace =
      ((rs.mergeSort WorkRecord.dispatchesBefore).foldlM (Pass.treat tier.name d .remove now)
        { Report.empty with selected := (rs.mergeSort WorkRecord.dispatchesBefore).length }
        w).2.passTrace :=
  Keeps.after (fun report => (Keeps.log _).bind fun _ => .pure report) _ w

/-! ## Calls of handlers -/

/-- From one world to the next some records were dispatched, and those of them that have a handler
were handed to it, each once and in this order. Nothing else was handed to a handler. -/
def World.HandsOver (d : Dispatcher) (w v : World σ) : Prop :=
  ∃ xs, v.dispatches = w.dispatches ++ xs ∧ v.called = w.called ++ d.handed (xs.map (·.record))

/-- Where no traces of passes are left, nothing is handed over. -/
theorem World.HandsOver.of_kept {d : Dispatcher} {w v : World σ} (h : v.passTrace = w.passTrace) :
    w.HandsOver d v :=
  ⟨[], (congrArg Prod.fst h).trans (List.append_nil _).symm,
    (congrArg Prod.snd h).trans (List.append_nil _).symm⟩

/-- What is handed over can be told from the traces of passes alone. -/
theorem World.HandsOver.congr {d : Dispatcher} {u v w x : World σ} (h : u.HandsOver d v)
    (hu : u.passTrace = w.passTrace) (hv : x.passTrace = v.passTrace) : w.HandsOver d x := by
  obtain ⟨xs, hdispatches, hcalled⟩ := h
  refine ⟨xs, (congrArg Prod.fst hv).trans (hdispatches.trans ?_),
    (congrArg Prod.snd hv).trans (hcalled.trans ?_)⟩
  · exact congrArg (·.1 ++ xs) hu
  · exact congrArg (·.2 ++ d.handed (xs.map (·.record))) hu

/-- Records treated one after another are handed over, but for the expired ones. -/
theorem Pass.foldlM_treat_handsOver [RecordStore σ] (pass : String) (d : Dispatcher)
    (whenDone : WhenDone) (now : Instant) (rs : List WorkRecord) (report : Report)
    (w : World σ) : w.HandsOver d (rs.foldlM (treat pass d whenDone now) report w).2 := by
  obtain ⟨xs, -, -, hdispatches, hcalled⟩ := foldlM_treat_trace pass d whenDone now rs report w
  exact ⟨xs, hdispatches, hcalled⟩

/-- **A pass of the aggregation hands over** what it dispatches, over any backend, whatever handlers
do, and also if it crashes. -/
theorem Aggregate.run_handsOver [RecordStore σ] (d : Dispatcher) (holdBack : Span) (now : Instant)
    (w : World σ) : w.HandsOver d (run d holdBack now w).2 := by
  have hkept := collect_keeps holdBack now w
  rw [run]
  rcases hu : collect holdBack now w with ⟨c | e | ⟨report, batch⟩, u⟩ <;> rw [hu] at hkept
  · rw [Run.bind_crash hu]
    exact .of_kept hkept
  · rw [Run.bind_ok hu]
    exact .of_kept hkept
  · rw [Run.bind_ok hu]
    cases batch with
    | nil => exact .of_kept hkept
    | cons r rs =>
      have hrun := Run.bind_pure_snd (Except.ok : Report → Except StoreError Report)
        (carryOut d now report (Plan.ofList (r :: rs))) u
      exact (Pass.foldlM_treat_handsOver name d .keep now _ _ u).congr hkept
        ((congrArg World.passTrace hrun).trans (carryOut_trace d now report _ u))

/-- **A pass of a retry tier hands over** what it dispatches. -/
theorem Retry.run_handsOver [RecordStore σ] (d : Dispatcher) (tier : RetryTier) (now : Instant)
    (w : World σ) : w.HandsOver d (run d tier now w).2 := by
  have hselect : Keeps World.passTrace (select tier : Run σ _) := by
    refine (Keeps.step _).bind fun result => ?_
    cases result with
    | ok => exact .pure _
    | error => exact (Keeps.log _).bind fun _ => .pure _
  have hkept := hselect w
  rw [run]
  rcases hu : select tier w with ⟨c | e | rs, u⟩ <;> rw [hu] at hkept
  · rw [Run.bind_crash hu]
    exact .of_kept hkept
  · rw [Run.bind_ok hu]
    exact .of_kept hkept
  · rw [Run.bind_ok hu]
    cases rs with
    | nil => exact .of_kept hkept
    | cons r rs =>
      have hrun := Run.bind_pure_snd (Except.ok : Report → Except StoreError Report)
        (carryOut d tier now (r :: rs)) u
      exact (Pass.foldlM_treat_handsOver tier.name d .remove now _ _ u).congr hkept
        ((congrArg World.passTrace hrun).trans (carryOut_trace d tier now (r :: rs) u))

end Reconciliation
