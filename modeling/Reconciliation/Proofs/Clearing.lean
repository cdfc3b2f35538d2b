import Reconciliation.Pass.Basic
import Reconciliation.Proofs.Course
import Reconciliation.Proofs.Retrying

/-!
# What a pass does away with

Take a property of records that no attempt leaves a record with and that no handler inserts
a record with. Handlers may do all else to the store, and the sink may crash: the records
with the property can only become fewer. And under the identifiers of the records that a
pass has treated there are none left.

* `Store.Clears`: from one store to the next the records with a property have become fewer,
  and are gone from some identifiers.
* `Run.Clears`: a run that does so, and may crash only if something holds. Such runs compose.
* `Pass.treat_clears`: so does the treatment of a record.
* `Aggregate.run_clears`, `Retry.run_clears`, `Purge.run_clears`: and so do the passes.
-/

namespace Reconciliation

variable {p : WorkRecord → Prop} {ids : List RecordId}

namespace Store

variable {s t u : Store}

/-- The second store has no records with a property but such as the first one has, and none of them
under some identifiers. -/
def Clears (p : WorkRecord → Prop) (ids : List RecordId) (s t : Store) : Prop :=
  ∀ x ∈ t.records, p x → x ∈ s.records ∧ x.id ∉ ids

/-- A store that stays as it is clears nothing. -/
theorem Clears.refl (s : Store) : s.Clears p [] s := fun _ hx _ => ⟨hx, List.not_mem_nil⟩

/-- What is cleared by one change stays so in the next, as no change brings such records up. -/
theorem Clears.trans {ids' : List RecordId} (h : s.Clears p ids t) (k : t.Clears p ids' u) :
    s.Clears p (ids ++ ids') u := by
  intro x hx hp
  obtain ⟨hxt, hxids'⟩ := k x hx hp
  obtain ⟨hxs, hxids⟩ := h x hxt hp
  refine ⟨hxs, ?_⟩
  simp [hxids, hxids']

/-- Where more is cleared, less is. -/
theorem Clears.nil (h : s.Clears p ids t) : s.Clears p [] t :=
  fun x hx hp => ⟨(h x hx hp).1, List.not_mem_nil⟩

/-- Leaving records out brings none up. -/
theorem clears_filter (s : Store) (keep : WorkRecord → Bool) : s.Clears p [] (s.filter keep) := by
  intro x hx _
  exact ⟨List.mem_of_mem_filter hx, List.not_mem_nil⟩

/-- What is left under an identifier does not have the property. -/
theorem clears_leave (s : Store) {id : RecordId} {o : Option WorkRecord}
    (ho : ∀ x ∈ o, x.id = id) (hp : ∀ x ∈ o, ¬ p x) : s.Clears p [id] (s.leave id o) := by
  intro x hx hpx
  rcases mem_leave ho hx with ⟨hxs, hid⟩ | hxo
  · exact ⟨hxs, by simpa using hid⟩
  · exact absurd hpx (hp x hxo)

/-- A change of a handler brings none up if it inserts no record with the property. -/
theorem clears_edit (s : Store) {e : Edit} (he : ∀ x, e = .insert x → ¬ p x) :
    s.Clears p [] (s.edit e).2 := by
  cases e with
  | delete id => exact clears_filter s _
  | insert r =>
    change s.Clears p [] (s.attempted (s.insert r)).2
    rw [insert]
    split
    · exact .refl s
    · intro x hx hpx
      rcases List.mem_append.1 hx with hx | hx
      · exact ⟨hx, List.not_mem_nil⟩
      · rw [List.mem_singleton.1 hx] at hpx
        exact absurd hpx (he r rfl)

end Store

/-! ## Runs -/

namespace Run

variable {α β : Type} {crashes : Prop}

/-- A run after which the records with a property have become fewer, and are gone from some
identifiers if it ends. It may crash only if something holds. -/
def Clears (crashes : Prop) (p : WorkRecord → Prop) (ids : List RecordId) (x : Run Store α) :
    Prop :=
  ∀ w : World Store, (∃ a v, x w = (.ok a, v) ∧ w.backend.Clears p ids v.backend) ∨
    (crashes ∧ ∃ c v, x w = (.error c, v) ∧ w.backend.Clears p [] v.backend)

namespace Clears

theorem pure (a : α) : Clears crashes p [] (pure a : Run Store α) :=
  fun w => .inl ⟨a, w, rfl, .refl _⟩

theorem crash (h : crashes) (c : Crash) : Clears crashes p ids (Run.crash c : Run Store α) :=
  fun w => .inr ⟨h, c, w, rfl, .refl _⟩

theorem world : Clears crashes p [] (Run.world : Run Store (World Store)) :=
  fun w => .inl ⟨w, w, rfl, .refl _⟩

theorem log (e : Log.Event) : Clears crashes p [] (Run.log e : Run Store Unit) :=
  fun _ => .inl ⟨(), _, rfl, .refl _⟩

theorem call (c : Call) : Clears crashes p [] (Run.call c : Run Store Unit) :=
  fun _ => .inl ⟨(), _, rfl, .refl _⟩

theorem dispatched (x : Dispatch) : Clears crashes p [] (Run.dispatched x : Run Store Unit) :=
  fun _ => .inl ⟨(), _, rfl, .refl _⟩

/-- A step of the store clears what it clears of every store. -/
theorem step {f : Store → α × Store} (hf : ∀ s : Store, s.Clears p ids (f s).2) :
    Clears crashes p ids (Run.step f) :=
  fun w => .inl ⟨_, _, rfl, hf w.backend⟩

/-- What leaves the records alone clears nothing, and may crash. -/
theorem of_harmless {x : Run Store α} (hx : x.Harmless) : Clears True p [] x := by
  intro w
  have hw := hx w
  rcases h : x w with ⟨c | a, v⟩ <;> rw [h] at hw
  · exact .inr ⟨trivial, c, v, rfl, hw.backend ▸ .refl _⟩
  · exact .inl ⟨a, v, rfl, hw.backend ▸ .refl _⟩

/-- One after the other two runs clear what either of them clears, if the first one ends. -/
theorem bind {ids' : List RecordId} {x : Run Store α} {f : α → Run Store β}
    (hx : Clears crashes p ids x) (hf : ∀ a, Clears crashes p ids' (f a)) :
    Clears crashes p (ids ++ ids') (x >>= f) := by
  intro w
  rcases hx w with ⟨a, u, hu, hclears⟩ | ⟨h, c, u, hu, hclears⟩
  · rw [bind_ok hu]
    rcases hf a u with ⟨b, v, hv, hclears'⟩ | ⟨h, c, v, hv, hclears'⟩
    · exact .inl ⟨b, v, hv, hclears.trans hclears'⟩
    · -- what the first part has cleared need not be told of a run that has crashed
      exact .inr ⟨h, c, v, hv, hclears.nil.trans hclears'⟩
  · rw [bind_crash hu]
    exact .inr ⟨h, c, u, rfl, hclears⟩

/-- A crash that is caught is none. What a run that may crash has cleared is forgotten here. -/
theorem caught {x : Run Store α} (hx : Clears True p [] x) : Clears crashes p [] x.caught := by
  intro w
  rw [Run.caught]
  rcases hx w with ⟨a, v, hv, hclears⟩ | ⟨-, c, v, hv, hclears⟩
  · exact .inl ⟨.ok a, v, by rw [hv], hclears⟩
  · exact .inl ⟨.error c, v, by rw [hv], hclears⟩

/-- Records treated one after another. -/
theorem foldlM {f : β → WorkRecord → Run Store β} {rs : List WorkRecord}
    (hf : ∀ r ∈ rs, ∀ b, Clears crashes p [r.id] (f b r)) (b : β) :
    Clears crashes p (rs.map (·.id)) (rs.foldlM f b) := by
  induction rs generalizing b with
  | nil => exact .pure b
  | cons r rs ih =>
    rw [List.foldlM_cons]
    refine (hf r List.mem_cons_self b).bind fun b => ?_
    exact ih (fun x hx => hf x (List.mem_cons_of_mem r hx)) b

/-- However a run ends, nothing with the property has come up. -/
theorem backend {x : Run Store α} (hx : Clears crashes p ids x) (w : World Store) :
    w.backend.Clears p [] (x w).2.backend := by
  rcases hx w with ⟨a, v, hv, hclears⟩ | ⟨-, c, v, hv, hclears⟩
  · rw [hv]
    exact hclears.nil
  · rw [hv]
    exact hclears

end Clears

end Run

open Run (Clears)

/-! ## Dispatches -/

namespace Dispatcher

/-- No handler inserts a record with a property. It may still delete such records. -/
def NeverInserts (d : Dispatcher) (p : WorkRecord → Prop) : Prop :=
  ∀ t h, d.handler? t = some h → ∀ history r x, .insert x ∈ (h history r).edits → ¬ p x

/-- Handlers that only answer insert nothing. -/
theorem OnlyAnswers.neverInserts {d : Dispatcher} (hd : d.OnlyAnswers) (p : WorkRecord → Prop) :
    d.NeverInserts p := by
  intro t h ht history r x hx
  rw [hd t h ht history r] at hx
  cases hx

/-- The changes of a handler, up to the first that the store refuses. -/
theorem makeEdits_clears {es : List Edit} (hes : ∀ x, .insert x ∈ es → ¬ p x) (made : Nat) :
    Clears True p [] (makeEdits made es : Run Store _) := by
  induction es generalizing made with
  | nil => exact .pure _
  | cons e es ih =>
    have he : ∀ x, e = .insert x → ¬ p x := fun x hx => hes x (by simp [hx])
    refine Clears.bind (.step fun s => s.clears_edit he) fun result => ?_
    cases result with
    | ok => exact ih (fun x hx => hes x (List.mem_cons_of_mem e hx)) (made + 1)
    | error => exact .pure _

/-- A handler may crash, but not before its changes are made. -/
theorem callHandler_clears {h : Handler}
    (hh : ∀ history r x, .insert x ∈ (h history r).edits → ¬ p x) (r : WorkRecord) :
    Clears True p [] (callHandler h r : Run Store _) := by
  refine Clears.world.bind fun w => (makeEdits_clears (hh _ r) 0).bind fun made => ?_
  refine (Clears.call _).bind fun _ => ?_
  rcases made with ⟨n, e | _⟩
  · exact .pure _
  · dsimp only
    split
    · exact .pure _
    · exact .pure _
    · exact .crash trivial _

/-- **A dispatch** brings no record with the property up. -/
theorem NeverInserts.dispatch {d : Dispatcher} (hd : d.NeverInserts p) (r : WorkRecord)
    (now : Instant) : Clears True p [] (d.dispatch r now : Run Store _) := by
  have houtcome : Clears True p [] (d.outcome r : Run Store _) := by
    rw [outcome]
    split
    · rename_i h hh
      exact callHandler_clears (hd _ h hh) r
    · exact (Clears.log _).bind fun _ => .pure _
  refine houtcome.bind fun result => ?_
  rcases result with message | status | until?
  · exact .pure _
  · exact (Clears.of_harmless (noteSuccess_harmless d r now)).bind fun _ => .pure _
  · exact (Clears.of_harmless (noteFailure_harmless d r now)).bind fun _ => .pure _

end Dispatcher

/-! ## Passes -/

variable {d : Dispatcher}

namespace Pass

variable {pass : String} {whenDone : WhenDone} {now : Instant} {r : WorkRecord}

/-- An attempt leaves a record done, or counted once more. -/
theorem left_counts {x : WorkRecord} {result : Except String Outcome}
    (hx : x ∈ left whenDone now r result) :
    x.processed.isSome ∧ x.retryCount = r.retryCount ∨
      x.retryCount = WorkRecord.nextCount r.retryCount := by
  rcases result with message | status | until?
  · rw [left_error] at hx
    cases hx
    exact .inr rfl
  · cases whenDone with
    | keep =>
      cases hx
      exact .inl ⟨rfl, rfl⟩
    | remove => cases hx
  · rw [left_retry] at hx
    cases hx
    exact .inr rfl

/-- An attempt leaves no record with the property. -/
def NeverLeaves (whenDone : WhenDone) (now : Instant) (p : WorkRecord → Prop) (r : WorkRecord) :
    Prop :=
  ∀ result, ∀ x ∈ left whenDone now r result, ¬ p x

/-- Writing a result back clears the identifier if no attempt leaves such a record. Only the count
of a failure can crash, and it comes before the write. -/
theorem conclude_clears (hr : r.processed = none) (hleft : NeverLeaves whenDone now p r)
    (report : Report) (result : Except String Outcome) :
    Clears (d.sinkCrashes Dispatcher.failureMetric = true) p [r.id]
      (conclude pass d whenDone now report r result) := by
  intro w
  rcases conclude_cases (d := d) pass whenDone now hr report result w with
    ⟨report', v, hv, hleads⟩ | ⟨hsink, crash, v, hv, halike⟩
  · refine .inl ⟨report', v, hv, ?_⟩
    rw [hleads.backend]
    exact w.backend.clears_leave (fun x hx => (left_sameWork hx).id) (hleft result)
  · refine .inr ⟨hsink, crash, v, hv, ?_⟩
    rw [halike.backend]
    exact .refl _

/-- An expired record is gone. -/
theorem abandon_clears {crashes : Prop} (pass : String) (report : Report) (r : WorkRecord) :
    Clears crashes p [r.id] (abandon pass report r) := by
  intro w
  obtain ⟨report', v, hv, hleads⟩ := abandon_ok pass report r w
  refine .inl ⟨report', v, hv, ?_⟩
  rw [hleads.backend]
  exact w.backend.clears_leave (by simp) (by simp)

/-- **A treated record** is gone, or what is left of it does not have the property; and it is
treated to the end unless the sink crashes on the count of a failure. Of an expired record there
is no attempt that might leave something. -/
theorem treat_clears (hd : d.NeverInserts p) (hr : r.processed = none)
    (hleft : r.isExpired now = false → NeverLeaves whenDone now p r) (report : Report) :
    Clears (d.sinkCrashes Dispatcher.failureMetric = true) p [r.id]
      (treat pass d whenDone now report r) := by
  rw [treat]
  cases he : r.isExpired now with
  | true => exact abandon_clears pass report r
  | false =>
    have htry : Clears (d.sinkCrashes Dispatcher.failureMetric = true) p []
        (tryDispatch d r now : Run Store _) := by
      -- a crash of the handler is caught, so only the count after it can end the pass
      refine (hd.dispatch r now).caught.bind fun result => ?_
      cases result with
      | ok => exact .pure _
      | error => exact .pure _
    refine htry.bind fun result => (Clears.dispatched _).bind fun _ => ?_
    exact conclude_clears hr (hleft he) _ result

end Pass

namespace Aggregate

variable {now : Instant}

/-- So is a stale duplicate. -/
theorem discard_clears {crashes : Prop} (report : Report) (r : WorkRecord) :
    Clears crashes p [r.id] (discard report r) := by
  intro w
  obtain ⟨report', v, hv, hleads⟩ := discard_ok report r w
  refine .inl ⟨report', v, hv, ?_⟩
  rw [hleads.backend]
  exact w.backend.clears_leave (by simp) (by simp)

/-- **A plan that is carried out** clears the identifiers of its survivors and its duplicates. -/
theorem carryOut_clears (hd : d.NeverInserts p) {plan : Plan}
    (hp : ∀ r ∈ plan.dispatch, r.processed = none)
    (hleft : ∀ r ∈ plan.dispatch, r.isExpired now = false → Pass.NeverLeaves .keep now p r)
    (report : Report) :
    Clears (d.sinkCrashes Dispatcher.failureMetric = true) p
      (plan.dispatch.map (·.id) ++ (plan.duplicates.map (·.id) ++ []))
      (carryOut d now report plan) := by
  refine Clears.bind (.foldlM (fun r hr => Pass.treat_clears hd (hp r hr) (hleft r hr)) _) ?_
  intro report
  refine Clears.bind (.foldlM (fun r _ report => discard_clears report r) _) fun report => ?_
  exact (Clears.log _).bind fun _ => .pure report

/-- **A pass of the aggregation** leaves no record with the property that is unprocessed and of a
touched entity, whatever else its handlers do to the store; and it runs to its end unless the
sink crashes on the count of a failure. -/
theorem run_clears (hd : d.NeverInserts p) (holdBack : Span) (now : Instant) (w : World Store)
    (hleft : ∀ r ∈ w.backend.records, r.processed = none → Pass.NeverLeaves .keep now p r) :
    (∃ report v, run d holdBack now w = (.ok (.ok report), v) ∧
      ∀ x ∈ v.backend.records, p x → x ∈ w.backend.records ∧
        ¬ (x.processed = none ∧ Touched w.backend (cutoff holdBack now) x.entity)) ∨
    (d.sinkCrashes Dispatcher.failureMetric = true ∧ ∃ c v,
      run d holdBack now w = (.error c, v) ∧ w.backend.Clears p [] v.backend) := by
  obtain ⟨report, batch, u, hu, halike, hn, hb⟩ := collect_ok holdBack now w
  rw [run]
  rw [Run.bind_ok hu]
  cases batch with
  | nil =>
    refine .inl ⟨report, u, rfl, fun x hx _ => ?_⟩
    rw [halike.backend] at hx
    refine ⟨hx, ?_⟩
    rintro ⟨hxp, htouched⟩
    exact List.not_mem_nil ((hb x).2 ⟨hx, hxp, htouched⟩)
  | cons b batch =>
    have hplan := Plan.thins_ofList hn
    have hmem : ∀ r ∈ (Plan.ofList (b :: batch)).dispatch,
        r ∈ w.backend.records ∧ r.processed = none := by
      intro r hr
      obtain ⟨hrs, hrp, -⟩ := (hb r).1 (hplan.perm.subset (List.mem_append_left _ hr))
      exact ⟨hrs, hrp⟩
    have hclears := carryOut_clears hd (fun r hr => (hmem r hr).2)
      (fun r hr _ => hleft r (hmem r hr).1 (hmem r hr).2) report u
    rw [halike.backend] at hclears
    rcases hclears with ⟨report', v, hv, hclears⟩ | ⟨hsink, c, v, hv, hclears⟩
    · refine .inl ⟨report', v, Run.bind_ok hv _, fun x hx hpx => ?_⟩
      obtain ⟨hxs, hxids⟩ := hclears x hx hpx
      refine ⟨hxs, ?_⟩
      rintro ⟨hxp, htouched⟩
      apply hxids
      -- every record of the batch is dispatched or discarded
      have hx := hplan.perm.symm.subset ((hb x).2 ⟨hxs, hxp, htouched⟩)
      rw [List.append_nil, ← List.map_append]
      exact List.mem_map_of_mem hx
    · exact .inr ⟨hsink, c, v, Run.bind_crash hv _, hclears⟩

end Aggregate

namespace Retry

variable {now : Instant}

/-- **The records of a tier**, once they are treated, have their identifiers cleared. -/
theorem carryOut_clears (hd : d.NeverInserts p) (tier : RetryTier) {rs : List WorkRecord}
    (hp : ∀ r ∈ rs, r.processed = none) (hleft : ∀ r ∈ rs, Pass.NeverLeaves .remove now p r) :
    Clears (d.sinkCrashes Dispatcher.failureMetric = true) p
      ((rs.mergeSort WorkRecord.dispatchesBefore).map (·.id) ++ []) (carryOut d tier now rs) := by
  have hrs : ∀ r ∈ rs.mergeSort WorkRecord.dispatchesBefore, r ∈ rs :=
    fun r hr => List.mem_mergeSort.1 hr
  refine Clears.bind (.foldlM (fun r hr => ?_) _) fun report => (Clears.log _).bind fun _ =>
    .pure report
  exact Pass.treat_clears hd (hp r (hrs r hr)) fun _ => hleft r (hrs r hr)

/-- **A pass of a retry tier** lets no record with the property come up. -/
theorem run_clears (hd : d.NeverInserts p) {tier : RetryTier} (now : Instant) (w : World Store)
    (hleft : ∀ r ∈ w.backend.records, Waits tier r → Pass.NeverLeaves .remove now p r) :
    w.backend.Clears p [] (run d tier now w).2.backend := by
  have hwaits : ∀ r ∈ w.backend.unprocessedIn tier.band, r ∈ w.backend.records ∧ Waits tier r :=
    fun r hr => mem_selected.1 (List.mem_mergeSort.2 hr)
  rw [run]
  rw [Run.bind_ok (select_apply tier w)]
  cases hrs : w.backend.unprocessedIn tier.band with
  | nil => exact .refl _
  | cons r rs =>
    rw [hrs] at hwaits
    have hcarry := carryOut_clears hd tier (fun r hr => (hwaits r hr).2.1)
      (fun r hr => hleft r (hwaits r hr).1 (hwaits r hr).2)
    have hrun := hcarry.bind fun report => .pure (Except.ok report : Except StoreError Report)
    exact hrun.backend w

end Retry

/-- **A purge** lets no record come up. -/
theorem Purge.run_clears (now : Instant) (w : World Store) :
    w.backend.Clears p [] (run now w).2.backend := by
  have hpurge : Clears True p [] (Records.deleteExpired now : Run Store _) :=
    .step fun s => s.clears_filter _
  have hrun : Clears True p [] (run now : Run Store _) := by
    refine hpurge.bind fun result => ?_
    rcases result with e | _ | n
    · exact .pure _
    · exact .pure _
    · exact (Clears.log _).bind fun _ => .pure _
  exact hrun.backend w

end Reconciliation
