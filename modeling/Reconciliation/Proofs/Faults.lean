import Reconciliation.Proofs.Attempt
import Reconciliation.Proofs.Backends

/-!
# Passes over a store that fails

Which calls of a pass fail is up to the faults of the store. A backend that is `Watched` does
what it does otherwise (`Watched.inner_mirrors`), and keeps a list of the calls that have failed.

A call that fails changes no record, and a pass writes at most once about each of its
records. So at the end some of the writes are done and the others are lost, and the store
is that of the writes that are done, whatever became of the others.

Main statement: `Pass.foldlM_settles`. Steps that each write about one record do together what
each of them does alone (`World.Settled`), and the report counts one store error for every call
that failed.
-/

namespace Reconciliation

/-- A backend with a list of the calls that have failed, oldest first. The list is there for the
statements; no call of the backend can see it. -/
structure Watched (σ : Type) where
  inner : σ
  failed : List StoreCall

namespace Watched

variable {σ α : Type}

/-- A call of the backend, noted if it fails. -/
def watch (c : StoreCall) (f : σ → Except StoreError α × σ) (s : Watched σ) :
    Except StoreError α × Watched σ :=
  match f s.inner with
  | (.ok a, inner) => (.ok a, ⟨inner, s.failed⟩)
  | (.error e, inner) => (.error e, ⟨inner, s.failed ++ [c]⟩)

instance [RecordStore σ] : RecordStore (Watched σ) where
  insert r := watch (.insert r) (RecordStore.insert r)
  update r := watch (.update r) (RecordStore.update r)
  delete r := watch (.delete r) (RecordStore.delete r)
  get id := watch (.get id) (RecordStore.get id)
  unprocessedOf e := watch (.unprocessedOf e) (RecordStore.unprocessedOf e)
  ofTypeAndCount t n := watch (.ofTypeAndCount t n) (RecordStore.ofTypeAndCount t n)
  unprocessedIn b := watch (.unprocessedIn b) (RecordStore.unprocessedIn b)
  untriedBefore t := watch (.untriedBefore t) (RecordStore.untriedBefore t)
  deleteExpired t := watch (.deleteExpired t) (RecordStore.deleteExpired t)
  edit e s := let (a, inner) := RecordStore.edit e s.inner; (a, { s with inner })

/-- Watching a call does not change it. -/
theorem watch_inner (c : StoreCall) (f : σ → Except StoreError α × σ) (s : Watched σ) :
    f s.inner = ((watch c f s).1, (watch c f s).2.inner) := by
  rw [watch]
  rcases f s.inner with ⟨_ | _, inner⟩ <;> rfl

/-- Behind the list there is the backend itself. -/
theorem inner_mirrors [RecordStore σ] : RecordStore.Mirrors (inner : Watched σ → σ) where
  insert _ := watch_inner _ _
  update _ := watch_inner _ _
  delete _ := watch_inner _ _
  get _ := watch_inner _ _
  unprocessedOf _ := watch_inner _ _
  ofTypeAndCount _ _ := watch_inner _ _
  unprocessedIn _ := watch_inner _ _
  untriedBefore _ := watch_inner _ _
  deleteExpired _ := watch_inner _ _
  edit _ _ := rfl

end Watched

/-- The records of a world whose store can fail. -/
def World.store (w : World (Watched FaultyStore)) : Store := w.backend.inner.store

/-- From one world to the next some dispatches were made, some calls failed, and these records were
left. -/
structure World.Endures (w : World (Watched FaultyStore)) (xs : List Dispatch)
    (cs : List StoreCall) (s : Store) (v : World (Watched FaultyStore)) : Prop where
  dispatches : v.dispatches = w.dispatches ++ xs
  failed : v.backend.failed = w.backend.failed ++ cs
  store : v.store = s
  stale : v.backend.inner.stale = w.backend.inner.stale

/-- One write, and the number of failures that it is: it is done, or it fails and changes no
record. -/
def World.Writes (w : World (Watched FaultyStore)) (xs : List Dispatch) (c : StoreCall) (s : Store)
    (failures : Nat) (v : World (Watched FaultyStore)) : Prop :=
  failures = 0 ∧ w.Endures xs [] s v ∨ failures = 1 ∧ w.Endures xs [c] w.store v

section Worlds

variable {u v w : World (Watched FaultyStore)} {xs ys : List Dispatch} {c : StoreCall}
  {cs ds : List StoreCall} {s t : Store} {n : Nat}

/-- Where nothing happens, nothing fails. -/
theorem World.Endures.refl (w : World (Watched FaultyStore)) : w.Endures [] [] w.store w :=
  ⟨(List.append_nil _).symm, (List.append_nil _).symm, rfl, rfl⟩

/-- Dispatches and failures follow one another in two parts of a run. -/
theorem World.Endures.trans (h : u.Endures xs cs s v) (k : v.Endures ys ds t w) :
    u.Endures (xs ++ ys) (cs ++ ds) t w :=
  ⟨by rw [k.dispatches, h.dispatches, List.append_assoc],
    by rw [k.failed, h.failed, List.append_assoc], k.store, k.stale.trans h.stale⟩

/-- What leaves the backend as it is makes no calls that fail. -/
theorem World.Alike.endures (h : u.Alike v) : u.Endures [] [] u.store v :=
  ⟨h.dispatches.trans (List.append_nil _).symm,
    (congrArg (·.failed) h.backend).trans (List.append_nil _).symm,
    congrArg (·.inner.store) h.backend, congrArg (·.inner.stale) h.backend⟩

/-- What happened before a write, if it was no failure and no change, counts with it. -/
theorem World.Endures.writes (h : u.Endures xs [] u.store v) (k : v.Writes ys c s n w) :
    u.Writes (xs ++ ys) c s n w := by
  rcases k with ⟨hn, k⟩ | ⟨hn, k⟩
  · exact .inl ⟨hn, h.trans k⟩
  · rw [h.store] at k
    exact .inr ⟨hn, h.trans k⟩

end Worlds

/-! ## Calls -/

namespace Fault

/-- Whether one of some faults hits a call. -/
def Strikes (fs : List Fault) (c : StoreCall) : Prop := ∃ f ∈ fs, f.hits c = true

/-- A call fails if a fault hits it, whichever comes first. -/
theorem isSome_strike_iff (c : StoreCall) (fs : List Fault) :
    (strike c fs).1.isSome = true ↔ Strikes fs c := by
  induction fs with
  | nil => simp [strike, Strikes]
  | cons f fs ih =>
    rw [strike]
    cases hf : f.hits c with
    | true => simp [Strikes, hf]
    | false =>
      simp only [Bool.false_eq_true, if_false, Strikes, List.exists_mem_cons_iff, hf, false_or]
      exact ih

end Fault

namespace Watched

variable {σ α : Type} {c : StoreCall} {f : σ → Except StoreError α × σ} {w : World (Watched σ)}

/-- A call that goes well is not noted. -/
theorem step_ok {a : α} {inner : σ} (h : f w.backend.inner = (.ok a, inner)) :
    Run.step (watch c f) w = (.ok (.ok a), { w with backend := ⟨inner, w.backend.failed⟩ }) := by
  simp only [Run.step, watch, h]

/-- A call that fails is noted. -/
theorem step_error {e : StoreError} {inner : σ} (h : f w.backend.inner = (.error e, inner)) :
    Run.step (watch c f) w =
      (.ok (.error e), { w with backend := ⟨inner, w.backend.failed ++ [c]⟩ }) := by
  simp only [Run.step, watch, h]

/-- **A call** fails if a fault hits it, which is noted and changes no record; otherwise it is a
step of the store. -/
theorem step_cases (c : StoreCall) {f : FaultyStore → Except StoreError α × FaultyStore}
    {g : Store → Except StoreError α × Store} {w : World (Watched FaultyStore)}
    (hf : f w.backend.inner = w.backend.inner.call c g) {a : α} (hg : (g w.store).1 = .ok a) :
    (Fault.Strikes w.backend.inner.faults c ∧ ∃ e v,
        Run.step (watch c f) w = (.ok (.error e), v) ∧ w.Endures [] [c] w.store v) ∨
      ¬ Fault.Strikes w.backend.inner.faults c ∧ ∃ v,
        Run.step (watch c f) w = (.ok (.ok a), v) ∧ w.Endures [] [] (g w.store).2 v := by
  have hnil := (List.append_nil w.dispatches).symm
  have hhit := Fault.isSome_strike_iff c w.backend.inner.faults
  rcases hstrike : Fault.strike c w.backend.inner.faults with ⟨_ | e, faults⟩ <;>
    rw [hstrike] at hhit
  · have hcall : f w.backend.inner = (.ok a, { w.backend.inner with store := (g w.store).2 }) := by
      rw [hf, FaultyStore.call, hstrike, ← hg]
      rfl
    exact .inr ⟨fun h => absurd (hhit.2 h) Bool.false_ne_true, _, step_ok hcall, hnil,
      (List.append_nil _).symm, rfl, rfl⟩
  · have hcall : f w.backend.inner = (.error e, { w.backend.inner with faults }) := by
      rw [hf, FaultyStore.call, hstrike]
    exact .inl ⟨hhit.1 rfl, e, _, step_error hcall, hnil, rfl, rfl, rfl⟩

end Watched

/-- The call that puts something, or nothing, in the place of a record. -/
def StoreCall.leaving (r : WorkRecord) : Option WorkRecord → StoreCall
  | some next => .update next
  | none => .delete r

/-- How many failures a result is. -/
def StoreError.count : Except StoreError Unit → Nat
  | .ok _ => 0
  | .error _ => 1

variable {w : World (Watched FaultyStore)} {r : WorkRecord}

/-- A record is deleted unless that fails. -/
theorem Records.delete_writes (r : WorkRecord) (w : World (Watched FaultyStore)) :
    ∃ result v, Records.delete r w = (.ok result, v) ∧
      w.Writes [] (.leaving r none) (w.store.leave r.id none) (StoreError.count result) v := by
  rcases Watched.step_cases (.delete r) (f := RecordStore.delete r) (g := RecordStore.delete r)
    (w := w) (a := ()) rfl rfl with ⟨-, e, v, h, hv⟩ | ⟨-, v, h, hv⟩
  · exact ⟨.error e, v, h, .inr ⟨rfl, hv⟩⟩
  · exact ⟨.ok (), v, h, .inl ⟨rfl, hv⟩⟩

/-- A stored record is replaced unless that fails. -/
theorem Records.update_writes (r next : WorkRecord) (hid : next.id = r.id)
    (hs : w.store.get? r.id = some r) :
    ∃ result v, Records.update next w = (.ok result, v) ∧
      w.Writes [] (.leaving r (some next)) (w.store.leave r.id (some next))
        (StoreError.count result) v := by
  have hcontains : w.store.contains next.id = true := by
    rw [hid, ← Store.isSome_get?, hs]
    rfl
  obtain ⟨t, ht⟩ := Store.exists_update hcontains
  have hok : ((RecordStore.update next w.store).1 : Except StoreError Unit) = .ok () := by
    change (w.store.attempted (w.store.update next)).1 = _
    rw [ht]
    rfl
  rcases Watched.step_cases (.update next) (f := RecordStore.update next)
    (g := RecordStore.update next) (w := w) rfl hok with ⟨-, e, v, h, hv⟩ | ⟨-, v, h, hv⟩
  · exact ⟨.error e, v, h, .inr ⟨rfl, hv⟩⟩
  · exact ⟨.ok (), v, h, .inl ⟨rfl, hv⟩⟩

/-! ## Writes about several records -/

/-- About each of some records there was one write. Some of the writes are done, and the store is
what they leave; the others are lost, and that is so many failures. -/
def World.Settled (w : World (Watched FaultyStore)) (left : WorkRecord → Option WorkRecord)
    (rs : List WorkRecord) (xs : List Dispatch) (failures : Nat)
    (v : World (Watched FaultyStore)) : Prop :=
  ∃ done lost, (done ++ lost).Perm rs ∧ failures = lost.length ∧
    w.Endures xs (lost.map fun r => .leaving r (left r)) (w.store.leaveAll left done) v

namespace World.Settled

variable {u v : World (Watched FaultyStore)} {left : WorkRecord → Option WorkRecord}
  {rs ss : List WorkRecord} {xs ys : List Dispatch} {m n : Nat}

/-- About no records there are no writes. -/
theorem nil (w : World (Watched FaultyStore)) : w.Settled left [] [] 0 w :=
  ⟨[], [], .refl _, rfl, .refl w⟩

/-- One write about one record. -/
theorem of_writes (h : w.Writes xs (.leaving r (left r)) (w.store.leave r.id (left r)) n v) :
    w.Settled left [r] xs n v := by
  rcases h with ⟨rfl, h⟩ | ⟨rfl, h⟩
  · exact ⟨[r], [], .refl _, rfl, h⟩
  · exact ⟨[], [r], .refl _, rfl, h⟩

/-- It does not matter in which order the records are listed. -/
theorem perm (h : w.Settled left rs xs n v) (hperm : rs.Perm ss) : w.Settled left ss xs n v := by
  obtain ⟨done, lost, hsplit, hn, h⟩ := h
  exact ⟨done, lost, hsplit.trans hperm, hn, h⟩

/-- Writes about two lists of records are writes about both. -/
theorem append (h : u.Settled left rs xs m v) (k : v.Settled left ss ys n w) :
    u.Settled left (rs ++ ss) (xs ++ ys) (m + n) w := by
  obtain ⟨done, lost, hperm, rfl, h⟩ := h
  obtain ⟨done', lost', hperm', rfl, k⟩ := k
  rw [h.store] at k
  refine ⟨done ++ done', lost ++ lost', ?_, List.length_append.symm, ?_⟩
  · have hcount := hperm.append hperm'
    rw [List.perm_iff_count] at hcount ⊢
    intro x
    have hx := hcount x
    simp only [List.count_append] at hx ⊢
    omega
  · rw [List.map_append, Store.leaveAll_append]
    exact h.trans k

/-- What follows may leave traces, if it changes no record. -/
theorem alike (h : u.Settled left rs xs n v) (k : v.Endures [] [] v.store w) :
    u.Settled left rs xs n w := by
  obtain ⟨done, lost, hperm, hn, h⟩ := h
  rw [h.store] at k
  have hall := h.trans k
  rw [List.append_nil, List.append_nil] at hall
  exact ⟨done, lost, hperm, hn, hall⟩

/-- Other records stay as they are. -/
theorem get?_eq (h : w.Settled left rs xs n v) (hl : ∀ r, ∀ x ∈ left r, x.id = r.id)
    {k : RecordId} (hk : k ∉ rs.map (·.id)) : v.store.get? k = w.store.get? k := by
  obtain ⟨done, lost, hperm, -, h⟩ := h
  have hdone : done.map (·.id) ⊆ rs.map (·.id) :=
    List.map_subset _ fun r hr => hperm.subset (List.mem_append_left _ hr)
  rw [h.store]
  exact Store.get?_leaveAll_of_notMem (fun r _ => hl r) _ fun hmem => hk (hdone hmem)

end World.Settled

namespace Pass

/-- A step of a pass that writes once about a record that is stored: it makes its dispatches, it
leaves something in place of the record unless the write fails, and it counts the failure. -/
def Settles (step : Report → WorkRecord → Run (Watched FaultyStore) Report)
    (left : WorkRecord → Option WorkRecord) (dispatches : WorkRecord → List Dispatch)
    (r : WorkRecord) : Prop :=
  ∀ report (w : World (Watched FaultyStore)), w.store.get? r.id = some r →
    ∃ n report' v, step report r w = (.ok report', v) ∧
      report'.storeErrors = report.storeErrors + n ∧
      w.Writes (dispatches r) (.leaving r (left r)) (w.store.leave r.id (left r)) n v

/-- **Some steps together** do what each of them does alone: the writes are done or lost one by
one. -/
theorem foldlM_settles {step : Report → WorkRecord → Run (Watched FaultyStore) Report}
    {left : WorkRecord → Option WorkRecord} {dispatches : WorkRecord → List Dispatch}
    {rs : List WorkRecord} (hl : ∀ r, ∀ x ∈ left r, x.id = r.id) (hn : (rs.map (·.id)).Nodup)
    (hsettles : ∀ r ∈ rs, Settles step left dispatches r) (report : Report)
    (w : World (Watched FaultyStore)) (hs : ∀ r ∈ rs, w.store.get? r.id = some r) :
    ∃ n report' v, rs.foldlM step report w = (.ok report', v) ∧
      report'.storeErrors = report.storeErrors + n ∧
      w.Settled left rs (rs.flatMap dispatches) n v := by
  induction rs generalizing report w with
  | nil => exact ⟨0, report, w, rfl, rfl, .nil w⟩
  | cons r rs ih =>
    rw [List.map_cons, List.nodup_cons] at hn
    obtain ⟨m, report₁, u, hu, hcount, hwrites⟩ :=
      hsettles r List.mem_cons_self report w (hs r List.mem_cons_self)
    have hone := World.Settled.of_writes hwrites
    -- the other records have other identifiers, so the write is not about them
    have hstored : ∀ x ∈ rs, u.store.get? x.id = some x := by
      intro x hx
      have hne : x.id ≠ r.id := fun h => hn.1 (h ▸ List.mem_map_of_mem hx)
      rw [hone.get?_eq hl fun hmem => hne (List.mem_singleton.1 hmem)]
      exact hs x (List.mem_cons_of_mem _ hx)
    obtain ⟨n, report₂, v, hv, hcount', hrest⟩ := ih hn.2
      (fun x hx => hsettles x (List.mem_cons_of_mem _ hx)) report₁ u hstored
    refine ⟨m + n, report₂, v, ?_, ?_, hone.append hrest⟩
    · rw [List.foldlM_cons, Run.bind_ok hu]
      exact hv
    · rw [hcount', hcount, Nat.add_assoc]

/-- After a write whose failure is only counted, the store is as the write left it. -/
theorem write_settle_counts {write : Run (Watched FaultyStore) (Except StoreError Unit)}
    {c : StoreCall} {s : Store}
    (hw : ∃ result v, write w = (.ok result, v) ∧ w.Writes [] c s (StoreError.count result) v)
    (report : Report) (event : StoreError → Log.Event) :
    ∃ n report' v, (write >>= fun result => settle report result event) w = (.ok report', v) ∧
      report'.storeErrors = report.storeErrors + n ∧ w.Writes [] c s n v := by
  obtain ⟨result, v, hv, hwrites⟩ := hw
  rw [Run.bind_ok hv]
  rcases hwrites with ⟨hn, h⟩ | ⟨hn, h⟩ <;> cases result
  · cases hn
  · exact ⟨0, report, v, rfl, rfl, .inl ⟨rfl, h⟩⟩
  · exact ⟨1, _, _, rfl, rfl, .inr ⟨rfl, h.dispatches, h.failed, h.store, h.stale⟩⟩
  · cases hn

variable {d : Dispatcher} {answer : WorkRecord → Answer} {now : Instant}

/-- **The result of an attempt** is written back unless that fails. -/
theorem conclude_counts (pass : String) (whenDone : WhenDone) (now : Instant)
    (hs : d.sinkCrashes Dispatcher.failureMetric = false) (hr : r.processed = none)
    (report : Report) (result : Except String Outcome) (hstored : w.store.get? r.id = some r) :
    ∃ n report' v, conclude pass d whenDone now report r result w = (.ok report', v) ∧
      report'.storeErrors = report.storeErrors + n ∧
      w.Writes [] (.leaving r (left whenDone now r result))
        (w.store.leave r.id (left whenDone now r result)) n v := by
  rcases result with message | status | until?
  -- a failure is also counted, by a sink that takes the count
  · have hlog := Run.Harmless.log (e := .handlerFailed pass r message) rfl w
    have hnote := hlog.trans (Dispatcher.noteFailure_harmless d r now _)
    have hok := Dispatcher.noteFailure_fst hs r now (Run.log (.handlerFailed pass r message) w).2
    rcases hu : (d.noteFailure r now : Run (Watched FaultyStore) Unit)
      (Run.log (.handlerFailed pass r message) w).2 with ⟨first, u⟩
    rw [hu] at hnote hok
    obtain rfl : first = .ok () := hok
    have hstore : u.store = w.store := hnote.endures.store
    obtain ⟨n, report', v, h, hcount, hwrites⟩ := write_settle_counts
      (Records.update_writes (w := u) r (r.recordFailure Status.error none now) rfl
        (hstore ▸ hstored))
      { report with errored := report.errored + 1 } (.resultLost pass _)
    rw [hstore] at hwrites
    rw [left_error]
    refine ⟨n, report', v, ?_, hcount, hnote.endures.writes hwrites⟩
    simp only [conclude, Run.log_bind]
    rw [Run.bind_ok hu]
    exact h
  · have hlog := Run.Harmless.log (e := .completed pass r status) rfl w
    have hdone : ∃ result v, writeDone pass whenDone r status now
        (Run.log (.completed pass r status) w).2 = (.ok result, v) ∧
        World.Writes (Run.log (.completed pass r status) w).2 []
          (.leaving r (left whenDone now r (.ok (.completed status))))
          (w.store.leave r.id (left whenDone now r (.ok (.completed status))))
          (StoreError.count result) v := by
      cases whenDone with
      | remove => exact Records.delete_writes r _
      | keep =>
        rw [writeDone]
        rw [WorkRecord.markProcessed_eq_ok hr]
        exact Records.update_writes (w := (Run.log (.completed pass r status) w).2) r _ rfl hstored
    obtain ⟨n, report', v, h, hcount, hwrites⟩ := write_settle_counts hdone
      { report with completed := report.completed + 1 } (.resultLost pass r)
    exact ⟨n, report', v, h, hcount, hlog.endures.writes hwrites⟩
  · have hlog := Run.Harmless.log
      (e := .retryRequested pass r (r.recordFailure Status.retry until? now)) rfl w
    obtain ⟨n, report', v, h, hcount, hwrites⟩ := write_settle_counts
      (Records.update_writes r (r.recordFailure Status.retry until? now) rfl
        (w := (Run.log (.retryRequested pass r (r.recordFailure Status.retry until? now)) w).2)
        hstored)
      { report with retried := report.retried + 1 } (.resultLost pass _)
    rw [left_retry]
    exact ⟨n, report', v, h, hcount, hlog.endures.writes hwrites⟩

/-- A deletion whose failure is counted; a success can count as something else. -/
theorem delete_settles {step : Report → WorkRecord → Run (Watched FaultyStore) Report}
    {left : WorkRecord → Option WorkRecord} {dispatches : WorkRecord → List Dispatch}
    (hleft : left r = none) (hnone : dispatches r = []) (logged : Log.Event)
    (kept : StoreError → Log.Event) (counted : Report → Report)
    (hcounted : ∀ report, (counted report).storeErrors = report.storeErrors)
    (hstep : ∀ report, step report r = (do
      Run.log logged
      match ← Records.delete r with
      | .ok () => pure (counted report)
      | .error e => settle report (.error e) kept)) :
    Settles step left dispatches r := by
  intro report w _
  obtain ⟨result, v, h, hwrites⟩ := Records.delete_writes r (Run.log logged w).2
  have hlog : w.Endures [] [] w.store (Run.log logged w).2 :=
    ⟨(List.append_nil _).symm, (List.append_nil _).symm, rfl, rfl⟩
  have hw := hlog.writes hwrites
  rw [hleft, hnone, hstep, Run.log_bind, Run.bind_ok h]
  cases result with
  | ok => exact ⟨0, counted report, v, rfl, hcounted report, hw⟩
  | error e =>
    rcases hw with ⟨hn, -⟩ | ⟨-, hw⟩
    · cases hn
    · exact ⟨1, _, _, rfl, rfl, .inr ⟨rfl, hw.dispatches, hw.failed, hw.store, hw.stale⟩⟩

/-- The dispatches of some records are those of each of them. -/
theorem flatMap_dispatchesOf (pass : String) (now : Instant)
    (result : WorkRecord → Except String Outcome) (rs : List WorkRecord) :
    (rs.flatMap fun r => dispatchesOf pass now result [r]) = dispatchesOf pass now result rs := by
  induction rs with
  | nil => rfl
  | cons r rs ih => rw [List.flatMap_cons, ih, ← dispatchesOf_cons]

/-- **The treatment of a record** settles it, where handlers answer by the record alone. -/
theorem treat_settles (pass : String) (whenDone : WhenDone) (hd : d.Answers answer)
    (hs : ∀ name, d.sinkCrashes name = false) (hr : r.processed = none)
    {left : WorkRecord → Option WorkRecord}
    (hleft : left r = remains whenDone now (ends d answer) r) :
    Settles (treat pass d whenDone now) left (fun r => dispatchesOf pass now (ends d answer) [r])
      r := by
  by_cases he : r.expiry ≤ now
  · refine delete_settles ?_ ?_ (.abandoning pass r) (.expiredKept pass r)
      (fun report => { report with abandoned := report.abandoned + 1 }) (fun _ => rfl)
      fun report => ?_
    · rw [hleft, remains, if_pos he]
    · simp [dispatchesOf, WorkRecord.isExpired, he]
    · simp only [treat, WorkRecord.isExpired, he, decide_true, if_true]
      rfl
  · -- the attempt calls nothing of the store; only its conclusion can meet a fault
    intro report w hstored
    obtain ⟨u, hu, halike⟩ := tryDispatch_ends hd hs r now w
    let x : Dispatch := ⟨pass, r, now, ends d answer r⟩
    have hx : w.Endures [x] [] w.store (Run.dispatched x u).2 :=
      halike.endures.trans ⟨rfl, (List.append_nil _).symm, halike.endures.store, rfl⟩
    obtain ⟨n, report', v, h, hcount, hwrites⟩ := conclude_counts pass whenDone now (hs _) hr
      { report with dispatched := report.dispatched + 1 } (ends d answer r)
      (hx.store.symm ▸ hstored)
    refine ⟨n, report', v, ?_, hcount, ?_⟩
    · simp only [treat, WorkRecord.isExpired, he, decide_false, Bool.false_eq_true, if_false]
      rw [attempt]
      rw [Run.bind_ok hu]
      exact h
    · rw [hx.store] at hwrites
      have hone : dispatchesOf pass now (ends d answer) [r] = [x] := by
        simp [dispatchesOf, WorkRecord.isExpired, he, x]
      change w.Writes (dispatchesOf pass now (ends d answer) [r]) _ _ n v
      rw [hone, hleft, remains, if_neg he]
      exact hx.writes hwrites

end Pass

end Reconciliation
