import Reconciliation.Backend
import Reconciliation.Lock.Table
import Reconciliation.Proofs.Backends
import Reconciliation.Proofs.Clearing
import Reconciliation.Proofs.Trace
import Reconciliation.Scheduler

/-!
# How often a record is dispatched on one tick

An attempt that fails counts the record once more, and a later pass of the same tick may
select it by that count. So the aggregation and all three tiers might get hold of the same
record. They cannot: what the first tier has tried has failed at most five times, six times
after the second one, and the third begins at eleven.

* `Trail.Tries`: what a pass does to the trail of a world. It dispatches only records with a
  property, each once at most, and only they may fail once more.
* `Pass.guarded_turn`: under its lock a pass runs, or nothing happens.
* `Scheduler.redelivers_at_most`: no pass dispatches a record twice, and no tick of the
  pipeline more than three times.
-/

namespace Reconciliation

variable {σ κ α β : Type}

/-- The stored records and the dispatches so far: what tells how often records are dispatched. -/
structure Trail where
  store : Store
  dispatches : List Dispatch

/-- The trail of a world. -/
def World.trail (w : World Store) : Trail := ⟨w.backend, w.dispatches⟩

/-! ## The dispatches of a pass -/

namespace Pass

variable [RecordStore σ]

/-- Records treated one after another, whatever the handlers do: each is dispatched once, or not. -/
theorem foldlM_treat_dispatches (pass : String) (d : Dispatcher) (whenDone : WhenDone)
    (now : Instant) {rs : List WorkRecord} (hn : (rs.map (·.id)).Nodup) (report : Report)
    (w : World σ) :
    ∃ xs, (rs.foldlM (treat pass d whenDone now) report w).2.dispatches = w.dispatches ++ xs ∧
      (xs.map (·.record.id)).Nodup ∧ ∀ x ∈ xs, x.record ∈ rs := by
  obtain ⟨xs, hfirst, -, hxs, -⟩ := foldlM_treat_trace pass d whenDone now rs report w
  have hsub : (xs.map (·.record)).Sublist rs := hfirst.sublist.trans List.filter_sublist
  refine ⟨xs, hxs, ?_, fun x hx => hsub.subset (List.mem_map_of_mem hx)⟩
  have hids := hn.sublist (hsub.map (·.id))
  rwa [List.map_map] at hids

end Pass

/-! ## Counts -/

/-- A record under an identifier that has failed more than so many times. -/
def WorkRecord.Exceeds (id : RecordId) (n : Nat) (r : WorkRecord) : Prop :=
  r.id = id ∧ n < r.retryCount.toNat

/-- An attempt adds one failure at most. -/
theorem Pass.neverLeaves_exceeds {whenDone : WhenDone} {now : Instant} {r : WorkRecord}
    {id : RecordId} {n : Nat} (hr : r.id = id → r.retryCount.toNat < n) :
    NeverLeaves whenDone now (WorkRecord.Exceeds id n) r := by
  rintro result x hx ⟨hid, hcount⟩
  have hbefore := hr ((left_sameWork hx).id.symm.trans hid)
  rcases left_counts hx with ⟨-, hsame⟩ | hnext
  · rw [hsame] at hcount
    omega
  · rw [hnext, WorkRecord.nextCount_toNat] at hcount
    omega

/-- Handlers that put no record under an identifier put none there with a large count either. -/
theorem Dispatcher.NeverInserts.exceeds {d : Dispatcher} {id : RecordId}
    (hd : d.NeverInserts (·.id = id)) (n : Nat) : d.NeverInserts (WorkRecord.Exceeds id n) :=
  fun t f hf history r x hx hexceeds => hd t f hf history r x hx hexceeds.1

/-- Where no record exceeds a bound that has not before, the bound stays one. -/
theorem Store.Clears.count_le {s t : Store} {id : RecordId} {n : Nat}
    (h : s.Clears (WorkRecord.Exceeds id n) [] t)
    (hs : ∀ r ∈ s.records, r.id = id → r.retryCount.toNat ≤ n) {r : WorkRecord}
    (hr : r ∈ t.records) (hid : r.id = id) : r.retryCount.toNat ≤ n := by
  by_contra hcount
  rw [Nat.not_le] at hcount
  have hbound := hs r (h r hr ⟨hid, hcount⟩).1 hid
  omega

/-! ## The passes -/

/-- From one trail to the next some stored records with a property were dispatched, each once at
most. Under an identifier at which handlers insert nothing, they alone have failed more often
than before, once more at most. -/
structure Trail.Tries (d : Dispatcher) (q : WorkRecord → Prop) (a b : Trail) : Prop where
  dispatches : ∃ xs, b.dispatches = a.dispatches ++ xs ∧ (xs.map (·.record.id)).Nodup ∧
    ∀ x ∈ xs, x.record ∈ a.store.records ∧ q x.record
  counts : ∀ id n, d.NeverInserts (·.id = id) →
    (∀ r ∈ a.store.records, r.id = id →
      r.retryCount.toNat ≤ n ∧ (q r → r.retryCount.toNat < n)) →
    ∀ r ∈ b.store.records, r.id = id → r.retryCount.toNat ≤ n

variable {d : Dispatcher} {q : WorkRecord → Prop}

/-- Where nothing happens, nothing is tried. -/
theorem Trail.Tries.refl (d : Dispatcher) (q : WorkRecord → Prop) (a : Trail) : a.Tries d q a where
  dispatches := ⟨[], (List.append_nil _).symm, List.nodup_nil, by simp⟩
  counts _ _ _ h r hr hid := (h r hr hid).1

/-- **The aggregation** tries each unprocessed record once at most. -/
theorem Aggregate.run_tries (d : Dispatcher) (holdBack : Span) (now : Instant) (w : World Store) :
    w.trail.Tries d (·.processed = none) (run d holdBack now w).2.trail where
  dispatches := by
    obtain ⟨report, batch, u, hu, halike, hn, hb⟩ := collect_ok holdBack now w
    rw [run]
    rw [Run.bind_ok hu]
    cases batch with
    | nil => exact ⟨[], halike.dispatches.trans (List.append_nil _).symm, List.nodup_nil, by simp⟩
    | cons b batch =>
      -- the survivors have identifiers of their own, as the batch has
      have hplan := Plan.thins_ofList hn
      have hids := hplan.nodup hn
      rw [List.map_append] at hids
      obtain ⟨xs, hxs, honce, hmem⟩ := Pass.foldlM_treat_dispatches name d .keep now
        hids.of_append_left { report with
          selected := (Plan.ofList (b :: batch)).dispatch.length +
            (Plan.ofList (b :: batch)).duplicates.length } u
      refine ⟨xs, ?_, honce, fun x hx => ?_⟩
      · have hrun := Run.bind_pure_snd (Except.ok : Report → Except StoreError Report)
          (carryOut d now report (Plan.ofList (b :: batch))) u
        refine (congrArg World.dispatches hrun).trans ?_
        refine (congrArg Prod.fst (carryOut_trace d now report _ u)).trans (hxs.trans ?_)
        exact congrArg (· ++ xs) halike.dispatches
      · obtain ⟨hrs, hp, -⟩ :=
          (hb x.record).1 (hplan.perm.subset (List.mem_append_left _ (hmem x hx)))
        exact ⟨hrs, hp⟩
  counts id n hd hbound r hr hid := by
    have hclears :
        w.backend.Clears (WorkRecord.Exceeds id n) [] (run d holdBack now w).2.backend := by
      rcases run_clears (hd.exceeds n) holdBack now w
          fun r hr hp => Pass.neverLeaves_exceeds fun hid => (hbound r hr hid).2 hp with
        ⟨report, v, hv, hclears⟩ | ⟨-, c, v, hv, hclears⟩
      · rw [hv]
        exact fun x hx hp => ⟨(hclears x hx hp).1, List.not_mem_nil⟩
      · rw [hv]
        exact hclears
    exact hclears.count_le (fun r hr hid => (hbound r hr hid).1) hr hid

/-- **A retry tier** tries each record that waits for it once at most. -/
theorem Retry.run_tries (d : Dispatcher) (tier : RetryTier) (now : Instant) (w : World Store) :
    w.trail.Tries d (Waits tier) (run d tier now w).2.trail where
  dispatches := by
    have hn := nodup_selected w.backend tier
    have hwaits : ∀ r ∈ selected w.backend tier, r ∈ w.backend.records ∧ Waits tier r :=
      fun r hr => mem_selected.1 hr
    rw [selected] at hn hwaits
    rw [run]
    rw [Run.bind_ok (select_apply tier w)]
    cases hrs : w.backend.unprocessedIn tier.band with
    | nil => exact ⟨[], (List.append_nil _).symm, List.nodup_nil, by simp⟩
    | cons r rs =>
      rw [hrs] at hn hwaits
      obtain ⟨xs, hxs, honce, hmem⟩ := Pass.foldlM_treat_dispatches tier.name d .remove now hn
        { Report.empty with
          selected := ((r :: rs).mergeSort WorkRecord.dispatchesBefore).length } w
      refine ⟨xs, ?_, honce, fun x hx => hwaits x.record (hmem x hx)⟩
      have hrun := Run.bind_pure_snd (Except.ok : Report → Except StoreError Report)
        (carryOut d tier now (r :: rs)) w
      refine (congrArg World.dispatches hrun).trans (Eq.trans ?_ hxs)
      exact congrArg Prod.fst (carryOut_trace d tier now (r :: rs) w)
  counts id n hd hbound r hr hid := by
    have hclears := run_clears (hd.exceeds n) now w fun r hr hwaits =>
      Pass.neverLeaves_exceeds fun hid => (hbound r hr hid).2 hwaits
    exact hclears.count_le (fun r hr hid => (hbound r hr hid).1) hr hid

/-- **The purge** tries nothing. -/
theorem Purge.run_tries (d : Dispatcher) (now : Instant) (w : World Store) :
    w.trail.Tries d (fun _ => False) (run now w).2.trail where
  dispatches := by
    have hkeeps : Run.Keeps World.dispatches (run now : Run Store _) := by
      refine Run.Keeps.bind (fun _ => rfl) fun result => ?_
      rcases result with e | _ | n
      · exact .pure _
      · exact .pure _
      · exact Run.Keeps.bind (fun _ => rfl) fun _ => .pure _
    exact ⟨[], (hkeeps w).trans (List.append_nil _).symm, List.nodup_nil, by simp⟩
  counts id n _ hbound r hr hid :=
    (run_clears now w).count_le (fun r hr hid => (hbound r hr hid).1) hr hid

/-! ## Under locks -/

/-- A store with locks beside it is seen as the store. -/
theorem Backend.store_mirrors [RecordStore σ] :
    RecordStore.Mirrors (Backend.store : Backend σ κ → σ) where
  insert _ _ := rfl
  update _ _ := rfl
  delete _ _ := rfl
  get _ _ := rfl
  unprocessedOf _ _ := rfl
  ofTypeAndCount _ _ _ := rfl
  unprocessedIn _ _ := rfl
  untriedBefore _ _ := rfl
  deleteExpired _ _ := rfl
  edit _ _ := rfl

/-- The trail of a world with locks. -/
def World.storeTrail (w : World (Backend Store κ)) : Trail := (w.map Backend.store).trail

namespace Pass

/-- What a turn of a pass does to the trail: nothing, or what one run of the pass does. -/
def Turn (p : Pass (Backend Store κ)) (w v : World (Backend Store κ)) : Prop :=
  v.storeTrail = w.storeTrail ∨
    ∃ now u, u.storeTrail = w.storeTrail ∧ v.storeTrail = (p.run now u).2.storeTrail

/-- A turn of a pass tries what its runs try. -/
theorem Turn.tries {p : Pass (Backend Store κ)} {w v : World (Backend Store κ)}
    {run : Instant → Run Store (Except StoreError Report)} (h : p.Turn w v)
    (hp : ∀ now, Run.Mirrors Backend.store (p.run now) (run now))
    (hrun : ∀ now (w : World Store), w.trail.Tries d q (run now w).2.trail) :
    w.storeTrail.Tries d q v.storeTrail := by
  rcases h with h | ⟨now, u, hu, hv⟩
  · rw [h]
    exact .refl d q _
  · have htries := hrun now (u.map Backend.store)
    rw [hp now u] at htries
    rw [← hu, hv]
    exact htries

/-- What comes after a turn and leaves the trail alone belongs to it. -/
theorem Turn.after {p : Pass (Backend Store κ)} {w u : World (Backend Store κ)}
    {x : Run (Backend Store κ) α} {f : α → Run (Backend Store κ) β}
    (hf : ∀ a, Run.Keeps World.storeTrail (f a)) (h : p.Turn w (x u).2) :
    p.Turn w ((x >>= f) u).2 := by
  rcases h with h | ⟨now, v, hv, h⟩
  · exact .inl ((Run.Keeps.after hf x u).trans h)
  · exact .inr ⟨now, v, hv, (Run.Keeps.after hf x u).trans h⟩

variable [LockProvider κ]

/-- **Under its lock a pass runs, or nothing happens** to the trail, also if the locks crash. -/
theorem guarded_turn (p : Pass (Backend Store κ)) (term : Term) (now : Instant)
    (w : World (Backend Store κ)) : p.Turn w (p.guarded term now w).2 := by
  have hlog : ∀ e, Run.Keeps World.storeTrail (Run.log e : Run (Backend Store κ) Unit) :=
    fun _ _ => rfl
  rw [guarded]
  refine Turn.after (fun result => ?_) ?_
  · rcases result with e | _ | c | e | report
    · exact (hlog _).bind fun _ => .pure _
    · exact (hlog _).bind fun _ => .pure _
    · exact (hlog _).bind fun _ => .pure _
    · exact (hlog _).bind fun _ => .pure _
    · exact .pure _
  · have hacquire : Run.Keeps World.storeTrail
        (Locks.acquire p.name term : Run (Backend Store κ) _) := fun _ => rfl
    have hw := hacquire w
    rw [Locks.underLock]
    rcases h : (Locks.acquire p.name term : Run (Backend Store κ) _) w with
      ⟨c | e | _ | lease, u⟩ <;> rw [h] at hw
    · rw [Run.bind_crash h]
      exact .inl hw
    · rw [Run.bind_ok h]
      exact .inl hw
    · rw [Run.bind_ok h]
      exact .inl hw
    · -- the lock is taken: the pass runs, and then the lock is given back
      rw [Run.bind_ok h]
      refine Turn.after (fun result => ?_) ?_
      · refine Run.Keeps.bind (fun _ => rfl) fun released => ?_
        cases released with
        | ok => exact .pure _
        | error e => exact (hlog _).bind fun _ => .pure _
      · obtain ⟨result, hrun⟩ := Run.exists_caught (p.run now) u
        rw [hrun]
        exact .inr ⟨now, u, hw, rfl⟩

end Pass

/-! ## Ticks -/

/-- One step after another, each as a relation allows. It is left open what the relation says, as
the passes of a tick each have their own. -/
def Run.Chain (R : α → World σ → World σ → Prop) : List α → World σ → World σ → Prop
  | [], w, v => v = w
  | a :: as, w, v => ∃ u, R a w u ∧ Run.Chain R as u v

/-- Steps that may each do nothing may do nothing together. -/
theorem Run.chain_refl {R : α → World σ → World σ → Prop} (hR : ∀ a w, R a w w) (as : List α)
    (w : World σ) : Chain R as w w := by
  induction as with
  | nil => rfl
  | cons a as ih => exact ⟨w, hR a w, ih⟩

/-- Where nothing may happen at any step, a crash leaves out the others. -/
theorem Run.mapM_chain {R : α → World σ → World σ → Prop} {f : α → Run σ β}
    (hR : ∀ a w, R a w w) (hf : ∀ a w, R a w (f a w).2) (as : List α) (w : World σ) :
    Chain R as w (as.mapM f w).2 := by
  induction as generalizing w with
  | nil => rfl
  | cons a as ih =>
    have hstep := hf a w
    rw [List.mapM_cons]
    rcases h : f a w with ⟨c | b, u⟩ <;> rw [h] at hstep
    · rw [bind_crash h]
      exact ⟨u, hstep, chain_refl hR as u⟩
    · rw [bind_ok h, bind_pure_snd]
      exact ⟨u, hstep, ih u⟩

namespace Scheduler

variable [LockProvider σ]

/-- Runs every pass once, each at a time of its own. -/
def tickAt (s : Scheduler σ) (clock : String → Instant) : Run σ (List (String × Tick)) :=
  s.passes.mapM fun (p, _) => do
    let outcome ← p.guarded s.term (clock p.name)
    pure (p.name, outcome)

/-- A tick has one time for all passes. -/
theorem tick_eq_tickAt (s : Scheduler σ) (now : Instant) : s.tick now = s.tickAt fun _ => now := rfl

end Scheduler

/-- The dispatches of a pass under an identifier: one at most, and none unless a record is stored
under it that the pass tries. -/
theorem Trail.Tries.exists_count {a b : Trail} (h : a.Tries d q b) (id : RecordId) :
    ∃ xs, b.dispatches = a.dispatches ++ xs ∧ xs.countP (·.record.id == id) ≤ 1 ∧
      (xs.countP (·.record.id == id) ≠ 0 → ∃ r ∈ a.store.records, r.id = id ∧ q r) := by
  obtain ⟨xs, hxs, honce, hmem⟩ := h.dispatches
  refine ⟨xs, hxs, ?_, fun hcount => ?_⟩
  · have hids := List.nodup_iff_count_le_one.1 honce id
    rw [List.count_eq_countP, List.countP_map] at hids
    exact hids
  · obtain ⟨x, hx, hid⟩ := List.countP_pos_iff.1 (Nat.pos_of_ne_zero hcount)
    exact ⟨x.record, (hmem x hx).1, by simpa using hid, (hmem x hx).2⟩

/-- **The three tiers try a record twice at most.** -/
theorem Trail.Tries.count_le {a b c e : Trail} {id : RecordId} (hd : d.NeverInserts (·.id = id))
    (hshort : a.Tries d (Retry.Waits .shortTerm) b)
    (hmedium : b.Tries d (Retry.Waits .mediumTerm) c)
    (hlong : c.Tries d (Retry.Waits .longTerm) e) :
    ∃ xs, e.dispatches = a.dispatches ++ xs ∧ xs.countP (·.record.id == id) ≤ 2 := by
  obtain ⟨xs, hxs, hx, hxtried⟩ := hshort.exists_count id
  obtain ⟨ys, hys, hy, -⟩ := hmedium.exists_count id
  obtain ⟨zs, hzs, hz, hztried⟩ := hlong.exists_count id
  have hnot : xs.countP (·.record.id == id) ≠ 0 → zs.countP (·.record.id == id) = 0 := by
    -- what the first tier has tried is at five failures, at six after the second, not at eleven
    intro hx0
    obtain ⟨r, hr, hid, -, hband⟩ := hxtried hx0
    have hr4 : r.retryCount.toNat ≤ 4 := by
      simp only [RetryTier.band, RetryBand.contains, Bool.and_eq_true, decide_eq_true_eq,
        UInt32.le_iff_toNat_le] at hband
      exact hband.2
    have h5 := hshort.counts id 5 hd fun x hx hxid => by
      rw [a.store.eq_of_id hx hr (hxid.trans hid.symm)]
      omega
    have h6 := hmedium.counts id 6 hd fun x hx hxid => by
      have hx5 := h5 x hx hxid
      omega
    by_contra hz0
    obtain ⟨x, hx, hxid, -, hband⟩ := hztried hz0
    have hx6 := h6 x hx hxid
    simp only [RetryTier.band, RetryBand.atLeast, RetryBand.contains, Bool.and_true,
      decide_eq_true_eq, UInt32.le_iff_toNat_le] at hband
    have h11 : (11 : UInt32).toNat = 11 := rfl
    omega
  refine ⟨xs ++ (ys ++ zs), ?_, ?_⟩
  · rw [hzs, hys, hxs, List.append_assoc, List.append_assoc]
  · rw [List.countP_append, List.countP_append]
    by_cases hx0 : xs.countP (·.record.id == id) = 0
    · omega
    · have hz0 := hnot hx0
      omega

/-- A turn of the aggregation under its lock tries what the pass alone would: records that are not
done. -/
theorem Aggregate.turn_tries {holdBack : Span} {w v : World (Backend Store κ)}
    (h : (Aggregate.pass d holdBack).Turn w v) :
    w.storeTrail.Tries d (·.processed = none) v.storeTrail :=
  h.tries (run_mirrors Backend.store_mirrors d holdBack) (run_tries d holdBack)

/-- A turn of a retry tries the records that wait in its tier. -/
theorem Retry.turn_tries {tier : RetryTier} {w v : World (Backend Store κ)}
    (h : (Retry.pass d tier).Turn w v) : w.storeTrail.Tries d (Waits tier) v.storeTrail :=
  h.tries (run_mirrors Backend.store_mirrors d tier) (run_tries d tier)

/-- A turn of the purge tries none. -/
theorem Purge.turn_tries (d : Dispatcher) {w v : World (Backend Store κ)}
    (h : Purge.pass.Turn w v) : w.storeTrail.Tries d (fun _ => False) v.storeTrail :=
  h.tries (run_mirrors Backend.store_mirrors) (run_tries d)

namespace Scheduler

variable [LockProvider κ]

/-- On a tick each pass has its turn, up to a crash of the locks. -/
theorem tickAt_chain (s : Scheduler (Backend Store κ)) (clock : String → Instant)
    (w : World (Backend Store κ)) :
    Run.Chain (fun p : Pass (Backend Store κ) × Term => p.1.Turn) s.passes w
      (s.tickAt clock w).2 := by
  refine Run.mapM_chain (fun p w => .inl rfl) (fun p w => ?_) s.passes w
  dsimp only
  rw [Run.bind_pure_snd]
  exact p.1.guarded_turn s.term _ w

/-- **Redelivery is bounded.** A pass of the pipeline dispatches no record twice, whatever its
handlers do. A tick dispatches none more than three times, whatever is stored and locked, at
any times of the passes, and whatever handlers answer and change, as long as they put no new
record under its identifier. -/
theorem redelivers_at_most (settings : Settings) (d : Dispatcher) :
    (∀ p ∈ (standard settings d : Scheduler (Backend Store κ)).passes,
      ∀ now (w : World (Backend Store κ)), ∃ xs,
        (p.1.run now w).2.dispatches = w.dispatches ++ xs ∧ (xs.map (·.record.id)).Nodup) ∧
    ∀ id, d.NeverInserts (·.id = id) → ∀ clock (w : World (Backend Store κ)), ∃ xs,
      ((standard settings d).tickAt clock w).2.dispatches = w.dispatches ++ xs ∧
        xs.countP (·.record.id == id) ≤ 3 := by
  constructor
  · intro p hp now w
    have hturn : p.1.Turn w (p.1.run now w).2 := .inr ⟨now, w, rfl, rfl⟩
    have htries : ∃ q, w.storeTrail.Tries d q (p.1.run now w).2.storeTrail := by
      simp only [standard, List.mem_cons, List.not_mem_nil, or_false] at hp
      rcases hp with rfl | rfl | rfl | rfl | rfl
      · exact ⟨_, Aggregate.turn_tries hturn⟩
      · exact ⟨_, Retry.turn_tries hturn⟩
      · exact ⟨_, Retry.turn_tries hturn⟩
      · exact ⟨_, Retry.turn_tries hturn⟩
      · exact ⟨_, Purge.turn_tries d hturn⟩
    obtain ⟨q, xs, hxs, honce, -⟩ := htries.imp fun _ h => h.dispatches
    exact ⟨xs, hxs, honce⟩
  · intro id hd clock w
    -- the turns of a tick, in the order of the passes
    obtain ⟨w₁, haggregate, w₂, hshort, w₃, hmedium, w₄, hlong, w₅, hpurge, hend⟩ :=
      tickAt_chain (standard settings d) clock w
    obtain ⟨xs, hxs, hx, -⟩ := (Aggregate.turn_tries haggregate).exists_count id
    obtain ⟨ys, hys, hy⟩ := Trail.Tries.count_le hd (Retry.turn_tries hshort)
      (Retry.turn_tries hmedium) (Retry.turn_tries hlong)
    obtain ⟨zs, hzs, -, hz⟩ := (Purge.turn_tries d hpurge).exists_count id
    have hnone : zs.countP (·.record.id == id) = 0 := by
      by_contra hz0
      obtain ⟨r, -, -, hfalse⟩ := hz hz0
      exact hfalse
    refine ⟨xs ++ (ys ++ zs), ?_, ?_⟩
    · rw [hend]
      change w₅.storeTrail.dispatches = w.storeTrail.dispatches ++ _
      rw [hzs, hys, hxs, List.append_assoc, List.append_assoc]
    · rw [List.countP_append, List.countP_append]
      omega

/-- A record that has failed three times, and an older, untried one of its kind. -/
def sweptStore : Store :=
  ⟨[{ Aggregate.sample 1 20 .sentenceImposed with retryCount := 3 },
    Aggregate.sample 2 10 .sentenceImposed], by decide⟩

/-- A handler that always fails. -/
def failing : Dispatcher :=
  Dispatcher.new.register .sentenceImposed fun _ _ => ⟨[], .failure "down"⟩

/-- The aggregation sweeps the first record in, and then the first two tiers try it. -/
theorem redelivers_sweptStore :
    ((standard .default failing).tick (.ofSecond 100)
      (World.of (Backend.mk sweptStore LockTable.empty))).2.dispatches.countP
        (·.record.id == .ofNat 1) = 3 := by
  have hfailing : failing.OnlyAnswers :=
    ((Dispatcher.answers_new fun _ => .failure "down").register .sentenceImposed).onlyAnswers
  obtain ⟨-, hbound⟩ := redelivers_at_most (κ := LockTable) .default failing
  obtain ⟨xs, hxs, hcount⟩ := hbound (.ofNat 1) (hfailing.neverInserts _) (fun _ => .ofSecond 100)
    (World.of ⟨sweptStore, .empty⟩)
  refine Nat.le_antisymm ?_ (by decide +kernel)
  rw [tick_eq_tickAt, hxs]
  exact hcount

end Scheduler

end Reconciliation
