import Reconciliation.Proofs.Clearing

/-!
# The aggregation drains the work that is ready

An untried record is ready once it is older than the hold-back. The pass selects entities
that have ready work, sweeps in whatever else is pending there, thins that out and treats
what is left. It is not obvious that a ready record meets one of these fates, nor that it
does not come back as ready: an attempt that fails leaves the record pending, and handlers
may change the store.

* `Aggregate.run_untouched`: without ready work a pass does nothing at all.
* `Aggregate.drains`: a pass leaves no ready work, so a second one does nothing, at any time
  whose limit is no later.
* `Aggregate.leapSecond_drains_more`: an earlier time may have a later limit.
-/

namespace Reconciliation

namespace Aggregate

variable {d : Dispatcher} {holdBack : Span} {now : Instant}

/-- An untried, unprocessed record that came in before a limit, given as a rank. -/
def Ready (limit : Int) (r : WorkRecord) : Prop :=
  r.processed = none ∧ r.retryCount = 0 ∧ r.created.rank < limit

instance (limit : Int) (r : WorkRecord) : Decidable (Ready limit r) :=
  inferInstanceAs (Decidable (_ ∧ _))

/-- What an attempt leaves is done or tried. -/
theorem neverLeaves_ready (whenDone : WhenDone) (now : Instant) (limit : Int) (r : WorkRecord) :
    Pass.NeverLeaves whenDone now (Ready limit) r := by
  rintro result x hx ⟨hp, h0, -⟩
  rcases Pass.left_counts hx with ⟨hdone, -⟩ | hcount
  · rw [hp] at hdone
    cases hdone
  · have hnext := WorkRecord.nextCount_toNat r.retryCount
    rw [← hcount, h0] at hnext
    change 0 = _ at hnext
    omega

/-- **Without ready work a pass does nothing**, whatever the store holds besides. -/
theorem run_untouched {w : World Store}
    (hw : ∀ r ∈ w.backend.records, ¬ Ready (cutoff holdBack now) r) :
    ∃ log, run d holdBack now w = (.ok (.ok .empty), { w with log }) := by
  rw [cutoff] at hw
  cases hsub : now.sub? holdBack with
  | none =>
    -- the hold-back leads before the first instant, and nothing is selected
    simp only [run, collect, select, hsub]
    exact ⟨_, rfl⟩
  | some t =>
    rw [hsub] at hw
    have hnone : w.backend.untriedBefore t = [] :=
      List.eq_nil_iff_forall_not_mem.2 fun r hr =>
        hw r (mem_untriedBefore.1 hr).1 (mem_untriedBefore.1 hr).2
    have hstep : (Records.untriedBefore t : Run Store _) w = (.ok (.ok []), w) := by
      rw [← hnone]
      rfl
    have hselect : (select holdBack now : Run Store _) w = (.ok (.ok []), w) := by
      have hentities : entitiesOf [] = [] := by simp [entitiesOf]
      simp only [select, hsub]
      rw [Run.bind_ok hstep]
      dsimp only
      rw [hentities]
      rfl
    refine ⟨w.log, ?_⟩
    rw [run, collect]
    rw [Run.bind_ok (Run.bind_ok hselect _)]
    rfl

/-- **The aggregation drains the ready work.** Handlers may answer anything at each call, fail or
crash, and change the store, only not insert ready work; the sink is to take the count of a
failed attempt. Then a pass runs to its end and leaves no untried, unprocessed record that is
older than the hold-back, counted exactly. A second pass with that hold-back changes nothing,
calls no handler and counts nothing, if its own limit is no later. That is so at the same
time, and at any earlier one outside of leap seconds; in a leap second, if its count of
nanoseconds is no larger. -/
theorem drains (hd : d.NeverInserts (Ready (now.rankBefore holdBack)))
    (hs : d.sinkCrashes Dispatcher.failureMetric = false) (hh : 0 ≤ holdBack.nanos)
    (w : World Store) :
    ∃ report v, run d holdBack now w = (.ok (.ok report), v) ∧
      (∀ r ∈ v.backend.records, ¬ Ready (now.rankBefore holdBack) r) ∧
      (∀ (e : Dispatcher) (again : Instant),
        again.rankBefore holdBack ≤ now.rankBefore holdBack →
        ∃ report' u, run e holdBack again v = (.ok (.ok report'), u) ∧ report'.isNoop = true ∧
          u.backend = v.backend ∧ u.dispatches = v.dispatches ∧ u.calls = v.calls ∧
          u.metrics = v.metrics) ∧
      ∀ again ≤ now, (1000000000 ≤ again.nano → again.count ≤ now.count) →
        again.rankBefore holdBack ≤ now.rankBefore holdBack := by
  rcases run_clears hd holdBack now w fun r _ _ => neverLeaves_ready .keep now _ r with
    ⟨report, v, hv, hclears⟩ | ⟨hsink, -⟩
  · have hdrained : ∀ r ∈ v.backend.records, ¬ Ready (now.rankBefore holdBack) r := by
      -- a ready record touches its entity, so the pass has cleared it
      intro r hr hready
      obtain ⟨hrw, hnot⟩ := hclears r hr hready
      obtain ⟨hp, h0, hcreated⟩ := hready
      exact hnot ⟨hp, r, hrw, rfl, hp, h0, (rank_lt_cutoff_iff hh r.created).2 hcreated⟩
    refine ⟨report, v, hv, hdrained, fun e again hagain => ?_, fun again hle hleap => ?_⟩
    · have hnone : ∀ r ∈ v.backend.records, ¬ Ready (cutoff holdBack again) r := by
        rintro r hr ⟨hp, h0, hcreated⟩
        have hbefore := (rank_lt_cutoff_iff hh r.created).1 hcreated
        exact hdrained r hr ⟨hp, h0, lt_of_lt_of_le hbefore hagain⟩
      obtain ⟨log, hrun⟩ := run_untouched (d := e) hnone
      exact ⟨.empty, _, hrun, rfl, rfl, rfl, rfl, rfl⟩
    · by_cases hnano : again.nano < 1000000000
      · exact Instant.rankBefore_le_rankBefore hh hle (Instant.count_le_count hle hnano)
      · exact Instant.rankBefore_le_rankBefore hh hle (hleap (Nat.le_of_not_lt hnano))
  · rw [hs] at hsink
    cases hsink

/-- A handler that inserts a record, younger than the hold-back, and crashes. -/
def meddler : Dispatcher :=
  Dispatcher.new.register .sentenceImposed fun _ _ =>
    ⟨[.insert (sample 9 99 .sentenceImposed)], .crash ⟨none⟩⟩

/-- A second pass, half a minute earlier than the first, calls no handler. -/
theorem drains_meddler :
    ∃ report v, run meddler (.ofSeconds 60) (.ofSecond 100) (World.of sampleStore) =
        (.ok (.ok report), v) ∧
      (∀ r ∈ v.backend.records, ¬ Ready ((Instant.ofSecond 100).rankBefore (.ofSeconds 60)) r) ∧
      ∃ report' u, run meddler (.ofSeconds 60) (.ofSecond 70) v = (.ok (.ok report'), u) ∧
        u.calls = v.calls := by
  have hmeddler : meddler.NeverInserts
      (Ready ((Instant.ofSecond 100).rankBefore (.ofSeconds 60))) := by
    intro t h ht history r x hx
    rw [meddler, Dispatcher.handler?_register] at ht
    split at ht
    · cases ht
      cases List.mem_singleton.1 hx
      decide
    · cases ht
  obtain ⟨report, v, hv, hdrained, hagain, hearlier⟩ :=
    drains hmeddler rfl (by decide) (World.of sampleStore)
  obtain ⟨report', u, hu, -, -, -, hcalls, -⟩ :=
    hagain meddler (.ofSecond 70) (hearlier _ (by decide) (by decide))
  exact ⟨report, v, hv, hdrained, report', u, hu, hcalls⟩

/-- Within the leap second before the second minute of 1970. -/
def leapSecond : Instant := ⟨59, 1600000000, by decide, by decide, by decide, by decide⟩

/-- A record that came in a good second before the end of that leap second. -/
def leapStore : Store :=
  ⟨[{ sample 1 59 .sentenceImposed with
      created := ⟨59, 200000000, by decide, by decide, by decide, by decide⟩ }], by decide⟩

/-- **An earlier time may have a later limit.** A pass right after a leap second finds no record
older than a second. A pass within that leap second, which counts back from the second after it,
finds and dispatches one. -/
theorem leapSecond_drains_more :
    let v := (run .new (.ofSeconds 1) (.ofSecond 60) (World.of leapStore)).2
    leapSecond < .ofSecond 60 ∧ v.dispatches.length = 0 ∧
      (run .new (.ofSeconds 1) leapSecond v).2.dispatches.length = 1 := by
  decide +kernel

end Aggregate

end Reconciliation
