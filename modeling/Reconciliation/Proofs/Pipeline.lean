import Reconciliation.Intake
import Reconciliation.Pass.Basic
import Reconciliation.Proofs.Aggregation
import Reconciliation.Proofs.Retrying

/-!
# Runs of the whole pipeline

Work comes in, is aggregated, retried and purged, in any order and at any instants: a
`Step` is one of these, and `Step.run` is the world after some of them, from an empty
store.

What holds along every run is proved from what one step can do. A step takes one new
record in (`World.TakesIn`) or is a pass (`World.Advances`): it dispatches some stored
records, and every record stored after it either was there before and was not dispatched,
or is what an attempt of that step left.

* `Step.after_cases`: every step is one of these two.
* `World.Advances.of_leaves`: why the passes that attempt records are.
* `Step.foldl_induction`: what intakes and advances keep holds along every run.
-/

namespace Reconciliation

/-- What an attempt leaves of the record that it dispatched; the aggregation keeps what is done. -/
def Dispatch.left (x : Dispatch) : Option WorkRecord :=
  Pass.left (if x.pass = Aggregate.name then .keep else .remove) x.now x.record x.result

namespace World

/-- One new, untried record came in. -/
structure TakesIn (w v : World Store) (r : WorkRecord) : Prop where
  received : v.received = w.received ++ [r]
  dispatches : v.dispatches = w.dispatches
  records : v.backend.records = w.backend.records ++ [r]
  untried : r.retryCount = 0
  unprocessed : r.processed = none

/-- Some stored records were dispatched, each once, and every record stored afterwards is one that
was stored before and not dispatched, or one that an attempt left. -/
structure Advances (w v : World Store) (xs : List Dispatch) : Prop where
  received : v.received = w.received
  dispatches : v.dispatches = w.dispatches ++ xs
  distinct : (xs.map (·.record.id)).Nodup
  stored : ∀ x ∈ xs, x.record ∈ w.backend.records ∧ x.record.processed = none
  kept : ∀ r ∈ v.backend.records,
    (r ∈ w.backend.records ∧ ∀ x ∈ xs, x.record.id ≠ r.id) ∨ ∃ x ∈ xs, x.left = some r

/-- After some dispatches, no two of which were of one group, no unprocessed record is older than a
dispatched one of its group. -/
structure Orderly (v : World Store) (xs : List Dispatch) : Prop where
  apart : xs.Pairwise fun a b => a.record.sameGroup b.record = false
  newest : ∀ r ∈ v.backend.records, r.processed = none → ∀ x ∈ xs,
    r.sameGroup x.record = true → r.olderThan x.record = false

/-- What changes neither the backend nor what was dispatched and received, such as an event of the
log, is an advance without dispatches. -/
theorem Alike.advances {w v : World Store} (h : w.Alike v) : w.Advances v [] := by
  refine ⟨h.received, by rw [h.dispatches, List.append_nil], List.nodup_nil, by simp, ?_⟩
  intro r hr
  rw [h.backend] at hr
  exact .inl ⟨hr, by simp⟩

/-- An advance stays one if such a change comes after it. -/
theorem Advances.trans_alike {u v w : World Store} {xs : List Dispatch} (h : u.Advances v xs)
    (k : v.Alike w) : u.Advances w xs := by
  refine ⟨k.received.trans h.received, k.dispatches.trans h.dispatches, h.distinct, h.stored, ?_⟩
  rw [k.backend]
  exact h.kept

end World

namespace WorkRecord

variable {a a' b b' : WorkRecord}

/-- Whether two records are of one group is decided by what a change of work leaves alone. -/
theorem SameWork.sameGroup (h : a.SameWork a') (k : b.SameWork b') :
    a.sameGroup b = a'.sameGroup b' := by
  simp only [WorkRecord.sameGroup, h.entity, h.eventType, k.entity, k.eventType]

/-- And so is which of them is the older. -/
theorem SameWork.olderThan (h : a.SameWork a') (k : b.SameWork b') :
    a.olderThan b = a'.olderThan b' := by
  simp only [WorkRecord.olderThan, h.created, h.id, k.created, k.id]

end WorkRecord

namespace Pass

variable {pass : String} {now : Instant} {result : WorkRecord → Except String Outcome}
  {rs : List WorkRecord}

/-- The dispatches of a list of records are those of its unexpired ones, each with its own result.
-/
theorem mem_dispatchesOf {x : Dispatch} :
    x ∈ dispatchesOf pass now result rs ↔
      ∃ r ∈ rs, ¬ r.expiry ≤ now ∧ x = ⟨pass, r, now, result r⟩ := by
  simp only [dispatchesOf, List.mem_map, List.mem_filter, WorkRecord.isExpired, Bool.not_eq_true',
    decide_eq_false_iff_not, and_assoc, eq_comm (a := x)]

/-- A pass that selects no record twice dispatches none twice. -/
theorem nodup_dispatchesOf (h : (rs.map (·.id)).Nodup) :
    ((dispatchesOf pass now result rs).map (·.record.id)).Nodup := by
  rw [dispatchesOf, List.map_map]
  exact h.sublist (List.filter_sublist.map _)

end Pass

/-- What a dispatch leaves in the store is the record that was dispatched, with another count,
expiry, or date. -/
theorem Dispatch.left_sameWork {x : Dispatch} {r : WorkRecord} (h : x.left = some r) :
    r.SameWork x.record :=
  Pass.left_sameWork h

/-- A record stored after an advance was stored before, in the same state or an earlier one. -/
theorem World.Advances.exists_before {w v : World Store} {xs : List Dispatch}
    (h : w.Advances v xs) {r : WorkRecord} (hr : r ∈ v.backend.records) :
    ∃ old ∈ w.backend.records, r.SameWork old ∧ (r.processed = none → old.processed = none) := by
  rcases h.kept r hr with ⟨hold, -⟩ | ⟨x, hx, hleft⟩
  · exact ⟨r, hold, .refl r, id⟩
  · obtain ⟨hold, hp⟩ := h.stored x hx
    exact ⟨x.record, hold, x.left_sameWork hleft, fun _ => hp⟩

/-- **A pass advances.** It is enough to know which records it treats, and that it leaves of a
treated record what the treatment does, and any other as it is. -/
theorem World.Advances.of_leaves {w v : World Store} {now : Instant}
    {result : WorkRecord → Except String Outcome} {rs : List WorkRecord} (pass : String)
    (leaves : WorkRecord → Option WorkRecord) (hn : (rs.map (·.id)).Nodup)
    (hrs : ∀ r ∈ rs, r ∈ w.backend.records ∧ r.processed = none)
    (hreceived : v.received = w.received)
    (hdispatches : v.dispatches = w.dispatches ++ Pass.dispatchesOf pass now result rs)
    (hstore : ∀ id, v.backend.get? id = (w.backend.get? id).bind leaves)
    (htreated : ∀ r ∈ rs, leaves r =
      Pass.remains (if pass = Aggregate.name then .keep else .remove) now result r)
    (hother : ∀ r ∈ w.backend.records, r ∉ rs → ∀ x ∈ leaves r, x = r) :
    w.Advances v (Pass.dispatchesOf pass now result rs) := by
  refine ⟨hreceived, hdispatches, Pass.nodup_dispatchesOf hn, ?_, ?_⟩
  · intro x hx
    obtain ⟨r, hr, -, rfl⟩ := Pass.mem_dispatchesOf.1 hx
    exact hrs r hr
  · intro r hr
    have hg := hstore r.id
    rw [Store.get?_eq_some_iff.2 ⟨hr, rfl⟩] at hg
    obtain ⟨old, hold, hleaves⟩ := Option.bind_eq_some_iff.1 hg.symm
    obtain ⟨holdrs, hid⟩ := Store.get?_eq_some_iff.1 hold
    -- what is stored afterwards is left of a treated record, or is one that was not treated
    by_cases hmem : old ∈ rs
    · rw [htreated old hmem, Pass.remains] at hleaves
      split at hleaves
      · cases hleaves
      · rename_i hfresh
        exact .inr ⟨_, Pass.mem_dispatchesOf.2 ⟨old, hmem, hfresh, rfl⟩, hleaves⟩
    · obtain rfl : r = old := hother old holdrs hmem r hleaves
      refine .inl ⟨holdrs, fun x hx hxid => hmem ?_⟩
      obtain ⟨q, hq, -, rfl⟩ := Pass.mem_dispatchesOf.1 hx
      exact Store.eq_of_id (hrs q hq).1 holdrs hxid ▸ hq

/-- A record that is inserted comes behind all others. -/
theorem Store.records_insert {s t : Store} {r : WorkRecord} (h : s.insert r = .ok t) :
    t.records = s.records ++ [r] := by
  rw [Store.insert] at h
  split at h
  · cases h
  · cases h
    rfl

/-- Of two stored records with different identifiers one is older. -/
theorem Store.older_or_older {s : Store} {a b : WorkRecord} (ha : a ∈ s.records)
    (hb : b ∈ s.records) (hne : a ≠ b) : a.olderThan b = true ∨ b.olderThan a = true := by
  have hid : a.id ≠ b.id := fun hid => hne (s.eq_of_id ha hb hid)
  cases h : a.olderThan b with
  | true => exact .inl rfl
  | false => exact .inr (WorkRecord.olderThan_of_not hid h)

namespace Aggregate

variable {d : Dispatcher}

/-- Two records of one group, neither of them superseded, are the same. -/
theorem eq_of_not_superseded {s : Store} {a b : WorkRecord} (ha : a ∈ s.records)
    (hb : b ∈ s.records) (hap : a.processed = none) (hbp : b.processed = none)
    (hg : a.sameGroup b = true) (hna : ¬ Superseded s a) (hnb : ¬ Superseded s b) : a = b := by
  by_contra hne
  rcases s.older_or_older ha hb hne with hold | hold
  · exact hna (superseded_iff.2 ⟨b, hb, hbp, hg, hold⟩)
  · exact hnb (superseded_iff.2 ⟨a, ha, hap, WorkRecord.sameGroup_symm hg, hold⟩)

/-- **A pass of the aggregation** advances, and leaves nothing behind that is older than what it
dispatched. -/
theorem advances (hd : d.Quiet) (holdBack : Span) (now : Instant) (w : World Store) :
    ∃ xs, w.Advances (run d holdBack now w).2 xs ∧ (run d holdBack now w).2.Orderly xs := by
  obtain ⟨result, survivors, report, v, hv, hn, -, hmem, -, hreceived, hdispatches, hstore⟩ :=
    run_ok hd holdBack now w
  rw [hv]
  refine ⟨_, .of_leaves name _ hn ?_ hreceived hdispatches hstore ?_ ?_, ?_, ?_⟩
  · intro r hr
    obtain ⟨hrs, hp, -⟩ := (hmem r).1 hr
    exact ⟨hrs, hp⟩
  · intro r hr
    obtain ⟨-, hp, htouched, hsup⟩ := (hmem r).1 hr
    rw [leaves, if_neg (by simp [hp, htouched]), if_neg hsup, if_pos rfl]
  · intro r hrs hr x hx
    by_cases hcond : r.processed.isSome ∨ ¬ Touched w.backend (cutoff holdBack now) r.entity
    · rw [leaves, if_pos hcond] at hx
      exact (Option.some.inj hx).symm
    · rw [not_or, not_not, Bool.not_eq_true, Option.isSome_eq_false_iff,
        Option.isNone_iff_eq_none] at hcond
      have hsup : Superseded w.backend r := by
        by_contra hsup
        exact hr ((hmem r).2 ⟨hrs, hcond.1, hcond.2, hsup⟩)
      rw [leaves, if_neg (by simp [hcond]), if_pos hsup] at hx
      cases hx
  · -- no two survivors are of one group
    rw [Pass.dispatchesOf, List.pairwise_map]
    refine (List.pairwise_map.1 hn).imp_of_mem ?_ |>.sublist List.filter_sublist
    intro a b ha hb hid
    obtain ⟨has, hap, -, hna⟩ := (hmem a).1 ha
    obtain ⟨hbs, hbp, -, hnb⟩ := (hmem b).1 hb
    rw [Bool.eq_false_iff]
    exact fun hg => hid (congrArg _ (eq_of_not_superseded has hbs hap hbp hg hna hnb))
  · -- what is left of another record of the group is no older, as that one is a survivor too
    intro r hr hp x hx hg
    obtain ⟨q, hq, -, rfl⟩ := Pass.mem_dispatchesOf.1 hx
    obtain ⟨hqs, hqp, htouched, hnq⟩ := (hmem q).1 hq
    have hget := hstore r.id
    rw [Store.get?_eq_some_iff.2 ⟨hr, rfl⟩] at hget
    obtain ⟨old, hold, hleaves⟩ := Option.bind_eq_some_iff.1 hget.symm
    have holds := (Store.get?_eq_some_iff.1 hold).1
    have hsame := leaves_sameWork hleaves
    rw [hsame.sameGroup (.refl q)] at hg
    have hentity := (WorkRecord.sameGroup_iff.1 hg).1
    obtain ⟨holdp, hnold⟩ := not_superseded_of_leaves hleaves hp (hentity ▸ htouched)
    rw [hsame.olderThan (.refl q), eq_of_not_superseded holds hqs holdp hqp hg hnold hnq]
    exact WorkRecord.olderThan_irrefl q

end Aggregate

namespace Retry

/-- **A pass of a retry tier** advances, and what it dispatches has been tried before. -/
theorem advances {d : Dispatcher} (hd : d.Quiet) (tier : RetryTier) (now : Instant)
    (w : World Store) :
    ∃ xs, w.Advances (run d tier now w).2 xs ∧ ∀ x ∈ xs, x.record.retryCount ≠ 0 := by
  obtain ⟨result, report, v, hv, -, hreceived, hdispatches, hstore⟩ := run_ok hd tier now w
  rw [hv]
  refine ⟨_, .of_leaves tier.name _ (nodup_selected _ _) ?_ hreceived hdispatches hstore ?_ ?_, ?_⟩
  · intro r hr
    obtain ⟨hrs, hwaits⟩ := mem_selected.1 hr
    exact ⟨hrs, hwaits.1⟩
  · intro r hr
    have hname : tier.name ≠ Aggregate.name := by cases tier <;> decide
    rw [leaves, if_pos (mem_selected.1 hr).2, if_neg hname]
  · intro r hrs hr x hx
    rw [leaves, if_neg fun hwaits => hr (mem_selected.2 ⟨hrs, hwaits⟩)] at hx
    exact (Option.some.inj hx).symm
  · intro x hx
    obtain ⟨r, hr, -, rfl⟩ := Pass.mem_dispatchesOf.1 hx
    exact (mem_selected.1 hr).2.retryCount_ne

end Retry

namespace Purge

/-- A purge only removes. -/
theorem advances (now : Instant) (w : World Store) : w.Advances (run now w).2 [] := by
  have hstep : (Records.deleteExpired now : Run Store _) w =
      (.ok (.ok (w.backend.purge now).1), { w with backend := (w.backend.purge now).2 }) := rfl
  have hpurged : w.Advances { w with backend := (w.backend.purge now).2 } [] := by
    refine ⟨rfl, (List.append_nil _).symm, List.nodup_nil, by simp, fun r hr => .inl ⟨?_, by simp⟩⟩
    exact (List.mem_filter.1 hr).1
  rw [run]
  rw [Run.bind_ok hstep]
  cases (w.backend.purge now).1 with
  | zero => exact hpurged
  | succ n => exact hpurged.trans_alike (Run.Harmless.log (e := .purged (n + 1)) rfl _)

end Purge

/-- To receive a record is one attempt at the store, and that alone: no event is emitted, and no
handler called. -/
theorem Records.insert_apply (r : WorkRecord) (w : World Store) :
    Records.insert r w = (.ok (w.backend.attempted (w.backend.insert r)).1,
      { w with backend := (w.backend.attempted (w.backend.insert r)).2 }) := rfl

namespace Intake

/-- **An intake** takes one new record in, under the given identifier, or changes nothing. -/
theorem after_receive (lifetime : Span) (id : RecordId) (raw : String) (now : Instant)
    (w : World Store) :
    (∃ r, r.id = id ∧ w.TakesIn (receive lifetime id raw now w).2 r) ∨
      w.Alike (receive lifetime id raw now w).2 := by
  have hrefuse : ∀ e, w.Alike ((refuse e : Run Store _) w).2 :=
    fun e => (Run.Harmless.log (e := .notReceived e.message) rfl).bind (fun _ => .pure _) w
  rw [receive]
  cases Envelope.parse raw with
  | error e => exact .inr (hrefuse _)
  | ok envelope =>
    let r := envelope.record id now lifetime
    cases hinsert : w.backend.insert r with
    | error e =>
      have hstep : (Records.insert r : Run Store _) w = (.ok (.error e), w) := by
        rw [Records.insert_apply, hinsert]
        rfl
      refine .inr ?_
      change w.Alike ((Records.insert r >>= _ : Run Store _) w).2
      rw [Run.bind_ok hstep]
      exact hrefuse _
    | ok s =>
      have hstep :
          (Records.insert r : Run Store _) w = (.ok (.ok ()), { w with backend := s }) := by
        rw [Records.insert_apply, hinsert]
        rfl
      refine .inl ⟨r, rfl, ?_⟩
      change w.TakesIn ((Records.insert r >>= _ : Run Store _) w).2 r
      rw [Run.bind_ok hstep]
      refine ⟨?_, rfl, Store.records_insert hinsert, rfl, rfl⟩
      simp [World.received, Run.log_bind, Run.log, Log.Event.received?, r]

end Intake

/-- A step of the pipeline. Dispatchers and times are given step by step, so they may change in any
way. -/
inductive Step where
  | receive (lifetime : Span) (id : RecordId) (raw : String) (now : Instant)
  | aggregate (d : Dispatcher) (holdBack : Span) (now : Instant)
  | retry (d : Dispatcher) (tier : RetryTier) (now : Instant)
  | purge (now : Instant)

namespace Step

/-- The world after a step, whatever its value. -/
def after (w : World Store) : Step → World Store
  | receive lifetime id raw now => (Intake.receive lifetime id raw now w).2
  | aggregate d holdBack now => (Aggregate.run d holdBack now w).2
  | retry d tier now => (Retry.run d tier now w).2
  | purge now => (Purge.run now w).2

/-- The world after some steps from an empty store. -/
def run (steps : List Step) : World Store := steps.foldl after (.of ∅)

/-- The handlers of a step only answer, and its sink takes the count of a failed attempt. -/
def Quiet : Step → Prop
  | aggregate d _ _ | retry d _ _ => d.Quiet
  | receive .. | purge _ => True

/-- The identifier for what comes in. -/
def newId? : Step → Option RecordId
  | receive _ id _ _ => some id
  | _ => none

/-- A run goes on from where another ended. -/
theorem run_append (steps more : List Step) : run (steps ++ more) = more.foldl after (run steps) :=
  List.foldl_append ..

/-- The last step of a run, for an induction from the end. -/
theorem run_concat (steps : List Step) (s : Step) : run (steps ++ [s]) = s.after (run steps) :=
  run_append steps [s]

/-- **What a step can do**: take one new record in, or advance. In an advance, what is dispatched
has been tried before, or nothing older is left behind. -/
theorem after_cases {s : Step} (hs : s.Quiet) (w : World Store) :
    (∃ r, s.newId? = some r.id ∧ w.TakesIn (s.after w) r) ∨
      ∃ xs, w.Advances (s.after w) xs ∧
        ((s.after w).Orderly xs ∨ ∀ x ∈ xs, x.record.retryCount ≠ 0) := by
  cases s with
  | receive lifetime id raw now =>
    rcases Intake.after_receive lifetime id raw now w with ⟨r, rfl, h⟩ | h
    · exact .inl ⟨r, rfl, h⟩
    · exact .inr ⟨[], h.advances, .inr (by simp)⟩
  | aggregate d holdBack now =>
    obtain ⟨xs, h, horderly⟩ := Aggregate.advances hs holdBack now w
    exact .inr ⟨xs, h, .inl horderly⟩
  | retry d tier now =>
    obtain ⟨xs, h, htried⟩ := Retry.advances hs tier now w
    exact .inr ⟨xs, h, .inr htried⟩
  | purge now => exact .inr ⟨[], Purge.advances now w, .inr (by simp)⟩

/-- **Along a run** holds what holds at first and is kept by intakes and by advances. -/
theorem foldl_induction {P : World Store → Prop} {steps : List Step} (hq : ∀ s ∈ steps, s.Quiet)
    (htakesIn : ∀ {w v r}, P w → w.TakesIn v r → P v)
    (hadvances : ∀ {w v xs}, P w → w.Advances v xs →
      (v.Orderly xs ∨ ∀ x ∈ xs, x.record.retryCount ≠ 0) → P v)
    {w : World Store} (hw : P w) : P (steps.foldl after w) := by
  induction steps generalizing w with
  | nil => exact hw
  | cons s steps ih =>
    refine ih (fun x hx => hq x (List.mem_cons_of_mem s hx)) ?_
    rcases after_cases (hq s List.mem_cons_self) w with ⟨r, -, ht⟩ | ⟨xs, ha, hxs⟩
    · exact htakesIn hw ht
    · exact hadvances hw ha hxs

/-- The text of an event about one entity. -/
def sampleText : String := "\x7b\"eventType\":\"SENTENCE_IMPOSED\",\"bookingId\":7\x7d"

/-- Handlers that fail, then ask for another attempt with a deadline, then do their work. -/
def sampleDispatcher : Dispatcher :=
  Dispatcher.new.register .sentenceImposed fun history _ =>
    match history with
    | [] => ⟨[], .failure "down"⟩
    | [_] => ⟨[], .outcome (.retry (some (.ofSecond 1000)))⟩
    | _ => ⟨[], .outcome .processed⟩

/-- An event fails and is retried before a second one comes in and is done. -/
def sampleRun : List Step :=
  [.receive (.ofDays 7) (.ofNat 1) sampleText (.ofSecond 10),
    .aggregate sampleDispatcher (.ofSeconds 5) (.ofSecond 20),
    .retry sampleDispatcher .shortTerm (.ofSecond 30),
    .receive (.ofDays 7) (.ofNat 2) sampleText (.ofSecond 40),
    .aggregate sampleDispatcher (.ofSeconds 5) (.ofSecond 50),
    .purge (.ofSecond 60)]

/-- The handler of the sample answers differently from call to call, but it only answers; and the
sink takes every count. -/
theorem sampleDispatcher_quiet : sampleDispatcher.Quiet := by
  refine ⟨?_, rfl⟩
  intro t h ht history r
  rw [sampleDispatcher, Dispatcher.handler?_register] at ht
  split at ht
  · cases ht
    rcases history with _ | ⟨_, _ | ⟨_, _⟩⟩ <;> rfl
  · cases ht

/-- So every step of the sample is one that the results are about. -/
theorem sampleRun_quiet : ∀ s ∈ sampleRun, s.Quiet := by
  simp [sampleRun, Quiet, sampleDispatcher_quiet]

end Step

end Reconciliation
