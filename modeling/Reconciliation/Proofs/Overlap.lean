import Reconciliation.Proofs.Accounting
import Reconciliation.Proofs.Course

/-!
# An aggregation and a retry at the same time

The aggregation and a retry have different locks, so their steps may come in any order. A
write puts a whole record in place of the stored one, and what is written was read some
time before. A record that is done can therefore be undone: by the failed attempt of a
copy that a retry had read before the aggregation completed the record
(`Overlap.sampleOverlap_undone`).

Nothing else can undo it. Once a record is done, the aggregation has no copy of it, and no
pass reads it again; so as long as no copy that was out at that time comes back as failed,
it stays done or goes (`Overlap.done_unless_undone`).

* `Overlap.Consistent`: what holds of the store and of the copies that both passes have, in
  whatever order they take their steps.
* `Overlap.Keeps`: what holds of one record from the time at which it is done.
-/

namespace Reconciliation

/-- An aggregation and a retry at work in one world. Each has copies of the records that it read,
and they share the store and the traces. -/
structure Overlap where
  world : World Store
  aggregation : Phase
  retry : Phase

/-- Which pass takes the next step. -/
inductive Turn where
  | aggregation
  | retry
deriving DecidableEq

namespace Overlap

variable (a r : Course Store)

/-- One of the passes takes a step. -/
def turn (o : Overlap) : Turn → Overlap
  | .aggregation =>
    let (phase, world) := a.turn o.aggregation o.world
    { o with world, aggregation := phase }
  | .retry =>
    let (phase, world) := r.turn o.retry o.world
    { o with world, retry := phase }

/-- Both passes after some steps from a store. -/
def run (s : Store) (turns : List Turn) : Overlap := turns.foldl (turn a r) ⟨.of s, .start, .start⟩

variable {a r : Course Store} {origin : Store} {o : Overlap}

/-- Turns are taken one after another, so a run may be broken off anywhere and be looked at from
there. -/
theorem run_append (s : Store) (before after : List Turn) :
    run a r s (before ++ after) = after.foldl (turn a r) (run a r s before) :=
  List.foldl_append ..

/-- Handlers that do their work at the first call and fail after it. -/
def sampleDispatcher : Dispatcher :=
  Dispatcher.new.register .sentenceImposed fun history _ =>
    match history with
    | [] => ⟨[], .outcome .processed⟩
    | _ => ⟨[], .failure "down"⟩

/-- A record that has failed once, and an untried one of its group. -/
def sampleStore : Store :=
  ⟨[{ Aggregate.sample 1 20 .sentenceImposed with retryCount := 1 },
    Aggregate.sample 2 10 .sentenceImposed], by decide⟩

/-- Both passes at work on the sample. -/
def sampleOverlap : List Turn → Overlap :=
  run (Aggregate.course sampleDispatcher (.ofSeconds 60) (.ofSecond 100))
    (Retry.course sampleDispatcher .shortTerm (.ofSecond 101)) sampleStore

/-- The retry selects, then the aggregation sweeps in and completes the record that failed. -/
def sampleTurns : List Turn := .retry :: List.replicate 5 .aggregation

/-- **What is done can be undone.** The aggregation has completed a record, and the failed attempt
of the copy that the retry has of it puts an unprocessed record in its place. -/
theorem sampleOverlap_undone :
    ((sampleOverlap sampleTurns).world.backend.get? (.ofNat 1)).map (·.processed) =
        some (some (.ofSecond 100)) ∧
      ((sampleOverlap (sampleTurns ++ [.retry, .retry])).world.backend.get? (.ofNat 1)).map
        (·.processed) = some none := by
  decide +kernel

/-- What holds in whatever order the passes take their steps. It says how good the copies are: what
the aggregation may still write is not done, however old its copy is. -/
structure Consistent (a r : Course Store) (origin : Store) (o : Overlap) : Prop where
  known : ∀ x ∈ o.world.backend.records, x.Known origin
  aggregation : o.aggregation.Sound origin a o.world
  retry : o.retry.Sound origin r o.world
  /-- What the aggregation may still write is not done. -/
  unfinished : ∀ x ∈ o.aggregation.copies, ∀ y ∈ o.world.backend.records, y.id = x.id →
    y.processed = none
  /-- Nor is what the retry may still write, before the aggregation has begun to write. -/
  early : o.aggregation.isEarly = true → ∀ x ∈ o.retry.copies, ∀ y ∈ o.world.backend.records,
    y.id = x.id → y.processed = none

/-- Before the first turn there is nothing to be kept: no pass has a copy, and the store is the one
that it began with. -/
theorem consistent_start (s : Store) : (run a r s []).Consistent a r s := by
  have hsound : ∀ c : Course Store, Phase.start.Sound s c (.of s) := by
    intro c
    exact ⟨by simp [Phase.copies], by simp [Phase.copies], List.nodup_nil, by simp, by simp⟩
  refine ⟨fun x hx => ⟨x, hx, .refl x⟩, hsound a, hsound r, ?_, ?_⟩ <;> simp [run, Phase.copies]

/-- What one pass has dispatched stays true while the other takes its turns, since dispatches are
only added. -/
theorem sound_mono {c : Course Store} {p : Phase} {w v : World Store} (hp : p.Sound origin c w)
    (hsub : w.dispatches ⊆ v.dispatches) : p.Sound origin c v :=
  ⟨hp.known, hp.unprocessed, hp.distinct, hp.fetched, fun report x result todo duplicates h =>
    hsub (hp.dispatched report x result todo duplicates h)⟩

/-- A write of a pass that removes what is done leaves an unprocessed record. -/
theorem left_unprocessed {now : Instant} {x y : WorkRecord} {result : Except String Outcome}
    (h : Pass.left .remove now x result = some y) : y.processed = x.processed := by
  rcases result with message | status | (_ | t) <;>
    simp only [Pass.left, Option.some.injEq, reduceCtorEq] at h <;> subst h <;> rfl

/-- A step of the aggregation. -/
theorem Consistent.aggregation_turn (h : o.Consistent a r origin) (ha : a.Opens)
    (hd : a.dispatcher.OnlyAnswers) : (turn a r o .aggregation).Consistent a r origin := by
  have hm := Course.turn_moves ha hd h.known h.aggregation
  obtain ⟨heffect, hsound, hdispatches, hearly⟩ := hm
  refine ⟨heffect.known h.aggregation h.known, hsound, sound_mono h.retry hdispatches, ?_, ?_⟩
  · intro x hx y hy hid
    rcases heffect.stored hy with hy | ⟨z, result, -, hcopies, hsame, -, -⟩
    · rcases heffect.copies hx with hx | ⟨-, hxs, hxp⟩
      · exact h.unfinished x hx y hy hid
      · rw [Store.eq_of_id hy hxs hid]
        exact hxp
    · exact absurd (hid.symm.trans hsame.id) (Course.id_ne_of_copies h.aggregation hcopies hx)
  · -- an early step writes nothing
    intro hq x hx y hy hid
    rcases heffect.stored hy with hy | ⟨z, result, hlate, -, -, -, -⟩
    · exact h.early (hearly hq) x hx y hy hid
    · rw [hearly hq] at hlate
      cases hlate

/-- A step of the retry. -/
theorem Consistent.retry_turn (h : o.Consistent a r origin) (hr : r.Opens)
    (hd : r.dispatcher.OnlyAnswers) (hremove : r.whenDone = .remove) :
    (turn a r o .retry).Consistent a r origin := by
  have hm := Course.turn_moves hr hd h.known h.retry
  obtain ⟨heffect, hsound, hdispatches, -⟩ := hm
  -- the retry removes what is done, so whatever it writes is unprocessed
  have hwritten : ∀ {z y result}, o.retry.copies = z :: (r.turn o.retry o.world).1.copies →
      Pass.left r.whenDone r.now z result = some y → y.processed = none := by
    intro z y result hcopies hleft
    rw [hremove] at hleft
    rw [left_unprocessed hleft]
    exact h.retry.unprocessed z (by simp [hcopies])
  refine ⟨heffect.known h.retry h.known, sound_mono h.aggregation hdispatches, hsound, ?_, ?_⟩
  · intro x hx y hy hid
    rcases heffect.stored hy with hy | ⟨z, result, -, hcopies, -, -, hleft⟩
    · exact h.unfinished x hx y hy hid
    · exact hwritten hcopies hleft
  · intro hq x hx y hy hid
    rcases heffect.stored hy with hy | ⟨z, result, -, hcopies, -, -, hleft⟩
    · rcases heffect.copies hx with hx | ⟨-, hxs, hxp⟩
      · exact h.early hq x hx y hy hid
      · rw [Store.eq_of_id hy hxs hid]
        exact hxp
    · exact hwritten hcopies hleft

/-- What became of a record that was done: a copy of it that the retry had came back as failed. -/
structure Undone (r : Course Store) (copies : List WorkRecord) (id : RecordId) (o : Overlap) :
    Prop where
  begun : o.aggregation.isEarly = false
  selected : o.retry.isEarly = false
  spent : ∀ x ∈ o.retry.copies, x.id ≠ id
  failed : ∃ x ∈ o.world.dispatches, x.pass = r.name ∧ x.record ∈ copies ∧ x.record.id = id ∧
    x.completed = false ∧ ∀ y ∈ o.world.backend.records, y.id = id → x.left = some y

/-- What holds of a record from the time at which it is done, given the copies that the retry has at
that time. -/
structure Keeps (r : Course Store) (copies : List WorkRecord) (id : RecordId) (t : Instant)
    (o : Overlap) : Prop where
  aggregation : ∀ x ∈ o.aggregation.copies, x.id ≠ id
  retry : ∀ x ∈ o.retry.copies, x.id = id → x ∈ copies
  early : o.aggregation.isEarly = true → ∀ x ∈ o.retry.copies, x.id ≠ id
  record : (∀ y ∈ o.world.backend.records, y.id = id → y.processed = some t) ∨
    o.Undone r copies id

variable {copies : List WorkRecord} {id : RecordId} {t : Instant}

/-- No pass reads the record again. -/
theorem Keeps.not_read (h : o.Keeps r copies id t)
    (hearly : o.aggregation.isEarly = true ∨ o.retry.isEarly = true) {x : WorkRecord}
    (hx : x ∈ o.world.backend.records) (hp : x.processed = none) : x.id ≠ id := by
  intro hid
  rcases h.record with hdone | hundone
  · have hxt := hdone x hx hid
    rw [hp] at hxt
    cases hxt
  · rw [hundone.begun, hundone.selected] at hearly
    rcases hearly with hearly | hearly <;> cases hearly

/-- A record that is done satisfies the invariant of the theorem at once: it is still in the store
as it was. -/
theorem Consistent.keeps {q : WorkRecord} (h : o.Consistent a r origin)
    (hq : q ∈ o.world.backend.records) (ht : q.processed = some t) :
    o.Keeps r o.retry.copies q.id t := by
  refine ⟨?_, fun x hx _ => hx, ?_, .inl ?_⟩
  · intro x hx hid
    rw [h.unfinished x hx q hq hid.symm] at ht
    cases ht
  · intro hearly x hx hid
    rw [h.early hearly x hx q hq hid.symm] at ht
    cases ht
  · intro y hy hid
    rw [Store.eq_of_id hy hq hid]
    exact ht

/-- A turn of the aggregation keeps it, since no pass of it ever writes to a record that is done. -/
theorem Keeps.aggregation_turn (h : o.Keeps r copies id t) (hc : o.Consistent a r origin)
    (ha : a.Opens) (hd : a.dispatcher.OnlyAnswers) :
    (turn a r o .aggregation).Keeps r copies id t := by
  have hm := Course.turn_moves ha hd hc.known hc.aggregation
  obtain ⟨heffect, -, hdispatches, hearly⟩ := hm
  -- the aggregation has no copy under this identifier, so it writes nothing there
  have hstored : ∀ y ∈ (a.turn o.aggregation o.world).2.backend.records, y.id = id →
      y ∈ o.world.backend.records := by
    intro y hy hid
    rcases heffect.stored hy with hy | ⟨z, result, -, hcopies, hsame, -, -⟩
    · exact hy
    · exact absurd (hsame.id.symm.trans hid) (h.aggregation z (by simp [hcopies]))
  refine ⟨?_, h.retry, fun hq => h.early (hearly hq), ?_⟩
  · intro x hx
    rcases heffect.copies hx with hx | ⟨he, hxs, hxp⟩
    · exact h.aggregation x hx
    · exact h.not_read (.inl he) hxs hxp
  · rcases h.record with hdone | ⟨hbegun, hselected, hspent, x, hx, hpass, hmem, hid, hc, hleft⟩
    · exact .inl fun y hy hid => hdone y (hstored y hy hid) hid
    · refine .inr ⟨?_, hselected, hspent, x, hdispatches hx, hpass, hmem, hid, hc, ?_⟩
      · rw [Bool.eq_false_iff] at hbegun ⊢
        exact fun hq => hbegun (hearly hq)
      · exact fun y hy hyid => hleft y (hstored y hy hyid) hyid

/-- A step of the retry keeps a record done, or removes it, or undoes it. -/
theorem Keeps.retry_turn (h : o.Keeps r copies id t) (hc : o.Consistent a r origin) (hr : r.Opens)
    (hd : r.dispatcher.OnlyAnswers) (hremove : r.whenDone = .remove)
    (hname : r.name ≠ Aggregate.name) : (turn a r o .retry).Keeps r copies id t := by
  have hm := Course.turn_moves hr hd hc.known hc.retry
  obtain ⟨heffect, -, hdispatches, hearly⟩ := hm
  have hcopies : ∀ x ∈ (r.turn o.retry o.world).1.copies, x.id = id → x ∈ o.retry.copies := by
    intro x hx hid
    rcases heffect.copies hx with hx | ⟨he, hxs, hxp⟩
    · exact hx
    · exact absurd hid (h.not_read (.inr he) hxs hxp)
  have hselected : o.retry.isEarly = false → (r.turn o.retry o.world).1.isEarly = false := by
    intro hlate
    rw [Bool.eq_false_iff] at hlate ⊢
    exact fun hq => hlate (hearly hq)
  refine ⟨h.aggregation, fun x hx hid => h.retry x (hcopies x hx hid) hid,
    fun he x hx hid => h.early he x (hcopies x hx hid) hid, ?_⟩
  rcases h.record with hdone | ⟨hbegun, hlate, hspent, x, hx, hpass, hmem, hid, hfailed, hleft⟩
  · by_cases hall : ∀ y ∈ (r.turn o.retry o.world).2.backend.records, y.id = id →
        y.processed = some t
    · exact .inl hall
    · -- what is not done now is the result of a copy of this record
      push Not at hall
      obtain ⟨y, hy, hid, hne⟩ := hall
      rcases heffect.stored hy with hyw | ⟨z, result, hlate, hzcopies, hsame, hz, hleft⟩
      · exact absurd (hdone y hyw hid) hne
      · have hzmem : z ∈ o.retry.copies := by simp [hzcopies]
        have hzid : z.id = id := hsame.id.symm.trans hid
        let x : Dispatch := ⟨r.name, z, r.now, result⟩
        have hxleft : x.left = some y := by
          rw [← hleft, Dispatch.left, if_neg hname, hremove]
        refine .inr ⟨?_, hselected hlate, ?_, x, hdispatches hz, rfl, h.retry z hzmem hzid, hzid,
          ?_, ?_⟩
        · rw [Bool.eq_false_iff]
          exact fun he => h.early he z hzmem hzid
        · intro u hu huid
          exact Course.id_ne_of_copies hc.retry hzcopies hu (huid.trans hzid.symm)
        · rcases Dispatch.left_cases hxleft with ⟨-, hpass, -⟩ | ⟨hfailed, -⟩
          · exact absurd hpass hname
          · exact hfailed
        · intro u hu huid
          rw [hxleft, Store.eq_of_id hu hy (huid.trans hid.symm)]
  · refine .inr ⟨hbegun, hselected hlate, fun y hy hid => hspent y (hcopies y hy hid) hid, x,
      hdispatches hx, hpass, hmem, hid, hfailed, ?_⟩
    intro y hy hyid
    rcases heffect.stored hy with hy | ⟨z, result, -, hzcopies, hsame, -, -⟩
    · exact hleft y hy hyid
    · exact absurd (hsame.id.symm.trans hyid) (hspent z (by simp [hzcopies]))

/-- Both invariants hold along every order of steps. -/
theorem consistent_foldl (h : o.Consistent a r origin) (ha : a.Opens)
    (hda : a.dispatcher.OnlyAnswers) (hr : r.Opens) (hdr : r.dispatcher.OnlyAnswers)
    (hremove : r.whenDone = .remove) (turns : List Turn) :
    (turns.foldl (turn a r) o).Consistent a r origin := by
  induction turns generalizing o with
  | nil => exact h
  | cons x turns ih =>
    cases x with
    | aggregation => exact ih (h.aggregation_turn ha hda)
    | retry => exact ih (h.retry_turn hr hdr hremove)

/-- And so do any turns of both, by induction on the turns; both invariants go along. -/
theorem keeps_foldl (h : o.Keeps r copies id t) (hc : o.Consistent a r origin) (ha : a.Opens)
    (hda : a.dispatcher.OnlyAnswers) (hr : r.Opens) (hdr : r.dispatcher.OnlyAnswers)
    (hremove : r.whenDone = .remove) (hname : r.name ≠ Aggregate.name) (turns : List Turn) :
    (turns.foldl (turn a r) o).Keeps r copies id t := by
  induction turns generalizing o with
  | nil => exact h
  | cons x turns ih =>
    cases x with
    | aggregation => exact ih (h.aggregation_turn hc ha hda) (hc.aggregation_turn ha hda)
    | retry => exact ih (h.retry_turn hc hr hdr hremove hname) (hc.retry_turn hr hdr hremove)

/-- **What is done stays done or goes, unless a copy comes back as failed.** Let an aggregation and
a retry take their steps in any order, from any store, with handlers that answer as they like. If at
some time a stored record is done, then at any later time it is still done at that instant, or it is
gone, or the retry has had an unprocessed copy of it at the first time, its attempt of that copy has
failed, and the store holds what the failed attempt left. -/
theorem done_unless_undone {da dr : Dispatcher} (hda : da.OnlyAnswers) (hdr : dr.OnlyAnswers)
    (holdBack : Span) (tier : RetryTier) (now later : Instant) (s : Store)
    (before after : List Turn) {q : WorkRecord} {t : Instant} :
    let a := Aggregate.course da holdBack now
    let r := Retry.course dr tier later
    q ∈ (run a r s before).world.backend.records → q.processed = some t →
      let o := run a r s (before ++ after)
      o.world.backend.get? q.id = none ∨
        (∃ y, o.world.backend.get? q.id = some y ∧ y.processed = some t) ∨
        ∃ x ∈ o.world.dispatches, x.pass = tier.name ∧ x.record ∈ (run a r s before).retry.copies ∧
          x.record.id = q.id ∧ x.record.processed = none ∧ x.completed = false ∧
          o.world.backend.get? q.id = x.left := by
  intro a r hq ht o
  have ha := Aggregate.course_opens da holdBack now
  have hr := Retry.course_opens dr tier later
  have hname : tier.name ≠ Aggregate.name := by cases tier <;> decide
  have hc : (run a r s before).Consistent a r s :=
    consistent_foldl (consistent_start s) ha hda hr hdr rfl before
  have hkeeps := keeps_foldl (hc.keeps hq ht) hc ha hda hr hdr rfl hname after
  rw [← run_append] at hkeeps
  cases hg : o.world.backend.get? q.id with
  | none => exact .inl rfl
  | some y =>
    obtain ⟨hy, hid⟩ := Store.get?_eq_some_iff.1 hg
    rcases hkeeps.record with hdone | ⟨-, -, -, x, hx, hpass, hmem, hxid, hfailed, hleft⟩
    · exact .inr (.inl ⟨y, rfl, hdone y hy hid⟩)
    · -- a copy that the retry has is one that it read unprocessed
      have hxp : x.record.processed = none := hc.retry.unprocessed x.record hmem
      exact .inr (.inr ⟨x, hx, hpass, hmem, hxid, hxp, hfailed, (hleft y hy hid).symm⟩)

/-- The handler of the sample only answers. -/
theorem sampleDispatcher_onlyAnswers : sampleDispatcher.OnlyAnswers := by
  intro t h ht history r
  rw [sampleDispatcher, Dispatcher.handler?_register] at ht
  split at ht
  · cases ht
    rcases history with _ | ⟨_, _⟩ <;> rfl
  · cases ht

/-- In the sample it is the copy of the retry that comes back as failed. -/
theorem sampleOverlap_failed :
    ∃ x ∈ (sampleOverlap (sampleTurns ++ [.retry, .retry])).world.dispatches,
      x.pass = "retry-short-term" ∧ x.record ∈ (sampleOverlap sampleTurns).retry.copies ∧
      x.record.id = .ofNat 1 ∧ x.record.processed = none ∧ x.completed = false ∧
      (sampleOverlap (sampleTurns ++ [.retry, .retry])).world.backend.get? (.ofNat 1) = x.left := by
  let q : WorkRecord := { Aggregate.sample 1 20 .sentenceImposed with
    retryCount := 1, processed := some (.ofSecond 100), status := some Status.processed }
  have hq : q ∈ (sampleOverlap sampleTurns).world.backend.records := by decide +kernel
  have hlater : ((sampleOverlap (sampleTurns ++ [.retry, .retry])).world.backend.get?
      (.ofNat 1)).map (·.processed) = some none := by decide +kernel
  rcases done_unless_undone sampleDispatcher_onlyAnswers sampleDispatcher_onlyAnswers
    (.ofSeconds 60) .shortTerm (.ofSecond 100) (.ofSecond 101) sampleStore sampleTurns
    [.retry, .retry] hq rfl with hgone | ⟨y, hy, hdone⟩ | hfailed
  · change (sampleOverlap (sampleTurns ++ [.retry, .retry])).world.backend.get? (.ofNat 1) = none
      at hgone
    rw [hgone] at hlater
    cases hlater
  · change (sampleOverlap (sampleTurns ++ [.retry, .retry])).world.backend.get? (.ofNat 1) = some y
      at hy
    rw [hy, Option.map_some, hdone] at hlater
    cases hlater
  · exact hfailed

end Overlap

end Reconciliation
