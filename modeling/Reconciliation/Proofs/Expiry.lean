import Reconciliation.Pass.Basic
import Reconciliation.Proofs.Instant
import Reconciliation.Proofs.Rows
import Reconciliation.Record.Envelope

/-!
# What is expired

A record in memory is expired by its instant, a row by its second. The two agree because every
operation on records leaves the expiry at a whole second, and the second of an instant is cut
down, before 1970 as after it, and also within a leap second.

* `WorkRecord.Arises`: the records that come up, by how they are made and changed.
* `WorkRecord.Arises.expiry_nano`: their expiry is at a whole second.
* `Instant.le_iff_second_le`: before a whole second lies what has an earlier second.
* `WorkRecord.Arises.expiresAlike`: so the passes, the store in memory and the database all
  take the same records for expired.
-/

namespace Reconciliation

namespace Instant

/-- Whether a whole second has been reached depends on seconds only. -/
theorem le_iff_second_le {a b : Instant} (ha : a.nano = 0) : a ≤ b ↔ a.second ≤ b.second := by
  have hb := b.nano_lt
  rw [le_iff_rank_le]
  simp only [rank, ha]
  omega

/-- Cutting to whole seconds keeps the order. -/
theorem wholeSecond_le_wholeSecond {a b : Instant} (h : a ≤ b) : a.wholeSecond ≤ b.wholeSecond := by
  have ha := a.nano_lt
  have hb := b.nano_lt
  rw [le_iff_rank_le] at h
  rw [le_iff_second_le rfl]
  simp only [rank] at h
  change a.second ≤ b.second
  omega

/-- The later of two instants is not before the second. -/
theorem le_max_right (a b : Instant) : b ≤ max a b := by
  change b ≤ if a ≤ b then b else a
  rw [le_iff_rank_le]
  split
  · exact Int.le_refl _
  · rename_i h
    rw [le_iff_rank_le] at h
    omega

end Instant

namespace WorkRecord

/-- The records that come up: made anew or from an event, then changed by the operations on
records, at any time. What is done already cannot be done again. -/
inductive Arises : WorkRecord → Prop where
  | new (id : RecordId) (entity : EntityId) (eventType : EventType) (payload : String)
      (created : Instant) : Arises (.new id entity eventType payload created)
  | received (e : Envelope) (id : RecordId) (received : Instant) (lifetime : Span) :
      Arises (e.record id received lifetime)
  | expiring {r : WorkRecord} (h : Arises r) (t : Instant) : Arises (r.withExpiry t)
  | failed {r : WorkRecord} (h : Arises r) (status : String) (until? : Option Instant)
      (now : Instant) : Arises (r.recordFailure status until? now)
  | done {r next : WorkRecord} (h : Arises r) {status : String} {now : Instant}
      (hdone : r.markProcessed status now = .ok next) : Arises next

/-- Being done does not move the expiry. -/
theorem expiry_markProcessed {r next : WorkRecord} {status : String} {now : Instant}
    (h : r.markProcessed status now = .ok next) : next.expiry = r.expiry := by
  rw [markProcessed] at h
  split at h
  · cases h
  · cases h
    rfl

/-- **The expiry is at a whole second** whatever has become of a record. -/
theorem Arises.expiry_nano {r : WorkRecord} (h : r.Arises) : r.expiry.nano = 0 := by
  induction h with
  | new => rfl
  | received => rfl
  | expiring => rfl
  | failed h status until? now ih =>
    cases until? with
    | none => exact ih
    | some t => rfl
  | done h hdone ih => rw [expiry_markProcessed hdone, ih]

end WorkRecord

namespace Postgres

/-- Whether a row passes the condition of the purge, `expiry <= $1`. -/
def purges (s : Statement) (row : Row) : Bool :=
  match row.cell "expiry", s.params with
  | .ok (some (.int8 expiry)), [.value (some (.int8 limit))] => decide (expiry ≤ limit)
  | _, _ => false

/-- The purge sends the second of the instant. -/
theorem sent_deleteExpired {c : Connection} (hc : c.closed = false) (now : Instant) :
    (deleteExpired now c).2.sent =
      c.sent ++ [⟨"DELETE FROM messages WHERE expiry <= $1", [.of (.int8 now.second)]⟩] := by
  refine Eq.trans ?_ (sent_execute hc _ _)
  rw [deleteExpired]
  split <;> rename_i h <;> exact congrArg (·.2.sent) h.symm

/-- The database deletes a row if its record expires at a whole second that has come. -/
theorem purges_row {row : Row} {r : WorkRecord} (h : row.Holds r) (text : String) (now : Instant) :
    purges ⟨text, [.of (.int8 now.second)]⟩ row = decide (r.expiry.second ≤ now.second) := by
  have hcell := h ("expiry", some (.int8 r.expiry.second)) (by simp [rowOf, columns, valuesOf])
  simp only [purges, hcell, Param.of]

end Postgres

namespace WorkRecord

open Postgres in
/-- A record that is expired for all alike. Passes, the store in memory, the purge of the database
and a row that is read back all take it as expired at the same instants. -/
structure ExpiresAlike (r : WorkRecord) : Prop where
  whole : r.expiry.nano = 0
  expired_iff : ∀ now, r.isExpired now = true ↔ r.expiry.second ≤ now.second
  /-- A pass abandons it by the second. -/
  treated : ∀ {σ : Type} [RecordStore σ] (pass : String) (d : Dispatcher) (whenDone : WhenDone)
    (now : Instant) (report : Report),
    Pass.treat (σ := σ) pass d whenDone now report r =
      if r.expiry.second ≤ now.second then Pass.abandon pass report r
      else Pass.attempt pass d whenDone now report r
  /-- The purge of the store in memory removes it by the second. -/
  purged : ∀ (s : Store) (now : Instant), s.get? r.id = some r →
    ((s.purge now).2.get? r.id = none ↔ r.expiry.second ≤ now.second)
  /-- The purge of the database removes its row, inserted or updated, by the second. -/
  deleted : ∀ (c : Connection) (now : Instant), c.closed = false →
    ∃ purge inserted updated, (deleteExpired now c).2.sent = c.sent ++ [purge] ∧
      purge.text = "DELETE FROM messages WHERE expiry <= $1" ∧
      (insert r c).2.sent = c.sent ++ [inserted] ∧ (update r c).2.sent = c.sent ++ [updated] ∧
      ∀ s ∈ [inserted, updated], (purges purge s.row = true ↔ r.expiry.second ≤ now.second)
  /-- A deadline moves the expiry, but not before the current second. -/
  deadline : ∀ status t now, now.wholeSecond ≤ (r.recordFailure status (some t) now).expiry
  noDeadline : ∀ status now, (r.recordFailure status none now).expiry = r.expiry
  /-- What is stored of the expiry is the expiry. -/
  stored : Instant.of? r.expiry.second 0 = some r.expiry
  /-- A row of the record, inserted or updated, reads back with it. -/
  readBack : ∀ c : Connection, c.closed = false → ∃ inserted updated,
    (insert r c).2.sent = c.sent ++ [inserted] ∧ (update r c).2.sent = c.sent ++ [updated] ∧
    ∀ s ∈ [inserted, updated], ∃ back, recordOfRow s.row = .ok back ∧ back.expiry = r.expiry

/-- **All stores agree on what is expired.** -/
theorem Arises.expiresAlike {r : WorkRecord} (hr : r.Arises) : r.ExpiresAlike := by
  have hwhole := hr.expiry_nano
  -- with nothing behind the second, comparing instants is comparing seconds
  have hexpired : ∀ now, r.isExpired now = true ↔ r.expiry.second ≤ now.second := by
    intro now
    rw [isExpired, decide_eq_true_iff]
    exact Instant.le_iff_second_le hwhole
  have hself : r.expiry.wholeSecond = r.expiry := Instant.ext rfl hwhole.symm
  refine ⟨hwhole, hexpired, ?_, ?_, ?_, ?_, fun _ _ => rfl, ?_, ?_⟩
  · intro σ _ pass d whenDone now report
    simp only [Pass.treat, hexpired]
  · intro s now hs
    rw [Store.get?_purge, hs, ← hexpired]
    simp [Option.filter]
  · intro c now hc
    obtain ⟨inserted, hinserted, hrow⟩ := Postgres.holds_insert hc r
    obtain ⟨updated, hupdated, hrow'⟩ := Postgres.holds_update hc r
    refine ⟨_, inserted, updated, Postgres.sent_deleteExpired hc now, rfl, hinserted, hupdated,
      fun s hs => ?_⟩
    rcases List.mem_pair.1 hs with rfl | rfl
    · rw [Postgres.purges_row hrow, decide_eq_true_iff]
    · rw [Postgres.purges_row hrow', decide_eq_true_iff]
  · intro status t now
    exact Instant.wholeSecond_le_wholeSecond (Instant.le_max_right t now)
  · rw [Postgres.of?_second, hself]
  · intro c hc
    obtain ⟨inserted, hinserted, hrow⟩ := Postgres.holds_insert hc r
    obtain ⟨updated, hupdated, hrow'⟩ := Postgres.holds_update hc r
    refine ⟨inserted, updated, hinserted, hupdated, fun s hs => ?_⟩
    rcases List.mem_pair.1 hs with rfl | rfl
    · exact ⟨_, hrow.recordOfRow, hself⟩
    · exact ⟨_, hrow'.recordOfRow, hself⟩

/-- A record of the first instant, to live beyond the last one, that failed with a deadline in a
leap second before 1970. -/
def leapDeadline : WorkRecord :=
  (Envelope.record ⟨.sentenceImposed, ⟨1, by decide, by decide⟩, ""⟩ (.ofNat 1) .earliest
    (.ofDays 1000000000)).recordFailure Status.retry
      (some ⟨-1, 1250000000, by decide, by decide, by decide, by decide⟩) .earliest

/-- It is expired from the second that the leap second belongs to, on the nanosecond. -/
theorem expiresAlike_leapDeadline :
    leapDeadline.isExpired ⟨-1, 0, by decide, by decide, by decide, by decide⟩ = true ∧
      leapDeadline.isExpired ⟨-2, 999999999, by decide, by decide, by decide, by decide⟩ = false ∧
      leapDeadline.ExpiresAlike := by
  have halike : leapDeadline.ExpiresAlike := ((Arises.received _ _ _ _).failed _ _ _).expiresAlike
  have hsecond : leapDeadline.expiry.second = -1 := by decide
  refine ⟨(halike.expired_iff _).2 (Int.le_of_eq hsecond), ?_, halike⟩
  rw [Bool.eq_false_iff, ne_eq, halike.expired_iff, hsecond]
  decide

end WorkRecord

end Reconciliation
