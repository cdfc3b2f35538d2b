import Reconciliation.Proofs.Envelopes
import Reconciliation.Proofs.Pipeline

/-!
# An intake is all or nothing

A text that comes in can fail to be an event, in several ways, and the identifier for its record can
be in use. Then the store is as it was. Otherwise it holds one more record, whose payload is the
text of the event (`Envelope.EventText`), which is never written anew.

* `Envelope.eventText_body`: an event keeps its text.
* `Intake.receive_of_malformed`, `Intake.receive_of_stored`, `Intake.receive_of_new`: the three ways
  in which an intake ends.
* `Intake.receives_all_or_nothing`: which of them it is, and what the store holds then.
-/

namespace Reconciliation

open Json (ok_of_bind)

namespace Envelope

variable {raw : String} {env : Envelope}

/-- The text of the event in a text that came in: that which a notification holds, or else the text
itself. -/
inductive EventText (raw : String) : String → Prop
  | held {outer : Json.Value} {body : String} (hread : Json.read raw.toList = .ok outer)
      (hmessage : outer.member? "Message" = some (.string body)) : EventText raw body
  | bare {outer : Json.Value} (hread : Json.read raw.toList = .ok outer)
      (hmessage : ∀ s, outer.member? "Message" ≠ some (.string s)) : EventText raw raw

/-- A body is read as a value is; what the context adds is only the text of the error. -/
theorem read_of_readBody {context body : String} {v : Json.Value}
    (h : readBody context body = .ok v) : Json.read body.toList = .ok v := by
  rw [readBody] at h
  split at h
  · rename_i hread
    rw [hread, Except.ok.inj h]
  · cases h

/-- **An event keeps its text** character for character. -/
theorem eventText_body (h : parse raw = .ok env) : EventText raw env.body := by
  rw [parse] at h
  obtain ⟨outer, houter, h⟩ := ok_of_bind h
  have hread := read_of_readBody houter
  cases hmessage : (outer.member? "Message").bind Json.Value.string? with
  | none =>
    rw [hmessage] at h
    obtain ⟨-, name, -, e, -, rfl⟩ := ofBody_eq_ok_iff.1 h
    refine .bare hread fun s hs => ?_
    rw [hs] at hmessage
    cases hmessage
  | some inner =>
    rw [hmessage] at h
    obtain ⟨event, -, h⟩ := ok_of_bind h
    obtain ⟨-, name, -, e, -, rfl⟩ := ofBody_eq_ok_iff.1 h
    obtain ⟨v, hv, hinner⟩ := Option.bind_eq_some_iff.1 hmessage
    refine .held hread (hv.trans ?_)
    cases v with
    | string s =>
      obtain rfl : s = inner := Option.some.inj hinner
      rfl
    | _ => cases hinner

end Envelope

namespace Intake

variable {raw : String} {env : Envelope} {id : RecordId}

/-- A record of an event that came in under an identifier at an instant, with which nothing was done
so far. -/
structure Made (raw : String) (id : RecordId) (now : Instant) (r : WorkRecord) : Prop where
  id : r.id = id
  event : ∃ env, Envelope.parse raw = .ok env ∧ r.eventType = env.eventType ∧ r.entity = env.entity
  payload : Envelope.EventText raw r.payload
  created : r.created = now
  retryCount : r.retryCount = 0
  processed : r.processed = none
  status : r.status = none

/-- The record of an envelope is as the statement says: its fields from the envelope, and its
payload what was received, untouched. -/
theorem made_record (h : Envelope.parse raw = .ok env) (id : RecordId) (now : Instant)
    (lifetime : Span) : Made raw id now (env.record id now lifetime) where
  id := rfl
  event := ⟨env, h, rfl, rfl⟩
  payload := Envelope.eventText_body h
  created := rfl
  retryCount := rfl
  processed := rfl
  status := rfl

/-- A text that is no event changes nothing. -/
theorem receive_of_malformed {why : EnvelopeError} (h : Envelope.parse raw = .error why)
    (lifetime : Span) (id : RecordId) (now : Instant) (w : World Store) :
    ∃ v, receive lifetime id raw now w = (.ok (.error (.envelope why)), v) ∧
      v.backend = w.backend := by
  rw [receive, h]
  exact ⟨_, rfl, rfl⟩

/-- An identifier that is in use changes nothing. -/
theorem receive_of_stored (h : Envelope.parse raw = .ok env) {w : World Store}
    (hstored : ∃ x ∈ w.backend.records, x.id = id) (lifetime : Span) (now : Instant) :
    ∃ v, receive lifetime id raw now w = (.ok (.error (.store (.alreadyExists id))), v) ∧
      v.backend = w.backend := by
  have hcontains : w.backend.contains id = true := by
    obtain ⟨x, hx, rfl⟩ := hstored
    exact Store.contains_eq_true_iff.2 (List.mem_map_of_mem hx)
  have hinsert : w.backend.insert (env.record id now lifetime) = .error (.alreadyExists id) :=
    dif_pos hcontains
  have hstep : (Records.insert (env.record id now lifetime) : Run Store _) w =
      (.ok (.error (.alreadyExists id)), w) := by
    rw [Records.insert_apply, hinsert]
    rfl
  rw [receive, h]
  dsimp only
  rw [Run.bind_ok hstep]
  exact ⟨_, rfl, rfl⟩

/-- With a new identifier there is one more record, and all others are as before. -/
theorem receive_of_new (h : Envelope.parse raw = .ok env) {w : World Store}
    (hnew : ∀ x ∈ w.backend.records, x.id ≠ id) (lifetime : Span) (now : Instant) :
    ∃ v, receive lifetime id raw now w = (.ok (.ok (env.record id now lifetime)), v) ∧
      v.backend.records.Perm (env.record id now lifetime :: w.backend.records) ∧
      ∀ k, v.backend.get? k =
        if k = id then some (env.record id now lifetime) else w.backend.get? k := by
  have hcontains : ¬ w.backend.contains id = true := by
    intro hstored
    obtain ⟨x, hx, hid⟩ := List.mem_map.1 (Store.contains_eq_true_iff.1 hstored)
    exact hnew x hx hid
  obtain ⟨s, hinsert⟩ : ∃ s, w.backend.insert (env.record id now lifetime) = .ok s :=
    ⟨_, dif_neg hcontains⟩
  have hstep : (Records.insert (env.record id now lifetime) : Run Store _) w =
      (.ok (.ok ()), { w with backend := s }) := by
    rw [Records.insert_apply, hinsert]
    rfl
  rw [receive, h]
  dsimp only
  rw [Run.bind_ok hstep]
  refine ⟨_, rfl, ?_, Store.get?_insert hinsert⟩
  change s.records.Perm _
  rw [Store.records_insert hinsert]
  exact List.perm_append_singleton _ _

/-- **An intake is all or nothing.** It always ends, with an error exactly if the text is no event
or a record is stored under the new identifier, and then the store is as it was. Otherwise the
store holds one more record, which is untried, came in at this instant and has the text of the event
as its payload, whatever the kind of the event; and all else in it is as before. -/
theorem receives_all_or_nothing (lifetime : Span) (id : RecordId) (raw : String) (now : Instant)
    (w : World Store) :
    ∃ result v, receive lifetime id raw now w = (.ok result, v) ∧
      (∀ why, result = .error (.envelope why) ↔ Envelope.parse raw = .error why) ∧
      (∀ why, result = .error (.store why) ↔ why = .alreadyExists id ∧
        (∃ env, Envelope.parse raw = .ok env) ∧ ∃ x ∈ w.backend.records, x.id = id) ∧
      (∀ e, result = .error e → v.backend = w.backend) ∧
      ∀ r, result = .ok r → Made raw id now r ∧ (∀ x ∈ w.backend.records, x.id ≠ id) ∧
        v.backend.records.Perm (r :: w.backend.records) ∧
        ∀ k, v.backend.get? k = if k = id then some r else w.backend.get? k := by
  cases hparse : Envelope.parse raw with
  | error why =>
    obtain ⟨v, hrun, hbackend⟩ := receive_of_malformed hparse lifetime id now w
    refine ⟨_, v, hrun, ?_, ?_, fun _ _ => hbackend, ?_⟩
    · simp
    · simp
    · intro r hr
      cases hr
  | ok env =>
    by_cases hstored : ∃ x ∈ w.backend.records, x.id = id
    · obtain ⟨v, hrun, hbackend⟩ := receive_of_stored hparse hstored lifetime now
      refine ⟨_, v, hrun, ?_, ?_, fun _ _ => hbackend, ?_⟩
      · simp
      · intro why
        constructor
        · intro h
          cases h
          exact ⟨rfl, ⟨env, rfl⟩, hstored⟩
        · rintro ⟨rfl, -, -⟩
          rfl
      · intro r hr
        cases hr
    · -- only now is the store asked, and it has no reason to refuse
      have hnew : ∀ x ∈ w.backend.records, x.id ≠ id := fun x hx hid => hstored ⟨x, hx, hid⟩
      obtain ⟨v, hrun, hperm, hget⟩ := receive_of_new hparse hnew lifetime now
      refine ⟨_, v, hrun, ?_, ?_, ?_, ?_⟩
      · simp
      · simp [hstored]
      · intro e he
        cases he
      · intro r hr
        obtain rfl := Except.ok.inj hr
        exact ⟨made_record hparse id now lifetime, hnew, hperm, hget⟩

end Intake

end Reconciliation
