import Mathlib.Data.List.Induction
import Reconciliation.Proofs.Attempt
import Reconciliation.Proofs.Instant
import Reconciliation.Store.Faulty

/-!
# The store is a finite map

A history is what a store was asked since it was empty, each call with its answer. From that alone
it is told which records *stand*: those that an insert or an update put there and that nothing has
undone since. Success is read off the answers, so the store is not looked at.

What ties the two together is a single call: afterwards there is under an identifier what the call
put there, or what was there before unless the call undoes it (`Store.get?_call`).

* `StoreHistory.stands_step`: the same for the records that stand.
* `StoreHistory.sound_run`: after every sequence of calls the store holds what stands.
* `StoreHistory.acts_as_map`: what follows for the answers to each further call.
-/

namespace Reconciliation

/-- A call of the store, and whether it went well. -/
abbrev AnsweredCall := StoreCall × Except StoreError Unit

/-- Whether a call puts a record into the store. -/
def AnsweredCall.Puts (r : WorkRecord) : AnsweredCall → Prop
  | (.insert x, answer) | (.update x, answer) => answer = .ok () ∧ x = r
  | _ => False

/-- Whether a call undoes that: another record is put under the identifier, it is deleted, or the
purge comes when the record is expired. -/
def AnsweredCall.Undoes (r : WorkRecord) : AnsweredCall → Prop
  | (.insert x, answer) | (.update x, answer) => answer = .ok () ∧ x.id = r.id
  | (.delete x, _) => x.id = r.id
  | (.deleteExpired now, _) => r.expiry ≤ now
  | _ => False

/-! ## One call -/

namespace Store

variable {s : Store} {r x : WorkRecord} {now : Instant}

/-- Whether a step of the store went well, and what it leaves. -/
def ended {α : Type} (x : Except StoreError α × Store) : Except StoreError Unit × Store :=
  (x.1.map fun _ => (), x.2)

/-- Carries out a call. -/
def call (s : Store) : StoreCall → Except StoreError Unit × Store
  | .insert r => RecordStore.insert r s
  | .update r => RecordStore.update r s
  | .delete r => RecordStore.delete r s
  | .get id => ended (RecordStore.get id s)
  | .unprocessedOf e => ended (RecordStore.unprocessedOf e s)
  | .ofTypeAndCount t n => ended (RecordStore.ofTypeAndCount t n s)
  | .unprocessedIn b => ended (RecordStore.unprocessedIn b s)
  | .untriedBefore t => ended (RecordStore.untriedBefore t s)
  | .deleteExpired now => ended (RecordStore.deleteExpired now s)

/-- What is there after an insert or an update, of which both results are possible. -/
theorem get?_attempted {result : Except StoreError Store}
    (hok : ∀ {t}, result = .ok t → ∀ id, t.get? id = if id = r.id then some r else s.get? id) :
    (s.attempted result).2.get? x.id = some x ↔
      ((s.attempted result).1 = .ok () ∧ r = x) ∨
        s.get? x.id = some x ∧ ¬ ((s.attempted result).1 = .ok () ∧ r.id = x.id) := by
  rcases result with e | t
  · simp [attempted]
  · simp only [attempted, hok rfl, true_and]
    by_cases hid : x.id = r.id
    · simp [hid]
    · have hne : r ≠ x := fun h => hid (h ▸ rfl)
      simp [hid, hne, Ne.symm hid]

/-- **What one call does**: under an identifier there is the record that the call put there, or the
one from before, unless the call undoes it. -/
theorem get?_call (s : Store) (c : StoreCall) (x : WorkRecord) :
    (s.call c).2.get? x.id = some x ↔
      AnsweredCall.Puts x (c, (s.call c).1) ∨
        s.get? x.id = some x ∧ ¬ AnsweredCall.Undoes x (c, (s.call c).1) := by
  cases c with
  | insert r => exact get?_attempted get?_insert
  | update r => exact get?_attempted get?_update
  | delete r =>
    change (s.erase r.id).get? x.id = some x ↔ False ∨ s.get? x.id = some x ∧ ¬ r.id = x.id
    rw [get?_erase]
    by_cases hid : x.id = r.id
    · simp [hid]
    · simp [hid, Ne.symm hid]
  | deleteExpired now =>
    change (s.purge now).2.get? x.id = some x ↔
      False ∨ s.get? x.id = some x ∧ ¬ x.expiry ≤ now
    rw [get?_purge, Option.filter_eq_some_iff]
    simp [WorkRecord.isExpired]
  | get _ | unprocessedOf _ | ofTypeAndCount _ _ | unprocessedIn _ | untriedBefore _ =>
    change s.get? x.id = some x ↔ False ∨ s.get? x.id = some x ∧ ¬ False
    simp

/-- To insert under an identifier that is taken fails. -/
theorem insert_eq_error (h : s.contains r.id = true) :
    s.insert r = .error (.alreadyExists r.id) := by
  rw [insert, dif_pos h]

/-- A record whose identifier is new can be inserted. -/
theorem exists_insert (h : s.contains r.id = false) : ∃ t, s.insert r = .ok t := by
  rw [insert, dif_neg (Bool.eq_false_iff.1 h)]
  exact ⟨_, rfl⟩

/-- The purge counts the records that are expired. -/
theorem purge_fst (s : Store) (now : Instant) :
    (s.purge now).1 = (s.records.filter (·.isExpired now)).length := by
  have hlength := List.length_eq_length_filter_add (l := s.records) (·.isExpired now)
  change s.records.length - (s.records.filter fun r => !r.isExpired now).length = _
  omega

/-- Those are the records that are gone afterwards. -/
theorem get?_purge_eq_none_iff (hr : s.get? r.id = some r) :
    (s.purge now).2.get? r.id = none ↔ r.isExpired now = true := by
  rw [get?_purge, hr]
  simp [Option.filter]

/-- All records, in the order of their identifiers, are all that pass any test. -/
theorem toList_perm (s : Store) : s.toList.Perm (s.select fun _ => true) := by
  rw [select, List.filter_true]
  exact List.mergeSort_perm _ _

end Store

/-! ## Histories -/

/-- A store with all calls since it was empty, oldest first. -/
structure StoreHistory where
  store : Store
  calls : List AnsweredCall

namespace StoreHistory

/-- Before any call. -/
def start : StoreHistory := ⟨.empty, []⟩

/-- After one more call. -/
def step (h : StoreHistory) (c : StoreCall) : StoreHistory :=
  ⟨(h.store.call c).2, h.calls ++ [(c, (h.store.call c).1)]⟩

/-- After a sequence of calls. -/
def run (calls : List StoreCall) : StoreHistory := calls.foldl step start

/-- A record that was put into the store, where nothing has undone that since. The history alone
says so, whatever the store does with it. -/
def Stands (h : StoreHistory) (r : WorkRecord) : Prop :=
  ∃ (before after : List AnsweredCall) (put : AnsweredCall),
    h.calls = before ++ put :: after ∧ put.Puts r ∧ ∀ c ∈ after, ¬ c.Undoes r

variable {h : StoreHistory} {r : WorkRecord} {c : StoreCall}

/-- **After one more call** there stands what it put, and what stood before unless it is undone. -/
theorem stands_step :
    (h.step c).Stands r ↔ AnsweredCall.Puts r (c, (h.store.call c).1) ∨
      h.Stands r ∧ ¬ AnsweredCall.Undoes r (c, (h.store.call c).1) := by
  constructor
  · rintro ⟨before, after, put, hcalls, hputs, hkept⟩
    rcases List.eq_nil_or_concat after with rfl | ⟨after, last, rfl⟩
    · -- the last call is the one that put the record
      obtain ⟨-, hlast⟩ := List.append_inj' hcalls rfl
      exact .inl (List.singleton_inj.1 hlast ▸ hputs)
    · rw [List.concat_eq_append, ← List.cons_append, ← List.append_assoc] at hcalls
      obtain ⟨hbefore, hlast⟩ := List.append_inj' hcalls rfl
      rw [List.concat_eq_append, List.forall_mem_append, List.forall_mem_singleton] at hkept
      exact .inr ⟨⟨before, after, put, hbefore, hputs, hkept.1⟩,
        List.singleton_inj.1 hlast ▸ hkept.2⟩
  · rintro (hputs | ⟨⟨before, after, put, hcalls, hputs, hkept⟩, hlast⟩)
    · exact ⟨h.calls, [], _, rfl, hputs, List.forall_mem_nil _⟩
    · refine ⟨before, after ++ [_], put, ?_, hputs,
        List.forall_mem_append.2 ⟨hkept, List.forall_mem_singleton.2 hlast⟩⟩
      rw [step, hcalls, List.append_assoc, List.cons_append]

/-- The store holds what stands. -/
def Sound (h : StoreHistory) : Prop := ∀ r, h.store.get? r.id = some r ↔ h.Stands r

/-- Before any call nothing is stored, and nothing stands. -/
theorem sound_start : start.Sound := by
  intro r
  refine ⟨fun h => ?_, ?_⟩
  · cases h
  · rintro ⟨before, after, put, hcalls, -⟩
    exact absurd hcalls.symm (List.append_ne_nil_of_right_ne_nil _ (List.cons_ne_nil _ _))

/-- **One call** keeps the store and its history together. -/
theorem Sound.step (hs : h.Sound) (c : StoreCall) : (h.step c).Sound := by
  intro r
  rw [stands_step, ← hs r]
  exact Store.get?_call h.store c r

/-- **The store holds what stands**, after every sequence of calls. -/
theorem sound_run (calls : List StoreCall) : (run calls).Sound := by
  induction calls using List.reverseRecOn with
  | nil => exact sound_start
  | append_singleton calls c ih =>
    rw [run, List.foldl_append]
    exact ih.step c

/-! ## Answers -/

/-- Whether there is a record under an identifier. -/
def Present (h : StoreHistory) (id : RecordId) : Prop := ∃ r, h.Stands r ∧ r.id = id

/-- An answer that gives those records with a property that stand, each once in whatever order they
are listed, and changes nothing. -/
def Lists (h : StoreHistory) (p : WorkRecord → Prop)
    (answer : Except StoreError (List WorkRecord) × Store) : Prop :=
  ∃ rs, answer = (.ok rs, h.store) ∧ ∀ listing : List WorkRecord, listing.Perm rs →
    ∀ r, (h.Stands r ∧ p r → listing.count r = 1) ∧ (r ∈ listing → h.Stands r ∧ p r)

/-- A finite map: what is answered follows from what stands. Every operation has a field for each
way in which it can be answered, and every query has one. -/
structure IsMap (h : StoreHistory) : Prop where
  get_some : ∀ id r, RecordStore.get id h.store = (.ok (some r), h.store) ↔ h.Stands r ∧ r.id = id
  get_none : ∀ id, RecordStore.get id h.store = (.ok none, h.store) ↔ ¬ h.Present id
  insert_present : ∀ r, h.Present r.id →
    RecordStore.insert r h.store = (.error (.alreadyExists r.id), h.store)
  insert_absent : ∀ r, ¬ h.Present r.id → (RecordStore.insert r h.store).1 = .ok ()
  update_present : ∀ r, h.Present r.id → (RecordStore.update r h.store).1 = .ok ()
  update_absent : ∀ r, ¬ h.Present r.id →
    RecordStore.update r h.store = (.error (.notFound r.id), h.store)
  delete : ∀ r, (RecordStore.delete r h.store).1 = .ok ()
  /-- The purge counts the records that are gone afterwards. -/
  deleteExpired : ∀ now, ∃ removed : List WorkRecord, removed.Nodup ∧
    (RecordStore.deleteExpired now h.store).1 = .ok removed.length ∧
    ∀ r, r ∈ removed ↔ h.Stands r ∧
      (RecordStore.deleteExpired now h.store).2.get? r.id = none
  size : ∃ ids : List RecordId, ids.Nodup ∧ ids.length = h.store.size ∧
    ∀ id, id ∈ ids ↔ h.Present id
  all : h.Lists (fun _ => True) (.ok h.store.toList, h.store)
  unprocessedOf : ∀ e, h.Lists (fun r => r.entity = e ∧ r.processed = none)
    (RecordStore.unprocessedOf e h.store)
  ofTypeAndCount : ∀ t n, h.Lists (fun r => r.eventType = t ∧ r.retryCount = n)
    (RecordStore.ofTypeAndCount t n h.store)
  unprocessedIn : ∀ b : RetryBand, h.Lists
    (fun r => b.least ≤ r.retryCount ∧ (∀ n ∈ b.greatest, r.retryCount ≤ n) ∧ r.processed = none)
    (RecordStore.unprocessedIn b h.store)
  untriedBefore : ∀ t, h.Lists (fun r => r.retryCount = 0 ∧ r.created < t ∧ r.processed = none)
    (RecordStore.untriedBefore t h.store)

/-- A record stands if it is stored. -/
theorem Sound.mem_iff (hs : h.Sound) : r ∈ h.store.records ↔ h.Stands r := by
  rw [← hs r, Store.get?_eq_some_iff]
  exact (and_iff_left rfl).symm

/-- Stored is what is present by the history. -/
theorem Sound.contains_iff (hs : h.Sound) (id : RecordId) :
    h.store.contains id = true ↔ h.Present id := by
  rw [Store.contains_eq_true_iff, List.mem_map]
  simp only [hs.mem_iff, Present]

/-- What is not present by the history is not stored. -/
theorem Sound.contains_eq_false_iff (hs : h.Sound) (id : RecordId) :
    h.store.contains id = false ↔ ¬ h.Present id := by
  rw [← hs.contains_iff, Bool.not_eq_true]

/-- The stored records with a property, in any order, are what stands and has it. -/
theorem Sound.lists (hs : h.Sound) {q : WorkRecord → Bool} {p : WorkRecord → Prop}
    (hq : ∀ r, q r = true ↔ p r) {rs : List WorkRecord} (hrs : rs.Perm (h.store.select q)) :
    h.Lists p (.ok rs, h.store) := by
  refine ⟨rs, rfl, fun listing hlisting r => ?_⟩
  have hsame := hlisting.trans hrs
  have hnodup : listing.Nodup :=
    hsame.nodup_iff.2 ((List.Nodup.of_map _ h.store.distinct).filter _)
  have hmem : r ∈ listing ↔ h.Stands r ∧ p r := by
    rw [hsame.mem_iff, Store.select, List.mem_filter, hs.mem_iff, hq]
  exact ⟨fun hr => List.count_eq_one_of_mem hnodup (hmem.2 hr), hmem.1⟩

/-- A query gives what stands and passes. -/
theorem Sound.lists_select (hs : h.Sound) {q : WorkRecord → Bool} {p : WorkRecord → Prop}
    (hq : ∀ r, q r = true ↔ p r) : h.Lists p (.ok (h.store.select q), h.store) :=
  hs.lists hq (.refl _)

/-- **The store is a finite map** after every sequence of calls. Under an identifier there is the
record that was put there last and not undone since; to insert fails exactly where there is one, to
update exactly where there is none, and then nothing changes; the purge counts what it removes; and
queries list what they ask for, each record once. -/
theorem acts_as_map (calls : List StoreCall) : (run calls).IsMap :=
  have hs := sound_run calls
  { get_some := fun id r => by
      change (Except.ok ((run calls).store.get? id), (run calls).store) = (.ok (some r), _) ↔ _
      rw [Prod.mk.injEq, Except.ok.injEq, and_iff_left rfl, Store.get?_eq_some_iff, hs.mem_iff]
    get_none := fun id => by
      change (Except.ok ((run calls).store.get? id), (run calls).store) = (.ok none, _) ↔ _
      rw [Prod.mk.injEq, Except.ok.injEq, and_iff_left rfl, ← hs.contains_eq_false_iff,
        ← Store.isSome_get?, Option.isSome_eq_false_iff, Option.isNone_iff_eq_none]
    insert_present := fun r hr =>
      congrArg (run calls).store.attempted (Store.insert_eq_error ((hs.contains_iff r.id).2 hr))
    insert_absent := fun r hr => by
      obtain ⟨t, ht⟩ := Store.exists_insert ((hs.contains_eq_false_iff r.id).2 hr)
      exact congrArg (fun result => ((run calls).store.attempted result).1) ht
    update_present := fun r hr => by
      obtain ⟨t, ht⟩ := Store.exists_update ((hs.contains_iff r.id).2 hr)
      exact congrArg (fun result => ((run calls).store.attempted result).1) ht
    update_absent := fun r hr =>
      congrArg (run calls).store.attempted
        (Store.update_eq_error ((hs.contains_eq_false_iff r.id).2 hr))
    delete := fun r => rfl
    deleteExpired := fun now => by
      refine ⟨(run calls).store.records.filter (·.isExpired now),
        (List.Nodup.of_map _ (run calls).store.distinct).filter _,
        congrArg Except.ok (Store.purge_fst _ now), fun r => ?_⟩
      rw [List.mem_filter, hs.mem_iff]
      exact and_congr_right fun hr => (Store.get?_purge_eq_none_iff ((hs r).2 hr)).symm
    size := by
      refine ⟨(run calls).store.records.map (·.id), (run calls).store.distinct,
        List.length_map _, fun id => ?_⟩
      rw [← hs.contains_iff, Store.contains_eq_true_iff]
    all := hs.lists (fun _ => iff_of_true rfl trivial) (Store.toList_perm _)
    unprocessedOf := fun e => hs.lists_select fun r => by
      simp [WorkRecord.isProcessed]
    ofTypeAndCount := fun t n => hs.lists_select fun r => by
      simp
    unprocessedIn := fun b => hs.lists_select fun r => by
      cases hb : b.greatest <;> simp [RetryBand.contains, WorkRecord.isProcessed, hb, and_assoc]
    untriedBefore := fun t => hs.lists_select fun r => by
      simp [WorkRecord.isProcessed, and_assoc] }

/-- A record, and what takes its place. -/
def sampleFirst : WorkRecord :=
  .new (.ofNat 1) ⟨46, by decide, by decide⟩ .sentenceImposed "" (.ofSecond 20)

/-- The same record with another expiry, to be put in its place. -/
def sampleSecond : WorkRecord := sampleFirst.withExpiry (.ofSecond 30)

/-- What was replaced does not come back when its replacement expires, though it would still live;
and a record that was refused is not there either. -/
example : (run [.insert sampleFirst, .update sampleSecond, .insert sampleFirst,
    .deleteExpired (.ofSecond 30)]).store.get? sampleFirst.id = none := by decide

end StoreHistory

end Reconciliation
