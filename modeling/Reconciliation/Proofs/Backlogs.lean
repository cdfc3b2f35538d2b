import Mathlib.Algebra.Ring.Nat
import Mathlib.Data.List.Basic
import Mathlib.Data.List.Induction
import Reconciliation.Backlog

/-!
# What a backlog tells

A backlog is put together record by record, each time into the entry of its kind or a new one.
What an entry tells of the records of its kind is said by `BacklogEntry.Sums` without any order
of them, so it makes no difference in which order they come.

* `Backlog.put_splits`: what putting in an entry does to a list in the order of names, once for
  a name that is there and one that is not.
* `Backlog.Tallies`: the invariant, kept by one more record (`Backlog.Tallies.put`).
* `Backlog.Tallies.unique`: records leave no choice about the entries.
* `Backlog.report_describes`: the backlog of a store, whichever way its records are listed.
-/

namespace Reconciliation

variable {now : Instant} {limit : Span} {e f : BacklogEntry} {r : WorkRecord}
  {rs ss : List WorkRecord} {entries : List BacklogEntry}

/-- An entry tells of some records how many they are, when the oldest came in, how many are older
than the limit, and how often the worst has failed. -/
structure BacklogEntry.Sums (now : Instant) (limit : Span) (rs : List WorkRecord)
    (e : BacklogEntry) : Prop where
  count : e.count = rs.length
  exists_oldest : ∃ r ∈ rs, r.created = e.oldest
  oldest_le : ∀ r ∈ rs, e.oldest ≤ r.created
  late : e.late = rs.countP fun r => decide (limit < now.since r.created)
  exists_mostRetries : ∃ r ∈ rs, r.retryCount = e.mostRetries
  le_mostRetries : ∀ r ∈ rs, r.retryCount ≤ e.mostRetries

/-! ## Entries -/

namespace BacklogEntry

open Backlog (entryOf merge)

/-- The entry of one record sums it up. -/
theorem sums_entryOf (now : Instant) (limit : Span) (r : WorkRecord) :
    (entryOf now limit r).Sums now limit [r] where
  count := rfl
  exists_oldest := ⟨r, List.mem_singleton_self r, rfl⟩
  oldest_le := List.forall_mem_singleton.2 (Int.le_refl r.created.rank)
  late := by rw [List.countP_singleton]; rfl
  exists_mostRetries := ⟨r, List.mem_singleton_self r, rfl⟩
  le_mostRetries := List.forall_mem_singleton.2 (UInt32.le_refl _)

/-- Of two entries the older arrival is kept: it is one of both and not later than either. -/
theorem oldest_merge (e f : BacklogEntry) :
    ((merge e f).oldest = e.oldest ∨ (merge e f).oldest = f.oldest) ∧
      (merge e f).oldest ≤ e.oldest ∧ (merge e f).oldest ≤ f.oldest := by
  have holdest : (merge e f).oldest = if e.oldest ≤ f.oldest then e.oldest else f.oldest := rfl
  rw [holdest]
  split
  · rename_i hle
    exact ⟨.inl rfl, Int.le_refl _, hle⟩
  · rename_i hgt
    exact ⟨.inr rfl, Int.le_of_lt (Int.not_le.1 hgt), Int.le_refl _⟩

/-- Of two entries the larger count is kept: it is one of both and not less than either. -/
theorem mostRetries_merge (e f : BacklogEntry) :
    ((merge e f).mostRetries = e.mostRetries ∨ (merge e f).mostRetries = f.mostRetries) ∧
      e.mostRetries ≤ (merge e f).mostRetries ∧ f.mostRetries ≤ (merge e f).mostRetries := by
  have hmost : (merge e f).mostRetries =
      if e.mostRetries < f.mostRetries then f.mostRetries else e.mostRetries := rfl
  rw [hmost]
  split
  · rename_i hlt
    exact ⟨.inr rfl, UInt32.le_of_lt hlt, UInt32.le_refl _⟩
  · rename_i hge
    exact ⟨.inl rfl, UInt32.le_refl _, UInt32.not_lt.1 hge⟩

/-- Two entries as one tell of the records of both. -/
theorem Sums.merge (he : e.Sums now limit rs) (hf : f.Sums now limit ss) :
    (merge e f).Sums now limit (rs ++ ss) := by
  obtain ⟨holdest, holdest_left, holdest_right⟩ := oldest_merge e f
  obtain ⟨hmost, hmost_left, hmost_right⟩ := mostRetries_merge e f
  refine ⟨?_, ?_, fun r hr => ?_, ?_, ?_, fun r hr => ?_⟩
  · rw [List.length_append, ← he.count, ← hf.count]
    rfl
  · simp only [List.mem_append]
    rcases holdest with h | h <;> rw [h]
    · obtain ⟨r, hr, hcreated⟩ := he.exists_oldest
      exact ⟨r, .inl hr, hcreated⟩
    · obtain ⟨r, hr, hcreated⟩ := hf.exists_oldest
      exact ⟨r, .inr hr, hcreated⟩
  · rcases List.mem_append.1 hr with hr | hr
    · exact Int.le_trans holdest_left (he.oldest_le r hr)
    · exact Int.le_trans holdest_right (hf.oldest_le r hr)
  · rw [List.countP_append, ← he.late, ← hf.late]
    rfl
  · simp only [List.mem_append]
    rcases hmost with h | h <;> rw [h]
    · obtain ⟨r, hr, hcount⟩ := he.exists_mostRetries
      exact ⟨r, .inl hr, hcount⟩
    · obtain ⟨r, hr, hcount⟩ := hf.exists_mostRetries
      exact ⟨r, .inr hr, hcount⟩
  · rcases List.mem_append.1 hr with hr | hr
    · exact UInt32.le_trans (he.le_mostRetries r hr) hmost_left
    · exact UInt32.le_trans (hf.le_mostRetries r hr) hmost_right

/-- The records determine what their entry tells, up to its name. -/
theorem Sums.unique (he : e.Sums now limit rs) (hf : f.Sums now limit rs)
    (hname : e.eventType = f.eventType) : e = f := by
  have holdest : e.oldest = f.oldest := by
    obtain ⟨r, hr, hcreated⟩ := he.exists_oldest
    obtain ⟨r', hr', hcreated'⟩ := hf.exists_oldest
    have hle : f.oldest ≤ e.oldest := hcreated ▸ hf.oldest_le r hr
    have hge : e.oldest ≤ f.oldest := hcreated' ▸ he.oldest_le r' hr'
    exact Instant.rank_inj.1 (Int.le_antisymm hge hle)
  have hmost : e.mostRetries = f.mostRetries := by
    obtain ⟨r, hr, hcount⟩ := he.exists_mostRetries
    obtain ⟨r', hr', hcount'⟩ := hf.exists_mostRetries
    exact UInt32.le_antisymm (hcount ▸ hf.le_mostRetries r hr) (hcount' ▸ he.le_mostRetries r' hr')
  have hcount : e.count = f.count := he.count.trans hf.count.symm
  have hlate : e.late = f.late := he.late.trans hf.late.symm
  cases e
  cases f
  cases hname
  cases holdest
  cases hmost
  cases hcount
  cases hlate
  rfl

/-- The order of the records makes no difference. -/
theorem Sums.perm (he : e.Sums now limit rs) (h : rs.Perm ss) : e.Sums now limit ss where
  count := he.count.trans h.length_eq
  exists_oldest := by simpa only [h.mem_iff] using he.exists_oldest
  oldest_le := by simpa only [h.mem_iff] using he.oldest_le
  late := he.late.trans (h.countP_eq _)
  exists_mostRetries := by simpa only [h.mem_iff] using he.exists_mostRetries
  le_mostRetries := by simpa only [h.mem_iff] using he.le_mostRetries

end BacklogEntry

namespace Backlog

/-! ## Putting in an entry -/

/-- Entries in strictly increasing order of names. So no name has two entries. -/
def Sorted (entries : List BacklogEntry) : Prop :=
  entries.Pairwise fun a b => a.eventType < b.eventType

/-- **Putting in an entry** changes one place in a list in the order of names: the entry goes
into the one of its name, if there is one, and else stands between those with smaller names and
those with larger ones. -/
theorem put_splits (e : BacklogEntry) (h : Sorted entries) :
    ∃ before after, ∃ same : Option BacklogEntry, entries = before ++ same.toList ++ after ∧
      put e entries = before ++ same.elim e (merge · e) :: after ∧
      (∀ x ∈ before, x.eventType < e.eventType) ∧ (∀ x ∈ same, x.eventType = e.eventType) ∧
      ∀ x ∈ after, e.eventType < x.eventType := by
  induction entries with
  | nil => exact ⟨[], [], none, rfl, rfl, by simp, by simp, by simp⟩
  | cons x xs ih =>
    obtain ⟨hx, hxs⟩ := List.pairwise_cons.1 h
    rw [put]
    split
    · -- the list is in order, so all that comes after the first larger name is larger
      rename_i hlt
      refine ⟨[], x :: xs, none, rfl, rfl, by simp, by simp, ?_⟩
      exact List.forall_mem_cons.2 ⟨hlt, fun y hy => String.lt_trans hlt (hx y hy)⟩
    · rename_i hge
      split
      · rename_i hname
        exact ⟨[], xs, some x, rfl, rfl, by simp, by simpa using hname, fun y hy => hname ▸ hx y hy⟩
      · rename_i hname
        obtain ⟨before, after, same, rfl, hput, hbefore, hsame, hafter⟩ := ih hxs
        have hlt : x.eventType < e.eventType := by
          refine Decidable.byContradiction fun hnot => hname ?_
          exact String.le_antisymm (String.not_lt.1 hge) (String.not_lt.1 hnot)
        refine ⟨x :: before, after, same, rfl, by rw [hput]; rfl, ?_, hsame, hafter⟩
        exact List.forall_mem_cons.2 ⟨hlt, hbefore⟩

/-- An entry is put in where its name belongs, so that the names stay in strict order. -/
theorem sorted_put (e : BacklogEntry) (h : Sorted entries) : Sorted (put e entries) := by
  obtain ⟨before, after, same, rfl, hput, hbefore, hsame, hafter⟩ := put_splits e h
  have hname : (same.elim e (merge · e)).eventType = e.eventType := by
    cases same with
    | none => rfl
    | some x => exact hsame x rfl
  obtain ⟨hleft, hright, -⟩ := List.pairwise_append.1 h
  rw [hput]
  refine List.pairwise_append.2 ⟨(List.pairwise_append.1 hleft).1,
    List.pairwise_cons.2 ⟨fun x hx => hname ▸ hafter x hx, hright⟩, fun x hx => ?_⟩
  refine List.forall_mem_cons.2 ⟨hname ▸ hbefore x hx, fun y hy => ?_⟩
  exact String.lt_trans (hbefore x hx) (hafter y hy)

/-- All entries of other names stay, and of the name that is put in there is one entry. -/
theorem mem_put (e : BacklogEntry) (h : Sorted entries) :
    ∃ same : Option BacklogEntry, (∀ x, x ∈ same ↔ x ∈ entries ∧ x.eventType = e.eventType) ∧
      ∀ x, x ∈ put e entries ↔
        (x ∈ entries ∧ x.eventType ≠ e.eventType) ∨ x = same.elim e (merge · e) := by
  obtain ⟨before, after, same, rfl, hput, hbefore, hsame, hafter⟩ := put_splits e h
  have hbefore' : ∀ x ∈ before, x.eventType ≠ e.eventType :=
    fun x hx he => String.lt_irrefl _ (he ▸ hbefore x hx)
  have hafter' : ∀ x ∈ after, x.eventType ≠ e.eventType :=
    fun x hx he => String.lt_irrefl _ (he ▸ hafter x hx)
  refine ⟨same, fun x => ?_, fun x => ?_⟩
  · rw [List.mem_append, List.mem_append, Option.mem_toList]
    refine ⟨fun hx => ⟨.inl (.inr hx), hsame x hx⟩, ?_⟩
    rintro ⟨(hx | hx) | hx, he⟩
    · exact absurd he (hbefore' x hx)
    · exact hx
    · exact absurd he (hafter' x hx)
  · have hx := hbefore' x
    have hx' := hsame x
    have hx'' := hafter' x
    rw [hput, List.mem_append, List.mem_cons, List.mem_append, List.mem_append, Option.mem_toList]
    tauto

/-- No record is lost or counted twice when an entry is put in. -/
theorem sum_put (e : BacklogEntry) (entries : List BacklogEntry) :
    ((put e entries).map (·.count)).sum = (entries.map (·.count)).sum + e.count := by
  induction entries with
  | nil => simp [put]
  | cons x xs ih =>
    rw [put]
    split
    · simp only [List.map_cons, List.sum_cons]
      omega
    · split
      · simp only [List.map_cons, List.sum_cons, merge]
        omega
      · simp only [List.map_cons, List.sum_cons, ih]
        omega

/-! ## All records -/

/-- What entries tell of some records: there is one entry for each name of a kind, in the order of
names, and it tells of the records of that name. -/
structure Tallies (now : Instant) (limit : Span) (rs : List WorkRecord)
    (entries : List BacklogEntry) : Prop where
  sorted : Sorted entries
  names : ∀ name, (∃ e ∈ entries, e.eventType = name) ↔ ∃ r ∈ rs, r.eventType.name = name
  sums : ∀ e ∈ entries, e.Sums now limit (rs.filter (·.eventType.name = e.eventType))
  total : (entries.map (·.count)).sum = rs.length

/-- No records make no entries. -/
theorem tallies_nil (now : Instant) (limit : Span) : Tallies now limit [] [] where
  sorted := List.Pairwise.nil
  names := by simp
  sums := by simp
  total := rfl

/-- A name that no entry has belongs to no record. -/
theorem Tallies.filter_eq_nil (h : Tallies now limit rs entries) {name : String}
    (hname : ∀ e ∈ entries, e.eventType ≠ name) : rs.filter (·.eventType.name = name) = [] := by
  rw [List.filter_eq_nil_iff]
  intro r hr hr'
  obtain ⟨e, he, hename⟩ := (h.names name).2 ⟨r, hr, of_decide_eq_true hr'⟩
  exact hname e he hename

/-- **One more record**: the others' entries tell what they told before, and that of its name
tells of it too. -/
theorem Tallies.put (h : Tallies now limit rs entries) (r : WorkRecord) :
    Tallies now limit (rs ++ [r]) (put (entryOf now limit r) entries) := by
  obtain ⟨same, hsame, hput⟩ := mem_put (entryOf now limit r) h.sorted
  change ∀ x, x ∈ same ↔ x ∈ entries ∧ x.eventType = r.eventType.name at hsame
  change ∀ x, _ ↔ (x ∈ entries ∧ x.eventType ≠ r.eventType.name) ∨ _ at hput
  -- merging changes no name
  have hname : (same.elim (entryOf now limit r) (merge · (entryOf now limit r))).eventType =
      r.eventType.name := by
    cases same with
    | none => rfl
    | some x => exact ((hsame x).1 rfl).2
  refine ⟨sorted_put _ h.sorted, fun name => ?_, fun x hx => ?_, ?_⟩
  · simp only [hput, List.mem_append, List.mem_singleton, or_and_right, exists_or, exists_eq_left,
      hname, ← h.names]
    refine or_congr_left' fun hne => exists_congr fun x => ?_
    rw [and_assoc]
    exact and_congr_right fun _ => ⟨And.right, fun he => ⟨he ▸ Ne.symm hne, he⟩⟩
  · rcases (hput x).1 hx with ⟨hx, hne⟩ | rfl
    · rw [List.filter_append, List.filter_singleton, decide_eq_false (Ne.symm hne)]
      simpa using h.sums x hx
    · rw [hname, List.filter_append, List.filter_singleton, decide_eq_true rfl]
      cases same with
      | none =>
        rw [h.filter_eq_nil fun e he hename => by simpa using (hsame e).2 ⟨he, hename⟩]
        exact BacklogEntry.sums_entryOf now limit r
      | some y =>
        obtain ⟨hy, hyname⟩ := (hsame y).1 rfl
        exact (hyname ▸ h.sums y hy).merge (BacklogEntry.sums_entryOf now limit r)
  · rw [sum_put, h.total, List.length_append]
    rfl

/-- **The entries of some records tally them**: one entry for each name, summing up the records with
that name. -/
theorem tallies_entriesOf (now : Instant) (limit : Span) (rs : List WorkRecord) :
    Tallies now limit rs (entriesOf now limit rs) := by
  induction rs using List.reverseRecOn with
  | nil => exact tallies_nil now limit
  | append_singleton rs r ih =>
    rw [entriesOf, List.foldl_append]
    exact ih.put r

/-- Records leave no choice about what is told of them. -/
theorem Tallies.unique {entries' : List BacklogEntry} (h : Tallies now limit rs entries)
    (h' : Tallies now limit rs entries') : entries = entries' := by
  have hsub : ∀ {xs ys}, Tallies now limit rs xs → Tallies now limit rs ys → xs ⊆ ys := by
    intro xs ys hx hy e he
    obtain ⟨f, hf, hname⟩ := (hy.names e.eventType).2 ((hx.names e.eventType).1 ⟨e, he, rfl⟩)
    rwa [(hx.sums e he).unique (hname ▸ hy.sums f hf) hname.symm]
  have hnodup : ∀ {xs}, Sorted xs → xs.Nodup := fun hx => hx.imp fun {a b} hab he => by
    subst he
    exact String.lt_irrefl _ hab
  refine List.Perm.eq_of_pairwise
    (fun a b _ _ hab hba => absurd (String.lt_trans hab hba) (String.lt_irrefl _)) h.sorted
    h'.sorted ((List.perm_ext_iff_of_nodup (hnodup h.sorted) (hnodup h'.sorted)).2 fun e => ?_)
  exact ⟨fun he => hsub h h' he, fun he => hsub h' h he⟩

/-- The order of the records makes no difference. -/
theorem Tallies.perm (h : Tallies now limit rs entries) (hperm : rs.Perm ss) :
    Tallies now limit ss entries where
  sorted := h.sorted
  names := by simpa only [hperm.mem_iff] using h.names
  sums e he := (h.sums e he).perm (hperm.filter _)
  total := h.total.trans hperm.length_eq

/-- A backlog at an instant tells of some records how many they are, and of each kind what its
entry says. -/
structure Describes (now : Instant) (limit : Span) (rs : List WorkRecord) (b : Backlog) :
    Prop where
  generated_eq : b.generated = now
  limit_eq : b.limit = limit
  total : b.total = rs.length
  entries : Tallies now limit rs b.entries

/-- The records that a backlog is about. -/
theorem unprocessedIn_all (s : Store) :
    s.unprocessedIn (.atLeast 0) = s.records.filter (·.processed.isNone) := by
  refine List.filter_congr fun r _ => ?_
  cases h : r.processed <;> simp [RetryBand.contains, RetryBand.atLeast, WorkRecord.isProcessed, h]

/-- A report is drawn up of the unprocessed records, whatever their retry counts, and changes
nothing. -/
theorem report_apply (now : Instant) (limit : Span) (w : World Store) :
    report now limit w = (.ok (.ok ⟨now, limit, (w.backend.unprocessedIn (.atLeast 0)).length,
      entriesOf now limit (w.backend.unprocessedIn (.atLeast 0))⟩), w) := rfl

/-- **The backlog of a store** tells of its unprocessed records: how many they are, and for each
name of a kind among them, in strictly increasing order, their number, the oldest of them, how many
are older than the limit and the most retries. It does not depend on the order in which the store
lists its records. -/
theorem report_describes (now : Instant) (limit : Span) (w : World Store) :
    ∃ b, report now limit w = (.ok (.ok b), w) ∧
      b.Describes now limit (w.backend.records.filter (·.processed.isNone)) ∧
      ∀ v : World Store, v.backend.records.Perm w.backend.records →
        report now limit v = (.ok (.ok b), v) := by
  refine ⟨_, report_apply now limit w, ?_, fun v hv => ?_⟩
  · rw [unprocessedIn_all]
    exact ⟨rfl, rfl, rfl, tallies_entriesOf now limit _⟩
  · have hperm := hv.filter (·.processed.isNone)
    rw [report_apply, unprocessedIn_all, unprocessedIn_all, hperm.length_eq]
    rw [((tallies_entriesOf now limit _).perm hperm).unique (tallies_entriesOf now limit _)]

end Backlog

end Reconciliation
