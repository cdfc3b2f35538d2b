import Mathlib.Data.List.Pairwise
import Reconciliation.Batch

/-!
# What thinning keeps

Records of one kind and one entity are ordered by when they came in, and by identifier
where that is the same instant: `WorkRecord.olderThan` is a strict order, total on records
with different identifiers. A plan thins a batch by this order alone.

* `Plan.Thins`: a plan has each record of the batch once, one survivor for each group, and
  for every duplicate a newer survivor.
* `Plan.thins_ofList`: the plan of a batch without repeated identifiers thins it. Putting
  in one more record keeps this up (`Plan.Thins.add`), and so does sorting both parts.
* `Plan.Thins.mem_dispatch_iff`: the survivors are the newest of their groups.
-/

namespace Reconciliation

namespace WorkRecord

variable {a b c : WorkRecord}

/-- A group is the records of one entity and one kind. -/
theorem sameGroup_iff : a.sameGroup b = true ↔ a.entity = b.entity ∧ a.eventType = b.eventType := by
  simp only [sameGroup, Bool.and_eq_true, beq_iff_eq]

@[simp] theorem sameGroup_refl (a : WorkRecord) : a.sameGroup a = true := by
  rw [sameGroup_iff]
  exact ⟨rfl, rfl⟩

/-- It does not matter which of two records is named first. -/
theorem sameGroup_comm (a b : WorkRecord) : a.sameGroup b = b.sameGroup a := by
  rw [Bool.eq_iff_iff, sameGroup_iff, sameGroup_iff]
  exact and_congr eq_comm eq_comm

theorem sameGroup_symm (h : a.sameGroup b = true) : b.sameGroup a = true :=
  (sameGroup_comm b a).trans h

theorem sameGroup_trans (h : a.sameGroup b = true) (k : b.sameGroup c = true) :
    a.sameGroup c = true := by
  rw [sameGroup_iff] at *
  exact ⟨h.1.trans k.1, h.2.trans k.2⟩

/-- A record is older if it came in earlier, or at the same time and its identifier is smaller. -/
theorem olderThan_iff : a.olderThan b = true ↔
    a.created.rank < b.created.rank ∨
      a.created.rank = b.created.rank ∧ a.id.toNat < b.id.toNat := by
  simp only [olderThan, Bool.or_eq_true, Bool.and_eq_true, decide_eq_true_eq, beq_iff_eq,
    Instant.rank_inj]
  rfl

@[simp] theorem olderThan_irrefl (a : WorkRecord) : a.olderThan a = false := by
  rw [Bool.eq_false_iff, Ne, olderThan_iff]
  omega

/-- Records are ordered by age: what is older than an older one is older. -/
theorem olderThan_trans (h : a.olderThan b = true) (k : b.olderThan c = true) :
    a.olderThan c = true := by
  rw [olderThan_iff] at *
  omega

/-- No two records are older than each other. -/
theorem olderThan_asymm (h : a.olderThan b = true) : b.olderThan a = false := by
  rw [Bool.eq_false_iff, Ne, olderThan_iff]
  rw [olderThan_iff] at h
  omega

/-- Of two records with different identifiers one is older. -/
theorem olderThan_of_not (hid : a.id ≠ b.id) (h : a.olderThan b = false) :
    b.olderThan a = true := by
  have hne : a.id.toNat ≠ b.id.toNat := fun he => hid (RecordId.toNat_inj.1 he)
  rw [Bool.eq_false_iff, Ne, olderThan_iff] at h
  rw [olderThan_iff]
  omega

/-- A record that is among others, and older than none of its group there. -/
def NewestIn (r : WorkRecord) (rs : List WorkRecord) : Prop :=
  r ∈ rs ∧ ∀ x ∈ rs, r.sameGroup x = true → r.olderThan x = false

end WorkRecord

namespace Plan

open WorkRecord

/-- A plan splits the records so that there is one survivor in each group, and every duplicate is
older than the survivor of its group. -/
structure Thins (p : Plan) (rs : List WorkRecord) : Prop where
  perm : (p.dispatch ++ p.duplicates).Perm rs
  groups : p.dispatch.Pairwise fun a b => a.sameGroup b = false
  newer : ∀ x ∈ p.duplicates, ∃ s ∈ p.dispatch, s.sameGroup x = true ∧ x.olderThan s = true

/-- Where there is one survivor in each group, the survivor of a group stands alone. -/
theorem exists_split {rs : List WorkRecord} (hp : rs.Pairwise fun a b => a.sameGroup b = false)
    {r s : WorkRecord} (hs : rs.find? (r.sameGroup ·) = some s) :
    ∃ before after, rs = before ++ s :: after ∧ r.sameGroup s = true ∧
      (∀ x ∈ before, r.sameGroup x = false) ∧ ∀ x ∈ after, r.sameGroup x = false := by
  obtain ⟨hg, before, after, rfl, hb⟩ := List.find?_eq_some_iff_append.1 hs
  refine ⟨before, after, rfl, hg, fun x hx => by simpa using hb x hx, fun x hx => ?_⟩
  have hsx : s.sameGroup x = false :=
    (List.pairwise_cons.1 (List.pairwise_append.1 hp).2.1).1 x hx
  rw [Bool.eq_false_iff] at hsx ⊢
  exact fun h => hsx (sameGroup_trans (sameGroup_symm hg) h)

/-- Replacing in a group that one record has alone replaces that record. -/
theorem map_replace {before after : List WorkRecord} {r s : WorkRecord} (hg : r.sameGroup s = true)
    (hb : ∀ x ∈ before, r.sameGroup x = false) (ha : ∀ x ∈ after, r.sameGroup x = false) :
    (before ++ s :: after).map (fun x => if r.sameGroup x then r else x) =
      before ++ r :: after := by
  have hid : ∀ xs : List WorkRecord, (∀ x ∈ xs, r.sameGroup x = false) →
      xs.map (fun x => if r.sameGroup x then r else x) = xs := by
    intro xs hxs
    refine (List.map_congr_left fun x hx => ?_).trans (List.map_id xs)
    simp [hxs x hx]
  rw [List.map_append, List.map_cons, hid before hb, hid after ha, if_pos hg]

variable {p : Plan} {rs : List WorkRecord} {r : WorkRecord}

/-- **One more record**, with a new identifier, goes where it belongs. -/
theorem Thins.add (h : p.Thins rs) (hr : r.id ∉ rs.map (·.id)) : (p.add r).Thins (rs ++ [r]) := by
  rw [Plan.add]
  split
  · -- a new group
    rename_i hnone
    refine ⟨?_, List.pairwise_append.2 ⟨h.groups, List.pairwise_singleton .., ?_⟩, ?_⟩
    · refine List.Perm.trans ?_ (h.perm.append_right [r])
      rw [List.append_assoc, List.append_assoc]
      exact List.perm_append_comm.append_left _
    · intro a ha b hb
      rw [List.mem_singleton.1 hb, sameGroup_comm]
      simpa using List.find?_eq_none.1 hnone a ha
    · intro x hx
      obtain ⟨s, hs, hgs⟩ := h.newer x hx
      exact ⟨s, List.mem_append_left _ hs, hgs⟩
  · rename_i current hcurrent
    obtain ⟨before, after, hsplit, hg, hb, ha⟩ := exists_split h.groups hcurrent
    have hmem : current ∈ rs := h.perm.subset (List.mem_append_left _ (hsplit ▸ by simp))
    have hid : current.id ≠ r.id := fun he => hr (he ▸ List.mem_map_of_mem hmem)
    split
    · -- the record takes the place of the survivor
      rename_i holder
      have hperm := h.perm
      have hgroups := h.groups
      rw [hsplit] at hperm hgroups
      rw [hsplit, map_replace hg hb ha]
      obtain ⟨hbefore, hafter, hcross⟩ := List.pairwise_append.1 hgroups
      refine ⟨?_, ?_, ?_⟩
      · rw [List.perm_iff_count] at hperm ⊢
        intro x
        have hx := hperm x
        simp only [List.count_append, List.count_cons, List.count_nil] at hx ⊢
        omega
      · refine List.pairwise_append.2
          ⟨hbefore, List.pairwise_cons.2 ⟨ha, (List.pairwise_cons.1 hafter).2⟩, ?_⟩
        intro x hx y hy
        rcases List.mem_cons.1 hy with rfl | hy
        · rw [sameGroup_comm]
          exact hb x hx
        · exact hcross x hx y (List.mem_cons_of_mem _ hy)
      · have hr : r ∈ before ++ r :: after := by simp
        intro x hx
        rcases List.mem_append.1 hx with hx | hx
        · obtain ⟨s, hs, hgs, hold⟩ := h.newer x hx
          rw [hsplit, List.mem_append, List.mem_cons] at hs
          rcases hs with hs | rfl | hs
          · exact ⟨s, List.mem_append_left _ hs, hgs, hold⟩
          · exact ⟨r, hr, sameGroup_trans hg hgs, olderThan_trans hold holder⟩
          · exact ⟨s, List.mem_append_right _ (List.mem_cons_of_mem _ hs), hgs, hold⟩
        · rw [List.mem_singleton.1 hx]
          exact ⟨r, hr, hg, holder⟩
    · -- the record is a duplicate
      rename_i holder
      refine ⟨?_, h.groups, ?_⟩
      · rw [← List.append_assoc]
        exact h.perm.append_right [r]
      · intro x hx
        rcases List.mem_append.1 hx with hx | hx
        · exact h.newer x hx
        · rw [List.mem_singleton.1 hx]
          exact ⟨current, hsplit ▸ by simp, sameGroup_symm hg,
            olderThan_of_not hid (Bool.eq_false_iff.2 holder)⟩

/-- Sorting both parts changes nothing of this. -/
theorem Thins.sorted (h : p.Thins rs) : p.sorted.Thins rs := by
  have hd : p.sorted.dispatch.Perm p.dispatch := List.mergeSort_perm _ _
  have hx : p.sorted.duplicates.Perm p.duplicates := List.mergeSort_perm _ _
  refine ⟨(hd.append hx).trans h.perm, h.groups.perm hd.symm ?_, ?_⟩
  · intro a b hab
    rwa [sameGroup_comm]
  · intro x hxm
    obtain ⟨s, hs, hgs⟩ := h.newer x (hx.subset hxm)
    exact ⟨s, hd.symm.subset hs, hgs⟩

/-- **The plan of a batch** in which no identifier comes twice thins it. -/
theorem thins_ofList (hn : (rs.map (·.id)).Nodup) : (ofList rs).Thins rs := by
  -- the plan so far thins the records seen so far
  have hfold : ∀ (done todo : List WorkRecord) (p : Plan), ((done ++ todo).map (·.id)).Nodup →
      p.Thins done → (todo.foldl Plan.add p).Thins (done ++ todo) := by
    intro done todo
    induction todo generalizing done with
    | nil =>
      intro p _ hp
      rw [List.append_nil]
      exact hp
    | cons r todo ih =>
      intro p hn hp
      rw [List.append_cons] at hn ⊢
      have hr : r.id ∉ done.map (·.id) := by
        rw [List.append_assoc, List.map_append, List.nodup_append] at hn
        exact fun hm => hn.2.2 _ hm r.id (by simp) rfl
      exact ih (done ++ [r]) (p.add r) hn (hp.add hr)
  have hempty : (⟨[], []⟩ : Plan).Thins [] := ⟨.refl _, .nil, fun x hx => by cases hx⟩
  exact (hfold [] rs ⟨[], []⟩ hn hempty).sorted

/-- No identifier comes twice in a plan. -/
theorem Thins.nodup (h : p.Thins rs) (hn : (rs.map (·.id)).Nodup) :
    ((p.dispatch ++ p.duplicates).map (·.id)).Nodup :=
  (h.perm.map _).nodup_iff.2 hn

/-- There is one survivor for each group. -/
theorem Thins.eq_of_sameGroup (h : p.Thins rs) {a b : WorkRecord} (ha : a ∈ p.dispatch)
    (hb : b ∈ p.dispatch) (hg : a.sameGroup b = true) : a = b := by
  by_contra hne
  have hsymm : Std.Symm fun a b : WorkRecord => a.sameGroup b = false :=
    ⟨fun a b hab => (sameGroup_comm b a).trans hab⟩
  rw [h.groups.forall ha hb hne] at hg
  cases hg

/-- The survivors are the newest of their groups. -/
theorem Thins.mem_dispatch_iff (h : p.Thins rs) : r ∈ p.dispatch ↔ r.NewestIn rs := by
  have hrs : ∀ {x}, x ∈ rs ↔ x ∈ p.dispatch ∨ x ∈ p.duplicates := by
    intro x
    rw [← h.perm.mem_iff, List.mem_append]
  constructor
  · intro hr
    refine ⟨hrs.2 (.inl hr), fun x hx hg => ?_⟩
    rcases hrs.1 hx with hx | hx
    · rw [h.eq_of_sameGroup hr hx hg]
      exact olderThan_irrefl x
    · obtain ⟨s, hs, hgs, hold⟩ := h.newer x hx
      rw [h.eq_of_sameGroup hr hs (sameGroup_trans hg (sameGroup_symm hgs))]
      exact olderThan_asymm hold
  · rintro ⟨hr, hnew⟩
    rcases hrs.1 hr with hr | hr
    · exact hr
    · obtain ⟨s, hs, hgs, hold⟩ := h.newer r hr
      have hs := hnew s (hrs.2 (.inl hs)) (sameGroup_symm hgs)
      rw [hold] at hs
      cases hs

/-- The duplicates are the others. -/
theorem Thins.mem_duplicates_iff (h : p.Thins rs) :
    r ∈ p.duplicates ↔ r ∈ rs ∧ ¬ r.NewestIn rs := by
  constructor
  · intro hr
    have hmem : r ∈ rs := h.perm.subset (List.mem_append_right _ hr)
    refine ⟨hmem, fun hnew => ?_⟩
    obtain ⟨s, hs, hgs, hold⟩ := h.newer r hr
    have hs := hnew.2 s (h.perm.subset (List.mem_append_left _ hs)) (sameGroup_symm hgs)
    rw [hold] at hs
    cases hs
  · rintro ⟨hr, hnew⟩
    rcases List.mem_append.1 (h.perm.symm.subset hr) with hr | hr
    · exact absurd (h.mem_dispatch_iff.1 hr) hnew
    · exact hr

end Plan

end Reconciliation
