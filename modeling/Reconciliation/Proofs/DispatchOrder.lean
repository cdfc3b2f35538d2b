import Mathlib.Data.List.Sort
import Reconciliation.Proofs.Batch

/-!
# Dispatch order

`dispatchOrder` compares records by priority, then the newer first, then by entity, then by
identifier. As a relation, `WorkRecord.Precedes`, it is a strict order, and of two records
with different identifiers one precedes the other.

* `WorkRecord.pairwise_precedes_mergeSort`: sorting records with different identifiers puts
  them in strictly increasing order.
* `WorkRecord.eq_of_pairwise_precedes`: that order leaves no choice, whatever the order
  before.
* `Plan.pairwise_dispatch_ofList`: the plan of a batch dispatches in this order.
-/

namespace Reconciliation

namespace WorkRecord

variable {a b c : WorkRecord} {rs : List WorkRecord}

/-- A record comes strictly before another in dispatch order. The order looks at the priority of the
kind, then at the later arrival, and at last at what tells any two records apart. -/
def Precedes (a b : WorkRecord) : Prop := dispatchOrder a b = .lt

instance (a b : WorkRecord) : Decidable (a.Precedes b) :=
  inferInstanceAs (Decidable (dispatchOrder a b = .lt))

/-- The order of dispatches in numbers: priority first, then the later arrival, then entity and
identifier. -/
theorem precedes_iff : a.Precedes b ↔
    a.eventType.priority < b.eventType.priority ∨
    a.eventType.priority = b.eventType.priority ∧
      (b.created.rank < a.created.rank ∨
      b.created.rank = a.created.rank ∧
        (a.entity.val < b.entity.val ∨
        a.entity.val = b.entity.val ∧ a.id.toNat < b.id.toNat)) := by
  simp only [Precedes, dispatchOrder, compareInstants, Ordering.then_eq_lt, compare_lt_iff_lt,
    compare_eq_iff_eq]

/-- The comparison that sorts is the converse of strict precedence. -/
theorem dispatchesBefore_iff : a.dispatchesBefore b = true ↔ ¬ b.Precedes a := by
  rw [precedes_iff, dispatchesBefore, Ordering.isLE_iff_eq_lt_or_eq_eq]
  simp only [dispatchOrder, compareInstants, Ordering.then_eq_lt, Ordering.then_eq_eq,
    compare_lt_iff_lt, compare_eq_iff_eq]
  omega

/-- What comes before an earlier one comes before a later one too. -/
theorem Precedes.trans (h : a.Precedes b) (k : b.Precedes c) : a.Precedes c := by
  rw [precedes_iff] at *
  omega

/-- No two records come before each other. -/
theorem Precedes.asymm (h : a.Precedes b) : ¬ b.Precedes a := by
  rw [precedes_iff] at *
  omega

/-- Of two records with different identifiers one precedes the other. -/
theorem precedes_of_not (hid : a.id ≠ b.id) (h : ¬ b.Precedes a) : a.Precedes b := by
  have hne : a.id.toNat ≠ b.id.toNat := fun he => hid (RecordId.toNat_inj.1 he)
  rw [precedes_iff] at *
  omega

/-- Sorting puts records with different identifiers in strictly increasing order. -/
theorem pairwise_precedes_mergeSort (hn : (rs.map (·.id)).Nodup) :
    (rs.mergeSort dispatchesBefore).Pairwise Precedes := by
  have hsorted : (rs.mergeSort dispatchesBefore).Pairwise
      fun a b => a.dispatchesBefore b = true := by
    refine List.pairwise_mergeSort (fun a b c hab hbc => ?_) (fun a b => ?_) rs
    · rw [dispatchesBefore_iff, precedes_iff] at *
      omega
    · rw [Bool.or_eq_true, dispatchesBefore_iff, dispatchesBefore_iff, precedes_iff, precedes_iff]
      omega
  have hids : (rs.mergeSort dispatchesBefore).Pairwise fun a b => a.id ≠ b.id :=
    List.pairwise_map.1 (((List.mergeSort_perm rs _).map _).nodup_iff.2 hn)
  exact hsorted.imp₂ (fun a b hle hid => precedes_of_not hid (dispatchesBefore_iff.1 hle)) hids

/-- Two lists of the same records, both in strictly increasing order, are the same. -/
theorem eq_of_pairwise_precedes {xs ys : List WorkRecord} (hx : xs.Pairwise Precedes)
    (hy : ys.Pairwise Precedes) (h : ∀ r, r ∈ xs ↔ r ∈ ys) : xs = ys := by
  have hnodup : ∀ {zs : List WorkRecord}, zs.Pairwise Precedes → zs.Nodup :=
    fun hz => hz.imp fun {a b} hab he => by
      subst he
      exact hab.asymm hab
  refine List.Perm.eq_of_pairwise (fun a b _ _ hab hba => absurd hba hab.asymm) hx hy ?_
  exact (List.perm_ext_iff_of_nodup (hnodup hx) (hnodup hy)).2 h

end WorkRecord

/-- What a plan dispatches is in strictly increasing order. -/
theorem Plan.pairwise_dispatch_ofList {rs : List WorkRecord} (hn : (rs.map (·.id)).Nodup) :
    (Plan.ofList rs).dispatch.Pairwise WorkRecord.Precedes := by
  have hids := (Plan.thins_ofList hn).nodup hn
  rw [List.map_append, List.nodup_append] at hids
  refine WorkRecord.pairwise_precedes_mergeSort ?_
  exact ((List.mergeSort_perm _ _).map _).nodup_iff.1 hids.1

end Reconciliation
