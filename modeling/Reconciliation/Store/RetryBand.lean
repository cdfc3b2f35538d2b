/-!
# Retry bands and tiers

A band is a range of retry counts, both ends included, perhaps without an upper end. The
records that have failed at least once are shared out among three tiers by three bands
that together hold every count from one up, each exactly once: the tier of a count is the
only one whose band contains it (`ofCount_eq_some_iff`).
-/

namespace Reconciliation

/-- A range of retry counts. -/
structure RetryBand where
  least : UInt32
  greatest : Option UInt32
deriving DecidableEq, Repr

namespace RetryBand

/-- All counts from `least` up. -/
def atLeast (least : UInt32) : RetryBand := ⟨least, none⟩

/-- Whether a count lies in the band. -/
def contains (b : RetryBand) (n : UInt32) : Bool :=
  decide (b.least ≤ n) &&
    match b.greatest with
    | some greatest => decide (n ≤ greatest)
    | none => true

/-- The band in the notation of intervals. -/
def text (b : RetryBand) : String :=
  "[" ++ Nat.repr b.least.toNat ++ ", " ++
    match b.greatest with
    | some greatest => Nat.repr greatest.toNat ++ "]"
    | none => "∞)"

end RetryBand

/-- The tiers that try failed records again, each at its own pace. -/
inductive RetryTier where
  | shortTerm
  | mediumTerm
  | longTerm
deriving DecidableEq, Repr

namespace RetryTier

def all : List RetryTier := [shortTerm, mediumTerm, longTerm]

/-- The counts that a tier is responsible for. -/
def band : RetryTier → RetryBand
  | shortTerm => ⟨1, some 4⟩
  | mediumTerm => ⟨5, some 10⟩
  | longTerm => .atLeast 11

/-- The name of a tier, which is also that of its lock. -/
def name : RetryTier → String
  | shortTerm => "retry-short-term"
  | mediumTerm => "retry-medium-term"
  | longTerm => "retry-long-term"

/-- The tier responsible for a count; none for a record that has not failed. -/
def ofCount (n : UInt32) : Option RetryTier := all.find? (·.band.contains n)

/-- A tier is responsible for exactly the counts in its band. -/
theorem ofCount_eq_some_iff {n : UInt32} {t : RetryTier} :
    ofCount n = some t ↔ t.band.contains n = true := by
  cases t <;>
    simp only [ofCount, all, List.find?, band, RetryBand.contains, RetryBand.atLeast,
      UInt32.le_iff_toNat_le] <;>
    grind

end RetryTier

end Reconciliation
