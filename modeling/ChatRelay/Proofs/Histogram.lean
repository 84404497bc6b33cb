import ChatRelay.Metrics
import ChatRelay.Proofs.Binary64

/-!
# What a histogram counts

Each value is counted in one bucket, and so the running total up to a bound is the number of values
that are at most the bound. The sum of the values is exact as long as it needs no more than the 53
bits of a significand.
-/

namespace ChatRelay.Histogram

theorem length_place (value : Binary64) (bounds : List Nat) (counts : List UInt64) :
    (place value bounds counts).length = counts.length := by
  fun_induction place value bounds counts with
  | case1 => rfl
  | case2 bound bounds n counts above ih => simp [ih]
  | case3 => rfl

theorem runningTotals_add_one (start : UInt64) (counts : List UInt64) :
    runningTotals (start + 1) counts = (runningTotals start counts).map (· + 1) := by
  induction counts generalizing start with
  | nil => rfl
  | cons n rest ih =>
    have sum : start + 1 + n = start + n + 1 := by
      rw [UInt64.add_assoc, UInt64.add_comm 1 n, ← UInt64.add_assoc]
    simp only [runningTotals, List.map_cons, sum, ih]

theorem length_runningTotals (start : UInt64) (counts : List UInt64) :
    (runningTotals start counts).length = counts.length := by
  induction counts generalizing start with
  | nil => rfl
  | cons n rest ih => simp [runningTotals, ih]

theorem zipWith_within {v : Nat} {bounds : List Nat} (within : ∀ bound ∈ bounds, v ≤ bound)
    {totals : List UInt64} (all : totals.length = bounds.length) :
    List.zipWith (fun bound total => total + if v ≤ bound then 1 else 0) bounds totals =
      totals.map (· + 1) := by
  induction bounds generalizing totals with
  | nil =>
    obtain rfl := List.length_eq_zero_iff.mp all
    rfl
  | cons bound rest ih =>
    cases totals with
    | nil => cases all
    | cons total totals =>
      obtain ⟨here, later⟩ := List.forall_mem_cons.mp within
      rw [List.zipWith_cons_cons, if_pos here, ih later (Nat.succ.inj all), List.map_cons]

/-- A value counts towards the totals up to its own bucket and all later ones. -/
theorem runningTotals_place {v : Nat} (small : v ≤ Nat.pow 2 53) {bounds : List Nat}
    (ascending : bounds.Pairwise (· ≤ ·)) (smallBounds : ∀ b ∈ bounds, b < Nat.pow 2 53)
    {counts : List UInt64} (all : counts.length = bounds.length) (start : UInt64) :
    runningTotals start (place (.ofNat v) bounds counts) =
      List.zipWith (fun bound total => total + if v ≤ bound then 1 else 0) bounds
        (runningTotals start counts) := by
  induction bounds generalizing counts start with
  | nil =>
    obtain rfl := List.length_eq_zero_iff.mp all
    rfl
  | cons bound rest ih =>
    cases counts with
    | nil => cases all
    | cons n counts =>
      have all : counts.length = rest.length := Nat.succ.inj all
      obtain ⟨least, ascending⟩ := List.pairwise_cons.mp ascending
      obtain ⟨smallBound, smallBounds⟩ := List.forall_mem_cons.mp smallBounds
      rw [place, Binary64.ofNat_le small smallBound]
      by_cases within : v ≤ bound
      · have later := zipWith_within (fun b hb => Nat.le_trans within (least b hb))
          ((length_runningTotals (start + n) counts).trans all)
        have sum : start + (n + 1) = start + n + 1 := (UInt64.add_assoc _ _ _).symm
        simp only [decide_eq_true within, if_true, runningTotals, List.zipWith_cons_cons,
          if_pos within, sum, runningTotals_add_one, later]
      · simp only [decide_eq_false within, Bool.false_eq_true, if_false, runningTotals,
          List.zipWith_cons_cons, if_neg within, UInt64.add_zero, ih ascending smallBounds all]

structure Counts (h : Histogram) (values : List Nat) : Prop where
  buckets : h.inBucket.length = bounds.length
  atMost : h.cumulative = bounds.map fun bound => .ofNat (values.countP (· ≤ bound))
  count : h.count = .ofNat values.length
  sum : h.sum = .ofNat values.sum

theorem counts_nil : Counts {} [] where
  buckets := rfl
  atMost := by decide
  count := rfl
  sum := rfl

theorem Counts.observe {h : Histogram} {values : List Nat} (counts : h.Counts values) {v : Nat}
    (small : (values ++ [v]).sum ≤ Nat.pow 2 53) :
    (h.observe (.ofNat v)).Counts (values ++ [v]) := by
  rw [List.sum_append, List.sum_singleton] at small
  constructor
  case buckets => exact (length_place _ _ _).trans counts.buckets
  case atMost =>
    have ascending : bounds.Pairwise (· ≤ ·) := by decide
    have placed := runningTotals_place (v := v) (by omega) ascending (by decide) counts.buckets 0
    rw [cumulative, Histogram.observe]
    dsimp only
    rw [placed, ← cumulative, counts.atMost, List.zipWith_map_right, List.zipWith_self]
    refine List.map_congr_left fun bound _ => ?_
    rw [List.countP_append, UInt64.ofNat_add]
    congr 1
    by_cases within : v ≤ bound <;> simp [within]
  case count =>
    rw [Histogram.observe, List.length_append, UInt64.ofNat_add, ← counts.count]
    rfl
  case sum =>
    rw [Histogram.observe, List.sum_append, List.sum_singleton, ← Binary64.ofNat_add small,
      ← counts.sum]

theorem Counts.observeAll {h : Histogram} {values : List Nat} (counts : h.Counts values)
    {more : List Nat} (small : (values ++ more).sum ≤ Nat.pow 2 53) :
    (more.foldl (fun h v => h.observe (.ofNat v)) h).Counts (values ++ more) := by
  induction more generalizing h values with
  | nil => simpa using counts
  | cons v rest ih =>
    rw [List.append_cons] at small ⊢
    refine ih (counts.observe ?_) small
    rw [List.sum_append] at small
    exact Nat.le_trans (Nat.le_add_right _ _) small

end ChatRelay.Histogram
