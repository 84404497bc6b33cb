import ChatRelay.Binary64.Shortest
import Mathlib.Algebra.Order.Ring.Int
import Mathlib.Tactic.Positivity
import Mathlib.Tactic.Ring

/-!
# Whole numbers in binary floating point

A significand has 53 bits. So each whole number up to `2 ^ 53` is there exactly and is written with
its own digits, sums up to there are exact, and numbers compare as the whole numbers do.
-/

namespace ChatRelay.Binary64

section Quotient

variable (num den : Nat)

theorem scaled_natCast (k : Nat) : scaled num den k = (num, den * Nat.pow 2 k) := rfl

theorem scaled_neg (k : Nat) : scaled num den (-k) = (num * Nat.pow 2 k, den) := by
  cases k with
  | zero => simp [scaled, Nat.pow_eq]
  | succ k => rfl

theorem roundQuotient_one : roundQuotient num 1 = num := by
  simp [roundQuotient, Nat.mod_one]

theorem log2_mul_pow {num : Nat} (some : num ≠ 0) (k : Nat) :
    (num * Nat.pow 2 k).log2 = num.log2 + k := by
  have positive : 0 < Nat.pow 2 k := Nat.two_pow_pos k
  obtain ⟨low, high⟩ := (Nat.log2_eq_iff some).mp rfl
  refine (Nat.log2_eq_iff (Nat.mul_ne_zero some positive.ne')).mpr ⟨?_, ?_⟩
  · rw [Nat.pow_add]
    exact Nat.mul_le_mul_right _ low
  · rw [Nat.add_right_comm, Nat.pow_add]
    exact Nat.mul_lt_mul_of_pos_right high positive

theorem roundQuotient_mul {c : Nat} (positive : 0 < c) :
    roundQuotient (num * c) (den * c) = roundQuotient num den := by
  unfold roundQuotient
  simp only [Nat.mul_div_mul_right _ _ positive, Nat.mul_mod_mul_right, ← Nat.mul_assoc,
    Nat.mul_lt_mul_right positive]

theorem scaled_mul (c : Nat) (e : Int) : scaled (num * c) (den * c) e =
    ((scaled num den e).1 * c, (scaled num den e).2 * c) := by
  cases e <;> simp only [scaled, Nat.mul_right_comm]

variable {num den}

theorem exponentOf_mul (some : num ≠ 0) (proper : den ≠ 0) (k : Nat) :
    exponentOf (num * Nat.pow 2 k) (den * Nat.pow 2 k) = exponentOf num den := by
  have positive : 0 < Nat.pow 2 k := Nat.two_pow_pos k
  have guess : ((num.log2 + k : Nat) : Int) - ((den.log2 + k : Nat) : Int) =
      (num.log2 : Int) - (den.log2 : Int) := by omega
  simp only [exponentOf, log2_mul_pow some, log2_mul_pow proper, guess, scaled_mul,
    Nat.mul_lt_mul_right positive]

/-- The number nearest to a quotient does not depend on how the quotient is written. -/
theorem ofQuotient_mul (negative : Bool) (some : num ≠ 0) (proper : den ≠ 0) (k : Nat) :
    ofQuotient negative (num * Nat.pow 2 k) (den * Nat.pow 2 k) = ofQuotient negative num den := by
  have positive : 0 < Nat.pow 2 k := Nat.two_pow_pos k
  have some' : num * Nat.pow 2 k ≠ 0 := Nat.mul_ne_zero some positive.ne'
  simp only [ofQuotient, if_neg some, if_neg some', exponentOf_mul some proper, scaled_mul,
    roundQuotient_mul _ _ positive]

end Quotient

/-- A significand and an exponent that make up a whole number, wherever it is aligned. -/
structure IsWhole (n m : Nat) (e : Int) : Prop where
  magnitude : magnitude? m e = some n
  aligned : ∀ k : Nat, -(k : Int) ≤ e → aligned false m e (-k) = n * Nat.pow 2 k
  fraction : n < Nat.pow 2 53 → e ≤ 0

theorem isWhole_scaled (n k : Nat) : IsWhole n (n * Nat.pow 2 k) (-k) where
  magnitude := by
    have positive : 0 < Nat.pow 2 k := Nat.two_pow_pos k
    cases k with
    | zero => simp [magnitude?, Nat.pow_eq]
    | succ k =>
      change (if n * Nat.pow 2 (k + 1) % Nat.pow 2 (k + 1) = 0 then
        some (n * Nat.pow 2 (k + 1) / Nat.pow 2 (k + 1)) else none) = some n
      rw [Nat.mul_mod_left, if_pos rfl, Nat.mul_div_cancel _ positive]
  aligned := by
    intro j below
    obtain ⟨d, rfl⟩ : ∃ d, j = k + d := Nat.exists_eq_add_of_le (by omega)
    have places : (-(k : Int) - -((k + d : Nat) : Int)).toNat = d := by omega
    simp only [Binary64.aligned, places, Bool.false_eq_true, if_false, Nat.pow_eq, Nat.pow_add]
    push_cast
    ring
  fraction := by omega

theorem isWhole_zero (k : Nat) : IsWhole 0 0 (-k) := by
  have zero := isWhole_scaled 0 k
  rwa [Nat.zero_mul] at zero

theorem isWhole_largest : IsWhole (Nat.pow 2 53) (Nat.pow 2 52) 1 where
  magnitude := by decide
  aligned := by
    intro k _
    have places : ((1 : Int) - -(k : Int)).toNat = k + 1 := by omega
    simp only [Binary64.aligned, places, Bool.false_eq_true, if_false, Nat.pow_eq, Nat.pow_succ]
    push_cast
    ring
  fraction := by omega

theorem exponentOf_whole {n : Nat} (some : n ≠ 0) (small : n.log2 ≤ 52) :
    exponentOf n 1 = -((52 - n.log2 : Nat) : Int) := by
  have reached : ¬ n < 1 * Nat.pow 2 n.log2 := by
    rw [Nat.one_mul, Nat.not_lt]
    exact Nat.log2_self_le some
  have one : ((1 : Nat).log2 : Int) = 0 := by decide
  simp only [exponentOf, one, Int.sub_zero, scaled_natCast, if_neg reached]
  omega

/-- A whole number of at most 53 bits needs no rounding. -/
theorem ofQuotient_whole (negative : Bool) {n : Nat} (small : n ≤ Nat.pow 2 53) :
    ∃ m e, ofQuotient negative n 1 = .finite negative m e ∧ IsWhole n m e := by
  rcases Nat.eq_zero_or_pos n with rfl | positive
  · exact ⟨0, -1074, rfl, isWhole_zero 1074⟩
  · rcases Nat.lt_or_eq_of_le small with below | rfl
    · have few : n.log2 ≤ 52 := Nat.le_of_lt_succ ((Nat.log2_lt positive.ne').mpr below)
      have bits : n * Nat.pow 2 (52 - n.log2) ≠ Nat.pow 2 53 := by
        have top : n < Nat.pow 2 (n.log2 + 1) := Nat.lt_log2_self
        have places : Nat.pow 2 53 = Nat.pow 2 (n.log2 + 1) * Nat.pow 2 (52 - n.log2) := by
          simp only [Nat.pow_eq, ← Nat.pow_add]
          congr 1
          omega
        rw [places]
        exact (Nat.mul_lt_mul_of_pos_right top (Nat.two_pow_pos _)).ne
      refine ⟨_, _, ?_, isWhole_scaled n (52 - n.log2)⟩
      have finite : ¬ 971 < -((52 - n.log2 : Nat) : Int) := by omega
      simp only [ofQuotient, if_neg positive.ne', exponentOf_whole positive.ne' few, scaled_neg,
        roundQuotient_one, if_neg bits, if_neg finite]
    · exact ⟨_, _, by cases negative <;> decide, isWhole_largest⟩

section Natural

variable {a b n : Nat}

theorem ofNat_whole (small : n ≤ Nat.pow 2 53) :
    ∃ m e, ofNat n = .finite false m e ∧ IsWhole n m e := ofQuotient_whole false small

/-- An integer up to `2 ^ 53` is written as it is. -/
theorem text_ofInt {z : Int} (small : z.natAbs ≤ Nat.pow 2 53) : (ofInt z).text = toString z := by
  obtain ⟨m, e, same, whole⟩ := ofQuotient_whole (decide (z < 0)) small
  rw [ofInt, same, text, magnitudeText, whole.magnitude]
  dsimp only
  rw [if_pos small]
  cases z with
  | ofNat n => rfl
  | negSucc n =>
    rw [decide_eq_true (Int.negSucc_lt_zero n)]
    rfl

theorem text_ofNat (small : n ≤ Nat.pow 2 53) : (ofNat n).text = toString n :=
  text_ofInt (z := n) small

/-- Whole numbers below `2 ^ 53` compare with others as they are. -/
theorem ofNat_le (left : a ≤ Nat.pow 2 53) (right : b < Nat.pow 2 53) :
    (ofNat a).le (ofNat b) = decide (a ≤ b) := by
  obtain ⟨m, e, same, whole⟩ := ofNat_whole left
  obtain ⟨m', e', same', whole'⟩ := ofNat_whole right.le
  have low := whole'.fraction right
  obtain ⟨k, least⟩ : ∃ k : Nat, min e e' = -(k : Int) := ⟨(-(min e e')).toNat, by omega⟩
  have positive : (0 : Int) < Nat.pow 2 k := by exact_mod_cast Nat.two_pow_pos k
  rw [same, same', le, least, whole.aligned k (by omega), whole'.aligned k (by omega),
    decide_eq_decide, mul_le_mul_iff_left₀ positive, Int.ofNat_le]

theorem ofScaled_whole (n k : Nat) : ofScaled false (n * Nat.pow 2 k) (-k) = ofNat n := by
  rcases Nat.eq_zero_or_pos n with rfl | positive
  · simp [ofScaled, ofNat, ofQuotient]
  · have some : (n : Int) * Nat.pow 2 k ≠ 0 := by
      exact_mod_cast Nat.mul_ne_zero positive.ne' (Nat.two_pow_pos k).ne'
    have sign : decide ((n : Int) * Nat.pow 2 k < 0) = false :=
      decide_eq_false (Int.not_lt.mpr (by positivity))
    have abs : ((n : Int) * Nat.pow 2 k).natAbs = n * Nat.pow 2 k := by
      rw [← Nat.cast_mul, Int.natAbs_natCast]
    unfold ofScaled
    rw [if_neg some, sign, abs, ofNat]
    cases k with
    | zero => simp [Nat.pow_eq]
    | succ k =>
      have quotient := ofQuotient_mul false positive.ne' Nat.one_ne_zero (k + 1)
      rw [Nat.one_mul] at quotient
      exact quotient

/-- Sums of whole numbers up to `2 ^ 53` are exact. -/
theorem ofNat_add (small : a + b ≤ Nat.pow 2 53) : ofNat a + ofNat b = ofNat (a + b) := by
  obtain ⟨m, e, same, whole⟩ := ofNat_whole (Nat.le_trans (Nat.le_add_right a b) small)
  obtain ⟨m', e', same', whole'⟩ := ofNat_whole (Nat.le_trans (Nat.le_add_left b a) small)
  have low : min e e' ≤ 0 := by
    rcases Nat.lt_or_ge a (Nat.pow 2 53) with below | most
    · exact Int.le_trans (Int.min_le_left ..) (whole.fraction below)
    · have none : b = 0 := by omega
      exact Int.le_trans (Int.min_le_right ..) (whole'.fraction (none ▸ Nat.two_pow_pos 53))
  obtain ⟨k, least⟩ : ∃ k : Nat, min e e' = -(k : Int) := ⟨(-(min e e')).toNat, by omega⟩
  have sum : (a : Int) * Nat.pow 2 k + b * Nat.pow 2 k = (a + b : Nat) * Nat.pow 2 k := by
    push_cast
    ring
  change add (ofNat a) (ofNat b) = ofNat (a + b)
  rw [same, same', add, least, whole.aligned k (by omega), whole'.aligned k (by omega), sum]
  exact ofScaled_whole (a + b) k

end Natural

end ChatRelay.Binary64
