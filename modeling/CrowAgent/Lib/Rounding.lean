import Mathlib.Algebra.Order.Field.Basic
import Mathlib.Order.Bounds.Basic
import Mathlib.Algebra.Order.Ring.Int
import Mathlib.Data.Rat.Cast.Order
import Mathlib.Tactic.Linarith
import Mathlib.Tactic.Ring

/-!
# Rounding whole numbers of lots

Integer division rounded up, and the least whole number of lots whose value at a price covers a
required amount.  `isLeast_lotCeil` is the characterisation a sizing rule needs: rounding twice,
first to a quantity and then to a lot, loses nothing against rounding once.  `dropShare` is a
relative loss rounded down, and `NearestAway` is rounding to the nearest integer.
-/

namespace Rounding

variable {n m d k lot need price scale q p p' : Int}

/-! ## Division rounded up -/

/-- `n / d` rounded up. -/
def ceilDiv (n d : Int) : Int := (n + (d - 1)) / d

/-- Rounding up is the lower adjoint of multiplication by the divisor. -/
theorem ceilDiv_le_iff (pos : 0 < d) : ceilDiv n d ≤ k ↔ n ≤ k * d := by
  unfold ceilDiv
  rw [← Int.lt_add_one_iff, Int.ediv_lt_iff_lt_mul pos, add_mul, one_mul]
  omega

theorem le_ceilDiv_mul (n : Int) (pos : 0 < d) : n ≤ ceilDiv n d * d :=
  (ceilDiv_le_iff pos).mp le_rfl

theorem ceilDiv_mono (pos : 0 < d) (le : n ≤ m) : ceilDiv n d ≤ ceilDiv m d :=
  (ceilDiv_le_iff pos).mpr (le.trans (le_ceilDiv_mul m pos))

theorem ceilDiv_pos (npos : 0 < n) (pos : 0 < d) : 0 < ceilDiv n d := by
  by_contra nonpos
  have bound : n ≤ 0 * d := (ceilDiv_le_iff pos).mp (not_lt.mp nonpos)
  omega

theorem ceilDiv_nonneg (nonneg : 0 ≤ n) (pos : 0 < d) : 0 ≤ ceilDiv n d :=
  Int.ediv_nonneg (by omega) pos.le

/-! ## Whole lots -/

/-- The quantity that covers `need` at `price`, rounded up to a whole number of lots. -/
def lotCeil (lot need price : Int) : Int := ceilDiv (ceilDiv need price) lot * lot

/-- A whole-lot quantity covers the need at the price exactly from `lotCeil` on. -/
theorem lotCeil_le_iff (lotPos : 0 < lot) (pricePos : 0 < price) (whole : lot ∣ q) :
    lotCeil lot need price ≤ q ↔ need ≤ q * price := by
  obtain ⟨steps, rfl⟩ := whole
  unfold lotCeil
  rw [mul_comm lot steps, mul_le_mul_iff_of_pos_right lotPos, ceilDiv_le_iff lotPos,
    ceilDiv_le_iff pricePos]

/-- It is within a quantity exactly when the whole lots of the quantity cover the need. -/
theorem lotCeil_le_iff_whole (lotPos : 0 < lot) (pricePos : 0 < price) :
    lotCeil lot need price ≤ q ↔ need ≤ q / lot * lot * price := by
  rw [← lotCeil_le_iff lotPos pricePos (dvd_mul_left lot (q / lot)), lotCeil,
    mul_le_mul_iff_of_pos_right lotPos, Int.le_ediv_iff_mul_le lotPos]

/-- **Least whole lot.**  The twice rounded quantity is the least positive multiple of the lot
that covers the need at the price. -/
theorem isLeast_lotCeil (lotPos : 0 < lot) (pricePos : 0 < price) (needPos : 0 < need) :
    IsLeast {q : Int | 0 < q ∧ lot ∣ q ∧ need ≤ q * price} (lotCeil lot need price) := by
  have whole : lot ∣ lotCeil lot need price := dvd_mul_left _ _
  refine ⟨⟨?_, whole, ?_⟩, ?_⟩
  · exact mul_pos (ceilDiv_pos (ceilDiv_pos needPos pricePos) lotPos) lotPos
  · exact (lotCeil_le_iff lotPos pricePos whole).mp le_rfl
  · rintro q ⟨-, wholeQ, covers⟩
    exact (lotCeil_le_iff lotPos pricePos wholeQ).mpr covers

/-! ## Value at a price -/

/-- The value of a quantity at a price, rounded down to the unit of account. -/
def valueAt (scale q p : Int) : Int := q * p / scale

theorem valueAt_mono (scalePos : 0 < scale) (nonneg : 0 ≤ q) (le : p ≤ p') :
    valueAt scale q p ≤ valueAt scale q p' :=
  Int.ediv_le_ediv scalePos (mul_le_mul_of_nonneg_left le nonneg)

theorem valueAt_nonneg (scalePos : 0 < scale) (nonneg : 0 ≤ q) (priceNonneg : 0 ≤ p) :
    0 ≤ valueAt scale q p :=
  Int.ediv_nonneg (mul_nonneg nonneg priceNonneg) scalePos.le

/-! ## Relative drops -/

/-- The share of `high` lost at `low`, in units of `1 / scale` rounded down; zero from `high` on. -/
def dropShare (scale high low : Int) : Int :=
  if low < high then (high - low) * scale / high else 0

@[simp] theorem dropShare_of_le {high low : Int} (le : high ≤ low) :
    dropShare scale high low = 0 := if_neg (by omega)

theorem dropShare_of_lt {high low : Int} (lt : low < high) :
    dropShare scale high low = (high - low) * scale / high := if_pos lt

theorem dropShare_nonneg {high low : Int} (scaleNonneg : 0 ≤ scale) (pos : 0 < low) :
    0 ≤ dropShare scale high low := by
  unfold dropShare
  split
  · exact Int.ediv_nonneg (mul_nonneg (by omega) scaleNonneg) (by omega)
  · exact le_rfl

/-- The same level is a deeper drop from a higher start. -/
theorem dropShare_mono {high high' low : Int} (scaleNonneg : 0 ≤ scale) (pos : 0 < low)
    (le : high ≤ high') : dropShare scale high low ≤ dropShare scale high' low := by
  rcases le_or_gt high low with above | below
  · rw [dropShare_of_le above]
    exact dropShare_nonneg scaleNonneg pos
  · rw [dropShare_of_lt below, dropShare_of_lt (below.trans_le le)]
    have highPos : 0 < high := pos.trans below
    have share : (high - low) * scale / high * high ≤ (high - low) * scale :=
      Int.ediv_mul_le _ highPos.ne'
    have whole : (high - low) * scale / high ≤ scale := by
      rw [← Int.lt_add_one_iff, Int.ediv_lt_iff_lt_mul highPos]
      nlinarith
    rw [Int.le_ediv_iff_mul_le (highPos.trans_le le)]
    calc (high - low) * scale / high * high'
        = (high - low) * scale / high * high + (high - low) * scale / high * (high' - high) := by
          ring
      _ ≤ (high - low) * scale + scale * (high' - high) :=
          add_le_add share (mul_le_mul_of_nonneg_right whole (by omega))
      _ = (high' - low) * scale := by ring

/-- A drop measured in finer units and rounded to coarser ones is the coarse drop. -/
theorem dropShare_mul_ediv {high low fine : Int} (finePos : 0 < fine) (pos : 0 < low) :
    dropShare (scale * fine) high low / fine = dropShare scale high low := by
  unfold dropShare
  split
  · have highPos : 0 < high := by omega
    rw [Int.ediv_ediv_of_nonneg highPos.le, ← mul_assoc, Int.mul_ediv_mul_of_pos_left _ _ finePos]
  · exact Int.zero_ediv fine

/-! ## Nearest integers -/

/-- The integer is the one nearest to the number, and of two nearest ones the one away from
zero. -/
structure NearestAway (n : Int) (x : ℚ) : Prop where
  nearest : ∀ m : Int, |x - n| ≤ |x - m|
  away : ∀ m : Int, |x - m| = |x - n| → |m| ≤ |n|

/-- A whole number is its own nearest integer. -/
theorem nearestAway_cast (n : Int) : NearestAway n n where
  nearest m := by
    rw [sub_self, abs_zero]
    exact abs_nonneg _
  away m same := by
    rw [sub_self, abs_zero, abs_eq_zero, sub_eq_zero] at same
    exact (congrArg abs (Int.cast_injective same).symm).le

/-- From a half below, a number that is not negative is rounded up. -/
theorem nearestAway_of_nonneg {n : Int} {x : ℚ} (nonneg : 0 ≤ x) (lower : x - 1 / 2 < n)
    (upper : (n : ℚ) ≤ x + 1 / 2) : NearestAway n x := by
  have near : |x - n| ≤ 1 / 2 := abs_le.mpr ⟨by linarith, by linarith⟩
  have apart : ∀ m : Int, m < n ∨ m = n ∨ n < m := fun m => lt_trichotomy m n
  constructor
  · intro m
    rcases apart m with below | rfl | above
    · have whole : (m : ℚ) + 1 ≤ n := by exact_mod_cast below
      exact near.trans ((by linarith : 1 / 2 ≤ x - m).trans (le_abs_self _))
    · exact le_rfl
    · have whole : (n : ℚ) + 1 ≤ m := by exact_mod_cast above
      exact near.trans ((by linarith : 1 / 2 ≤ -(x - m)).trans (neg_le_abs _))
  · intro m same
    have natural : 0 ≤ n := by
      have above : (-1 : ℚ) < n := by linarith
      have : (-1 : Int) < n := by exact_mod_cast above
      omega
    rw [abs_of_nonneg natural]
    rcases apart m with below | rfl | above
    · -- The two have the number in their middle, which is not negative.
      have whole : (m : ℚ) + 1 ≤ n := by exact_mod_cast below
      have half : |x - m| ≤ 1 / 2 := same.trans_le near
      have middle : -(m : ℚ) ≤ n := by
        have first := le_abs_self (x - m)
        linarith
      exact abs_le.mpr ⟨by exact_mod_cast (by linarith : -(n : ℚ) ≤ m), below.le⟩
    · exact (abs_of_nonneg natural).le
    · -- Above it there is no other.
      have whole : (n : ℚ) + 1 ≤ m := by exact_mod_cast above
      have far := neg_le_abs (x - m)
      have close : |x - n| < -(x - m) := by
        rw [abs_lt]
        constructor <;> linarith
      linarith

theorem NearestAway.neg {n : Int} {x : ℚ} (nearest : NearestAway n x) : NearestAway (-n) (-x) := by
  have mirror : ∀ m : Int, |-x - ((-m : Int) : ℚ)| = |x - m| := by
    intro m
    rw [Int.cast_neg, ← abs_neg]
    congr 1
    ring
  have mirrored : ∀ m : Int, |-x - (m : ℚ)| = |x - ((-m : Int) : ℚ)| := by
    intro m
    rw [← mirror, neg_neg]
  constructor
  · intro m
    rw [mirror, mirrored]
    exact nearest.nearest (-m)
  · intro m same
    rw [mirror, mirrored] at same
    rw [abs_neg, ← abs_neg m]
    exact nearest.away (-m) same

/-- The nearest integer is the only one. -/
theorem NearestAway.unique {n m : Int} {x : ℚ} (first : NearestAway n x) (second : NearestAway m x) :
    n = m := by
  have same : |x - n| = |x - m| := le_antisymm (first.nearest m) (second.nearest n)
  have size : |n| = |m| := le_antisymm (second.away n same) (first.away m same.symm)
  rcases abs_eq_abs.mp size with equal | opposite
  · exact equal
  · subst opposite
    rw [Int.cast_neg] at same
    rcases abs_eq_abs.mp same with zero | zero
    · have : (m : ℚ) = 0 := by linarith
      have : m = 0 := by exact_mod_cast this
      omega
    · have isZero : x = 0 := by linarith
      have least := first.nearest 0
      rw [isZero] at least
      simp only [Int.cast_neg, Int.cast_zero, sub_zero, zero_sub, neg_neg, abs_zero] at least
      have : (m : ℚ) = 0 := abs_eq_zero.mp (le_antisymm least (abs_nonneg _))
      have : m = 0 := by exact_mod_cast this
      omega

end Rounding
