import Mathlib.Order.Defs.LinearOrder
import Mathlib.Tactic.Linarith
import Mathlib.Tactic.Ring

/-!
# Mean ranks

Equal values of a list share the mean of their ranks.  `rankShare` is that mean as a share of a
whole, rounded down; `rankShare_lt` says up to which length the rounding keeps different values
apart.
-/

namespace MeanRank

variable {α : Type} [LinearOrder α] {values : List α} {a b : α}

/-- Twice the mean of the ranks from zero that the copies of a value have among the values. -/
def meanRankTwice (values : List α) (a : α) : Nat :=
  values.countP (· < a) * 2 + values.countP (· = a) - 1

theorem countP_eq_pos (mem : a ∈ values) : 0 < values.countP (· = a) :=
  List.countP_pos_iff.mpr ⟨a, mem, decide_eq_true rfl⟩

/-- What is below a value and its copies are below or at it. -/
theorem countP_lt_add_countP_eq (values : List α) (a : α) :
    values.countP (· < a) + values.countP (· = a) = values.countP (· ≤ a) := by
  induction values with
  | nil => rfl
  | cons c values ih =>
    rw [List.countP_cons, List.countP_cons, List.countP_cons, ← ih]
    rcases lt_trichotomy c a with below | rfl | above
    · simp only [below, below.ne, below.le, decide_true, decide_false, if_true]
      simp only [Bool.false_eq_true, if_false]
      omega
    · simp only [lt_irrefl, le_refl, decide_true, decide_false, if_true]
      simp only [Bool.false_eq_true, if_false]
      omega
    · simp only [above.not_gt, above.ne', above.not_ge, decide_false, Bool.false_eq_true, if_false]
      omega

/-- The mean rank of a value is within the ranks. -/
theorem meanRankTwice_le (mem : a ∈ values) :
    meanRankTwice values a ≤ 2 * (values.length - 1) := by
  have own := countP_eq_pos mem
  have atMost := countP_lt_add_countP_eq values a
  have all := List.countP_le_length (l := values) (p := (· ≤ a))
  unfold meanRankTwice
  omega

/-- A greater value has a mean rank that is greater by a whole rank. -/
theorem meanRankTwice_lt (memA : a ∈ values) (memB : b ∈ values) (less : a < b) :
    meanRankTwice values a + 2 ≤ meanRankTwice values b := by
  have ownA := countP_eq_pos memA
  have ownB := countP_eq_pos memB
  have atMost := countP_lt_add_countP_eq values a
  have below : values.countP (· ≤ a) ≤ values.countP (· < b) :=
    List.countP_mono_left fun c _ le => by
      rw [decide_eq_true_iff] at le ⊢
      exact le.trans_lt less
  unfold meanRankTwice
  omega

/-- Mean ranks as a share of a whole, rounded down. -/
def rankShare (whole : Nat) (values : List α) (a : α) : Nat :=
  meanRankTwice values a * whole / (2 * (values.length - 1))

theorem rankShare_le {whole : Nat} (mem : a ∈ values) :
    rankShare whole values a ≤ whole := by
  have le := meanRankTwice_le mem
  unfold rankShare
  exact Nat.div_le_of_le_mul (Nat.mul_le_mul_right _ le)

/-- While the values are few, a greater one has a share that is greater by a step. -/
theorem rankShare_lt {whole step : Nat} (memA : a ∈ values) (memB : b ∈ values) (less : a < b)
    (few : step * (values.length - 1) ≤ whole) :
    rankShare whole values a + step ≤ rankShare whole values b := by
  have two : 0 < 2 * (values.length - 1) := by
    have leA := meanRankTwice_le memA
    have leB := meanRankTwice_le memB
    have apart := meanRankTwice_lt memA memB less
    omega
  have apart := meanRankTwice_lt memA memB less
  unfold rankShare
  rw [← Nat.add_mul_div_right _ _ two]
  refine Nat.div_le_div_right ?_
  calc meanRankTwice values a * whole + step * (2 * (values.length - 1))
      ≤ meanRankTwice values a * whole + 2 * whole := by linarith
    _ = (meanRankTwice values a + 2) * whole := by ring
    _ ≤ meanRankTwice values b * whole := Nat.mul_le_mul_right _ apart

end MeanRank
