import CrowAgent.Lib.WhileLoop
import CrowAgent.Scoring.Metrics
import Mathlib.Data.Nat.Size

/-!
# The integer square root

`integerSqrtRounds` is the loop of `integer_sqrt` with the arithmetic of `u128`, whose additions and
subtractions trap where they would leave the type.  None of them does, and every search is over
after 65 rounds with the root that `integerSqrt` computes (`integerSqrtRounds_terminates`).
-/

namespace CrowAgent

open FixedWidth

variable {value left right middle : Nat}

/-! ## The loop -/

/-- A round of the loop of `integer_sqrt` with its two ends. -/
def searchRound (value : Nat) (ends : Nat × Nat) : Exec Unit (WhileLoop.Turn (Nat × Nat) Nat) :=
  let (left, right) := ends
  if left ≤ right then do
    let width ← u128Sub right left
    let half ← u128Div width 2
    let middle ← u128 (left + half)
    match checkedU128 (middle * middle) with
    | some square =>
      if square = value then return .leave middle
      else if square < value then do
        let left ← u128 (middle + 1)
        return .again (left, right)
      else do
        let right ← u128Sub middle 1
        return .again (left, right)
    | none => do
      let right ← u128Sub middle 1
      return .again (left, right)
  else return .leave right

/-- `integer_sqrt`, whose loop goes round at most `fuel` times. -/
def integerSqrtRounds (value fuel : Nat) : Exec Unit (Option Nat) :=
  if value < 2 then .ok (some value)
  else WhileLoop.rounds (searchRound value) fuel (1, min value (2 ^ 64 - 1))

/-! ## The search -/

/-- The root lies between the ends: the squares below `left` are no larger than the value, the ones
above `right` are larger. -/
structure Encloses (value : Nat) (ends : Nat × Nat) : Prop where
  positive : 0 < ends.1
  ordered : ends.1 ≤ ends.2 + 1
  /-- The right end is clamped to `u64::MAX`, so squares of what lies between the ends fit. -/
  clamped : ends.2 < 2 ^ 64
  low : (ends.1 - 1) * (ends.1 - 1) ≤ value
  high : value < (ends.2 + 1) * (ends.2 + 1)

/-- The number of bits of the number of candidates, which every round halves. -/
def candidateBits (ends : Nat × Nat) : Nat := (ends.2 + 1 - ends.1).size

theorem size_lt_size_of_halved {less more : Nat} (halved : less ≤ more / 2) (positive : 0 < more) :
    less.size < more.size := by
  have bits : 0 < more.size := Nat.size_pos.mpr positive
  have fits : more < 2 ^ more.size := Nat.lt_size_self more
  have double : 2 ^ more.size = 2 * 2 ^ (more.size - 1) := by
    rw [← Nat.pow_succ', Nat.succ_eq_add_one, Nat.sub_add_cancel bits]
  have below : less.size ≤ more.size - 1 := Nat.size_le.mpr (by omega)
  omega

/-- The search starts with the root between its ends. -/
theorem encloses_start (fits : value < 2 ^ 128) (large : ¬value < 2) :
    Encloses value (1, min value (2 ^ 64 - 1)) where
  positive := Nat.one_pos
  ordered := by
    change 1 ≤ min value (2 ^ 64 - 1) + 1
    omega
  clamped := by
    change min value (2 ^ 64 - 1) < 2 ^ 64
    omega
  low := by simp
  high := by
    change value < (min value (2 ^ 64 - 1) + 1) * (min value (2 ^ 64 - 1) + 1)
    rcases le_total value (2 ^ 64 - 1) with small | top
    · rw [min_eq_left small]
      nlinarith
    · rw [min_eq_right top]
      omega

/-- The middle of the ends and the operations on it. -/
theorem searchRound_eq (encloses : Encloses value (left, right)) (order : left ≤ right)
    (isMiddle : middle = left + (right - left) / 2) :
    searchRound value (left, right) =
      if middle * middle = value then .ok (.leave middle)
      else if middle * middle < value then .ok (.again (middle + 1, right))
      else .ok (.again (left, middle - 1)) := by
  have clamped : right < 2 ^ 64 := encloses.clamped
  have positive : 0 < left := encloses.positive
  have inside : middle ≤ right := by omega
  have square : checkedU128 (middle * middle) = some (middle * middle) :=
    checkedU128_eq_some.mpr ⟨by nlinarith, rfl⟩
  have sub : u128Sub right left = (.ok (right - left) : Exec Unit Nat) := if_pos order
  have half : u128Div (right - left) 2 = (.ok ((right - left) / 2) : Exec Unit Nat) :=
    if_neg (by decide)
  have mid : u128 (left + (right - left) / 2) = (.ok middle : Exec Unit Nat) := by
    rw [← isMiddle]
    exact if_pos (by omega)
  have up : u128 (middle + 1) = (.ok (middle + 1) : Exec Unit Nat) := if_pos (by omega)
  have down : u128Sub middle 1 = (.ok (middle - 1) : Exec Unit Nat) := if_pos (by omega)
  simp only [searchRound, order, if_true, sub, half, mid, square, up, down, bind, Except.bind, pure,
    Except.pure]

/-- **Round.**  A round neither overflows nor underflows.  It ends at the root, or keeps the root
between its ends and halves the candidates. -/
theorem Encloses.round (encloses : Encloses value (left, right)) :
    (∃ next, searchRound value (left, right) = .ok (.again next) ∧ Encloses value next ∧
        candidateBits next < candidateBits (left, right)) ∨
      ∃ root, searchRound value (left, right) = .ok (.leave root) ∧
        root * root ≤ value ∧ value < (root + 1) * (root + 1) := by
  have positive : 0 < left := encloses.positive
  have ordered : left ≤ right + 1 := encloses.ordered
  have clamped : right < 2 ^ 64 := encloses.clamped
  by_cases order : left ≤ right
  · obtain ⟨middle, isMiddle⟩ : ∃ middle, middle = left + (right - left) / 2 := ⟨_, rfl⟩
    rw [searchRound_eq encloses order isMiddle]
    rcases lt_trichotomy (middle * middle) value with less | same | more
    · -- the root is at the middle or above it
      rw [if_neg less.ne, if_pos less]
      refine .inl ⟨_, rfl, ⟨Nat.succ_pos _, ?_, clamped, ?_, encloses.high⟩, ?_⟩
      · change middle + 1 ≤ right + 1
        omega
      · exact less.le
      · exact size_lt_size_of_halved (show right + 1 - (middle + 1) ≤ _ by omega) (by omega)
    · rw [if_pos same]
      refine .inr ⟨middle, rfl, same.le, ?_⟩
      nlinarith
    · -- the root is below the middle
      rw [if_neg more.ne', if_neg (by omega)]
      have inside : 0 < middle := by omega
      refine .inl ⟨_, rfl, ⟨positive, ?_, ?_, encloses.low, ?_⟩, ?_⟩
      · change left ≤ middle - 1 + 1
        omega
      · change middle - 1 < 2 ^ 64
        omega
      · change value < (middle - 1 + 1) * (middle - 1 + 1)
        rwa [Nat.sub_add_cancel inside]
      · exact size_lt_size_of_halved (show middle - 1 + 1 - left ≤ _ by omega) (by omega)
  · -- the ends have passed each other, so the right one is the root
    have met : left - 1 = right := by omega
    have low : (left - 1) * (left - 1) ≤ value := encloses.low
    rw [met] at low
    exact .inr ⟨right, if_neg order, low, encloses.high⟩

/-- **Integer square root.**  For every 128-bit value the search ends after 65 rounds, without an
overflow or an underflow, at the root of the value. -/
theorem integerSqrtRounds_terminates (fits : value < 2 ^ 128) :
    ∃ root, (∀ fuel, 65 ≤ fuel → integerSqrtRounds value fuel = .ok (some root)) ∧
      root * root ≤ value ∧ value < (root + 1) * (root + 1) ∧ integerSqrt value = root := by
  have isRoot : ∀ root, root * root ≤ value → value < (root + 1) * (root + 1) →
      integerSqrt value = root := by
    intro root low high
    rw [integerSqrt_eq_sqrt fits]
    exact (Nat.eq_sqrt.mpr ⟨low, high⟩).symm
  by_cases small : value < 2
  · obtain ⟨low, high⟩ : value * value ≤ value ∧ value < (value + 1) * (value + 1) := by
      constructor <;> nlinarith
    exact ⟨value, fun fuel _ => if_pos small, low, high, isRoot value low high⟩
  · have start := encloses_start fits small
    have bits : candidateBits (1, min value (2 ^ 64 - 1)) < 65 := by
      have size : (min value (2 ^ 64 - 1) + 1 - 1).size ≤ 64 := Nat.size_le.mpr (by omega)
      exact Nat.lt_succ_of_le size
    obtain ⟨root, ended, low, high⟩ :=
      WhileLoop.exists_rounds (fun ends encloses => Encloses.round encloses) start bits
    refine ⟨root, fun fuel enough => ?_, low, high, isRoot root low high⟩
    rw [integerSqrtRounds, if_neg small]
    exact WhileLoop.rounds_of_le ended enough

/-- The search for the root of the largest value. -/
theorem integerSqrtRounds_max :
    ∃ root, (∀ fuel, 65 ≤ fuel → integerSqrtRounds (2 ^ 128 - 1) fuel = .ok (some root)) ∧
      root * root ≤ 2 ^ 128 - 1 ∧ 2 ^ 128 - 1 < (root + 1) * (root + 1) ∧
      integerSqrt (2 ^ 128 - 1) = root :=
  integerSqrtRounds_terminates (by decide)

end CrowAgent
