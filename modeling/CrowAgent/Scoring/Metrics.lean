import CrowAgent.Lib.FixedWidth
import CrowAgent.Lib.Rounding
import Mathlib.Data.List.Basic
import Mathlib.Data.Nat.Sqrt
import Mathlib.Tactic.Linarith

/-!
# Performance of an equity curve

`performanceMetrics` scores an equity curve by its return, its Sortino ratio and its largest
drawdown, all in millionths.  The bisection of `integerSqrt` computes the exact integer square root
(`integerSqrt_eq_sqrt`), and the drawdown is the deepest drop between any two points of the curve
(`isGreatest_maxDrawdownMicros`).
-/

namespace CrowAgent

open FixedWidth

def returnScale : Int := 1000000

structure PerformanceMetrics : Type where
  netReturnMicros : Int64
  sortinoMicros : Int64
  maxDrawdownMicros : Int64
  deriving DecidableEq, Repr

/-! ## Integer square root -/

/-- The bisection of `integer_sqrt`; the left end stays positive. -/
def integerSqrtLoop (value left right : Nat) (pos : 0 < left) : Nat :=
  if left ≤ right then
    let middle := left + (right - left) / 2
    match checkedU128 (middle * middle) with
    | some square =>
      if square = value then middle
      else if square < value then integerSqrtLoop value (middle + 1) right (Nat.succ_pos _)
      else integerSqrtLoop value left (middle - 1) pos
    | none => integerSqrtLoop value left (middle - 1) pos
  else right
termination_by right + 1 - left

def integerSqrt (value : Nat) : Nat :=
  if value < 2 then value
  else integerSqrtLoop value 1 (min value (2 ^ 64 - 1)) (by omega)

/-- The bisection keeps the root between its ends, so it ends at the root. -/
theorem integerSqrtLoop_eq_sqrt {value left right : Nat} {pos : 0 < left}
    (fits : value < 2 ^ 128) (ordered : left ≤ right + 1)
    (low : (left - 1) * (left - 1) ≤ value) (high : value < (right + 1) * (right + 1)) :
    integerSqrtLoop value left right pos = Nat.sqrt value := by
  fun_induction integerSqrtLoop value left right pos with
  | case1 left right pos order middle product =>
    obtain ⟨-, same⟩ := checkedU128_eq_some.mp product
    rw [← same]
    exact (Nat.sqrt_eq middle).symm
  | case2 left right pos order middle square product ne less ih =>
    obtain ⟨-, same⟩ := checkedU128_eq_some.mp product
    have inside : middle ≤ right := by omega
    exact ih (by omega) (by rw [Nat.add_sub_cancel, same]; exact less.le) high
  | case3 left right pos order middle square product ne more ih =>
    obtain ⟨-, same⟩ := checkedU128_eq_some.mp product
    have above : value < middle * middle := by omega
    have positive : 0 < middle := by omega
    exact ih (by omega) low (by rwa [Nat.sub_add_cancel positive])
  | case4 left right pos order middle product ih =>
    have above : value < middle * middle := by
      simp only [checkedU128, ite_eq_right_iff, reduceCtorEq, imp_false, not_lt] at product
      omega
    have positive : 0 < middle := by omega
    exact ih (by omega) low (by rwa [Nat.sub_add_cancel positive])
  | case5 left right pos order =>
    have ends : left - 1 = right := by omega
    rw [ends] at low
    have lower := Nat.le_sqrt.mpr low
    have upper := Nat.sqrt_lt.mpr high
    omega

/-- **Integer square root.**  On every 128-bit value `integerSqrt` is the floor of the root. -/
theorem integerSqrt_eq_sqrt {value : Nat} (fits : value < 2 ^ 128) :
    integerSqrt value = Nat.sqrt value := by
  unfold integerSqrt
  split
  · rename_i small
    obtain rfl | rfl : value = 0 ∨ value = 1 := by omega
    · simp
    · simp
  · refine integerSqrtLoop_eq_sqrt fits (by omega) (by simp) ?_
    rcases le_total value (2 ^ 64 - 1) with small | large
    · rw [min_eq_left small]
      nlinarith
    · rw [min_eq_right large]
      omega

/-! ## The metrics -/

/-- What the walk over the curve has collected so far. -/
structure CurveScan : Type where
  returns : List Int
  peak : Int64
  maximumDrawdown : Int
  deriving DecidableEq, Repr

/-- The deepest drop after one more point under the running peak. -/
def windowDrawdown (soFar : Int) (peak current : Int64) : Exec Unit Int :=
  if current < peak then do
    let lost ← i128 ((peak.toInt - current.toInt) * returnScale)
    let drawdown ← i128Div lost peak.toInt
    return max soFar drawdown
  else .ok soFar

/-- One window of the walk: the step's return and the drop from the running peak. -/
def scanWindow (scan : CurveScan) (previous current : Int64) : Exec Unit CurveScan := do
  let change ← i128 ((current.toInt - previous.toInt) * returnScale)
  let stepReturn ← i128Div change previous.toInt
  let peak := max scan.peak current
  let maximumDrawdown ← windowDrawdown scan.maximumDrawdown peak current
  return { returns := scan.returns ++ [stepReturn], peak, maximumDrawdown }

/-- The loop over `equity.windows(2)`. -/
def scanWindows (scan : CurveScan) (previous : Int64) : List Int64 → Exec Unit CurveScan
  | [] => .ok scan
  | current :: rest => do
    let next ← scanWindow scan previous current
    scanWindows next current rest

/-- The sum of the squared losses. -/
def downsideSquares (returns : List Int) : Exec Unit Nat :=
  (returns.filter (· < 0)).foldlM (fun sum value => do
    let square ← okOr (checkedU128 (value.natAbs * value.natAbs)) ()
    okOr (checkedU128 (sum + square)) ()) 0

/-- Mean return over the downside deviation. -/
def sortinoRatio (mean : Int) (downsideDeviation : Nat) : Exec Unit Int64 :=
  if downsideDeviation = 0 then .ok (if mean > 0 then Int64.maxValue else 0)
  else do
    let scaled ← i128 (mean * returnScale)
    let ratio ← i128Div scaled downsideDeviation
    tryI64 ratio ()

def performanceMetrics (equity : List Int64) : Exec Unit PerformanceMetrics :=
  match equity with
  | [] | [_] => raise ()
  | first :: second :: rest => do
    rejectIf ((first :: second :: rest).any (· ≤ 0)) ()
    let start := first.toInt
    let finish := ((second :: rest).getLast (by simp)).toInt
    let gain ← i128 ((finish - start) * returnScale)
    let netReturn ← i128Div gain start
    let netReturnMicros ← tryI64 netReturn ()
    let scan ← scanWindows { returns := [], peak := first, maximumDrawdown := 0 } first
      (second :: rest)
    let count : Int := scan.returns.length
    let sum ← scan.returns.foldlM (fun sum value => i128 (sum + value)) 0
    let mean ← i128Div sum count
    let squares ← downsideSquares scan.returns
    let downsideSquareMean ← u128Div squares scan.returns.length
    let sortinoMicros ← sortinoRatio mean (integerSqrt downsideSquareMean)
    let maxDrawdownMicros ← tryI64 scan.maximumDrawdown ()
    return { netReturnMicros, sortinoMicros, maxDrawdownMicros }

/-! ## The drawdown -/

/-- The drops of a curve, in millionths: none at all, or from a point to a later one. -/
def drops (curve : List Int64) : Set Int :=
  {drop | drop = 0 ∨ ∃ earlier later : Int64, [earlier, later].Sublist curve ∧
    drop = Rounding.dropShare returnScale earlier.toInt later.toInt}

/-- What the walk knows after a part of the curve: its peak and its deepest drop. -/
structure Scanned (seen : List Int64) (scan : CurveScan) : Prop where
  peak_mem : scan.peak ∈ seen
  le_peak : ∀ point ∈ seen, point.toInt ≤ scan.peak.toInt
  deepest : IsGreatest (drops seen) scan.maximumDrawdown

theorem returnScale_nonneg : 0 ≤ returnScale := by decide

/-- A point's drop from the running peak is compared with the deepest one. -/
theorem eq_of_windowDrawdown {soFar drawdown : Int} {peak current : Int64} (nonneg : 0 ≤ soFar)
    (ok : windowDrawdown soFar peak current = .ok drawdown) :
    drawdown = max soFar (Rounding.dropShare returnScale peak.toInt current.toInt) := by
  unfold windowDrawdown at ok
  split at ok
  · rename_i below
    rw [Int64.lt_iff_toInt_lt] at below
    simp only [bind_eq_ok, i128_eq_ok, i128Div_eq_ok, existsAndEq, pure, Except.pure,
      Except.ok.injEq, and_true] at ok
    obtain ⟨-, -, -, rfl⟩ := ok
    rw [Rounding.dropShare_of_lt below, Int.tdiv_eq_ediv_of_nonneg
      (mul_nonneg (by omega) returnScale_nonneg)]
  · rename_i above
    rw [Int64.lt_iff_toInt_lt, not_lt] at above
    cases ok
    rw [Rounding.dropShare_of_le above, max_eq_left nonneg]

/-- One window updates the peak and compares the drop from it. -/
theorem eq_of_scanWindow {scan next : CurveScan} {previous current : Int64}
    (nonneg : 0 ≤ scan.maximumDrawdown)
    (ok : scanWindow scan previous current = .ok next) :
    next.peak = max scan.peak current ∧
      next.maximumDrawdown = max scan.maximumDrawdown
        (Rounding.dropShare returnScale next.peak.toInt current.toInt) := by
  simp only [scanWindow, bind_eq_ok, pure, Except.pure, Except.ok.injEq] at ok
  obtain ⟨change, -, stepReturn, -, drawdown, drawdownOk, rfl⟩ := ok
  exact ⟨rfl, eq_of_windowDrawdown nonneg drawdownOk⟩

/-- The drops of a curve extended by a point are the old ones and those to the new point. -/
theorem mem_drops_append {seen : List Int64} {current : Int64} {drop : Int} :
    drop ∈ drops (seen ++ [current]) ↔ drop ∈ drops seen ∨
      ∃ earlier ∈ seen, drop = Rounding.dropShare returnScale earlier.toInt current.toInt := by
  constructor
  · rintro (zero | ⟨earlier, later, sublist, rfl⟩)
    · exact .inl (.inl zero)
    · obtain ⟨front, back, split, inSeen, inNew⟩ := List.sublist_append_iff.mp sublist
      rcases List.sublist_singleton.mp inNew with rfl | rfl
      · rw [List.append_nil] at split
        exact .inl (.inr ⟨earlier, later, split ▸ inSeen, rfl⟩)
      · have pair : [earlier] ++ [later] = front ++ [current] := split
        obtain ⟨rfl, rfl⟩ : [earlier] = front ∧ later = current := by
          simpa using List.append_inj' pair rfl
        exact .inr ⟨earlier, List.singleton_sublist.mp inSeen, rfl⟩
  · rintro ((zero | ⟨earlier, later, sublist, rfl⟩) | ⟨earlier, mem, rfl⟩)
    · exact .inl zero
    · exact .inr ⟨earlier, later, sublist.trans (List.sublist_append_left _ _), rfl⟩
    · exact .inr ⟨earlier, current, List.Sublist.append (List.singleton_sublist.mpr mem)
        (List.Sublist.refl [current]), rfl⟩

/-- One window keeps the peak and the deepest drop of what was seen. -/
theorem Scanned.step {seen : List Int64} {scan next : CurveScan} {previous current : Int64}
    (scanned : Scanned seen scan) (pos : 0 < current.toInt)
    (ok : scanWindow scan previous current = .ok next) : Scanned (seen ++ [current]) next := by
  have nonneg : 0 ≤ scan.maximumDrawdown := scanned.deepest.2 (.inl rfl)
  obtain ⟨peakEq, drawdownEq⟩ := eq_of_scanWindow nonneg ok
  have peakInt : next.peak.toInt = max scan.peak.toInt current.toInt := by
    rw [peakEq, toInt_max]
  refine ⟨?_, ?_, ?_, ?_⟩
  · rw [peakEq]
    change (if scan.peak ≤ current then current else scan.peak) ∈ _
    split
    · exact List.mem_append_right _ (List.mem_singleton_self _)
    · exact List.mem_append_left _ scanned.peak_mem
  · intro point mem
    rw [peakInt]
    rcases List.mem_append.mp mem with old | new
    · exact (scanned.le_peak point old).trans (le_max_left _ _)
    · rw [List.mem_singleton.mp new]
      exact le_max_right _ _
  · rw [drawdownEq, mem_drops_append]
    rcases max_choice scan.maximumDrawdown
      (Rounding.dropShare returnScale next.peak.toInt current.toInt) with old | new
    · rw [old]
      exact .inl scanned.deepest.1
    · rw [new]
      rcases le_total current.toInt scan.peak.toInt with below | above
      · rw [peakInt, max_eq_left below]
        exact .inr ⟨scan.peak, scanned.peak_mem, rfl⟩
      · rw [peakInt, max_eq_right above, Rounding.dropShare_of_le le_rfl]
        exact .inl (.inl rfl)
  · intro drop mem
    rw [drawdownEq]
    rcases mem_drops_append.mp mem with old | ⟨earlier, inSeen, rfl⟩
    · exact (scanned.deepest.2 old).trans (le_max_left _ _)
    · refine le_trans ?_ (le_max_right _ _)
      refine Rounding.dropShare_mono returnScale_nonneg pos ?_
      rw [peakInt]
      exact (scanned.le_peak earlier inSeen).trans (le_max_left _ _)

/-- The whole walk keeps the peak and the deepest drop of what was seen. -/
theorem Scanned.run {seen rest : List Int64} {scan final : CurveScan} {previous : Int64}
    (scanned : Scanned seen scan) (pos : ∀ point ∈ rest, 0 < point.toInt)
    (ok : scanWindows scan previous rest = .ok final) : Scanned (seen ++ rest) final := by
  induction rest generalizing seen scan previous with
  | nil =>
    cases ok
    rwa [List.append_nil]
  | cons current rest ih =>
    simp only [scanWindows, bind_eq_ok] at ok
    obtain ⟨next, stepOk, restOk⟩ := ok
    have stepped := scanned.step (pos current List.mem_cons_self) stepOk
    rw [List.append_cons]
    exact ih stepped (fun point mem => pos point (List.mem_cons_of_mem _ mem)) restOk

/-- **Drawdown.**  The drawdown of a curve is the deepest drop from a point to a later one. -/
theorem isGreatest_maxDrawdownMicros {equity : List Int64} {metrics : PerformanceMetrics}
    (ok : performanceMetrics equity = .ok metrics) :
    IsGreatest (drops equity) metrics.maxDrawdownMicros.toInt := by
  unfold performanceMetrics at ok
  split at ok
  · exact absurd ok raise_ne_ok
  · exact absurd ok raise_ne_ok
  · rename_i first second rest
    simp only [bind_eq_ok, rejectIf_eq_ok, exists_const, pure, Except.pure, Except.ok.injEq] at ok
    obtain ⟨positive, gain, -, ratio, -, netReturn, -, scan, scanOk, sum, -, mean, -, squares, -,
      meanSquare, -, sortino, -, drawdown, drawdownOk, rfl⟩ := ok
    have pos : ∀ point ∈ second :: rest, 0 < point.toInt := by
      intro point mem
      simp only [List.any_eq_true, decide_eq_true_eq, not_exists, not_and] at positive
      have above := positive point (List.mem_cons_of_mem _ mem)
      rwa [Int64.le_iff_toInt_le, not_le] at above
    have start : Scanned [first] { returns := [], peak := first, maximumDrawdown := 0 } := by
      refine ⟨List.mem_singleton_self _, ?_, .inl rfl, ?_⟩
      · intro point mem
        rw [List.mem_singleton.mp mem]
      · rintro drop (zero | ⟨earlier, later, sublist, -⟩)
        · exact zero.le
        · exact absurd sublist.length_le (by simp)
    rw [tryI64_eq_ok.mp drawdownOk]
    exact (start.run pos scanOk).deepest

/-- On a peak and a later equity the drawdown is the drop between the two. -/
theorem maxDrawdownMicros_pair {peak equity : Int64} {metrics : PerformanceMetrics}
    (pos : 0 < equity.toInt) (ok : performanceMetrics [peak, equity] = .ok metrics) :
    metrics.maxDrawdownMicros.toInt =
      Rounding.dropShare returnScale peak.toInt equity.toInt := by
  refine (isGreatest_maxDrawdownMicros ok).unique ⟨.inr ⟨peak, equity, List.Sublist.refl _, rfl⟩, ?_⟩
  rintro drop (rfl | ⟨earlier, later, sublist, rfl⟩)
  · exact Rounding.dropShare_nonneg returnScale_nonneg pos
  · obtain ⟨rfl, rfl⟩ : earlier = peak ∧ later = equity := by
      simpa using sublist.eq_of_length rfl
    exact le_rfl

/-! ## Falls always have metrics -/

/-- The return of a step down is a loss of at most everything. -/
theorem stepReturn_bounds {previous current : Int} (pos : 0 < current) (le : current ≤ previous) :
    -returnScale ≤ ((current - previous) * returnScale).tdiv previous ∧
      ((current - previous) * returnScale).tdiv previous ≤ 0 := by
  have opposite : (current - previous) * returnScale = -((previous - current) * returnScale) := by
    ring
  have lost : 0 ≤ (previous - current) * returnScale :=
    mul_nonneg (by omega) returnScale_nonneg
  have whole : (previous - current) * returnScale / previous ≤ returnScale := by
    rw [← Int.lt_add_one_iff, Int.ediv_lt_iff_lt_mul (by omega)]
    have := returnScale_nonneg
    nlinarith
  have nonneg : 0 ≤ (previous - current) * returnScale / previous :=
    Int.ediv_nonneg lost (by omega)
  rw [opposite, Int.neg_tdiv, Int.tdiv_eq_ediv_of_nonneg lost]
  omega

/-- The ratio of a mean loss of at most everything to its own size is representable. -/
theorem sortinoRatio_isOk {mean : Int} (low : -returnScale ≤ mean) (high : mean ≤ 0) :
    ∃ ratio, sortinoRatio mean (integerSqrt (mean.natAbs * mean.natAbs)) = .ok ratio := by
  have scale : returnScale = 1000000 := rfl
  have small : mean.natAbs ≤ 1000000 := by omega
  have square : mean.natAbs * mean.natAbs < 2 ^ 128 :=
    (Nat.mul_le_mul small small).trans_lt (by norm_num)
  rw [integerSqrt_eq_sqrt square, Nat.sqrt_eq, sortinoRatio]
  split
  · exact ⟨_, rfl⟩
  · rename_i lossy
    obtain ⟨size, rfl⟩ : ∃ size : Nat, mean = -size := ⟨mean.natAbs, by omega⟩
    rw [Int.natAbs_neg, Int.natAbs_natCast] at *
    have exact : (-size * returnScale).tdiv size = -returnScale := by
      rw [neg_mul, Int.neg_tdiv, Int.mul_tdiv_cancel_left _ (by omega)]
    refine ⟨Int64.ofInt (-returnScale), ?_⟩
    simp only [bind_eq_ok, i128_eq_ok, i128Div_eq_ok, tryI64_eq_ok, existsAndEq, exact, and_true]
    refine ⟨?_, ⟨by omega, by decide⟩, by decide⟩
    rw [scale]
    omega

/-- The drop from a peak to a positive equity is measured, and is at most everything. -/
theorem windowDrawdown_isOk {peak current : Int64} (pos : 0 < current.toInt) :
    ∃ drawdown, windowDrawdown 0 peak current = .ok drawdown ∧ 0 ≤ drawdown ∧
      drawdown ≤ returnScale := by
  have scale : returnScale = 1000000 := rfl
  have peakBound := peak.toInt_lt
  unfold windowDrawdown
  split
  · rename_i below
    rw [Int64.lt_iff_toInt_lt] at below
    have lost : 0 ≤ (peak.toInt - current.toInt) * returnScale :=
      mul_nonneg (by omega) returnScale_nonneg
    have whole : (peak.toInt - current.toInt) * returnScale / peak.toInt ≤ returnScale := by
      rw [← Int.lt_add_one_iff, Int.ediv_lt_iff_lt_mul (by omega)]
      have := returnScale_nonneg
      nlinarith
    have nonneg : 0 ≤ (peak.toInt - current.toInt) * returnScale / peak.toInt :=
      Int.ediv_nonneg lost (by omega)
    refine ⟨max 0 ((peak.toInt - current.toInt) * returnScale / peak.toInt), ?_, by omega, by omega⟩
    simp only [bind_eq_ok, i128_eq_ok, i128Div_eq_ok, existsAndEq, and_true,
      Int.tdiv_eq_ediv_of_nonneg lost, pure, Except.pure]
    refine ⟨?_, by omega⟩
    rw [scale] at *
    omega
  · exact ⟨0, rfl, le_rfl, returnScale_nonneg⟩

/-- The squared losses of a single step that is no gain. -/
theorem downsideSquares_singleton {step : Int} (low : -returnScale ≤ step) (high : step ≤ 0) :
    downsideSquares [step] = .ok (step.natAbs * step.natAbs) := by
  have scale : returnScale = 1000000 := rfl
  have small : step.natAbs ≤ 1000000 := by omega
  have square : step.natAbs * step.natAbs < 2 ^ 128 :=
    (Nat.mul_le_mul small small).trans_lt (by norm_num)
  rcases high.lt_or_eq with loss | rfl
  · have kept : [step].filter (· < 0) = [step] := by simp [loss]
    rw [downsideSquares, kept]
    simp only [List.foldlM_cons, List.foldlM_nil, bind_eq_ok, okOr_eq_ok, checkedU128_eq_some,
      existsAndEq, and_true, zero_add, pure, Except.pure]
    exact ⟨square, square⟩
  · rfl

/-- A fall from a peak to a positive equity always has metrics. -/
theorem performanceMetrics_pair_isOk {peak equity : Int64} (pos : 0 < equity.toInt)
    (le : equity.toInt ≤ peak.toInt) :
    ∃ metrics, performanceMetrics [peak, equity] = .ok metrics := by
  have scale : returnScale = 1000000 := rfl
  have peakBound := peak.toInt_lt
  obtain ⟨low, high⟩ := stepReturn_bounds pos le
  obtain ⟨drawdown, drawdownOk, nonneg, atMost⟩ :
      ∃ drawdown, windowDrawdown 0 (max peak equity) equity = .ok drawdown ∧ 0 ≤ drawdown ∧
        drawdown ≤ returnScale := windowDrawdown_isOk pos
  obtain ⟨sortino, sortinoOk⟩ := sortinoRatio_isOk low high
  have squaresOk := downsideSquares_singleton low high
  generalize step : ((equity.toInt - peak.toInt) * returnScale).tdiv peak.toInt = stepReturn at *
  have change : (i128 ((equity.toInt - peak.toInt) * returnScale) : Exec Unit Int) =
      .ok ((equity.toInt - peak.toInt) * returnScale) :=
    i128_eq_ok.mpr ⟨by rw [scale]; omega, rfl⟩
  have stepOk : (i128Div ((equity.toInt - peak.toInt) * returnScale) peak.toInt : Exec Unit Int) =
      .ok stepReturn := i128Div_eq_ok.mpr ⟨by omega, i128_eq_ok.mpr ⟨by omega, step⟩⟩
  have scanOk : scanWindows { returns := [], peak, maximumDrawdown := 0 } peak [equity] =
      .ok { returns := [stepReturn], peak := max peak equity, maximumDrawdown := drawdown } := by
    simp only [scanWindows, scanWindow, change, stepOk, drawdownOk, bind, Except.bind, pure,
      Except.pure, List.nil_append]
  have positive : ¬[peak, equity].any (· ≤ 0) = true := by
    simp only [List.any_cons, List.any_nil, Bool.or_false, Bool.or_eq_true, decide_eq_true_eq,
      Int64.le_iff_toInt_le, not_or, not_le]
    exact ⟨pos.trans_le le, pos⟩
  have sumOk : (i128 stepReturn : Exec Unit Int) = .ok stepReturn :=
    i128_eq_ok.mpr ⟨by omega, rfl⟩
  have meanOk : (i128Div stepReturn ((1 : Nat) : Int) : Exec Unit Int) = .ok stepReturn :=
    i128Div_eq_ok.mpr ⟨by decide, by rwa [Nat.cast_one, Int.tdiv_one]⟩
  have squareMeanOk : (u128Div (stepReturn.natAbs * stepReturn.natAbs) 1 : Exec Unit Nat) =
      .ok (stepReturn.natAbs * stepReturn.natAbs) := u128Div_eq_ok.mpr ⟨by decide, Nat.div_one _⟩
  refine ⟨⟨Int64.ofInt stepReturn, sortino, Int64.ofInt drawdown⟩, ?_⟩
  have toI64 : ∀ value : Int, -returnScale ≤ value → value ≤ returnScale →
      (tryI64 value () : Exec Unit Int64) = .ok (Int64.ofInt value) := by
    intro value above below
    exact tryI64_eq_ok.mpr (Int64.toInt_ofInt_of_le (by omega) (by omega))
  simp only [performanceMetrics, rejectIf, if_neg positive, List.getLast_singleton, change, stepOk,
    toI64 stepReturn low (by omega), scanOk, toI64 drawdown (by omega) atMost, squaresOk, bind,
    Except.bind, List.foldlM_cons, List.foldlM_nil, List.length_singleton, zero_add, sumOk, pure,
    Except.pure, meanOk, squareMeanOk, sortinoOk]
end CrowAgent
