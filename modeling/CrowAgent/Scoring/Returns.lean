import CrowAgent.Scoring.Metrics
import Mathlib.Algebra.BigOperators.Group.List.Basic

/-!
# Returns of an equity curve

What the metrics of a curve are, as exact numbers: the returns of its steps in whole millionths,
their mean, and the deviation of the losses.

* `maxDrawdownMicros_exact`: the drawdown is the greatest over all pairs of points, and a curve of
  positive values has metrics unless a number does not fit.
* `sortinoMicros_exact`: when the ratio is the sentinel for no downside.
-/

namespace CrowAgent

open FixedWidth

/-! ## Exact returns -/

/-- The return of a step in whole millionths, cut off towards zero. -/
def stepReturn (previous current : Int64) : Int :=
  ((current.toInt - previous.toInt) * returnScale).tdiv previous.toInt

/-- The returns of the steps after a point. -/
def returnsAfter (previous : Int64) : List Int64 → List Int
  | [] => []
  | current :: rest => stepReturn previous current :: returnsAfter current rest

/-- The returns of the steps of a curve. -/
def stepReturns : List Int64 → List Int
  | [] => []
  | first :: rest => returnsAfter first rest

/-- The return over the whole curve. -/
def netReturn (curve : List Int64) : Int :=
  stepReturn (curve.headD 0) (curve.getLastD 0)

def meanReturn (curve : List Int64) : Int :=
  (stepReturns curve).sum.tdiv (stepReturns curve).length

/-- The sum of the squares of losses. -/
def squaresSum (losses : List Int) : Nat := (losses.map fun loss => loss.natAbs * loss.natAbs).sum

/-- The squared losses of returns. -/
def lossSquares (returns : List Int) : Nat := squaresSum (returns.filter (· < 0))

/-- The root of the mean squared loss, rounded down twice. -/
def downsideDeviation (curve : List Int64) : Nat :=
  Nat.sqrt (lossSquares (stepReturns curve) / (stepReturns curve).length)

theorem length_returnsAfter (previous : Int64) (rest : List Int64) :
    (returnsAfter previous rest).length = rest.length := by
  induction rest generalizing previous with
  | nil => rfl
  | cons current rest ih => rw [returnsAfter, List.length_cons, ih, List.length_cons]

/-! ## What the loops compute -/

/-- One window adds the return of its step. -/
theorem returns_of_scanWindow {scan next : CurveScan} {previous current : Int64}
    (ok : scanWindow scan previous current = .ok next) :
    next.returns = scan.returns ++ [stepReturn previous current] := by
  simp only [scanWindow, bind_eq_ok, i128_eq_ok, i128Div_eq_ok, pure, Except.pure,
    Except.ok.injEq] at ok
  obtain ⟨-, ⟨-, rfl⟩, -, ⟨-, -, rfl⟩, -, -, rfl⟩ := ok
  rfl

/-- The walk adds the returns of its steps. -/
theorem returns_of_scanWindows {scan final : CurveScan} {previous : Int64} {rest : List Int64}
    (ok : scanWindows scan previous rest = .ok final) :
    final.returns = scan.returns ++ returnsAfter previous rest := by
  induction rest generalizing scan previous with
  | nil =>
    cases ok
    rw [returnsAfter, List.append_nil]
  | cons current rest ih =>
    simp only [scanWindows, bind_eq_ok] at ok
    obtain ⟨next, stepOk, restOk⟩ := ok
    rw [ih restOk, returns_of_scanWindow stepOk, List.append_assoc, returnsAfter]
    rfl

/-- The sum of the returns is exact. -/
theorem sum_of_foldlM {returns : List Int} {sum total : Int}
    (ok : returns.foldlM (fun sum value => i128 (sum + value)) sum = (.ok total : Exec Unit Int)) :
    total = sum + returns.sum := by
  induction returns generalizing sum with
  | nil =>
    cases ok
    rw [List.sum_nil, add_zero]
  | cons value returns ih =>
    simp only [List.foldlM_cons, bind_eq_ok, i128_eq_ok] at ok
    obtain ⟨-, ⟨-, rfl⟩, restOk⟩ := ok
    rw [ih restOk, List.sum_cons, add_assoc]

/-- A loss is squared and added. -/
def addSquare (sum : Nat) (value : Int) : Exec Unit Nat := do
  let square ← okOr (checkedU128 (value.natAbs * value.natAbs)) ()
  okOr (checkedU128 (sum + square)) ()

theorem addSquare_eq_ok {sum next : Nat} {value : Int} :
    addSquare sum value = .ok next ↔
      sum + value.natAbs * value.natAbs < 2 ^ 128 ∧ sum + value.natAbs * value.natAbs = next := by
  simp only [addSquare, bind_eq_ok, okOr_eq_ok, checkedU128_eq_some]
  constructor
  · rintro ⟨-, ⟨-, rfl⟩, sumOk⟩
    exact sumOk
  · rintro ⟨fits, isNext⟩
    exact ⟨_, ⟨by omega, rfl⟩, fits, isNext⟩

theorem checkedU128_eq_none {exact : Nat} : checkedU128 exact = none ↔ 2 ^ 128 ≤ exact := by
  unfold checkedU128
  split_ifs with fits
  · exact iff_of_false nofun (not_le.mpr fits)
  · exact iff_of_true rfl (not_lt.mp fits)

theorem addSquare_eq_error {sum : Nat} {value : Int} {halt : Halt Unit}
    (failed : addSquare sum value = .error halt) :
    halt = .error () ∧ 2 ^ 128 ≤ sum + value.natAbs * value.natAbs := by
  simp only [addSquare, bind_eq_error, okOr_eq_error, okOr_eq_ok, checkedU128_eq_some,
    checkedU128_eq_none] at failed
  rcases failed with ⟨large, rfl⟩ | ⟨-, ⟨-, rfl⟩, large, rfl⟩
  · exact ⟨rfl, large.trans (Nat.le_add_left _ _)⟩
  · exact ⟨rfl, large⟩

/-- The sum of squares is exact and fits. -/
theorem squares_of_foldlM {losses : List Int} {sum squares : Nat} (fits : sum < 2 ^ 128)
    (ok : losses.foldlM addSquare sum = .ok squares) :
    squares = sum + squaresSum losses ∧ squares < 2 ^ 128 := by
  induction losses generalizing sum with
  | nil =>
    cases ok
    exact ⟨rfl, fits⟩
  | cons loss losses ih =>
    rw [List.foldlM_cons, bind_eq_ok] at ok
    obtain ⟨next, nextOk, restOk⟩ := ok
    obtain ⟨nextFits, rfl⟩ := addSquare_eq_ok.mp nextOk
    have rest := ih nextFits restOk
    rwa [add_assoc] at rest

/-- The sum of squares fails only when it does not fit. -/
theorem overflow_of_foldlM {losses : List Int} {sum : Nat} {halt : Halt Unit}
    (failed : losses.foldlM addSquare sum = .error halt) :
    halt = .error () ∧ 2 ^ 128 ≤ sum + squaresSum losses := by
  induction losses generalizing sum with
  | nil => cases failed
  | cons loss losses ih =>
    have isSum : sum + squaresSum (loss :: losses) =
        sum + loss.natAbs * loss.natAbs + squaresSum losses := (add_assoc _ _ _).symm
    rw [List.foldlM_cons, bind_eq_error] at failed
    rw [isSum]
    rcases failed with here | ⟨next, nextOk, restFailed⟩
    · exact ⟨(addSquare_eq_error here).1,
        (addSquare_eq_error here).2.trans (Nat.le_add_right _ _)⟩
    · obtain ⟨-, rfl⟩ := addSquare_eq_ok.mp nextOk
      exact ih restFailed

/-! ## The parts of the metrics -/

/-- The ratio of the mean return to the deviation of the losses, with the sentinel for none. -/
def sortino (curve : List Int64) : Int :=
  if downsideDeviation curve = 0 then if 0 < meanReturn curve then 2 ^ 63 - 1 else 0
  else (meanReturn curve * returnScale).tdiv (downsideDeviation curve)

/-- What the metrics of a curve are. -/
structure Measured (curve : List Int64) (metrics : PerformanceMetrics) : Prop where
  long : 2 ≤ curve.length
  positive : ∀ point ∈ curve, 0 < point.toInt
  netReturn : metrics.netReturnMicros.toInt = netReturn curve
  sortino : metrics.sortinoMicros.toInt = sortino curve
  squares : lossSquares (stepReturns curve) < 2 ^ 128

theorem toInt_maxValue : (Int64.maxValue).toInt = 2 ^ 63 - 1 := by decide

/-- The ratio, where it fits. -/
theorem sortinoRatio_eq_ok {mean : Int} {deviation : Nat} {ratio : Int64}
    (ok : sortinoRatio mean deviation = .ok ratio) :
    ratio.toInt = if deviation = 0 then if 0 < mean then 2 ^ 63 - 1 else 0
      else (mean * returnScale).tdiv deviation := by
  unfold sortinoRatio at ok
  split_ifs at ok ⊢ with none gain
  · rw [← Except.ok.inj ok]
    exact toInt_maxValue
  · rw [← Except.ok.inj ok]
    decide
  · simp only [bind_eq_ok, i128_eq_ok, i128Div_eq_ok, tryI64_eq_ok] at ok
    obtain ⟨-, ⟨-, rfl⟩, -, ⟨-, -, rfl⟩, isRatio⟩ := ok
    exact isRatio

/-- The points of a curve that is measured are positive. -/
theorem positive_of_not_any {curve : List Int64} (positive : ¬curve.any (· ≤ 0) = true) :
    ∀ point ∈ curve, 0 < point.toInt := by
  intro point mem
  simp only [List.any_eq_true, decide_eq_true_eq, not_exists, not_and] at positive
  have above := positive point mem
  rwa [Int64.le_iff_toInt_le, not_le] at above

/-- **Metrics.**  What a curve's metrics are. -/
theorem measured_of_performanceMetrics {curve : List Int64} {metrics : PerformanceMetrics}
    (ok : performanceMetrics curve = .ok metrics) : Measured curve metrics := by
  unfold performanceMetrics at ok
  split at ok
  · exact absurd ok raise_ne_ok
  · exact absurd ok raise_ne_ok
  · rename_i first second rest
    simp only [bind_eq_ok, rejectIf_eq_ok, exists_const, i128_eq_ok, i128Div_eq_ok, u128Div_eq_ok,
      tryI64_eq_ok, pure, Except.pure, Except.ok.injEq] at ok
    obtain ⟨positive, gain, ⟨-, rfl⟩, net, ⟨-, -, rfl⟩, netReturn, isNet, scan, scanOk, sum, sumOk,
      mean, ⟨-, -, rfl⟩, squares, squaresOk, meanSquare, ⟨-, rfl⟩, ratio, ratioOk, drawdown, -, rfl⟩ := ok
    have isReturns := returns_of_scanWindows scanOk
    have isSum := sum_of_foldlM sumOk
    have isSquares : squares = lossSquares scan.returns ∧ squares < 2 ^ 128 := by
      have exact := squares_of_foldlM (by decide) squaresOk
      rwa [zero_add] at exact
    obtain ⟨rfl, fits⟩ := isSquares
    have isReturns : scan.returns = stepReturns (first :: second :: rest) := isReturns
    rw [zero_add] at isSum
    rw [isReturns] at isSum fits
    rw [isSum, isReturns, integerSqrt_eq_sqrt ((Nat.div_le_self _ _).trans_lt fits)] at ratioOk
    refine ⟨by simp, positive_of_not_any positive, ?_, sortinoRatio_eq_ok ratioOk, fits⟩
    rw [isNet]
    rfl

/-! ## Curves without metrics -/

/-- A number of 64 bits. -/
def FitsI64 (exact : Int) : Prop := -2 ^ 63 ≤ exact ∧ exact < 2 ^ 63

/-- The walk has no error of its own. -/
theorem failsIn_scanWindow (scan : CurveScan) (previous current : Int64) :
    FailsIn (· = .trap) (scanWindow scan previous current) := by
  refine .bind (.i128 rfl) fun _ _ => .bind (.i128Div rfl) fun _ _ => .bind ?_ fun _ _ => .ok
  unfold windowDrawdown
  split_ifs
  · exact .bind (.i128 rfl) fun _ _ => .bind (.i128Div rfl) fun _ _ => .ok
  · exact .ok

theorem failsIn_scanWindows (scan : CurveScan) (previous : Int64) (rest : List Int64) :
    FailsIn (· = .trap) (scanWindows scan previous rest) := by
  induction rest generalizing scan previous with
  | nil => exact .ok
  | cons current rest ih => exact .bind (failsIn_scanWindow _ _ _) fun next _ => ih next current

theorem failsIn_sum (returns : List Int) (sum : Int) :
    FailsIn (· = .trap)
      (returns.foldlM (fun sum value => i128 (sum + value)) sum : Exec Unit Int) := by
  induction returns generalizing sum with
  | nil => exact .ok
  | cons value returns ih =>
    rw [List.foldlM_cons]
    exact .bind (.i128 rfl) fun next _ => ih next

/-- The ratio fails only when it does not fit. -/
theorem sortinoRatio_eq_none {mean : Int} {deviation : Nat}
    (none : sortinoRatio mean deviation = .error (.error ())) :
    deviation ≠ 0 ∧ ¬FitsI64 ((mean * returnScale).tdiv deviation) := by
  unfold sortinoRatio at none
  split_ifs at none with zero
  simp only [bind_eq_error, i128_eq_error, i128_eq_ok, i128Div_eq_ok, i128Div_ne_error,
    tryI64_eq_error, reduceCtorEq, and_false, false_or, and_true] at none
  obtain ⟨-, ⟨-, rfl⟩, -, ⟨-, -, rfl⟩, large⟩ := none
  exact ⟨zero, large⟩

/-- The walk ends with a drawdown below everything. -/
theorem fits_of_scanWindows {first : Int64} {rest : List Int64} {scan : CurveScan}
    (positive : ∀ point ∈ first :: rest, 0 < point.toInt)
    (ok : scanWindows { returns := [], peak := first, maximumDrawdown := 0 } first rest =
      .ok scan) : IsGreatest (drops (first :: rest)) scan.maximumDrawdown := by
  have start : Scanned [first] { returns := [], peak := first, maximumDrawdown := 0 } := by
    refine ⟨List.mem_singleton_self _, ?_, .inl rfl, ?_⟩
    · intro point mem
      rw [List.mem_singleton.mp mem]
    · rintro drop (zero | ⟨earlier, later, sublist, -⟩)
      · exact zero.le
      · exact absurd sublist.length_le (by simp)
  exact (start.run (fun point mem => positive point (List.mem_cons_of_mem _ mem)) ok).deepest

/-- A drop is a part of everything. -/
theorem drops_bounds {curve : List Int64} {drop : Int} (mem : drop ∈ drops curve)
    (positive : ∀ point ∈ curve, 0 < point.toInt) : 0 ≤ drop ∧ drop < 1000000 := by
  have scale : returnScale = 1000000 := rfl
  rcases mem with rfl | ⟨earlier, later, sublist, rfl⟩
  · decide
  · have pos := positive later (sublist.subset (by simp))
    refine ⟨Rounding.dropShare_nonneg returnScale_nonneg pos, ?_⟩
    unfold Rounding.dropShare
    split_ifs with below
    · rw [Int.ediv_lt_iff_lt_mul (by omega), scale]
      omega
    · decide

/-- A curve of positive values has no metrics only when a number does not fit. -/
theorem large_of_none {curve : List Int64} (long : 2 ≤ curve.length)
    (positive : ∀ point ∈ curve, 0 < point.toInt)
    (none : performanceMetrics curve = .error (.error ())) :
    ¬FitsI64 (netReturn curve) ∨ 2 ^ 128 ≤ lossSquares (stepReturns curve) ∨
      ¬FitsI64 (sortino curve) := by
  obtain ⟨first, second, rest, rfl⟩ : ∃ first second rest, curve = first :: second :: rest := by
    rcases curve with _ | ⟨first, _ | ⟨second, rest⟩⟩
    · simp at long
    · simp at long
    · exact ⟨first, second, rest, rfl⟩
  have noneBelow : ¬(first :: second :: rest).any (· ≤ 0) = true := by
    simp only [List.any_eq_true, decide_eq_true_eq, not_exists, not_and, Int64.le_iff_toInt_le,
      not_le]
    exact positive
  unfold performanceMetrics at none
  simp only [bind_eq_error, rejectIf_eq_error, rejectIf_eq_ok, exists_const, i128_eq_ok,
    i128_eq_error, i128Div_eq_ok, i128Div_ne_error, u128Div_eq_ok, u128Div_eq_error, tryI64_eq_ok,
    tryI64_eq_error, pure, Except.pure, reduceCtorEq, and_false, false_or, or_false, and_true,
    noneBelow, not_false_eq_true, true_and] at none
  obtain ⟨-, ⟨-, rfl⟩, -, ⟨-, -, rfl⟩, large | ⟨-, -, none⟩⟩ := none
  · exact .inl large
  rcases none with none | ⟨scan, scanOk, none⟩
  · exact absurd (failsIn_scanWindows _ _ _ _ none) (by simp)
  have isReturns : scan.returns = stepReturns (first :: second :: rest) :=
    returns_of_scanWindows scanOk
  rw [isReturns] at none
  rcases none with none | ⟨sum, sumOk, -, ⟨-, -, rfl⟩, none⟩
  · exact absurd (failsIn_sum _ _ _ none) (by simp)
  rcases none with none | ⟨squares, squaresOk, -, ⟨-, rfl⟩, none⟩
  · have large := (overflow_of_foldlM none).2
    rw [zero_add] at large
    exact .inr (.inl large)
  have isSum := sum_of_foldlM sumOk
  obtain ⟨isSquares, fits⟩ := squares_of_foldlM (by decide) squaresOk
  rw [zero_add] at isSum isSquares
  rcases none with none | ⟨-, -, large⟩
  · obtain ⟨lossy, large⟩ := sortinoRatio_eq_none none
    rw [isSum, isSquares, integerSqrt_eq_sqrt ((Nat.div_le_self _ _).trans_lt (isSquares ▸ fits))]
      at large
    rw [isSquares, integerSqrt_eq_sqrt ((Nat.div_le_self _ _).trans_lt (isSquares ▸ fits))] at lossy
    refine .inr (.inr ?_)
    rw [sortino, if_neg (by exact lossy)]
    exact large
  · have bounds := drops_bounds (fits_of_scanWindows positive scanOk).1 positive
    exact absurd ⟨by omega, by omega⟩ large

/-! ## Curves that are measured without a trap -/

/-- The largest return of a step. -/
def returnBound : Nat := 2 ^ 63 * 1000000

theorem natAbs_stepReturn_le {previous current : Int64} (pos : 0 < previous.toInt)
    (currentPos : 0 < current.toInt) : (stepReturn previous current).natAbs ≤ returnBound := by
  have scale : returnScale.natAbs = 1000000 := rfl
  have below := previous.toInt_lt
  have currentBelow := current.toInt_lt
  rw [stepReturn, Int.natAbs_tdiv, Int.natAbs_mul, scale, returnBound]
  exact (Nat.div_le_self _ _).trans (Nat.mul_le_mul_right _ (by omega))

theorem natAbs_returnsAfter_le {previous : Int64} {rest : List Int64} (pos : 0 < previous.toInt)
    (positive : ∀ point ∈ rest, 0 < point.toInt) :
    ∀ value ∈ returnsAfter previous rest, value.natAbs ≤ returnBound := by
  induction rest generalizing previous with
  | nil => exact nofun
  | cons current rest ih =>
    rw [List.forall_mem_cons] at positive
    rw [returnsAfter, List.forall_mem_cons]
    exact ⟨natAbs_stepReturn_le pos positive.1, ih positive.1 positive.2⟩

/-- A change of a level in millionths fits. -/
theorem change_fits {high low : Int64} (pos : 0 < high.toInt) (lowPos : 0 < low.toInt) :
    ((high.toInt - low.toInt) * returnScale).natAbs < 2 ^ 127 := by
  have scale : returnScale = 1000000 := rfl
  have below := high.toInt_lt
  have lowBelow := low.toInt_lt
  rw [scale]
  omega

theorem noTrap_scanWindow {scan : CurveScan} {previous current : Int64}
    (peakPos : 0 < scan.peak.toInt) (pos : 0 < previous.toInt) (currentPos : 0 < current.toInt) :
    NoTrap (scanWindow scan previous current) := by
  refine .bind (.i128 (change_fits currentPos pos)) fun change isChange => ?_
  rw [i128_eq_ok] at isChange
  refine .bind (.i128Div (by omega) (by rw [← isChange.2]; exact change_fits currentPos pos))
    fun _ _ => .bind ?_ fun _ _ => .ok
  have maxPos : 0 < (max scan.peak current).toInt := by
    rw [toInt_max]
    exact lt_max_of_lt_left peakPos
  unfold windowDrawdown
  split_ifs
  · refine .bind (.i128 (change_fits maxPos currentPos)) fun lost isLost => ?_
    rw [i128_eq_ok] at isLost
    exact .bind (.i128Div (by omega) (by rw [← isLost.2]; exact change_fits maxPos currentPos))
      fun _ _ => .ok
  · exact .ok

theorem noTrap_scanWindows {scan : CurveScan} {previous : Int64} {rest : List Int64}
    (peakPos : 0 < scan.peak.toInt) (pos : 0 < previous.toInt)
    (positive : ∀ point ∈ rest, 0 < point.toInt) : NoTrap (scanWindows scan previous rest) := by
  induction rest generalizing scan previous with
  | nil => exact .ok
  | cons current rest ih =>
    rw [List.forall_mem_cons] at positive
    refine .bind (noTrap_scanWindow peakPos pos positive.1) fun next nextOk => ?_
    refine ih ?_ positive.1 positive.2
    have isPeak : next.peak = max scan.peak current := by
      simp only [scanWindow, bind_eq_ok, pure, Except.pure, Except.ok.injEq] at nextOk
      obtain ⟨-, -, -, -, -, -, rfl⟩ := nextOk
      rfl
    rw [isPeak, toInt_max]
    exact lt_max_of_lt_left peakPos

/-- A sum of few returns stays below 128 bits. -/
theorem noTrap_sum {returns : List Int} {sum : Int}
    (bounded : ∀ value ∈ returns, value.natAbs ≤ returnBound)
    (few : sum.natAbs + returns.length * returnBound < 2 ^ 127) :
    NoTrap (returns.foldlM (fun sum value => i128 (sum + value)) sum : Exec Unit Int) := by
  induction returns generalizing sum with
  | nil => exact .ok
  | cons value returns ih =>
    rw [List.forall_mem_cons] at bounded
    rw [List.length_cons, Nat.add_mul, one_mul] at few
    have size := Int.natAbs_add_le sum value
    rw [List.foldlM_cons]
    refine .bind (.i128 (by omega)) fun next isNext => ih bounded.2 ?_
    rw [i128_eq_ok] at isNext
    omega

theorem noTrap_downsideSquares (returns : List Int) : NoTrap (downsideSquares returns) := by
  intro trapped
  exact absurd (overflow_of_foldlM trapped).1 nofun

/-- The sum of returns is at most their number times the largest one. -/
theorem natAbs_sum_le {returns : List Int}
    (bounded : ∀ value ∈ returns, value.natAbs ≤ returnBound) :
    returns.sum.natAbs ≤ returns.length * returnBound := by
  induction returns with
  | nil => exact Nat.zero_le _
  | cons value returns ih =>
    rw [List.forall_mem_cons] at bounded
    have rest := ih bounded.2
    have size := Int.natAbs_add_le value returns.sum
    rw [List.sum_cons, List.length_cons, Nat.add_mul, one_mul]
    omega

theorem noTrap_sortinoRatio {mean : Int} {deviation : Nat} (small : mean.natAbs ≤ returnBound) :
    NoTrap (sortinoRatio mean deviation) := by
  have scale : returnScale = 1000000 := rfl
  have fits : (mean * returnScale).natAbs < 2 ^ 127 := by
    rw [returnBound] at small
    rw [scale]
    omega
  unfold sortinoRatio
  split_ifs
  · exact .ok
  · exact .ok
  · refine .bind (.i128 fits) fun scaled isScaled => ?_
    rw [i128_eq_ok] at isScaled
    exact .bind (.i128Div (by omega) (by rw [← isScaled.2]; exact fits)) fun _ _ => .tryI64

/-- No number of a curve of at most `2 ^ 44` points outgrows 128 bits. -/
theorem noTrap_performanceMetrics {curve : List Int64} (few : curve.length ≤ 2 ^ 44) :
    NoTrap (performanceMetrics curve) := by
  unfold performanceMetrics
  split
  · exact nofun
  · exact nofun
  · rename_i first second rest
    refine .bind .rejectIf fun _ passed => ?_
    rw [rejectIf_eq_ok] at passed
    have positive := positive_of_not_any passed
    have firstPos := positive first List.mem_cons_self
    have restPos : ∀ point ∈ second :: rest, 0 < point.toInt :=
      fun point mem => positive point (List.mem_cons_of_mem _ mem)
    have lastPos := restPos _ (List.getLast_mem (List.cons_ne_nil second rest))
    have bounded := natAbs_returnsAfter_le firstPos restPos
    have count := length_returnsAfter first (second :: rest)
    refine .bind (.i128 (change_fits lastPos firstPos)) fun gain isGain => ?_
    rw [i128_eq_ok] at isGain
    refine .bind (.i128Div (by omega) (by rw [← isGain.2]; exact change_fits lastPos firstPos))
      fun _ _ => .bind .tryI64 fun _ _ => .bind (noTrap_scanWindows firstPos firstPos restPos)
        fun scan scanOk => ?_
    have isReturns : scan.returns = returnsAfter first (second :: rest) :=
      returns_of_scanWindows scanOk
    dsimp only
    rw [isReturns]
    have total := natAbs_sum_le bounded
    rw [List.length_cons] at few
    have limit : (returnsAfter first (second :: rest)).length * returnBound < 2 ^ 127 := by
      rw [count, returnBound]
      rw [List.length_cons] at few ⊢
      omega
    refine .bind (noTrap_sum bounded (by rwa [Int.natAbs_zero, zero_add])) fun sum sumOk => ?_
    have isSum := sum_of_foldlM sumOk
    rw [zero_add] at isSum
    have nonempty : 0 < (returnsAfter first (second :: rest)).length := by
      rw [count]
      exact Nat.succ_pos _
    refine .bind (.i128Div (by omega) (by rw [isSum]; omega)) fun mean isMean => ?_
    have meanSmall : mean.natAbs ≤ returnBound := by
      rw [i128Div_eq_ok, i128_eq_ok] at isMean
      rw [← isMean.2.2, Int.natAbs_tdiv, isSum, Int.natAbs_natCast]
      exact Nat.div_le_of_le_mul total
    exact .bind (noTrap_downsideSquares _) fun squares _ => .bind (.u128Div (by omega)) fun _ _ =>
      .bind (noTrap_sortinoRatio meanSmall) fun _ _ => .bind .tryI64 fun _ _ => .ok

/-! ## Drops of pairs -/

/-- Two points of a curve are a point and a later one. -/
theorem pair_sublist_iff {α : Type} {curve : List α} {earlier later : α} :
    [earlier, later].Sublist curve ↔
      ∃ (i j : Nat) (_ : i < j) (inside : j < curve.length),
        curve[i] = earlier ∧ curve[j] = later := by
  constructor
  · have all : curve.Pairwise fun a b => ∃ (i j : Nat) (_ : i < j) (inside : j < curve.length),
        curve[i] = a ∧ curve[j] = b :=
      List.pairwise_iff_getElem.mpr fun i j _ inside ordered => ⟨i, j, ordered, inside, rfl, rfl⟩
    exact List.pairwise_iff_forall_sublist.mp all
  · rintro ⟨i, j, ordered, inside, rfl, rfl⟩
    have all : curve.Pairwise fun a b => [a, b].Sublist curve :=
      List.pairwise_iff_forall_sublist.mpr fun sublist => sublist
    exact List.pairwise_iff_getElem.mp all i j (ordered.trans inside) inside ordered

/-- What is lost from a point to a later one in millionths of it, rounded down, over all pairs of
points; and zero. -/
def pairDrops (curve : List Int64) : Set Int :=
  {drop | drop = 0 ∨ ∃ (i j : Nat) (_ : i < j) (inside : j < curve.length),
    drop = (curve[i].toInt - curve[j].toInt) * 1000000 / curve[i].toInt}

/-- The deepest drop is the greatest over all pairs. -/
theorem isGreatest_pairDrops {curve : List Int64} {drop : Int}
    (positive : ∀ point ∈ curve, 0 < point.toInt) (deepest : IsGreatest (drops curve) drop) :
    IsGreatest (pairDrops curve) drop := by
  have scale : returnScale = 1000000 := rfl
  have nonneg := deepest.2 (.inl rfl)
  constructor
  · rcases deepest.1 with zero | ⟨earlier, later, sublist, isDrop⟩
    · exact .inl zero
    · rcases le_or_gt earlier.toInt later.toInt with above | below
      · rw [Rounding.dropShare_of_le above] at isDrop
        exact .inl isDrop
      · obtain ⟨i, j, ordered, inside, rfl, rfl⟩ := pair_sublist_iff.mp sublist
        rw [Rounding.dropShare_of_lt below, scale] at isDrop
        exact .inr ⟨i, j, ordered, inside, isDrop⟩
  · rintro other (rfl | ⟨i, j, ordered, inside, rfl⟩)
    · exact nonneg
    · rcases le_or_gt curve[i].toInt curve[j].toInt with above | below
      · have pos := positive curve[i] (List.getElem_mem _)
        exact (Int.ediv_nonpos_of_nonpos_of_neg (by omega) pos).trans nonneg
      · refine deepest.2 (.inr ⟨_, _, pair_sublist_iff.mpr ⟨i, j, ordered, inside, rfl, rfl⟩, ?_⟩)
        rw [Rounding.dropShare_of_lt below, scale]

/-- **Drawdown.**  The drawdown of a curve with metrics is the greatest loss, in millionths rounded
down, from a point to a later one, or zero when there is none, and below a million.  A curve of at
least two positive values has no metrics only when its net return or its ratio does not fit into 64
bits or the squares of its losses not into 128; and up to `2 ^ 44` points nothing traps. -/
theorem maxDrawdownMicros_exact (curve : List Int64) :
    (∀ metrics, performanceMetrics curve = .ok metrics →
      IsGreatest (pairDrops curve) metrics.maxDrawdownMicros.toInt ∧
        0 ≤ metrics.maxDrawdownMicros.toInt ∧ metrics.maxDrawdownMicros.toInt < 1000000) ∧
    (2 ≤ curve.length → (∀ point ∈ curve, 0 < point.toInt) →
      performanceMetrics curve = .error (.error ()) →
        ¬FitsI64 (netReturn curve) ∨ 2 ^ 128 ≤ lossSquares (stepReturns curve) ∨
          ¬FitsI64 (sortino curve)) ∧
    (curve.length ≤ 2 ^ 44 → performanceMetrics curve ≠ .error .trap) := by
  refine ⟨fun metrics ok => ?_, fun long positive none => large_of_none long positive none,
    fun few => noTrap_performanceMetrics few⟩
  have measured := measured_of_performanceMetrics ok
  have deepest := isGreatest_maxDrawdownMicros ok
  exact ⟨isGreatest_pairDrops measured.positive deepest,
    drops_bounds deepest.1 measured.positive⟩

/-- A fall by a tenth is measured as one. -/
theorem maxDrawdownMicros_exact_pair :
    ∃ metrics, performanceMetrics [1000000, 900000] = .ok metrics ∧
      IsGreatest (pairDrops [1000000, 900000]) metrics.maxDrawdownMicros.toInt := by
  obtain ⟨metrics, ok⟩ := @performanceMetrics_pair_isOk 1000000 900000 (by decide) (by decide)
  exact ⟨metrics, ok, ((maxDrawdownMicros_exact _).1 metrics ok).1⟩

/-! ## The sentinel for no downside -/

/-- The integer root of a quotient is zero when it is below one. -/
theorem downsideDeviation_eq_zero {curve : List Int64} (some : 0 < (stepReturns curve).length) :
    downsideDeviation curve = 0 ↔ lossSquares (stepReturns curve) < (stepReturns curve).length := by
  rw [downsideDeviation, Nat.sqrt_eq_zero, Nat.div_eq_zero_iff_lt some]

/-- A step that does not fall is no loss. -/
theorem stepReturn_nonneg {previous current : Int64} (pos : 0 < previous.toInt)
    (le : previous.toInt ≤ current.toInt) : 0 ≤ stepReturn previous current :=
  Int.tdiv_nonneg (mul_nonneg (by omega) returnScale_nonneg) pos.le

/-- A curve that never falls has no losses. -/
theorem lossSquares_of_rising {curve : List Int64} (positive : ∀ point ∈ curve, 0 < point.toInt)
    (rising : curve.IsChain fun previous current => previous.toInt ≤ current.toInt) :
    lossSquares (stepReturns curve) = 0 := by
  have noLoss : ∀ (previous : Int64) (rest : List Int64), 0 < previous.toInt →
      (∀ point ∈ rest, 0 < point.toInt) →
      (previous :: rest).IsChain (fun previous current => previous.toInt ≤ current.toInt) →
      ∀ value ∈ returnsAfter previous rest, 0 ≤ value := by
    intro previous rest pos positive rising
    induction rest generalizing previous with
    | nil => exact nofun
    | cons current rest ih =>
      rw [List.forall_mem_cons] at positive
      rw [List.isChain_cons_cons] at rising
      rw [returnsAfter, List.forall_mem_cons]
      exact ⟨stepReturn_nonneg pos rising.1, ih current positive.1 positive.2 rising.2⟩
  cases curve with
  | nil => rfl
  | cons first rest =>
    rw [List.forall_mem_cons] at positive
    have none : (returnsAfter first rest).filter (· < 0) = [] :=
      List.filter_eq_nil_iff.mpr fun value mem => by
        have nonneg := noLoss first rest positive.1 positive.2 rising value mem
        simpa using nonneg
    rw [lossSquares, stepReturns, none]
    rfl

/-- **Sentinel.**  Where the squares of the losses, in whole millionths, add up to less than the
number of steps, as they do on a curve that never falls, the ratio is the sentinel for a positive
mean return and zero otherwise; else it is the mean return by a positive deviation. -/
theorem sortinoMicros_exact {curve : List Int64} {metrics : PerformanceMetrics}
    (ok : performanceMetrics curve = .ok metrics) :
    (lossSquares (stepReturns curve) < (stepReturns curve).length →
      metrics.sortinoMicros = if 0 < meanReturn curve then Int64.maxValue else 0) ∧
    ((stepReturns curve).length ≤ lossSquares (stepReturns curve) →
      0 < downsideDeviation curve ∧
        metrics.sortinoMicros.toInt =
          (meanReturn curve * returnScale).tdiv (downsideDeviation curve)) ∧
    (curve.IsChain (fun previous current => previous.toInt ≤ current.toInt) →
      lossSquares (stepReturns curve) = 0) := by
  have measured := measured_of_performanceMetrics ok
  have some : 0 < (stepReturns curve).length := by
    match curve, measured.long with
    | first :: second :: rest, _ =>
      rw [stepReturns, length_returnsAfter]
      exact Nat.succ_pos _
  have isRatio := measured.sortino
  refine ⟨fun few => ?_, fun enough => ?_, lossSquares_of_rising measured.positive⟩
  · rw [sortino, if_pos ((downsideDeviation_eq_zero some).mpr few)] at isRatio
    rw [← Int64.toInt_inj, isRatio]
    split_ifs
    · exact toInt_maxValue.symm
    · rfl
  · have lossy := (downsideDeviation_eq_zero some).not.mpr (not_lt.mpr enough)
    rw [sortino, if_neg lossy] at isRatio
    exact ⟨Nat.pos_of_ne_zero lossy, isRatio⟩

/-- A curve that loses less than a millionth and then doubles. -/
def sampleCurve : List Int64 := [1000000000, 999999999, 2000000000]

theorem performanceMetrics_sampleCurve :
    performanceMetrics sampleCurve = .ok ⟨1000000, Int64.maxValue, 0⟩ := by
  decide

/-- The sentinel of the sample curve. -/
theorem sortinoMicros_exact_sample :
    (Int64.maxValue : Int64) = if 0 < meanReturn sampleCurve then Int64.maxValue else 0 :=
  (sortinoMicros_exact performanceMetrics_sampleCurve).1 (by decide)

/-- It is the sentinel although the curve falls. -/
theorem sentinel_sampleCurve :
    ¬∀ (curve : List Int64) (metrics : PerformanceMetrics),
      performanceMetrics curve = .ok metrics → metrics.sortinoMicros = Int64.maxValue →
        curve.IsChain fun previous current => previous.toInt ≤ current.toInt :=
  fun claim => absurd (claim sampleCurve _ performanceMetrics_sampleCurve rfl) (by decide)

end CrowAgent
