import CrowAgent.Policy.Sizing
import CrowAgent.Scoring.Metrics

/-!
# Loss limits

The daily-loss and drawdown gates compare a loss in bps with a rule.  The loss belongs to the level
it fell from, which is how `performanceMetrics` measures it; `lossBps` divides by the level it fell
to.  `lossGatesExact_iff` says exactly where the two agree: outside a band of losses just short of
the rule, and short of the losses whose quotient no longer fits.
-/

namespace CrowAgent

open FixedWidth

variable {proposal : Proposal} {context : PolicyContext} {high current : Int64} {rule : Nat}

/-! ## What the source measures -/

/-- The loss of the source is taken relative to the current equity. -/
theorem lossBps_eq_ok {loss : Int64} (pos : 0 < current.toInt) (below : current.toInt < high.toInt) :
    lossBps high current = .ok loss ↔
      loss.toInt = (high.toInt - current.toInt) * 10000 / current.toInt := by
  have highBound := high.toInt_lt
  have notFlat : ¬(high ≤ 0 ∨ current ≥ high) := by
    simp only [ge_iff_le, Int64.le_iff_toInt_le, not_or, not_le]
    exact ⟨pos.trans below, below⟩
  obtain ⟨difference, differenceEq⟩ :=
    Int.eq_ofNat_of_zero_le (show 0 ≤ high.toInt - current.toInt by omega)
  obtain ⟨divisor, divisorEq⟩ := Int.eq_ofNat_of_zero_le pos.le
  rw [lossBps, if_neg notFlat]
  simp only [bpsDifference, bind_eq_ok, u128_eq_ok, u128Div_eq_ok, tryI64_eq_ok, existsAndEq,
    and_true]
  rw [differenceEq, divisorEq, Int.natAbs_natCast, Int.natAbs_natCast]
  push_cast
  constructor
  · rintro ⟨-, -, exact⟩
    exact exact
  · intro exact
    exact ⟨by omega, by omega, exact⟩

/-- At or above the high there is no loss. -/
theorem lossBps_of_le (above : high.toInt ≤ current.toInt) :
    lossBps high current = .ok 0 := by
  refine if_pos (.inr ?_)
  rwa [ge_iff_le, Int64.le_iff_toInt_le]

/-- The loss reaches the rule. -/
def LossReaches (high current : Int64) (rule : Nat) : Prop :=
  ∃ loss, lossBps high current = .ok loss ∧ (rule : Int) ≤ loss.toInt

/-- The loss is measured and stays under the rule. -/
def LossPasses (high current : Int64) (rule : Nat) : Prop :=
  ∃ loss, lossBps high current = .ok loss ∧ loss.toInt < (rule : Int)

/-- The source's loss reaches a rule exactly when it does so relative to the current equity, with
a quotient that fits. -/
theorem lossReaches_iff (pos : 0 < current.toInt) (below : current.toInt < high.toInt) :
    LossReaches high current rule ↔
      rule * current.toInt ≤ (high.toInt - current.toInt) * 10000 ∧
        (high.toInt - current.toInt) * 10000 < 2 ^ 63 * current.toInt := by
  simp only [LossReaches, lossBps_eq_ok pos below]
  rw [← Int.le_ediv_iff_mul_le pos, ← Int.ediv_lt_iff_lt_mul pos]
  constructor
  · rintro ⟨loss, exact, reaches⟩
    rw [← exact]
    exact ⟨reaches, loss.toInt_lt⟩
  · rintro ⟨reaches, fits⟩
    obtain ⟨loss, exact⟩ : ∃ loss : Int64,
        loss.toInt = (high.toInt - current.toInt) * 10000 / current.toInt :=
      ⟨Int64.ofInt _, Int64.toInt_ofInt_of_le (by omega) fits⟩
    exact ⟨loss, exact, by rwa [exact]⟩

/-! ## Where the gates are exact -/

/-- The equity is outside the band in which the two denominators disagree about the rule: the loss
is short of the rule by either, reaches it by both, or is short of it by the high alone when the
other quotient no longer fits. -/
def OutsideLossBand (high current : Int) (rule : Nat) : Prop :=
  current < high →
    (high - current) * 10000 < rule * current ∨
    (rule * high ≤ (high - current) * 10000 ∧ (high - current) * 10000 < 2 ^ 63 * current) ∨
    (2 ^ 63 * current ≤ (high - current) * 10000 ∧ (high - current) * 10000 < rule * high)

/-- The gate agrees with the loss relative to the high exactly outside the band. -/
theorem lossReaches_iff_dropShare_iff (pos : 0 < current.toInt) :
    (LossReaches high current rule ↔
        (rule : Int) ≤ Rounding.dropShare 10000 high.toInt current.toInt) ↔
      OutsideLossBand high.toInt current.toInt rule := by
  rcases le_or_gt high.toInt current.toInt with above | below
  · have flat : LossReaches high current rule ↔ (rule : Int) ≤ 0 := by
      simp only [LossReaches, lossBps_of_le above, Except.ok.injEq, existsAndEq, true_and]
      rfl
    rw [flat, Rounding.dropShare_of_le above]
    exact ⟨fun _ below => absurd below (by omega), fun _ => Iff.rfl⟩
  · have highPos : 0 < high.toInt := pos.trans below
    have smaller : rule * current.toInt ≤ rule * high.toInt :=
      mul_le_mul_of_nonneg_left below.le (by positivity)
    rw [lossReaches_iff pos below, Rounding.dropShare_of_lt below, Int.le_ediv_iff_mul_le highPos]
    simp only [OutsideLossBand, below, forall_const]
    omega

/-! ## The gates of the policy -/

/-- Sizing has no loss errors of its own. -/
theorem sizeProposal_ne_loss (proposal : Proposal) (context : PolicyContext) :
    sizeProposal proposal context ≠ .error (.error .dailyLoss) ∧
      sizeProposal proposal context ≠ .error (.error .drawdown) := by
  constructor <;>
    simp [sizeProposal, bind_eq_error, bpsAmount, ceilDiv, roundUp, pure, Except.pure]

/-- Measuring a loss has no loss errors of its own. -/
theorem lossBps_ne_loss (high current : Int64) :
    lossBps high current ≠ .error (.error .dailyLoss) ∧
      lossBps high current ≠ .error (.error .drawdown) := by
  unfold lossBps
  constructor <;> split <;> simp [bpsDifference, bind_eq_error]

/-- What the policy does once the order gates hold. -/
theorem evaluateProposal_of_tradable (tradable : Tradable proposal context) :
    evaluateProposal proposal context = (do
      let dailyLoss ← lossBps context.portfolio.tradingDayStartEquityMicroUsdc
        context.portfolio.equityMicroUsdc
      rejectIf (dailyLoss.toInt ≥ context.rules.dailyLossBps.toNat) .dailyLoss
      let drawdown ← lossBps context.portfolio.peakEquityMicroUsdc
        context.portfolio.equityMicroUsdc
      rejectIf (drawdown.toInt ≥ context.rules.drawdownBps.toNat) .drawdown
      rejectIf (context.portfolio.ordersToday ≥ context.rules.maxOrdersDay) .orderLimit
      sizeProposal proposal context) := by
  obtain ⟨symbol, market, listed, fresh, spread, reduces⟩ := tradable_iff.mp tradable
  simp only [evaluateProposal, rejectIf, if_neg symbol, if_neg market, if_neg listed, if_neg fresh,
    if_neg spread, if_neg reduces]
  rfl

/-- The daily-loss gate fires exactly when the measured loss reaches its rule. -/
theorem evaluateProposal_eq_dailyLoss (tradable : Tradable proposal context) :
    evaluateProposal proposal context = .error (.error .dailyLoss) ↔
      LossReaches context.portfolio.tradingDayStartEquityMicroUsdc
        context.portfolio.equityMicroUsdc context.rules.dailyLossBps.toNat := by
  simp only [evaluateProposal_of_tradable tradable, bind_eq_error, rejectIf_eq_error,
    (lossBps_ne_loss _ _).1, (sizeProposal_ne_loss _ _).1, Halt.error.injEq, reduceCtorEq,
    and_false, and_true, or_false, false_or, exists_false, LossReaches, ge_iff_le]

/-- The drawdown gate is reached under the daily rule, and then fires exactly when the measured
loss reaches its rule. -/
theorem evaluateProposal_eq_drawdown (tradable : Tradable proposal context)
    (daily : LossPasses context.portfolio.tradingDayStartEquityMicroUsdc
      context.portfolio.equityMicroUsdc context.rules.dailyLossBps.toNat) :
    evaluateProposal proposal context = .error (.error .drawdown) ↔
      LossReaches context.portfolio.peakEquityMicroUsdc
        context.portfolio.equityMicroUsdc context.rules.drawdownBps.toNat := by
  obtain ⟨loss, measured, passes⟩ := daily
  simp only [evaluateProposal_of_tradable tradable, measured, bind_eq_error, rejectIf_eq_error,
    rejectIf_eq_ok, (lossBps_ne_loss _ _).2, (sizeProposal_ne_loss _ _).2, Halt.error.injEq,
    reduceCtorEq, Except.ok.injEq, existsAndEq, and_false, and_true, true_and, or_false, false_or,
    exists_false, exists_const, LossReaches, ge_iff_le, not_le, passes]

/-- Both loss gates measure the loss relative to the level it fell from, and the drawdown gate
agrees with the drawdown the scoring computes for the same peak and equity. -/
structure LossGatesExact (proposal : Proposal) (context : PolicyContext) : Prop where
  daily : evaluateProposal proposal context = .error (.error .dailyLoss) ↔
    (context.rules.dailyLossBps.toNat : Int) ≤ Rounding.dropShare 10000
      context.portfolio.tradingDayStartEquityMicroUsdc.toInt
      context.portfolio.equityMicroUsdc.toInt
  drawdown : LossPasses context.portfolio.tradingDayStartEquityMicroUsdc
      context.portfolio.equityMicroUsdc context.rules.dailyLossBps.toNat →
    (evaluateProposal proposal context = .error (.error .drawdown) ↔
      (context.rules.drawdownBps.toNat : Int) ≤ Rounding.dropShare 10000
        context.portfolio.peakEquityMicroUsdc.toInt context.portfolio.equityMicroUsdc.toInt)
  scoring : LossPasses context.portfolio.tradingDayStartEquityMicroUsdc
      context.portfolio.equityMicroUsdc context.rules.dailyLossBps.toNat →
    ∀ metrics, performanceMetrics [context.portfolio.peakEquityMicroUsdc,
        context.portfolio.equityMicroUsdc] = .ok metrics →
      (evaluateProposal proposal context = .error (.error .drawdown) ↔
        (context.rules.drawdownBps.toNat : Int) ≤ metrics.maxDrawdownMicros.toInt / 100)

/-- The scoring's drawdown of a peak and a later equity, in whole bps. -/
theorem maxDrawdownMicros_pair_bps {peak equity : Int64} {metrics : PerformanceMetrics}
    (pos : 0 < equity.toInt) (ok : performanceMetrics [peak, equity] = .ok metrics) :
    metrics.maxDrawdownMicros.toInt / 100 =
      Rounding.dropShare 10000 peak.toInt equity.toInt := by
  have finer : returnScale = 10000 * 100 := by decide
  rw [maxDrawdownMicros_pair pos ok, finer, Rounding.dropShare_mul_ediv (by norm_num) pos]

/-- **Loss gates.**  On a proposal that passes the earlier gates the loss gates are exact if and
only if the equity is outside the band of the daily rule and, when the daily gate lets it through,
outside the band of the drawdown rule. -/
theorem lossGatesExact_iff (tradable : Tradable proposal context) :
    LossGatesExact proposal context ↔
      OutsideLossBand context.portfolio.tradingDayStartEquityMicroUsdc.toInt
          context.portfolio.equityMicroUsdc.toInt context.rules.dailyLossBps.toNat ∧
        (LossPasses context.portfolio.tradingDayStartEquityMicroUsdc
            context.portfolio.equityMicroUsdc context.rules.dailyLossBps.toNat →
          OutsideLossBand context.portfolio.peakEquityMicroUsdc.toInt
            context.portfolio.equityMicroUsdc.toInt context.rules.drawdownBps.toNat) := by
  have pos := tradable.equityPos
  constructor
  · intro exact
    constructor
    · rw [← lossReaches_iff_dropShare_iff pos, ← evaluateProposal_eq_dailyLoss tradable]
      exact exact.daily
    · intro passes
      rw [← lossReaches_iff_dropShare_iff pos, ← evaluateProposal_eq_drawdown tradable passes]
      exact exact.drawdown passes
  · rintro ⟨daily, drawdown⟩
    have drawdownExact := fun passes =>
      (evaluateProposal_eq_drawdown tradable passes).trans
        ((lossReaches_iff_dropShare_iff pos).mpr (drawdown passes))
    refine ⟨?_, drawdownExact, ?_⟩
    · rw [evaluateProposal_eq_dailyLoss tradable]
      exact (lossReaches_iff_dropShare_iff pos).mpr daily
    · intro passes metrics ok
      rw [maxDrawdownMicros_pair_bps pos ok]
      exact drawdownExact passes

theorem tradable_sample : Tradable sampleProposal sampleContext :=
  (approved_of_evaluateProposal evaluateProposal_sample).tradable

/-- The sample account has lost nothing, so its loss gates are exact. -/
theorem lossGatesExact_sample : LossGatesExact sampleProposal sampleContext :=
  (lossGatesExact_iff tradable_sample).mpr
    ⟨fun below => absurd below (by decide), fun _ below => absurd below (by decide)⟩

/-- The sample account after a loss of 198 bps of its day-start equity. -/
def bandContext : PolicyContext :=
  { sampleContext with
    portfolio := { sampleContext.portfolio with equityMicroUsdc := 980200000 } }

/-- In the band the gate fires early: a loss of 198 bps is refused under a rule of 200 bps. -/
theorem dailyLoss_fires_short_of_rule :
    ¬∀ (proposal : Proposal) (context : PolicyContext), Tradable proposal context →
      LossGatesExact proposal context := by
  intro exact
  have tradable : Tradable sampleProposal bandContext :=
    { tradable_sample with equityPos := by decide, capitalPos := by decide }
  have refused : evaluateProposal sampleProposal bandContext = .error (.error .dailyLoss) := by
    decide
  exact absurd ((exact _ _ tradable).daily.mp refused) (by decide)

end CrowAgent
