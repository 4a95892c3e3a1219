import CrowAgent.Backtest.Replay
import CrowAgent.Protocol.Splits

/-!
# Prices of fills

A fill is priced at the next open, moved against the order by half the spread and the slippage.
Their sum is taken in 16 bits, and a manifest does not bound it: `executesExactly_iff` says that
the sum fitting is all that an exact fill needs, in either build.
-/

namespace CrowAgent

open FixedWidth

/-- The engine an arena is replayed with. -/
def ArenaManifestV1.backtestEngine (manifest : ArenaManifestV1) : BacktestEngine where
  rules := manifest.riskRules
  execution := manifest.execution

namespace BacktestEngine

/-- `fillPrice` in a build. -/
def fillPriceIn (build : Build) (engine : BacktestEngine) (side : Side) (nextOpen : Int64) :
    Exec BacktestError Int64 := do
  let direction : Int := match side with
    | .buy => 1
    | .sell => -1
  let impactBps ← build.addU16 engine.execution.halfSpreadBps engine.execution.slippageBps
  let scaled ← i128 (nextOpen.toInt * (10000 + direction * impactBps.toNat))
  let price ← i128Div scaled 10000
  tryI64 price .overflow

/-- `executeNextOpen` in a build. -/
def executeNextOpenIn (build : Build) (engine : BacktestEngine)
    (decisionCandle nextCandle : CandleV1) (proposal : Proposal) (portfolio : PortfolioState) :
    Exec BacktestError (Option SimulatedFill) := do
  rejectIf (¬IsPair decisionCandle nextCandle proposal) .candleOrder
  let fillPrice ← engine.fillPriceIn build proposal.side nextCandle.openMicroUsdc
  if crosses proposal.side proposal.limitPriceMicroUsdc fillPrice then
    let executable := { proposal with limitPriceMicroUsdc := fillPrice }
    let order ← withErrors .policy
      (evaluateProposal executable (engine.policyContext decisionCandle portfolio))
    let scaledFee ← i128 (order.actualNotionalMicroUsdc.toInt * engine.execution.takerFeeBps.toNat)
    let exactFee ← i128Div scaledFee 10000
    let fee ← tryI64 exactFee .overflow
    return some {
      symbol := proposal.symbol
      side := proposal.side
      quantityE8 := order.quantityE8
      priceMicroUsdc := fillPrice
      feeMicroUsdc := fee
      candleOpenTimeMs := nextCandle.openTimeMs }
  else return none

variable {engine : BacktestEngine} {decisionCandle nextCandle : CandleV1} {proposal : Proposal}
  {portfolio : PortfolioState}

/-- The replay is the one of the checked build. -/
theorem executeNextOpenIn_checked :
    engine.executeNextOpenIn .checked decisionCandle nextCandle proposal portfolio =
      engine.executeNextOpen decisionCandle nextCandle proposal portfolio := rfl

/-! ## Exact fills -/

/-- The impact of spread and slippage in basis points. -/
def impact (engine : BacktestEngine) : Nat :=
  engine.execution.halfSpreadBps.toNat + engine.execution.slippageBps.toNat

/-- An open moved against an order by the impact, rounded down. -/
def movedOpen (engine : BacktestEngine) (side : Side) (nextOpen : Int) : Int :=
  match side with
  | .buy => nextOpen * (10000 + engine.impact) / 10000
  | .sell => nextOpen * (10000 - engine.impact) / 10000

/-- A price that is no worse than a limit. -/
def KeepsLimit (side : Side) (limit price : Int64) : Prop :=
  match side with
  | .buy => price.toInt ≤ limit.toInt
  | .sell => limit.toInt ≤ price.toInt

/-- The impact of a pair is the exact sum, without a panic and without a wrapped value, and what is
filled is filled at the moved open within the limit. -/
structure ExecutesExactly (engine : BacktestEngine) (decisionCandle nextCandle : CandleV1)
    (proposal : Proposal) (portfolio : PortfolioState) : Prop where
  sum : IsPair decisionCandle nextCandle proposal → ∀ build : Build, ∃ impactBps,
    (build.addU16 engine.execution.halfSpreadBps engine.execution.slippageBps :
      Exec BacktestError UInt16) = .ok impactBps ∧ impactBps.toNat = engine.impact
  noPanic : engine.executeNextOpenIn .checked decisionCandle nextCandle proposal portfolio ≠
    .error .trap
  noWrap : engine.executeNextOpenIn .wrapping decisionCandle nextCandle proposal portfolio =
    engine.executeNextOpenIn .checked decisionCandle nextCandle proposal portfolio
  fills : ∀ build fill,
    engine.executeNextOpenIn build decisionCandle nextCandle proposal portfolio = .ok (some fill) →
      fill.priceMicroUsdc.toInt =
          engine.movedOpen proposal.side nextCandle.openMicroUsdc.toInt ∧
        KeepsLimit proposal.side proposal.limitPriceMicroUsdc fill.priceMicroUsdc

/-- An impact that fits is the same in both builds. -/
theorem fillPriceIn_eq (fits : engine.impact < 2 ^ 16) (build : Build) :
    engine.fillPriceIn build = engine.fillPrice := by
  have same : ∀ build' : Build,
      (build'.addU16 engine.execution.halfSpreadBps engine.execution.slippageBps :
        Exec BacktestError UInt16) =
          .ok (engine.execution.halfSpreadBps + engine.execution.slippageBps) :=
    fun build' => Build.addU16_eq fits build'
  funext side nextOpen
  unfold fillPriceIn fillPrice
  rw [same build, ← same .checked]
  rfl

theorem executeNextOpenIn_eq (fits : engine.impact < 2 ^ 16) (build : Build) :
    engine.executeNextOpenIn build decisionCandle nextCandle proposal portfolio =
      engine.executeNextOpen decisionCandle nextCandle proposal portfolio := by
  unfold executeNextOpenIn executeNextOpen
  rw [fillPriceIn_eq fits]

/-- The sign an order moves its price by. -/
def direction : Side → Int
  | .buy => 1
  | .sell => -1

/-- With an impact that fits, the price is the exact quotient. -/
theorem fillPrice_eq {side : Side} {nextOpen : Int64} (fits : engine.impact < 2 ^ 16) :
    engine.fillPrice side nextOpen = (do
      let scaled ← i128 (nextOpen.toInt * (10000 + direction side * engine.impact))
      let price ← i128Div scaled 10000
      tryI64 price .overflow) := by
  have sum : (addU16 engine.execution.halfSpreadBps engine.execution.slippageBps :
      Exec BacktestError UInt16) =
        .ok (engine.execution.halfSpreadBps + engine.execution.slippageBps) := if_pos fits
  have isSum : (engine.execution.halfSpreadBps + engine.execution.slippageBps).toNat =
      engine.impact := toNat_add_of_fits fits
  unfold fillPrice
  rw [sum]
  change i128 _ >>= _ = _
  rw [isSum]
  cases side <;> rfl

theorem noTrap_fillPrice {side : Side} {nextOpen : Int64} (fits : engine.impact < 2 ^ 16) :
    NoTrap (engine.fillPrice side nextOpen) := by
  rw [fillPrice_eq fits]
  have factor : (10000 + direction side * engine.impact).natAbs ≤ 2 ^ 63 := by
    cases side <;> simp only [direction] <;> omega
  refine .bind (.i128 (natAbs_mul_lt (natAbs_toInt_le nextOpen) factor)) fun scaled isScaled => ?_
  rw [i128_eq_ok] at isScaled
  refine .bind (.i128Div (by decide) ?_) fun _ _ => .tryI64
  rw [← isScaled.2]
  exact natAbs_mul_lt (natAbs_toInt_le nextOpen) factor

/-- A positive quotient is rounded down. -/
theorem tdiv_eq_ediv_of_pos {n d : Int} (divisor : 0 ≤ d) (positive : 0 < n.tdiv d) :
    n.tdiv d = n / d := by
  refine Int.tdiv_eq_ediv_of_nonneg ?_
  by_contra negative
  have mirrored : 0 ≤ (-n).tdiv d := Int.tdiv_nonneg (by omega) divisor
  rw [Int.neg_tdiv] at mirrored
  omega

/-- A positive price is the moved open. -/
theorem movedOpen_of_fillPrice {side : Side} {nextOpen price : Int64}
    (fits : engine.impact < 2 ^ 16) (positive : 0 < price.toInt)
    (ok : engine.fillPrice side nextOpen = .ok price) :
    price.toInt = engine.movedOpen side nextOpen.toInt := by
  rw [fillPrice_eq fits] at ok
  simp only [bind_eq_ok, i128_eq_ok, i128Div_eq_ok, tryI64_eq_ok, existsAndEq] at ok
  obtain ⟨-, -, exact⟩ := ok
  rw [exact] at positive
  rw [exact, tdiv_eq_ediv_of_pos (by decide) positive]
  cases side with
  | buy => rw [direction, one_mul, movedOpen]
  | sell => rw [direction, neg_one_mul, ← sub_eq_add_neg, movedOpen]

/-- A fill is no worse than the limit. -/
theorem keepsLimit_of_executeNextOpen {fill : SimulatedFill}
    (ok : engine.executeNextOpen decisionCandle nextCandle proposal portfolio = .ok (some fill)) :
    KeepsLimit proposal.side proposal.limitPriceMicroUsdc fill.priceMicroUsdc := by
  simp only [executeNextOpen, bind_eq_ok, rejectIf_eq_ok, not_not, exists_const] at ok
  obtain ⟨-, price, -, ok⟩ := ok
  split at ok
  · rename_i crossed
    simp only [bind_eq_ok, pure, Except.pure, Except.ok.injEq, Option.some.injEq] at ok
    obtain ⟨order, -, -, -, -, -, fee, -, rfl⟩ := ok
    cases isSide : proposal.side with
    | buy =>
      rw [isSide] at crossed
      exact Int64.le_iff_toInt_le.mp (of_decide_eq_true crossed)
    | sell =>
      rw [isSide] at crossed
      exact Int64.le_iff_toInt_le.mp (of_decide_eq_true crossed)
  · simp [pure, Except.pure] at ok

/-- With an impact that fits, an execution does not trap. -/
theorem noTrap_executeNextOpen (fits : engine.impact < 2 ^ 16) :
    NoTrap (engine.executeNextOpen decisionCandle nextCandle proposal portfolio) := by
  refine .bind .rejectIf fun _ _ => .bind (noTrap_fillPrice fits) fun price _ => ?_
  split
  · refine .bind (.withErrors (noTrap_evaluateProposal _ _)) fun order _ => ?_
    have fee := engine.execution.takerFeeBps.toNat_lt
    have product : (order.actualNotionalMicroUsdc.toInt *
        engine.execution.takerFeeBps.toNat).natAbs < 2 ^ 127 :=
      natAbs_mul_lt (natAbs_toInt_le _) (by omega)
    refine .bind (.i128 product) fun scaled isScaled => ?_
    rw [i128_eq_ok] at isScaled
    refine .bind (.i128Div (by decide) ?_) fun _ _ => .bind .tryI64 fun _ _ => .ok
    rwa [← isScaled.2]
  · exact .ok

/-! ## The sum -/

/-- **Exact fills.**  A candle pair of an arena is executed exactly, in either build, if and only if
the half spread and the slippage of its manifest add up to less than 2 ^ 16. -/
theorem executesExactly_iff (manifest : ArenaManifestV1) (decisionCandle nextCandle : CandleV1)
    (proposal : Proposal) (portfolio : PortfolioState) :
    ExecutesExactly manifest.backtestEngine decisionCandle nextCandle proposal portfolio ↔
      (IsPair decisionCandle nextCandle proposal →
        manifest.execution.halfSpreadBps.toNat + manifest.execution.slippageBps.toNat < 2 ^ 16) := by
  constructor
  · intro exactly pair
    by_contra large
    have panics : (Build.checked.addU16 manifest.execution.halfSpreadBps
        manifest.execution.slippageBps : Exec BacktestError UInt16) = .error .trap :=
      Build.addU16_trap large
    obtain ⟨_, isOk, -⟩ := exactly.sum pair .checked
    cases panics.symm.trans isOk
  · intro fits
    by_cases pair : IsPair decisionCandle nextCandle proposal
    · have fits : manifest.backtestEngine.impact < 2 ^ 16 := fits pair
      have same := @executeNextOpenIn_eq manifest.backtestEngine decisionCandle nextCandle proposal
        portfolio fits
      refine ⟨fun _ build => ⟨_, Build.addU16_eq fits build, toNat_add_of_fits fits⟩, ?_, ?_,
        fun build fill ok => ?_⟩
      · rw [same]
        exact noTrap_executeNextOpen fits
      · rw [same, same]
      · rw [same] at ok
        have executed := executed_of_executeNextOpen ok
        exact ⟨movedOpen_of_fillPrice fits executed.pricePos executed.price,
          keepsLimit_of_executeNextOpen ok⟩
    · have refused : ∀ build, manifest.backtestEngine.executeNextOpenIn build decisionCandle
          nextCandle proposal portfolio = .error (.error .candleOrder) := by
        intro build
        rw [executeNextOpenIn, rejectIf_eq_error.mpr ⟨pair, rfl⟩]
        rfl
      refine ⟨fun isPair => absurd isPair pair, ?_, ?_, fun build fill ok => ?_⟩
      · rw [refused]
        exact nofun
      · rw [refused, refused]
      · cases (refused build).symm.trans ok

/-- A sound manifest with a half spread and a slippage of four whole prices each. -/
def wideManifest : ArenaManifestV1 where
  arenaId := ⟨.ofNat 16 1⟩
  manifestVersion := 1
  mode := .historicalBacktest
  startsAt := ⟨0, 0⟩
  endsAt := ⟨3600 * 10 ^ 9, 0⟩
  eligibleModels := ["crow-qwen3-5-27b"]
  datasetSha256 := some "0000000000000000000000000000000000000000000000000000000000000000"
  requiredClientVersion := "0.1.0"
  startingCapitalMicroUsdc := 1000000000
  riskRules := .default
  execution := { halfSpreadBps := 40000, slippageBps := 40000, takerFeeBps := 5 }
  ticket := { enabled := false, asset := "" }

/-- The manifest is valid, and its first candle pair is a panic. -/
theorem executesExactly_wide :
    ¬∀ (manifest : ArenaManifestV1) (decisionCandle nextCandle : CandleV1) (proposal : Proposal)
      (portfolio : PortfolioState), manifest.validate = .ok () →
        0 < decisionCandle.openMicroUsdc.toInt → 0 < nextCandle.openMicroUsdc.toInt →
        ExecutesExactly manifest.backtestEngine decisionCandle nextCandle proposal portfolio := by
  intro all
  have valid : wideManifest.validate = .ok () := by decide
  have exactly := all wideManifest (flatCandle "BTC" 0 60000000000 5)
    (flatCandle "BTC" 900000 60000000000 5) sampleBuy.proposal
    ((Ledger.opening 1000000000 0 []).portfolio 1000000000 0) valid (by decide) (by decide)
  have panics : wideManifest.backtestEngine.executeNextOpenIn .checked
      (flatCandle "BTC" 0 60000000000 5) (flatCandle "BTC" 900000 60000000000 5)
      sampleBuy.proposal ((Ledger.opening 1000000000 0 []).portfolio 1000000000 0) =
        .error .trap := by
    decide
  exact exactly.noPanic panics

end BacktestEngine

end CrowAgent
