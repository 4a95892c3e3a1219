import CrowAgent.Policy.LossGates

/-!
# Tighter rules approve no more

One context tightens another when they price, size and leverage an order alike and every rule,
reading and balance of the first is at least as restrictive.  `evaluateProposal_of_tightens`: an
order approved under the tighter context is approved under the other one, as the same order.
-/

namespace CrowAgent

open FixedWidth

variable {proposal : Proposal} {tight loose : PolicyContext} {order : OrderDecision}

/-- Rules that are at least as strict; the oracle gap and the flags are not read by the policy. -/
structure RiskRulesV1.Tightens (tight loose : RiskRulesV1) : Prop where
  cashReserve : loose.cashReserveBps ≤ tight.cashReserveBps
  dailyLoss : tight.dailyLossBps ≤ loose.dailyLossBps
  drawdown : tight.drawdownBps ≤ loose.drawdownBps
  maxOrder : tight.maxOrderBps ≤ loose.maxOrderBps
  maxPosition : tight.maxPositionBps ≤ loose.maxPositionBps
  maxSpread : tight.maxSpreadBps ≤ loose.maxSpreadBps
  bookMaxAge : tight.bookMaxAgeSeconds ≤ loose.bookMaxAgeSeconds
  maxOrders : tight.maxOrdersDay ≤ loose.maxOrdersDay

/-- The same market with a book that is no better. -/
structure MarketState.Tightens (tight loose : MarketState) : Prop where
  symbol : tight.symbol = loose.symbol
  markPrice : tight.markPriceMicroUsdc = loose.markPriceMicroUsdc
  oraclePrice : tight.oraclePriceMicroUsdc = loose.oraclePriceMicroUsdc
  sizeDecimals : tight.sizeDecimals = loose.sizeDecimals
  spread : loose.spreadBps ≤ tight.spreadBps
  bookAge : loose.bookAgeSeconds ≤ tight.bookAgeSeconds
  askDepth : tight.askDepthMicroUsdc ≤ loose.askDepthMicroUsdc
  bidDepth : tight.bidDepthMicroUsdc ≤ loose.bidDepthMicroUsdc
  delisted : loose.delisted = true → tight.delisted = true

/-- The same equity and position, after a day that was no better. -/
structure PortfolioState.Tightens (tight loose : PortfolioState) : Prop where
  equity : tight.equityMicroUsdc = loose.equityMicroUsdc
  position : tight.symbolPositionMicroUsdc = loose.symbolPositionMicroUsdc
  collateral : tight.availableCollateralMicroUsdc ≤ loose.availableCollateralMicroUsdc
  dayStart : loose.tradingDayStartEquityMicroUsdc ≤ tight.tradingDayStartEquityMicroUsdc
  peak : loose.peakEquityMicroUsdc ≤ tight.peakEquityMicroUsdc
  orders : loose.ordersToday ≤ tight.ordersToday

structure PolicyContext.Tightens (tight loose : PolicyContext) : Prop where
  rules : tight.rules.Tightens loose.rules
  market : tight.market.Tightens loose.market
  portfolio : tight.portfolio.Tightens loose.portfolio
  startingCapital : tight.startingCapitalMicroUsdc = loose.startingCapitalMicroUsdc
  reference : tight.quantityReferencePriceMicroUsdc = loose.quantityReferencePriceMicroUsdc
  leverage : tight.isolatedLeverage = loose.isolatedLeverage

namespace PolicyContext.Tightens

/-- Both contexts size an order against the same capital. -/
theorem capital (tightens : tight.Tightens loose) : tight.capital = loose.capital := by
  rw [PolicyContext.capital, PolicyContext.capital, tightens.portfolio.equity,
    tightens.startingCapital]

/-! ## The gates before sizing -/

theorem tradable (tightens : tight.Tightens loose) (passes : Tradable proposal tight) :
    Tradable proposal loose where
  symbol := tightens.market.symbol ▸ passes.symbol
  markPos := tightens.market.markPrice ▸ passes.markPos
  oraclePos := tightens.market.oraclePrice ▸ passes.oraclePos
  limitPos := passes.limitPos
  referencePos := tightens.reference ▸ passes.referencePos
  decimals := tightens.market.sizeDecimals ▸ passes.decimals
  equityPos := tightens.portfolio.equity ▸ passes.equityPos
  capitalPos := tightens.capital ▸ passes.capitalPos
  listed := by
    rw [Bool.eq_false_iff]
    exact fun delisted => Bool.false_ne_true (passes.listed.symm.trans
      (tightens.market.delisted delisted))
  fresh := by
    have age := UInt16.le_iff_toNat_le.mp tightens.market.bookAge
    have limit := UInt16.le_iff_toNat_le.mp tightens.rules.bookMaxAge
    exact age.trans (passes.fresh.trans limit)
  spread := by
    have spread := UInt16.le_iff_toNat_le.mp tightens.market.spread
    have limit := UInt16.le_iff_toNat_le.mp tightens.rules.maxSpread
    exact spread.trans (passes.spread.trans limit)
  reduces := tightens.portfolio.position ▸ passes.reduces

end PolicyContext.Tightens

/-- A loss from a lower level passes a rule that is no stricter. -/
theorem LossPasses.of_le {high high' current : Int64} {rule rule' : Nat}
    (passes : LossPasses high' current rule') (pos : 0 < current.toInt)
    (lower : high.toInt ≤ high'.toInt) (looser : rule' ≤ rule) : LossPasses high current rule := by
  obtain ⟨loss', measured', below'⟩ := passes
  rcases le_or_gt high.toInt current.toInt with above | below
  · have zero : (0 : Int64).toInt = 0 := by decide
    refine ⟨0, lossBps_of_le above, ?_⟩
    have nonneg : 0 ≤ loss'.toInt := by
      rcases le_or_gt high'.toInt current.toInt with above' | below''
      · rw [lossBps_of_le above', Except.ok.injEq] at measured'
        rw [← measured', zero]
      · rw [(lossBps_eq_ok pos below'').mp measured']
        exact Int.ediv_nonneg (mul_nonneg (by omega) (by norm_num)) pos.le
    omega
  · have exact' := (lossBps_eq_ok pos (below.trans_le lower)).mp measured'
    have smaller : (high.toInt - current.toInt) * 10000 / current.toInt ≤ loss'.toInt := by
      rw [exact']
      exact Int.ediv_le_ediv pos (by omega)
    have nonneg : 0 ≤ (high.toInt - current.toInt) * 10000 / current.toInt :=
      Int.ediv_nonneg (mul_nonneg (by omega) (by norm_num)) pos.le
    have fits := loss'.toInt_lt
    refine ⟨.ofInt ((high.toInt - current.toInt) * 10000 / current.toInt), ?_, ?_⟩
    · rw [lossBps_eq_ok pos below, Int64.toInt_ofInt_of_le (by omega) (by omega)]
    · rw [Int64.toInt_ofInt_of_le (by omega) (by omega)]
      omega

/-! ## Sizing -/

/-- A share of a capital of at most a million USDC fits. -/
theorem exists_share {value : Int64} (bps : UInt16) (nonneg : 0 ≤ value.toInt)
    (small : value.toInt ≤ 10 ^ 12) :
    ∃ amount : Int64, amount.toInt = value.toInt * bps.toNat / 10000 := by
  have bound : (bps.toNat : Int) < 2 ^ 16 := by exact_mod_cast bps.toNat_lt
  have product : value.toInt * bps.toNat ≤ 10 ^ 12 * 2 ^ 16 :=
    mul_le_mul small bound.le (by omega) (by norm_num)
  have productNonneg : 0 ≤ value.toInt * bps.toNat := mul_nonneg nonneg (by omega)
  exact ⟨.ofInt (value.toInt * bps.toNat / 10000),
    Int64.toInt_ofInt_of_le (by omega) (by omega)⟩

/-- More bps of a capital are no less of it. -/
theorem share_mono {value : Int} {bps bps' : UInt16} (nonneg : 0 ≤ value) (le : bps ≤ bps') :
    value * bps.toNat / 10000 ≤ value * bps'.toNat / 10000 := by
  have le := UInt16.le_iff_toNat_le.mp le
  exact Int.ediv_le_ediv (by norm_num) (mul_le_mul_of_nonneg_left (by omega) nonneg)

/-- **Sizing.**  What is sized under the tighter context is sized the same under the other one; the
bound on the capital keeps the larger limits from overflowing. -/
theorem sizeProposal_of_tightens (tightens : tight.Tightens loose)
    (small : loose.startingCapitalMicroUsdc.toInt ≤ 10 ^ 12) (passes : Tradable proposal tight)
    (ok : sizeProposal proposal tight = .ok order) : sizeProposal proposal loose = .ok order := by
  have nonneg := passes.capitalPos.le
  simp only [sizeProposal, ← tightens.capital, ← tightens.reference, ← tightens.leverage,
    ← tightens.market.sizeDecimals, ← tightens.portfolio.position, bind_eq_ok, rejectIf_eq_ok,
    okOr_eq_ok, onlyIf_eq_ok, tryI64_eq_ok, tryU64_eq_ok, tryU16_eq_ok, i128_eq_ok,
    i128Div_eq_ok, u8Sub_eq_ok, checkedPowI64_eq_some, checkedSubI64_eq_some,
    bpsAmount_eq_ok nonneg, exists_const, existsAndEq, pure, Except.pure, Except.ok.injEq,
    and_true, true_and, gt_iff_lt, not_lt, Int64.lt_iff_toInt_lt] at ok ⊢
  have capitalSmall : tight.capital.toInt ≤ 10 ^ 12 := by
    have capped : tight.capital.toInt ≤ tight.startingCapitalMicroUsdc.toInt := by
      rw [PolicyContext.capital, toInt_min]
      exact min_le_right _ _
    rw [tightens.startingCapital] at capped
    exact capped.trans small
  obtain ⟨requested, requestedEq, needed, step, raw, rawOk, decimals, stepEq, quantity, quantityOk,
    scaled, exactFits, notional, notionalEq, orderLimit, orderLimitEq, orderSize, position, closing,
    leverage, reserve, reserveEq, margin, marginOk, collateral, depth, effectiveFits, effective,
    effectiveOk, isOrder⟩ := ok
  obtain ⟨orderLimit', orderLimitEq'⟩ := exists_share loose.rules.maxOrderBps nonneg capitalSmall
  obtain ⟨positionLimit', positionLimitEq'⟩ :=
    exists_share loose.rules.maxPositionBps nonneg capitalSmall
  obtain ⟨reserve', reserveEq'⟩ := exists_share loose.rules.cashReserveBps nonneg capitalSmall
  have orderLimits := share_mono nonneg tightens.rules.maxOrder
  have positionLimits := share_mono nonneg tightens.rules.maxPosition
  have reserves := share_mono nonneg tightens.rules.cashReserve
  have available := Int64.le_iff_toInt_le.mp tightens.portfolio.collateral
  refine ⟨requested, requestedEq, needed, step, raw, rawOk, decimals, stepEq, quantity, quantityOk,
    scaled, exactFits, notional, notionalEq, orderLimit', orderLimitEq', by omega, ?_, closing,
    leverage, reserve', reserveEq', margin, marginOk, ?_, ?_, effectiveFits, effective,
    effectiveOk, isOrder⟩
  · intro opening
    obtain ⟨projected, projectedEq, limit, limitEq, fits, within⟩ := position opening
    have fits' := positionLimit'.toInt_lt
    exact ⟨projected, projectedEq, positionLimit', positionLimitEq', by omega, by omega⟩
  · intro opening
    obtain ⟨amount, amountEq, remaining, remainingEq, within⟩ := collateral opening
    have marginNonneg : 0 ≤ margin := by
      have leverageSmall : (tight.isolatedLeverage.toNat : Int) ≤ 2 ^ 127 := by
        have := tight.isolatedLeverage.toNat_lt
        omega
      obtain ⟨notionalNonneg, leveragePos, rfl⟩ := eq_ceilDiv_of_ok leverageSmall marginOk
      exact Rounding.ceilDiv_nonneg notionalNonneg leveragePos
    have remainingBound := remaining.le_toInt
    have availableBound := loose.portfolio.availableCollateralMicroUsdc.toInt_lt
    have remainingEq' : (Int64.ofInt (loose.portfolio.availableCollateralMicroUsdc.toInt -
        amount.toInt)).toInt = loose.portfolio.availableCollateralMicroUsdc.toInt - amount.toInt :=
      Int64.toInt_ofInt_of_le (by omega) (by omega)
    exact ⟨amount, amountEq, _, remainingEq', by omega⟩
  · have askDepth := Int64.le_iff_toInt_le.mp tightens.market.askDepth
    have bidDepth := Int64.le_iff_toInt_le.mp tightens.market.bidDepth
    cases side : proposal.side with
    | buy =>
      rw [side] at depth
      exact depth.trans askDepth
    | sell =>
      rw [side] at depth
      exact depth.trans bidDepth

/-! ## The policy -/

/-- **Tightening never enables an order.**  An order approved under the tighter of two contexts is
approved under the other one, with the same decision. -/
theorem evaluateProposal_of_tightens (tightens : tight.Tightens loose)
    (small : loose.startingCapitalMicroUsdc.toInt ≤ 10 ^ 12)
    (ok : evaluateProposal proposal tight = .ok order) :
    evaluateProposal proposal loose = .ok order := by
  obtain ⟨tradable, limits, -⟩ := approved_of_evaluateProposal ok
  rw [evaluateProposal_of_tradable tradable] at ok
  simp only [bind_eq_ok, rejectIf_eq_ok, exists_const] at ok
  obtain ⟨-, -, -, -, -, -, -, sized⟩ := ok
  have pos := tradable.equityPos
  obtain ⟨daily, dailyOk, dailyBelow⟩ := LossPasses.of_le limits.daily pos
    (Int64.le_iff_toInt_le.mp tightens.portfolio.dayStart)
    (UInt16.le_iff_toNat_le.mp tightens.rules.dailyLoss)
  obtain ⟨drawdown, drawdownOk, drawdownBelow⟩ := LossPasses.of_le limits.drawdown pos
    (Int64.le_iff_toInt_le.mp tightens.portfolio.peak)
    (UInt16.le_iff_toNat_le.mp tightens.rules.drawdown)
  have orders : ¬loose.portfolio.ordersToday ≥ loose.rules.maxOrdersDay := by
    have fewer := UInt16.le_iff_toNat_le.mp tightens.portfolio.orders
    have limit := UInt16.le_iff_toNat_le.mp tightens.rules.maxOrders
    have below := limits.orders
    rw [ge_iff_le, UInt16.le_iff_toNat_le]
    omega
  rw [evaluateProposal_of_tradable (tightens.tradable tradable)]
  simp only [bind_eq_ok, rejectIf_eq_ok, exists_const, ← tightens.portfolio.equity]
  exact ⟨daily, dailyOk, not_le.mpr dailyBelow, drawdown, drawdownOk, not_le.mpr drawdownBelow,
    orders, sizeProposal_of_tightens tightens small tradable sized⟩

/-- The sample context with half the order limits and one order behind it. -/
def tightContext : PolicyContext :=
  { sampleContext with
    rules := { RiskRulesV1.default with maxOrdersDay := 10, dailyLossBps := 100 }
    portfolio := { sampleContext.portfolio with ordersToday := 1 } }

/-- The sample order is approved under the tighter context, and so under the sample one. -/
theorem evaluateProposal_of_tightContext :
    evaluateProposal sampleProposal sampleContext = .ok sampleOrder := by
  refine @evaluateProposal_of_tightens sampleProposal tightContext _ _ ?_ (by decide)
    (by decide)
  exact {
    rules := by constructor <;> decide
    market := by constructor <;> decide
    portfolio := by constructor <;> decide
    startingCapital := rfl
    reference := rfl
    leverage := rfl }

end CrowAgent
