import CrowAgent.Policy.Evaluate

/-!
# Order size under the safety ceiling

An approved order is the smallest one the request and the venue minimum allow, and under rules
that passed `RiskRulesV1.validateCeiling` it stays inside the arena's limits: 2% of capital an
order, 10% a symbol, 10% of capital kept as collateral.
-/

namespace CrowAgent

variable {proposal : Proposal} {context : PolicyContext} {order : OrderDecision}

/-- The ordered quantity is the least whole lot that covers the required notional. -/
theorem Approved.isLeast_quantity (approved : Approved proposal context order) :
    IsLeast {q : Int | 0 < q ∧ lotSize context ∣ q ∧
        requiredNotional proposal context * 100000000 ≤ q * sizingPrice proposal context}
      order.quantityE8.toInt := by
  rw [approved.sized.quantity]
  exact Rounding.isLeast_lotCeil (lotSize_pos context) approved.tradable.sizingPrice_pos
    (mul_pos (requiredNotional_pos proposal context) (by norm_num))

/-- Rounding the notional share up to whole bps does not take it over the order limit. -/
theorem Approved.effectiveNotionalBps_le (approved : Approved proposal context order) :
    order.effectiveNotionalBps.toNat ≤ context.rules.maxOrderBps.toNat := by
  have scaled : order.actualNotionalMicroUsdc.toInt * 10000 ≤
      context.rules.maxOrderBps.toNat * context.capital.toInt := by
    have size := approved.sized.orderSize
    rw [Int.le_ediv_iff_mul_le (by norm_num)] at size
    rwa [mul_comm (context.rules.maxOrderBps.toNat : Int)]
  have rounded := (Rounding.ceilDiv_le_iff approved.tradable.capitalPos).mpr scaled
  rw [← approved.sized.effective] at rounded
  exact_mod_cast rounded

/-- A share of at most a tenth of the capital is at most a tenth of it. -/
theorem share_le_tenth {capital : Int} {bps : Nat} (pos : 0 < capital) (bound : bps ≤ 1000) :
    capital * bps / 10000 * 10 ≤ capital := by
  have share : capital * bps ≤ capital * 1000 :=
    mul_le_mul_of_nonneg_left (by exact_mod_cast bound) pos.le
  omega

/-- A share of at least a tenth of the capital is at least its tenth, rounded down. -/
theorem tenth_le_share {capital : Int} {bps : Nat} (pos : 0 < capital) (bound : 1000 ≤ bps) :
    capital / 10 ≤ capital * bps / 10000 := by
  have share : capital * 1000 ≤ capital * bps :=
    mul_le_mul_of_nonneg_left (by exact_mod_cast bound) pos.le
  omega

/-- **Sizing.**  Under rules within the ceiling an approved order has the least whole-lot quantity
that covers the required notional at the sizing price, at most 200 bps of capital, and leaves an
opening order's position and collateral within a tenth of the capital. -/
theorem approved_order_least_and_within_ceiling
    (valid : context.rules.validateCeiling = .ok ())
    (ok : evaluateProposal proposal context = .ok order) :
    context.market.sizeDecimals.toNat ≤ 8 ∧
    IsLeast {q : Int | 0 < q ∧ 10 ^ (8 - context.market.sizeDecimals.toNat) ∣ q ∧
        max (context.capital.toInt * proposal.notionalBps.toNat / 10000) 10000000 * 10 ^ 8 ≤
          q * (context.quantityReferencePriceMicroUsdc.getD proposal.limitPriceMicroUsdc).toInt}
      order.quantityE8.toInt ∧
    order.effectiveNotionalBps.toNat ≤ context.rules.maxOrderBps.toNat ∧
    order.effectiveNotionalBps.toNat ≤ 200 ∧
    (order.reduceOnly = false →
      |positionAfter order.side context.portfolio.symbolPositionMicroUsdc.toInt
          (notionalAt order.quantityE8.toInt order.limitPriceMicroUsdc.toInt)| * 10 ≤
        context.capital.toInt ∧
      context.capital.toInt / 10 ≤
        context.portfolio.availableCollateralMicroUsdc.toInt -
          Rounding.ceilDiv (notionalAt order.quantityE8.toInt order.limitPriceMicroUsdc.toInt)
            context.isolatedLeverage.toNat) := by
  have approved := approved_of_evaluateProposal ok
  obtain ⟨reserve, orderBps, positionBps⟩ := RiskRulesV1.limits_of_validateCeiling valid
  have capitalPos := approved.tradable.capitalPos
  have effective := approved.effectiveNotionalBps_le
  refine ⟨approved.tradable.decimals, approved.isLeast_quantity, effective, effective.trans orderBps,
    ?_⟩
  rw [approved.sized.reduceOnly, approved.sized.side, approved.sized.limitPrice,
    ← approved.sized.notional]
  intro opening
  constructor
  · calc |positionAfter proposal.side context.portfolio.symbolPositionMicroUsdc.toInt
            order.actualNotionalMicroUsdc.toInt| * 10
        ≤ context.capital.toInt * context.rules.maxPositionBps.toNat / 10000 * 10 :=
          mul_le_mul_of_nonneg_right (approved.sized.position opening) (by norm_num)
      _ ≤ context.capital.toInt := share_le_tenth capitalPos positionBps
  · exact (tenth_le_share capitalPos reserve).trans (approved.sized.collateral opening)

/-- A 2% buy of BTC with 1,000 USDC of capital, quoted at 60,000 and limited at 60,900. -/
def sampleProposal : Proposal where
  symbol := "BTC"
  side := .buy
  notionalBps := 190
  limitPriceMicroUsdc := 60900000000
  reduceOnly := false

def sampleContext : PolicyContext where
  rules := RiskRulesV1.default
  market := {
    symbol := "BTC"
    markPriceMicroUsdc := 60000000000
    oraclePriceMicroUsdc := 60000000000
    spreadBps := 2
    bookAgeSeconds := 1
    askDepthMicroUsdc := 50000000000
    bidDepthMicroUsdc := 50000000000
    sizeDecimals := 5
    delisted := false }
  portfolio := {
    equityMicroUsdc := 1000000000
    availableCollateralMicroUsdc := 1000000000
    tradingDayStartEquityMicroUsdc := 1000000000
    peakEquityMicroUsdc := 1000000000
    symbolPositionMicroUsdc := 0
    ordersToday := 0 }
  startingCapitalMicroUsdc := 1000000000
  quantityReferencePriceMicroUsdc := some 60000000000
  isolatedLeverage := 1

def sampleOrder : OrderDecision where
  symbol := "BTC"
  side := .buy
  quantityE8 := 32000
  limitPriceMicroUsdc := 60900000000
  actualNotionalMicroUsdc := 19488000
  effectiveNotionalBps := 195
  reduceOnly := false

/-- The sample request is approved with exactly the sample order. -/
theorem evaluateProposal_sample :
    evaluateProposal sampleProposal sampleContext = .ok sampleOrder := by
  decide

/-- The sample order is the least one at its quote and inside the ceiling. -/
theorem sampleOrder_least_and_within_ceiling :
    IsLeast {q : Int | 0 < q ∧ 10 ^ (8 - sampleContext.market.sizeDecimals.toNat) ∣ q ∧
        max (sampleContext.capital.toInt * sampleProposal.notionalBps.toNat / 10000) 10000000 *
          10 ^ 8 ≤ q * (60000000000 : Int64).toInt}
      sampleOrder.quantityE8.toInt ∧
    sampleOrder.effectiveNotionalBps.toNat ≤ 200 :=
  have sized := approved_order_least_and_within_ceiling RiskRulesV1.validateCeiling_default
    evaluateProposal_sample
  ⟨sized.2.1, sized.2.2.2.1⟩

end CrowAgent
