import CrowAgent.Lib.FixedWidth
import CrowAgent.Lib.Rounding
import CrowAgent.Protocol.RiskRules

/-!
# Local order policy

`evaluateProposal` is the fixed-point policy every proposal passes before an order exists: it
checks the market, the account and the owner's loss limits, sizes the order to the venue minimum
and to whole lots, and revalues it at the limit price for the exposure checks.

`approved_of_evaluateProposal` is its specification: an order is returned only when the gates hold
(`Tradable`, `WithinLimits`) and its sizes are the ones of `Sized`, where every number is an exact
integer.
-/

namespace CrowAgent

open FixedWidth

def microUsdcPerUsdc : Int64 := 1000000

def minOrderMicroUsdc : Int64 := 10 * microUsdcPerUsdc

def quantityScale : Int64 := 100000000

/-- Arena positions are taken by buying or selling. -/
inductive Side : Type
  | buy
  | sell
  deriving DecidableEq, Repr

structure Proposal : Type where
  symbol : String
  side : Side
  notionalBps : UInt16
  limitPriceMicroUsdc : Int64
  reduceOnly : Bool
  deriving DecidableEq, Repr

structure MarketState : Type where
  symbol : String
  markPriceMicroUsdc : Int64
  oraclePriceMicroUsdc : Int64
  spreadBps : UInt16
  bookAgeSeconds : UInt16
  askDepthMicroUsdc : Int64
  bidDepthMicroUsdc : Int64
  sizeDecimals : UInt8
  delisted : Bool
  deriving DecidableEq, Repr

structure PortfolioState : Type where
  equityMicroUsdc : Int64
  availableCollateralMicroUsdc : Int64
  tradingDayStartEquityMicroUsdc : Int64
  peakEquityMicroUsdc : Int64
  symbolPositionMicroUsdc : Int64
  ordersToday : UInt16
  deriving DecidableEq, Repr

structure PolicyContext : Type where
  rules : RiskRulesV1
  market : MarketState
  portfolio : PortfolioState
  /-- Equal arena capital; wallet equity above it cannot increase sizing. -/
  startingCapitalMicroUsdc : Int64
  /-- Opposing top-of-book price, used only to derive the venue-minimum quantity. -/
  quantityReferencePriceMicroUsdc : Option Int64
  isolatedLeverage : UInt8
  deriving DecidableEq, Repr

structure OrderDecision : Type where
  symbol : String
  side : Side
  quantityE8 : Int64
  limitPriceMicroUsdc : Int64
  actualNotionalMicroUsdc : Int64
  effectiveNotionalBps : UInt16
  reduceOnly : Bool
  deriving DecidableEq, Repr

inductive PolicyError : Type
  | symbol
  | market
  | delisted
  | staleBook
  | spread
  | reduceOnly
  | dailyLoss
  | drawdown
  | orderLimit
  | orderSize
  | positionSize
  | cashReserve
  | depth
  | overflow
  deriving DecidableEq, Repr

/-- The text the error is displayed with, which a refused policy outcome records. -/
def PolicyError.toText : PolicyError → String
  | .symbol => "symbol is outside the BTC/ETH/SOL arena universe"
  | .market => "market metadata or price is invalid"
  | .delisted => "market is delisted"
  | .staleBook => "book evidence is stale"
  | .spread => "spread exceeds arena policy"
  | .reduceOnly => "reduce-only order would increase or exceed the current position"
  | .dailyLoss => "daily loss limit reached"
  | .drawdown => "drawdown limit reached"
  | .orderLimit => "daily order limit reached"
  | .orderSize => "normalized order exceeds maximum order size"
  | .positionSize => "normalized order exceeds maximum position size"
  | .cashReserve => "normalized order violates the collateral reserve"
  | .depth => "displayed book depth cannot support the normalized IOC"
  | .overflow => "integer arithmetic overflow"

/-! ## Fixed-point helpers -/

def bpsAmount (value : Int64) (bps : UInt16) : Exec PolicyError Int64 := do
  let product ← i128 (value.toInt * bps.toNat)
  let amount ← i128Div product 10000
  tryI64 amount .overflow

def bpsDifference (left right : Int64) : Exec PolicyError Int64 := do
  let difference := (left.toInt - right.toInt).natAbs
  let scaled ← u128 (difference * 10000)
  let ratio ← u128Div scaled right.toInt.natAbs
  tryI64 ratio .overflow

def lossBps (high current : Int64) : Exec PolicyError Int64 :=
  if high ≤ 0 ∨ current ≥ high then .ok 0
  else bpsDifference high current

def ceilDiv (numerator denominator : Int) : Exec PolicyError Int := do
  rejectIf (numerator < 0 ∨ denominator ≤ 0) .overflow
  let pad ← i128 (denominator - 1)
  let padded ← okOr (checkedAddI128 numerator pad) .overflow
  i128Div padded denominator

def roundUp (value step : Int64) : Exec PolicyError Int64 := do
  let steps ← ceilDiv value.toInt step.toInt
  let total ← i128 (steps * step.toInt)
  tryI64 total .overflow

/-! ## The policy -/

/-- Equal arena capital: equity, capped by the starting capital. -/
def PolicyContext.capital (context : PolicyContext) : Int64 :=
  min context.portfolio.equityMicroUsdc context.startingCapitalMicroUsdc

/-- Whether an order on this side takes the current position towards zero. -/
def reducesPosition (side : Side) (position : Int64) : Bool :=
  match side with
  | .buy => position < 0
  | .sell => position > 0

/-- The second half of `evaluate_proposal`: size the order and check its exposure. -/
def sizeProposal (proposal : Proposal) (context : PolicyContext) :
    Exec PolicyError OrderDecision := do
  let rules := context.rules
  let market := context.market
  let portfolio := context.portfolio
  let capital := context.capital
  let requested ← bpsAmount capital proposal.notionalBps
  let normalized := max requested minOrderMicroUsdc
  let quantityReferencePrice :=
    context.quantityReferencePriceMicroUsdc.getD proposal.limitPriceMicroUsdc
  let needed ← i128 (normalized.toInt * quantityScale.toInt)
  let rawQuantity ← ceilDiv needed quantityReferencePrice.toInt
  let decimals ← u8Sub 8 market.sizeDecimals
  let step ← okOr (checkedPowI64 10 decimals) .overflow
  let raw ← tryI64 rawQuantity .overflow
  let quantityE8 ← roundUp raw step
  let scaled ← i128 (quantityE8.toInt * proposal.limitPriceMicroUsdc.toInt)
  let exactNotional ← i128Div scaled quantityScale.toInt
  let actualNotional ← tryI64 exactNotional .overflow
  let orderLimit ← bpsAmount capital rules.maxOrderBps
  rejectIf (actualNotional > orderLimit) .orderSize
  onlyIf (!proposal.reduceOnly) do
    let projectedPosition ← okOr
      (match proposal.side with
        | .buy => checkedAddI64 portfolio.symbolPositionMicroUsdc actualNotional
        | .sell => checkedSubI64 portfolio.symbolPositionMicroUsdc actualNotional) .overflow
    let positionLimit ← bpsAmount capital rules.maxPositionBps
    let magnitudeLimit ← tryU64 positionLimit.toInt .overflow
    rejectIf (projectedPosition.toInt.natAbs > magnitudeLimit) .positionSize
  onlyIf proposal.reduceOnly do
    let notional ← tryU64 actualNotional.toInt .overflow
    rejectIf (notional > portfolio.symbolPositionMicroUsdc.toInt.natAbs) .reduceOnly
  rejectIf (context.isolatedLeverage = 0) .market
  let reserve ← bpsAmount capital rules.cashReserveBps
  let requiredMargin ← ceilDiv actualNotional.toInt context.isolatedLeverage.toNat
  onlyIf (!proposal.reduceOnly) do
    let margin ← tryI64 requiredMargin .overflow
    let remaining ← okOr (checkedSubI64 portfolio.availableCollateralMicroUsdc margin) .overflow
    rejectIf (remaining < reserve) .cashReserve
  let availableDepth := match proposal.side with
    | .buy => market.askDepthMicroUsdc
    | .sell => market.bidDepthMicroUsdc
  rejectIf (actualNotional > availableDepth) .depth
  let scaledNotional ← i128 (actualNotional.toInt * 10000)
  let effectiveBps ← ceilDiv scaledNotional capital.toInt
  let effectiveNotionalBps ← tryU16 effectiveBps .overflow
  return {
    symbol := proposal.symbol
    side := proposal.side
    quantityE8
    limitPriceMicroUsdc := proposal.limitPriceMicroUsdc
    actualNotionalMicroUsdc := actualNotional
    effectiveNotionalBps
    reduceOnly := proposal.reduceOnly }

def evaluateProposal (proposal : Proposal) (context : PolicyContext) :
    Exec PolicyError OrderDecision := do
  let rules := context.rules
  let market := context.market
  let portfolio := context.portfolio
  let capital := context.capital
  rejectIf (proposal.symbol ∉ allowedSymbols ∨ proposal.symbol ≠ market.symbol) .symbol
  rejectIf
    (market.markPriceMicroUsdc ≤ 0
      ∨ market.oraclePriceMicroUsdc ≤ 0
      ∨ proposal.limitPriceMicroUsdc ≤ 0
      ∨ context.quantityReferencePriceMicroUsdc.any (· ≤ 0)
      ∨ market.sizeDecimals > 8
      ∨ portfolio.equityMicroUsdc ≤ 0
      ∨ capital ≤ 0) .market
  rejectIf market.delisted .delisted
  rejectIf (market.bookAgeSeconds > rules.bookMaxAgeSeconds) .staleBook
  rejectIf (market.spreadBps > rules.maxSpreadBps) .spread
  rejectIf (proposal.reduceOnly ∧ ¬reducesPosition proposal.side portfolio.symbolPositionMicroUsdc)
    .reduceOnly
  let dailyLoss ← lossBps portfolio.tradingDayStartEquityMicroUsdc portfolio.equityMicroUsdc
  rejectIf (dailyLoss.toInt ≥ rules.dailyLossBps.toNat) .dailyLoss
  let drawdown ← lossBps portfolio.peakEquityMicroUsdc portfolio.equityMicroUsdc
  rejectIf (drawdown.toInt ≥ rules.drawdownBps.toNat) .drawdown
  rejectIf (portfolio.ordersToday ≥ rules.maxOrdersDay) .orderLimit
  sizeProposal proposal context

/-! ## Exact values of the helpers -/

theorem toInt_minOrderMicroUsdc : minOrderMicroUsdc.toInt = 10000000 := by decide

theorem toInt_quantityScale : quantityScale.toInt = 100000000 := by decide

/-- A bps amount of a non-negative value is the exact product, rounded down. -/
theorem bpsAmount_eq_ok {value : Int64} {bps : UInt16} {amount : Int64}
    (nonneg : 0 ≤ value.toInt) :
    bpsAmount value bps = .ok amount ↔
      amount.toInt = value.toInt * bps.toNat / 10000 := by
  have bpsBound : (bps.toNat : Int) < 2 ^ 16 := by exact_mod_cast bps.toNat_lt
  have productNonneg : 0 ≤ value.toInt * bps.toNat := by positivity
  have productBound : value.toInt * bps.toNat ≤ 2 ^ 63 * 2 ^ 16 :=
    mul_le_mul value.toInt_lt.le bpsBound.le (by omega) (by omega)
  have quotientBound : value.toInt * bps.toNat / 10000 ≤ value.toInt * bps.toNat :=
    Int.ediv_le_self _ productNonneg
  have quotientNonneg : 0 ≤ value.toInt * bps.toNat / 10000 := by positivity
  simp only [bpsAmount, bind_eq_ok, i128_eq_ok, i128Div_eq_ok, tryI64_eq_ok,
    Int.tdiv_eq_ediv_of_nonneg productNonneg, existsAndEq, and_true]
  constructor
  · rintro ⟨-, -, exact⟩
    exact exact
  · intro exact
    exact ⟨⟨by omega, by omega⟩, ⟨by decide, by omega, by omega⟩, exact⟩

/-- The rounding-up division of the policy is the exact one, for a representable pair. -/
theorem eq_ceilDiv_of_ok {numerator denominator quotient : Int}
    (small : denominator ≤ 2 ^ 127)
    (ok : ceilDiv numerator denominator = .ok quotient) :
    0 ≤ numerator ∧ 0 < denominator ∧ quotient = Rounding.ceilDiv numerator denominator := by
  simp only [ceilDiv, bind_eq_ok, rejectIf_eq_ok, i128_eq_ok, okOr_eq_ok,
    checkedAddI128_eq_some, i128Div_eq_ok, exists_const, existsAndEq, not_or,
    not_lt, not_le] at ok
  obtain ⟨⟨nonneg, pos⟩, -, -, -, -, exact⟩ := ok
  refine ⟨nonneg, pos, ?_⟩
  rw [← exact, Int.tdiv_eq_ediv_of_nonneg (by omega), Rounding.ceilDiv]

theorem eq_roundUp_of_ok {value step quantity : Int64} (ok : roundUp value step = .ok quantity) :
    0 ≤ value.toInt ∧ 0 < step.toInt ∧
      quantity.toInt = Rounding.ceilDiv value.toInt step.toInt * step.toInt := by
  simp only [roundUp, bind_eq_ok, i128_eq_ok, tryI64_eq_ok, existsAndEq] at ok
  obtain ⟨steps, stepsOk, -, exact⟩ := ok
  obtain ⟨nonneg, pos, rfl⟩ := eq_ceilDiv_of_ok (by have := step.toInt_lt; omega) stepsOk
  exact ⟨nonneg, pos, exact⟩

/-! ## What an approved order promises -/

/-- The gates a proposal passes before its loss limits are looked at. -/
structure Tradable (proposal : Proposal) (context : PolicyContext) : Prop where
  symbol : proposal.symbol ∈ allowedSymbols ∧ proposal.symbol = context.market.symbol
  markPos : 0 < context.market.markPriceMicroUsdc.toInt
  oraclePos : 0 < context.market.oraclePriceMicroUsdc.toInt
  limitPos : 0 < proposal.limitPriceMicroUsdc.toInt
  referencePos : ∀ reference, context.quantityReferencePriceMicroUsdc = some reference →
    0 < reference.toInt
  decimals : context.market.sizeDecimals.toNat ≤ 8
  equityPos : 0 < context.portfolio.equityMicroUsdc.toInt
  capitalPos : 0 < context.capital.toInt
  listed : context.market.delisted = false
  fresh : context.market.bookAgeSeconds.toNat ≤ context.rules.bookMaxAgeSeconds.toNat
  spread : context.market.spreadBps.toNat ≤ context.rules.maxSpreadBps.toNat
  reduces : proposal.reduceOnly = true →
    reducesPosition proposal.side context.portfolio.symbolPositionMicroUsdc = true

/-- The loss, drawdown and order-count limits. -/
structure WithinLimits (context : PolicyContext) : Prop where
  daily : ∃ loss, lossBps context.portfolio.tradingDayStartEquityMicroUsdc
    context.portfolio.equityMicroUsdc = .ok loss ∧ loss.toInt < context.rules.dailyLossBps.toNat
  drawdown : ∃ loss, lossBps context.portfolio.peakEquityMicroUsdc
    context.portfolio.equityMicroUsdc = .ok loss ∧ loss.toInt < context.rules.drawdownBps.toNat
  orders : context.portfolio.ordersToday.toNat < context.rules.maxOrdersDay.toNat

/-- The price the quantity is sized at: the reference, or the limit when there is none. -/
def sizingPrice (proposal : Proposal) (context : PolicyContext) : Int :=
  (context.quantityReferencePriceMicroUsdc.getD proposal.limitPriceMicroUsdc).toInt

/-- One lot of the market in 1e8 units. -/
def lotSize (context : PolicyContext) : Int := 10 ^ (8 - context.market.sizeDecimals.toNat)

/-- The least notional the order may have: the requested share of capital, or 10 USDC. -/
def requiredNotional (proposal : Proposal) (context : PolicyContext) : Int :=
  max (context.capital.toInt * proposal.notionalBps.toNat / 10000) 10000000

/-- The required notional in whole lots at the sizing price. -/
def sizedQuantity (proposal : Proposal) (context : PolicyContext) : Int :=
  Rounding.lotCeil (lotSize context) (requiredNotional proposal context * 100000000)
    (sizingPrice proposal context)

/-- The notional of a quantity at a price, in whole micro-USDC. -/
def notionalAt (quantity price : Int) : Int := Rounding.valueAt 100000000 quantity price

/-- The symbol position after trading a notional on the given side. -/
def positionAfter (side : Side) (position notional : Int) : Int :=
  match side with
  | .buy => position + notional
  | .sell => position - notional

/-- What the returned order is, and the limits it was checked against at the limit price. -/
structure Sized (proposal : Proposal) (context : PolicyContext) (order : OrderDecision) :
    Prop where
  symbol : order.symbol = proposal.symbol
  side : order.side = proposal.side
  limitPrice : order.limitPriceMicroUsdc = proposal.limitPriceMicroUsdc
  reduceOnly : order.reduceOnly = proposal.reduceOnly
  quantity : order.quantityE8.toInt = sizedQuantity proposal context
  notional : order.actualNotionalMicroUsdc.toInt =
    notionalAt order.quantityE8.toInt proposal.limitPriceMicroUsdc.toInt
  effective : (order.effectiveNotionalBps.toNat : Int) =
    Rounding.ceilDiv (order.actualNotionalMicroUsdc.toInt * 10000) context.capital.toInt
  leveragePos : 0 < context.isolatedLeverage.toNat
  orderSize : order.actualNotionalMicroUsdc.toInt ≤
    context.capital.toInt * context.rules.maxOrderBps.toNat / 10000
  position : proposal.reduceOnly = false →
    |positionAfter proposal.side context.portfolio.symbolPositionMicroUsdc.toInt
        order.actualNotionalMicroUsdc.toInt| ≤
      context.capital.toInt * context.rules.maxPositionBps.toNat / 10000
  closing : proposal.reduceOnly = true →
    order.actualNotionalMicroUsdc.toInt ≤ |context.portfolio.symbolPositionMicroUsdc.toInt|
  collateral : proposal.reduceOnly = false →
    context.capital.toInt * context.rules.cashReserveBps.toNat / 10000 ≤
      context.portfolio.availableCollateralMicroUsdc.toInt -
        Rounding.ceilDiv order.actualNotionalMicroUsdc.toInt context.isolatedLeverage.toNat
  depth : order.actualNotionalMicroUsdc.toInt ≤
    (match proposal.side with
      | .buy => context.market.askDepthMicroUsdc
      | .sell => context.market.bidDepthMicroUsdc).toInt

/-- Everything an `Ok` of the policy stands for. -/
structure Approved (proposal : Proposal) (context : PolicyContext) (order : OrderDecision) :
    Prop where
  tradable : Tradable proposal context
  limits : WithinLimits context
  sized : Sized proposal context order

theorem lotSize_pos (context : PolicyContext) : 0 < lotSize context := by
  unfold lotSize
  positivity

theorem requiredNotional_pos (proposal : Proposal) (context : PolicyContext) :
    0 < requiredNotional proposal context :=
  lt_of_lt_of_le (by norm_num) (le_max_right _ _)

theorem Tradable.sizingPrice_pos {proposal : Proposal} {context : PolicyContext}
    (tradable : Tradable proposal context) : 0 < sizingPrice proposal context := by
  unfold sizingPrice
  cases reference : context.quantityReferencePriceMicroUsdc with
  | none => exact tradable.limitPos
  | some price => exact tradable.referencePos price reference

theorem Tradable.sizedQuantity_pos {proposal : Proposal} {context : PolicyContext}
    (tradable : Tradable proposal context) : 0 < sizedQuantity proposal context :=
  (Rounding.isLeast_lotCeil (lotSize_pos context) tradable.sizingPrice_pos
    (mul_pos (requiredNotional_pos proposal context) (by norm_num))).1.1

/-- The guards of `evaluate_proposal` up to the reduce-only one are exactly `Tradable`. -/
theorem tradable_iff {proposal : Proposal} {context : PolicyContext} :
    Tradable proposal context ↔
      ¬(proposal.symbol ∉ allowedSymbols ∨ proposal.symbol ≠ context.market.symbol) ∧
      ¬(context.market.markPriceMicroUsdc ≤ 0 ∨ context.market.oraclePriceMicroUsdc ≤ 0 ∨
          proposal.limitPriceMicroUsdc ≤ 0 ∨
          context.quantityReferencePriceMicroUsdc.any (· ≤ 0) ∨
          context.market.sizeDecimals > 8 ∨ context.portfolio.equityMicroUsdc ≤ 0 ∨
          context.capital ≤ 0) ∧
      ¬context.market.delisted = true ∧
      ¬context.market.bookAgeSeconds > context.rules.bookMaxAgeSeconds ∧
      ¬context.market.spreadBps > context.rules.maxSpreadBps ∧
      ¬(proposal.reduceOnly = true ∧
        ¬reducesPosition proposal.side context.portfolio.symbolPositionMicroUsdc = true) := by
  have zero : (0 : Int64).toInt = 0 := by decide
  have eight : (8 : UInt8).toNat = 8 := by decide
  have reference :
      context.quantityReferencePriceMicroUsdc.any (fun price => decide (price.toInt ≤ 0)) = false ↔
        ∀ price, context.quantityReferencePriceMicroUsdc = some price → 0 < price.toInt := by
    cases context.quantityReferencePriceMicroUsdc with
    | none => simp
    | some price => simp
  simp only [not_or, not_not, Int64.le_iff_toInt_le, zero, not_le, gt_iff_lt,
    UInt8.lt_iff_toNat_lt, UInt16.lt_iff_toNat_lt, eight, not_lt, Bool.not_eq_true, not_and,
    Bool.not_eq_false, reference]
  constructor
  · intro t
    exact ⟨t.symbol, ⟨t.markPos, t.oraclePos, t.limitPos, t.referencePos, t.decimals,
      t.equityPos, t.capitalPos⟩, t.listed, t.fresh, t.spread, t.reduces⟩
  · rintro ⟨symbol, ⟨mark, oracle, limit, ref, decimals, equity, capital⟩, listed, fresh,
      spread, reduces⟩
    exact ⟨symbol, mark, oracle, limit, ref, decimals, equity, capital, listed, fresh, spread,
      reduces⟩

/-- The two roundings of the source, to a quantity and to a lot, give the sized quantity. -/
theorem sizedQuantity_eq {proposal : Proposal} {context : PolicyContext}
    {requested step raw quantity : Int64}
    (requestedEq : requested.toInt =
      context.capital.toInt * proposal.notionalBps.toNat / 10000)
    (stepEq : step.toInt = ((10 ^ (8 - context.market.sizeDecimals.toNat) : Nat) : Int))
    (rawOk : ceilDiv ((max requested minOrderMicroUsdc).toInt * quantityScale.toInt)
      (sizingPrice proposal context) = .ok raw.toInt)
    (quantityOk : roundUp raw step = .ok quantity) :
    quantity.toInt = sizedQuantity proposal context := by
  have priceSmall : sizingPrice proposal context ≤ 2 ^ 127 := by
    have := (context.quantityReferencePriceMicroUsdc.getD proposal.limitPriceMicroUsdc).toInt_lt
    unfold sizingPrice
    omega
  obtain ⟨-, -, rawEq⟩ := eq_ceilDiv_of_ok priceSmall rawOk
  obtain ⟨-, -, quantityEq⟩ := eq_roundUp_of_ok quantityOk
  have lotEq : step.toInt = lotSize context := by
    rw [stepEq, lotSize]
    push_cast
    rfl
  rw [quantityEq, rawEq, lotEq, toInt_max, requestedEq, toInt_minOrderMicroUsdc,
    toInt_quantityScale]
  rfl

/-- The projected position of the source is the position after the notional. -/
theorem positionAfter_eq {side : Side} {position notional projected : Int64}
    (ok : (match side with
      | .buy => checkedAddI64 position notional
      | .sell => checkedSubI64 position notional) = some projected) :
    projected.toInt = positionAfter side position.toInt notional.toInt := by
  cases side with
  | buy => exact checkedAddI64_eq_some.mp ok
  | sell => exact checkedSubI64_eq_some.mp ok

/-- The sizing half returns an order only with the sizes and limits of `Sized`. -/
theorem sized_of_sizeProposal {proposal : Proposal} {context : PolicyContext}
    {order : OrderDecision} (tradable : Tradable proposal context)
    (ok : sizeProposal proposal context = .ok order) : Sized proposal context order := by
  simp only [sizeProposal, bind_eq_ok, rejectIf_eq_ok, okOr_eq_ok, onlyIf_eq_ok, tryI64_eq_ok,
    tryU64_eq_ok, tryU16_eq_ok, i128_eq_ok, i128Div_eq_ok, u8Sub_eq_ok, checkedPowI64_eq_some,
    checkedSubI64_eq_some, bpsAmount_eq_ok tradable.capitalPos.le, exists_const, existsAndEq,
    pure, Except.pure, Except.ok.injEq, and_true, true_and, gt_iff_lt, not_lt,
    Int64.lt_iff_toInt_lt] at ok
  obtain ⟨requested, requestedEq, -, step, raw, rawOk, -, stepEq, quantity, quantityOk, -, -,
    notional, notionalEq, orderLimit, orderLimitEq, orderSize, position, closing, leverage,
    reserve, reserveEq, margin, marginOk, collateral, depth, -, effective, effectiveOk, rfl⟩ := ok
  have quantityEq := sizedQuantity_eq requestedEq stepEq rawOk quantityOk
  have quantityPos : 0 < quantity.toInt := quantityEq ▸ tradable.sizedQuantity_pos
  have leveragePos : 0 < context.isolatedLeverage.toNat :=
    Nat.pos_of_ne_zero fun zero => leverage (UInt8.toNat_inj.mp zero)
  have capitalSmall : context.capital.toInt ≤ 2 ^ 127 := by
    have := context.capital.toInt_lt
    omega
  have leverageSmall : (context.isolatedLeverage.toNat : Int) ≤ 2 ^ 127 := by
    have := context.isolatedLeverage.toNat_lt
    omega
  obtain ⟨-, -, marginEq⟩ := eq_ceilDiv_of_ok leverageSmall marginOk
  obtain ⟨-, -, effectiveEq⟩ := eq_ceilDiv_of_ok capitalSmall effectiveOk
  rw [toInt_quantityScale, Int.tdiv_eq_ediv_of_nonneg
    (mul_nonneg quantityPos.le tradable.limitPos.le)] at notionalEq
  exact {
    symbol := rfl
    side := rfl
    limitPrice := rfl
    reduceOnly := rfl
    quantity := quantityEq
    notional := notionalEq
    effective := effectiveEq
    leveragePos
    orderSize := orderLimitEq ▸ orderSize
    position := by
      intro opening
      obtain ⟨projected, projectedEq, limit, limitEq, ⟨nonneg, -⟩, within⟩ :=
        position (by simp [opening])
      rw [← positionAfter_eq projectedEq, ← limitEq, Int.abs_eq_natAbs]
      omega
    closing := by
      intro reducing
      obtain ⟨⟨nonneg, -⟩, within⟩ := closing reducing
      rw [Int.abs_eq_natAbs]
      simp only
      omega
    collateral := by
      intro opening
      obtain ⟨amount, amountEq, remaining, remainingEq, within⟩ :=
        collateral (by simp [opening])
      simp only
      omega
    depth }

/-- **Specification.**  An order comes out of the policy only when every gate holds, and then
its sizes are the exact ones. -/
theorem approved_of_evaluateProposal {proposal : Proposal} {context : PolicyContext}
    {order : OrderDecision} (ok : evaluateProposal proposal context = .ok order) :
    Approved proposal context order := by
  simp only [evaluateProposal, bind_eq_ok, rejectIf_eq_ok, exists_const] at ok
  obtain ⟨symbol, market, listed, fresh, spread, reduces, daily, dailyOk, dailyBelow, drawdown,
    drawdownOk, drawdownBelow, orders, sizedOk⟩ := ok
  have tradable : Tradable proposal context :=
    tradable_iff.mpr ⟨symbol, market, listed, fresh, spread, reduces⟩
  refine ⟨tradable, ⟨⟨daily, dailyOk, ?_⟩, ⟨drawdown, drawdownOk, ?_⟩, ?_⟩,
    sized_of_sizeProposal tradable sizedOk⟩
  · exact not_le.mp dailyBelow
  · exact not_le.mp drawdownBelow
  · exact UInt16.lt_iff_toNat_lt.mp (UInt16.not_le.mp orders)

end CrowAgent
