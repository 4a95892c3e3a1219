import CrowAgent.Policy.Sizing

/-!
# Exposure at the prices an IOC can trade at

The policy sizes an order at the opposing quote and checks its exposure at the limit.  The IOC can
trade at any price between the two, so the exposure has to fit at all of them.  A buy is worth most
at its limit; a sell is worth most at the quote, where nothing was checked.
`exposure_between_iff` says exactly which approved orders fit everywhere.
-/

namespace CrowAgent

variable {proposal : Proposal} {context : PolicyContext} {order : OrderDecision}

/-! ## Limits -/

/-- The largest notional an order may have. -/
def orderCap (context : PolicyContext) : Int :=
  context.capital.toInt * context.rules.maxOrderBps.toNat / 10000

/-- The largest position, long or short, a symbol may have. -/
def positionCap (context : PolicyContext) : Int :=
  context.capital.toInt * context.rules.maxPositionBps.toNat / 10000

/-- The collateral an opening order has to leave. -/
def cashReserve (context : PolicyContext) : Int :=
  context.capital.toInt * context.rules.cashReserveBps.toNat / 10000

/-- The exposure an order of this notional adds stays inside every limit of the context. -/
structure ExposureFits (context : PolicyContext) (side : Side) (reduceOnly : Bool)
    (notional : Int) : Prop where
  size : notional ≤ orderCap context
  position : reduceOnly = false →
    |positionAfter side context.portfolio.symbolPositionMicroUsdc.toInt notional| ≤
      positionCap context
  collateral : reduceOnly = false →
    cashReserve context ≤ context.portfolio.availableCollateralMicroUsdc.toInt -
      Rounding.ceilDiv notional context.isolatedLeverage.toNat

/-- A limit on the far side of the quote, where the live dispatch path puts it. -/
def MarketableLimit (side : Side) (quote limit : Int) : Prop :=
  match side with
  | .buy => quote ≤ limit
  | .sell => limit ≤ quote

instance (side : Side) (quote limit : Int) : Decidable (MarketableLimit side quote limit) :=
  match side with
  | .buy => inferInstanceAs (Decidable (quote ≤ limit))
  | .sell => inferInstanceAs (Decidable (limit ≤ quote))

/-- The prices at which a marketable IOC can trade. -/
def Executable (quote limit price : Int) : Prop :=
  min quote limit ≤ price ∧ price ≤ max quote limit

/-! ## Where the exposure is largest -/

/-- A larger notional needs at least the same margin. -/
theorem margin_mono {context : PolicyContext} {n m : Int}
    (pos : 0 < context.isolatedLeverage.toNat) (le : n ≤ m) :
    Rounding.ceilDiv n context.isolatedLeverage.toNat ≤
      Rounding.ceilDiv m context.isolatedLeverage.toNat :=
  Rounding.ceilDiv_mono (by exact_mod_cast pos) le

/-- The exposure was checked at the limit price. -/
theorem Approved.exposureFits_limit (approved : Approved proposal context order) :
    ExposureFits context proposal.side proposal.reduceOnly
      (notionalAt order.quantityE8.toInt proposal.limitPriceMicroUsdc.toInt) := by
  rw [← approved.sized.notional]
  exact ⟨approved.sized.orderSize, approved.sized.position, approved.sized.collateral⟩

/-- Between two notionals that fit, every notional fits. -/
theorem ExposureFits.between {side : Side} {reduceOnly : Bool} {low high n : Int}
    (pos : 0 < context.isolatedLeverage.toNat)
    (fitsLow : ExposureFits context side reduceOnly low)
    (fitsHigh : ExposureFits context side reduceOnly high) (above : low ≤ n) (below : n ≤ high) :
    ExposureFits context side reduceOnly n where
  size := below.trans fitsHigh.size
  position := by
    intro opening
    have lowPosition := abs_le.mp (fitsLow.position opening)
    have highPosition := abs_le.mp (fitsHigh.position opening)
    rw [abs_le]
    cases side with
    | buy =>
      simp only [positionAfter] at *
      omega
    | sell =>
      simp only [positionAfter] at *
      omega
  collateral := by
    intro opening
    have highCollateral := fitsHigh.collateral opening
    have margin := margin_mono pos below
    omega

/-- The notional at an executable price lies between the ones at the quote and at the limit. -/
theorem notionalAt_between {quantity quote limit price : Int} (nonneg : 0 ≤ quantity)
    (executable : Executable quote limit price) :
    min (notionalAt quantity quote) (notionalAt quantity limit) ≤ notionalAt quantity price ∧
      notionalAt quantity price ≤ max (notionalAt quantity quote) (notionalAt quantity limit) := by
  obtain ⟨above, below⟩ := executable
  have mono : Monotone (notionalAt quantity) :=
    fun _ _ le => Rounding.valueAt_mono (by norm_num) nonneg le
  rw [← mono.map_min, ← mono.map_max]
  exact ⟨mono above, mono below⟩

/-- The exposure fits at every executable price exactly when it fits at the quote as well. -/
theorem Approved.exposureFits_between_iff {quote : Int}
    (approved : Approved proposal context order) :
    (∀ price, Executable quote proposal.limitPriceMicroUsdc.toInt price →
        ExposureFits context proposal.side proposal.reduceOnly
          (notionalAt order.quantityE8.toInt price)) ↔
      ExposureFits context proposal.side proposal.reduceOnly
        (notionalAt order.quantityE8.toInt quote) := by
  have nonneg : 0 ≤ order.quantityE8.toInt := approved.isLeast_quantity.1.1.le
  have leveragePos := approved.sized.leveragePos
  have fitsLimit := approved.exposureFits_limit
  constructor
  · intro fits
    exact fits quote ⟨min_le_left _ _, le_max_left _ _⟩
  · intro fitsQuote price executable
    obtain ⟨above, below⟩ := notionalAt_between nonneg executable
    rcases le_total (notionalAt order.quantityE8.toInt quote)
      (notionalAt order.quantityE8.toInt proposal.limitPriceMicroUsdc.toInt) with order' | order'
    · rw [min_eq_left order'] at above
      rw [max_eq_right order'] at below
      exact fitsQuote.between leveragePos fitsLimit above below
    · rw [min_eq_right order'] at above
      rw [max_eq_left order'] at below
      exact fitsLimit.between leveragePos fitsQuote above below

/-! ## The condition on the inputs -/

/-- Whole-lot quantities that cover the required notional at a price. -/
def Covers (proposal : Proposal) (context : PolicyContext) (price quantity : Int) : Prop :=
  lotSize context ∣ quantity ∧ requiredNotional proposal context * 100000000 ≤ quantity * price

/-- Room for the order at the quote.  A sell needs a covering quantity that every limit has room
for there.  An opening buy can only be short of room when it leaves an oversized short behind. -/
def RoomAtQuote (proposal : Proposal) (context : PolicyContext) (quote : Int) : Prop :=
  match proposal.side with
  | .sell => ∃ quantity, Covers proposal context quote quantity ∧
      notionalAt quantity quote ≤ orderCap context ∧
      (proposal.reduceOnly = false →
        notionalAt quantity quote ≤
            context.portfolio.symbolPositionMicroUsdc.toInt + positionCap context ∧
          notionalAt quantity quote ≤
            (context.portfolio.availableCollateralMicroUsdc.toInt - cashReserve context) *
              context.isolatedLeverage.toNat)
  | .buy => proposal.reduceOnly = false → ∀ quantity, Covers proposal context quote quantity →
      -positionCap context ≤
        context.portfolio.symbolPositionMicroUsdc.toInt + notionalAt quantity quote

/-- With a quote to size at, the ordered quantity is the least covering one. -/
theorem Approved.isLeast_covers {quote : Int64} (approved : Approved proposal context order)
    (reference : context.quantityReferencePriceMicroUsdc = some quote) :
    IsLeast {q | 0 < q ∧ Covers proposal context quote.toInt q} order.quantityE8.toInt := by
  have least := approved.isLeast_quantity
  rwa [sizingPrice, reference] at least

/-- A quantity that covers a positive need at a positive price is positive. -/
theorem Covers.pos {price quantity : Int} (pricePos : 0 < price)
    (covers : Covers proposal context price quantity) : 0 < quantity := by
  have need := requiredNotional_pos proposal context
  have product : 0 < quantity * price := by
    have := covers.2
    omega
  exact pos_of_mul_pos_left product pricePos.le

/-- A marketable sell fits at the quote exactly when some covering quantity has room there. -/
theorem Approved.exposureFits_sell_iff {quote : Int64}
    (approved : Approved proposal context order) (sell : proposal.side = .sell)
    (reference : context.quantityReferencePriceMicroUsdc = some quote)
    (marketable : proposal.limitPriceMicroUsdc.toInt ≤ quote.toInt) :
    ExposureFits context .sell proposal.reduceOnly
        (notionalAt order.quantityE8.toInt quote.toInt) ↔
      RoomAtQuote proposal context quote.toInt := by
  have quotePos := approved.tradable.referencePos quote reference
  have leveragePos : (0 : Int) < context.isolatedLeverage.toNat := by
    exact_mod_cast approved.sized.leveragePos
  obtain ⟨⟨quantityPos, covers⟩, least⟩ := approved.isLeast_covers reference
  have atLimit := approved.exposureFits_limit
  have above : notionalAt order.quantityE8.toInt proposal.limitPriceMicroUsdc.toInt ≤
      notionalAt order.quantityE8.toInt quote.toInt :=
    Rounding.valueAt_mono (by norm_num) quantityPos.le marketable
  rw [sell] at atLimit
  simp only [RoomAtQuote, sell]
  constructor
  · intro fits
    refine ⟨order.quantityE8.toInt, covers, fits.size, fun opening => ⟨?_, ?_⟩⟩
    · have position := (abs_le.mp (fits.position opening)).1
      simp only [positionAfter] at position
      omega
    · have collateral := fits.collateral opening
      rw [← Rounding.ceilDiv_le_iff leveragePos]
      omega
  · rintro ⟨quantity, covers', size, room⟩
    have smaller : notionalAt order.quantityE8.toInt quote.toInt ≤
        notionalAt quantity quote.toInt :=
      Int.ediv_le_ediv (by norm_num) (mul_le_mul_of_nonneg_right
        (least ⟨covers'.pos quotePos, covers'⟩) quotePos.le)
    refine ⟨smaller.trans size, fun opening => ?_, fun opening => ?_⟩
    · have position := (room opening).1
      have positionLimit := (abs_le.mp (atLimit.position opening)).2
      rw [abs_le]
      simp only [positionAfter] at *
      omega
    · have collateral := (Rounding.ceilDiv_le_iff leveragePos).mpr
        (smaller.trans (room opening).2)
      omega

/-- A marketable buy fits at the quote exactly when every covering quantity pulls the position
back over the short limit. -/
theorem Approved.exposureFits_buy_iff {quote : Int64}
    (approved : Approved proposal context order) (buy : proposal.side = .buy)
    (reference : context.quantityReferencePriceMicroUsdc = some quote)
    (marketable : quote.toInt ≤ proposal.limitPriceMicroUsdc.toInt) :
    ExposureFits context .buy proposal.reduceOnly
        (notionalAt order.quantityE8.toInt quote.toInt) ↔
      RoomAtQuote proposal context quote.toInt := by
  have quotePos := approved.tradable.referencePos quote reference
  obtain ⟨⟨quantityPos, covers⟩, least⟩ := approved.isLeast_covers reference
  have atLimit := approved.exposureFits_limit
  have below : notionalAt order.quantityE8.toInt quote.toInt ≤
      notionalAt order.quantityE8.toInt proposal.limitPriceMicroUsdc.toInt :=
    Rounding.valueAt_mono (by norm_num) quantityPos.le marketable
  rw [buy] at atLimit
  simp only [RoomAtQuote, buy]
  constructor
  · intro fits opening quantity covers'
    have larger : notionalAt order.quantityE8.toInt quote.toInt ≤
        notionalAt quantity quote.toInt :=
      Int.ediv_le_ediv (by norm_num) (mul_le_mul_of_nonneg_right
        (least ⟨covers'.pos quotePos, covers'⟩) quotePos.le)
    have position := (abs_le.mp (fits.position opening)).1
    simp only [positionAfter] at position
    omega
  · intro room
    refine ⟨below.trans atLimit.size, fun opening => ?_, fun opening => ?_⟩
    · have position := room opening _ covers
      have positionLimit := (abs_le.mp (atLimit.position opening)).2
      rw [abs_le]
      simp only [positionAfter] at *
      omega
    · have collateral := atLimit.collateral opening
      have margin := margin_mono approved.sized.leveragePos below
      omega

/-- **Exposure at every executable price.**  An approved order with a marketable limit fits every
limit at all the prices it can trade at exactly when there is room for it at the quote. -/
theorem exposureFits_every_executable_price_iff {quote : Int64}
    (reference : context.quantityReferencePriceMicroUsdc = some quote)
    (marketable : MarketableLimit proposal.side quote.toInt proposal.limitPriceMicroUsdc.toInt)
    (ok : evaluateProposal proposal context = .ok order) :
    (∀ price, Executable quote.toInt proposal.limitPriceMicroUsdc.toInt price →
        ExposureFits context order.side order.reduceOnly
          (notionalAt order.quantityE8.toInt price)) ↔
      RoomAtQuote proposal context quote.toInt := by
  have approved := approved_of_evaluateProposal ok
  rw [approved.sized.side, approved.sized.reduceOnly, approved.exposureFits_between_iff]
  cases side : proposal.side with
  | buy =>
    rw [side] at marketable
    exact approved.exposureFits_buy_iff side reference marketable
  | sell =>
    rw [side] at marketable
    exact approved.exposureFits_sell_iff side reference marketable

/-- The sample buy has room at its quote. -/
theorem roomAtQuote_sample : RoomAtQuote sampleProposal sampleContext (60000000000 : Int64).toInt := by
  intro _ quantity covers
  have quantityPos : 0 < quantity := covers.pos (by decide)
  have nonneg : 0 ≤ notionalAt quantity (60000000000 : Int64).toInt :=
    Rounding.valueAt_nonneg (by norm_num) quantityPos.le (by decide)
  have cap : positionCap sampleContext = 100000000 := by decide
  have flat : sampleContext.portfolio.symbolPositionMicroUsdc.toInt = 0 := by decide
  rw [cap, flat]
  omega

/-- The sample buy has room at its quote, so it fits at every price up to its limit. -/
theorem sampleOrder_fits_every_executable_price :
    evaluateProposal sampleProposal sampleContext = .ok sampleOrder ∧
      ∀ price,
        Executable (60000000000 : Int64).toInt sampleProposal.limitPriceMicroUsdc.toInt price →
          ExposureFits sampleContext sampleOrder.side sampleOrder.reduceOnly
            (notionalAt sampleOrder.quantityE8.toInt price) :=
  ⟨evaluateProposal_sample, (exposureFits_every_executable_price_iff rfl (by decide)
    evaluateProposal_sample).mpr roomAtQuote_sample⟩

/-- A 2% sell with 1,000 USDC of capital, quoted at 60,000 and limited at 58,000. -/
def steepSellProposal : Proposal :=
  { sampleProposal with side := .sell, notionalBps := 200, limitPriceMicroUsdc := 58000000000 }

/-- The steep sell passes the policy with a notional of 19.72 USDC at its limit. -/
def steepSellOrder : OrderDecision where
  symbol := "BTC"
  side := .sell
  quantityE8 := 34000
  limitPriceMicroUsdc := 58000000000
  actualNotionalMicroUsdc := 19720000
  effectiveNotionalBps := 198
  reduceOnly := false

/-- Limiting a sell below the quote hides part of its exposure: the steep sell is approved, trades
at the quote for 20.40 USDC, and the order limit is 20 USDC. -/
theorem steepSell_exceeds_order_limit :
    ¬∀ (proposal : Proposal) (context : PolicyContext) (order : OrderDecision) (quote : Int64),
      context.quantityReferencePriceMicroUsdc = some quote →
      MarketableLimit proposal.side quote.toInt proposal.limitPriceMicroUsdc.toInt →
      evaluateProposal proposal context = .ok order →
      ∀ price, Executable quote.toInt proposal.limitPriceMicroUsdc.toInt price →
        ExposureFits context order.side order.reduceOnly
          (notionalAt order.quantityE8.toInt price) := by
  intro fits
  have approved : evaluateProposal steepSellProposal sampleContext = .ok steepSellOrder := by
    decide
  have atQuote := fits steepSellProposal sampleContext steepSellOrder 60000000000 rfl (by decide)
    approved (60000000000 : Int64).toInt ⟨min_le_left _ _, le_max_left _ _⟩
  exact absurd atQuote.size (by decide)

end CrowAgent
