import CrowAgent.Core.Snapshots

/-!
# Order sizes at dispatch

The live dispatch limits a proposal at the deepest price inside the slippage ceiling, sizes it at
the best one, and compares notionals: of the order at its limit with the depth of the book, and of
a reduce-only order with the position at its mark.

* `fillsFromBook_iff`: when the displayed sizes can fill the order.
* `staysInPosition_iff`: when a reduce-only order stays within the position.
-/

namespace CrowAgent

open FixedWidth

/-- What the live dispatch gives to the policy: the proposal at its marketable limit, and the
snapshot, the account and the risk state as its context. -/
structure Dispatches (snapshot : MarketSnapshot) (account : AccountSnapshot) (risk : LiveRiskState)
    (proposal marketable : Proposal) (context : PolicyContext) : Prop where
  limit : marketableProposal proposal [(proposal.symbol, snapshot)] = .ok marketable
  market : context.market = snapshot.market
  portfolio : (portfolioState account risk proposal.symbol : Exec Empty PortfolioState) =
    .ok context.portfolio
  reference : ∃ top, snapshot.book.opposingTopPriceMicroUsdc proposal.side = .ok top ∧
    context.quantityReferencePriceMicroUsdc = some top

/-- The whole lots of a quantity cover, at the reference price, the notional that was asked for. -/
def LotsCover (proposal : Proposal) (context : PolicyContext) (quantity : Int) : Prop :=
  requiredNotional proposal context * 100000000 ≤
    quantity / lotSize context * lotSize context * sizingPrice proposal context

instance (proposal : Proposal) (context : PolicyContext) (quantity : Int) :
    Decidable (LotsCover proposal context quantity) :=
  inferInstanceAs (Decidable (_ ≤ _))

/-- An approved order is within a quantity exactly when its whole lots cover what was asked for. -/
theorem quantity_le_iff {proposal : Proposal} {context : PolicyContext} {order : OrderDecision}
    {quantity : Int} (approved : Approved proposal context order) :
    order.quantityE8.toInt ≤ quantity ↔ LotsCover proposal context quantity := by
  rw [approved.sized.quantity, sizedQuantity, LotsCover,
    Rounding.lotCeil_le_iff_whole (lotSize_pos context) approved.tradable.sizingPrice_pos]

/-- A position is on the other side of an order. -/
def PositionSnapshot.opposes (position : PositionSnapshot) : Side → Prop
  | .buy => position.quantityE8.toInt < 0
  | .sell => 0 < position.quantityE8.toInt

/-- An order closes no more than a position on the other side. -/
def OrderDecision.StaysIn (order : OrderDecision) (position : PositionSnapshot) : Prop :=
  order.quantityE8.toInt ≤ |position.quantityE8.toInt| ∧ position.opposes order.side

/-! ## The book -/

/-- The levels opposite to a side. -/
def BookSnapshot.opposite (book : BookSnapshot) : Side → List BookLevel
  | .buy => book.asks
  | .sell => book.bids

/-- A price is at a limit or better. -/
def atOrBetter (side : Side) (limit price : Int64) : Bool :=
  match side with
  | .buy => price ≤ limit
  | .sell => limit ≤ price

/-- The size of a level at or better than a limit. -/
def BookLevel.sizeWithin (side : Side) (limit : Int64) (level : BookLevel) : Int :=
  match decimalStringToFixed level.price 6, decimalStringToFixed level.size 8 with
  | .ok price, .ok size => if atOrBetter side limit price then size.toInt else 0
  | _, _ => 0

/-- The displayed size of the levels at or better than a limit, in units of `10 ^ -8`. -/
def displayedSize (side : Side) (limit : Int64) (levels : List BookLevel) : Int :=
  (levels.map (BookLevel.sizeWithin side limit)).sum

/-- No level is better than one before it. -/
def BestFirst (side : Side) (levels : List BookLevel) : Prop :=
  levels.Pairwise fun before after => ∀ price price',
    decimalStringToFixed before.price 6 = .ok price →
    decimalStringToFixed after.price 6 = .ok price' → atOrBetter side price' price

theorem displayedSize_cons {side : Side} {limit : Int64} {level : BookLevel}
    {levels : List BookLevel} : displayedSize side limit (level :: levels) =
      level.sizeWithin side limit + displayedSize side limit levels := by
  rw [displayedSize, List.map_cons, List.sum_cons, ← displayedSize]

/-- Levels that are all worse than a limit display nothing at it. -/
theorem displayedSize_of_worse {side : Side} {limit : Int64} {levels : List BookLevel}
    (worse : ∀ level ∈ levels, ∀ price, decimalStringToFixed level.price 6 = .ok price →
      atOrBetter side limit price = false) : displayedSize side limit levels = 0 := by
  induction levels with
  | nil => rfl
  | cons level levels ih =>
    rw [List.forall_mem_cons] at worse
    rw [displayedSize_cons, ih worse.2, BookLevel.sizeWithin]
    split
    · rename_i price size isPrice isSize
      rw [worse.1 price isPrice]
      rfl
    · rfl

/-- A level inside the slippage ceiling that the depth counts. -/
theorem depthWithin_cons {side : Side} {top price : Int64} {before depth : Int}
    {level : BookLevel} {levels : List BookLevel}
    (isPrice : decimalStringToFixed level.price 6 = .ok price)
    (within : withinMarketSlippage side top price = true)
    (ok : BookSnapshot.depthWithin side top before (level :: levels) = .ok depth) :
    ∃ size, decimalStringToFixed level.size 8 = .ok size ∧ 0 < price.toInt ∧ 0 < size.toInt ∧
      BookSnapshot.depthWithin side top
        (before + price.toInt * size.toInt / 100000000) levels = .ok depth := by
  have zero : (0 : Int64).toInt = 0 := by decide
  simp only [BookSnapshot.depthWithin, bind_eq_ok, liftResult_eq_ok, isPrice, Except.ok.injEq,
    rejectIf_eq_ok, exists_const, within, if_true, okOr_eq_ok, checkedMulI128_eq_some,
    i128Div_eq_ok, i128_eq_ok, checkedAddI128_eq_some, existsAndEq, not_or,
    Int64.le_iff_toInt_le, zero, not_le, true_and, and_true] at ok
  obtain ⟨size, isSize, ⟨pricePos, sizePos⟩, -, -, -, rest⟩ := ok
  refine ⟨size, isSize, pricePos, sizePos, ?_⟩
  rwa [quantityE8Scale, Int.tdiv_eq_ediv_of_nonneg
    (mul_nonneg pricePos.le sizePos.le)] at rest

/-- The depth stops at the first level beyond the slippage ceiling. -/
theorem depthWithin_of_beyond {side : Side} {top price : Int64} {before depth : Int}
    {level : BookLevel} {levels : List BookLevel}
    (isPrice : decimalStringToFixed level.price 6 = .ok price)
    (beyond : withinMarketSlippage side top price = false)
    (ok : BookSnapshot.depthWithin side top before (level :: levels) = .ok depth) :
    depth = before := by
  simp only [BookSnapshot.depthWithin, bind_eq_ok, liftResult_eq_ok, isPrice, Except.ok.injEq,
    rejectIf_eq_ok, exists_const, beyond, existsAndEq, true_and] at ok
  obtain ⟨size, -, -, rest⟩ := ok
  exact (Except.ok.inj rest).symm

/-- The limit moves to a level inside the slippage ceiling, and stops at the first one beyond it. -/
theorem deepestPrice_cons {side : Side} {top limit₀ limit : Int64} {level : BookLevel}
    {levels : List BookLevel}
    (ok : BookSnapshot.deepestPrice side top limit₀ (level :: levels) = .ok limit) :
    ∃ price, decimalStringToFixed level.price 6 = .ok price ∧
      (withinMarketSlippage side top price = true ∧
          BookSnapshot.deepestPrice side top price levels = .ok limit ∨
        withinMarketSlippage side top price = false ∧ limit = limit₀) := by
  obtain ⟨price, isPrice, ok⟩ := Loop.bind_eq_ok.mp ok
  refine ⟨price, isPrice, ?_⟩
  dsimp only at ok
  split at ok
  · obtain ⟨_, failed, _⟩ := Loop.bind_eq_ok.mp ok
    cases failed
  · split at ok
    · rename_i within
      exact .inl ⟨within, ok⟩
    · rename_i beyond
      exact .inr ⟨Bool.eq_false_iff.mpr beyond, (Except.ok.inj ok).symm⟩

/-- A price beyond the ceiling for buys is above every price inside it. -/
theorem lt_of_beyond {top price price' : Int64}
    (within : withinMarketSlippage .buy top price = true)
    (beyond : withinMarketSlippage .buy top price' = false) : price.toInt < price'.toInt := by
  have inside : price.toInt * bpsScale ≤ top.toInt * (bpsScale + marketIocSlippageBps) :=
    of_decide_eq_true within
  have outside : ¬price'.toInt * bpsScale ≤ top.toInt * (bpsScale + marketIocSlippageBps) :=
    of_decide_eq_false beyond
  have scalePos : 0 < bpsScale := by decide
  exact lt_of_mul_lt_mul_right (lt_of_le_of_lt inside (not_le.mp outside)) scalePos.le

theorem within_self {top : Int64} (topPos : 0 < top.toInt) :
    withinMarketSlippage .buy top top = true :=
  decide_eq_true (mul_le_mul_of_nonneg_left (by decide) topPos.le)

/-- No ask is better than the first. -/
theorem top_le_of_bestFirst {first : BookLevel} {rest : List BookLevel} {top : Int64}
    (bestFirst : BestFirst .buy (first :: rest))
    (isTop : decimalStringToFixed first.price 6 = .ok top) :
    ∀ level ∈ first :: rest, ∀ price, decimalStringToFixed level.price 6 = .ok price →
      top.toInt ≤ price.toInt := by
  intro level mem price isPrice
  rcases List.mem_cons.mp mem with rfl | mem
  · obtain rfl := Except.ok.inj (isTop.symm.trans isPrice)
    exact le_rfl
  · exact Int64.le_iff_toInt_le.mp (of_decide_eq_true
      ((List.pairwise_cons.mp bestFirst).1 level mem top price isTop isPrice))

/-- **Depth at the limit.**  The displayed notional of asks, best first, is worth no more than their
displayed size at the limit. -/
theorem depth_le_of_deepestPrice {top limit₀ limit : Int64} {depth₀ depth : Int}
    {levels : List BookLevel} (bestFirst : BestFirst .buy levels)
    (within₀ : withinMarketSlippage .buy top limit₀ = true)
    (behind : ∀ level ∈ levels, ∀ price, decimalStringToFixed level.price 6 = .ok price →
      limit₀.toInt ≤ price.toInt)
    (isLimit : BookSnapshot.deepestPrice .buy top limit₀ levels = .ok limit)
    (isDepth : BookSnapshot.depthWithin .buy top depth₀ levels = .ok depth) :
    limit₀.toInt ≤ limit.toInt ∧
      (depth - depth₀) * 100000000 ≤ limit.toInt * displayedSize .buy limit levels := by
  induction levels generalizing limit₀ depth₀ with
  | nil =>
    obtain rfl := Except.ok.inj isLimit
    obtain rfl := Except.ok.inj isDepth
    simp [displayedSize]
  | cons level levels ih =>
    obtain ⟨price, isPrice, ⟨within, isLimit⟩ | ⟨beyond, rfl⟩⟩ := deepestPrice_cons isLimit
    · obtain ⟨size, isSize, pricePos, sizePos, isDepth⟩ := depthWithin_cons isPrice within isDepth
      have next := (List.forall_mem_cons.mp (top_le_of_bestFirst bestFirst isPrice)).2
      obtain ⟨priceLe, depthLe⟩ :=
        ih (List.pairwise_cons.mp bestFirst).2 within next isLimit isDepth
      have limitLe : limit₀.toInt ≤ price.toInt := behind level List.mem_cons_self price isPrice
      have counted : level.sizeWithin .buy limit = size.toInt := by
        have isWithin : atOrBetter .buy limit price = true :=
          decide_eq_true (Int64.le_iff_toInt_le.mpr priceLe)
        simp only [BookLevel.sizeWithin, isPrice, isSize, isWithin, if_true]
      have floor : price.toInt * size.toInt / 100000000 * 100000000 ≤ price.toInt * size.toInt :=
        Int.ediv_mul_le _ (by decide)
      have worth : price.toInt * size.toInt ≤ limit.toInt * size.toInt :=
        mul_le_mul_of_nonneg_right priceLe sizePos.le
      refine ⟨limitLe.trans priceLe, ?_⟩
      rw [displayedSize_cons, counted, mul_add]
      omega
    · have worse : ∀ level' ∈ level :: levels, ∀ price',
          decimalStringToFixed level'.price 6 = .ok price' →
            atOrBetter .buy limit price' = false := by
        intro level' mem price' isPrice'
        have le := top_le_of_bestFirst bestFirst isPrice level' mem price' isPrice'
        have lt := lt_of_beyond within₀ beyond
        refine decide_eq_false fun atLimit => ?_
        have := Int64.le_iff_toInt_le.mp atLimit
        omega
      obtain rfl := depthWithin_of_beyond isPrice beyond isDepth
      rw [displayedSize_of_worse worse]
      simp

/-- A notional at a limit of at least 100 USDC that is worth no more than a quantity is one of no
more than it. -/
theorem le_of_notional_le {order limit quantity worth : Int} (coarse : 100000000 ≤ limit)
    (notional : notionalAt order limit ≤ worth) (covered : worth * 100000000 ≤ limit * quantity) :
    order ≤ quantity := by
  have below := Int.lt_ediv_add_one_mul_self (order * limit) (b := 100000000) (by decide)
  have notional : order * limit / 100000000 ≤ worth := notional
  have lt : limit * order < limit * (quantity + 1) := by
    rw [mul_add, mul_one, mul_comm limit order]
    omega
  exact Int.le_of_lt_add_one (lt_of_mul_lt_mul_left lt (by omega))

/-! ## Orders and the book -/

theorem opposingLevels_eq_ok {book : BookSnapshot} {side : Side} {first : BookLevel}
    {rest : List BookLevel} (ok : book.opposingLevels side = .ok (first, rest)) :
    book.opposite side = first :: rest := by
  cases side
  all_goals
    simp only [BookSnapshot.opposingLevels] at ok
    split at ok
    · cases ok
    · rename_i isLevels
      obtain ⟨rfl, rfl⟩ := Prod.mk.inj (Except.ok.inj ok)
      exact isLevels

/-- The limit of a proposal at dispatch comes from the levels of the book. -/
theorem deepestPrice_of_marketableProposal {proposal marketable : Proposal}
    {snapshot : MarketSnapshot}
    (ok : marketableProposal proposal [(proposal.symbol, snapshot)] = .ok marketable) :
    marketable = { proposal with limitPriceMicroUsdc := marketable.limitPriceMicroUsdc } ∧
      ∃ first rest top, snapshot.book.opposite proposal.side = first :: rest ∧
        decimalStringToFixed first.price 6 = .ok top ∧
        BookSnapshot.deepestPrice proposal.side top top (first :: rest) =
          .ok marketable.limitPriceMicroUsdc := by
  simp only [marketableProposal, List.find?_cons, decide_true, Option.map_some] at ok
  split at ok
  · cases ok
  · rename_i limit isLimit
    obtain rfl := Except.ok.inj ok
    obtain ⟨⟨first, rest⟩, isLevels, isLimit⟩ := Loop.bind_eq_ok.mp isLimit
    obtain ⟨top, isTop, isLimit⟩ := Loop.bind_eq_ok.mp isLimit
    refine ⟨rfl, first, rest, top, opposingLevels_eq_ok isLevels, isTop, ?_⟩
    dsimp only at isLimit
    split at isLimit
    · obtain ⟨_, failed, _⟩ := Loop.bind_eq_ok.mp isLimit
      cases failed
    · exact isLimit

/-- The depth of a book is that of its levels. -/
theorem depthWithin_of_marketableDepth {book : BookSnapshot} {side : Side} {depth : Int64}
    {first : BookLevel} {rest : List BookLevel} {top : Int64}
    (isLevels : book.opposite side = first :: rest)
    (isTop : decimalStringToFixed first.price 6 = .ok top)
    (ok : book.marketableDepthMicroUsdc side = .ok depth) :
    BookSnapshot.depthWithin side top 0 (first :: rest) = .ok depth.toInt := by
  simp only [BookSnapshot.marketableDepthMicroUsdc, bind_eq_ok, liftResult_eq_ok, Prod.exists,
    rejectIf_eq_ok, exists_const, tryI64_eq_ok] at ok
  obtain ⟨first', rest', isLevels', top', isTop', -, total, isTotal, isDepth⟩ := ok
  obtain ⟨rfl, rfl⟩ := List.cons.inj (isLevels.symm.trans (opposingLevels_eq_ok isLevels'))
  obtain rfl := Except.ok.inj (isTop.symm.trans isTop')
  rw [isTotal, isDepth]

/-- **Filling from the book.**  The displayed sizes at the limit or better fill an approved order
exactly when their whole lots cover, at the best price, the notional that was asked for; and they
do so for every buy that is limited at 100 USDC or more. -/
theorem fillsFromBook_iff {decimals : Decimals} {asset : CoreAsset} {parts : PerpAssetCtx}
    {book : BookSnapshot} {nowMs : UInt64} {snapshot : MarketSnapshot}
    {account : AccountSnapshot} {risk : LiveRiskState} {proposal marketable : Proposal}
    {context : PolicyContext} {order : OrderDecision}
    (built : marketSnapshotFromParts decimals asset parts book nowMs = .ok snapshot)
    (dispatches : Dispatches snapshot account risk proposal marketable context)
    (approved : evaluateProposal marketable context = .ok order)
    (bestFirst : BestFirst order.side (book.opposite order.side)) :
    (order.quantityE8.toInt ≤
        displayedSize order.side order.limitPriceMicroUsdc (book.opposite order.side) ↔
      LotsCover marketable context (displayedSize proposal.side marketable.limitPriceMicroUsdc
        (book.opposite proposal.side))) ∧
    (order.side = .buy → 100000000 ≤ order.limitPriceMicroUsdc.toInt →
      order.quantityE8.toInt ≤
        displayedSize order.side order.limitPriceMicroUsdc (book.opposite order.side)) := by
  obtain ⟨bid, ask, snapped⟩ := snapped_of_marketSnapshotFromParts built
  obtain rfl := snapped.isBook
  have approved := approved_of_evaluateProposal approved
  obtain ⟨isMarketable, first, rest, top, isLevels, isTop, isLimit⟩ :=
    deepestPrice_of_marketableProposal dispatches.limit
  have isSide : order.side = proposal.side := by
    rw [approved.sized.side, isMarketable]
  rw [approved.sized.limitPrice, isSide]
  refine ⟨quantity_le_iff approved, fun isBuy coarse => ?_⟩
  rw [isSide] at bestFirst
  rw [isBuy] at isLevels isLimit bestFirst ⊢
  have isAsks : snapshot.book.asks = first :: rest := isLevels
  have isAsk : BestPrice snapshot.book.asks top := ⟨first, by rw [isAsks, List.head?_cons], isTop⟩
  obtain rfl := isAsk.unique snapped.bestAsk
  have topPos : 0 < top.toInt := snapped.bidPos.trans_le snapped.ordered
  have isDepth := depthWithin_of_marketableDepth isLevels isTop snapped.askDepth
  rw [isLevels] at bestFirst ⊢
  have covered := (depth_le_of_deepestPrice bestFirst (within_self topPos)
    (top_le_of_bestFirst bestFirst isTop) isLimit isDepth).2
  rw [sub_zero] at covered
  have depth := approved.sized.depth
  rw [isMarketable, dispatches.market, isBuy, approved.sized.notional] at depth
  exact le_of_notional_le coarse depth covered

/-- Two bids inside the slippage ceiling, of 0.0002 and of 0.00001 BTC. -/
def ladderBook : BookSnapshot where
  symbol := "BTC"
  venueTimeMs := 1767571200000
  bids := [⟨"60000", "0.0002", 1⟩, ⟨"57000", "0.00001", 1⟩]
  asks := [⟨"60000", "1", 1⟩]

def ladderSnapshot : MarketSnapshot where
  market := { sampleContext.market with
    spreadBps := 0
    bookAgeSeconds := 0
    askDepthMicroUsdc := 60000000000
    bidDepthMicroUsdc := 12570000 }
  book := ladderBook

def ladderAccount : AccountSnapshot where
  venueTimeMs := 1767571200000
  equityMicroUsdc := 1000000000
  withdrawableMicroUsdc := 1000000000
  positions := []

def ladderRisk : LiveRiskState where
  tradingDay := ⟨20458⟩
  tradingDayStartEquityMicroUsdc := 1000000000
  peakEquityMicroUsdc := 1000000000
  ordersToday := 0
  lastReconciliationMs := 1767571200000

/-- A sale of BTC for a share of 1,000 USDC. -/
def ladderProposal (notionalBps : UInt16) (limitPriceMicroUsdc : Int64) : Proposal where
  symbol := "BTC"
  side := .sell
  notionalBps
  limitPriceMicroUsdc
  reduceOnly := false

def ladderContext : PolicyContext :=
  { sampleContext with market := ladderSnapshot.market }

def ladderOrder (quantityE8 actualNotionalMicroUsdc : Int64) (effectiveNotionalBps : UInt16) :
    OrderDecision where
  symbol := "BTC"
  side := .sell
  quantityE8
  limitPriceMicroUsdc := 57000000000
  actualNotionalMicroUsdc
  effectiveNotionalBps
  reduceOnly := false

theorem marketSnapshotFromParts_ladderBook :
    marketSnapshotFromParts sampleDecimals sampleAsset ⟨⟨60000, 0⟩, ⟨60000, 0⟩⟩ ladderBook
      1767571200000 = .ok ladderSnapshot := by
  decide

theorem dispatches_ladder (notionalBps : UInt16) :
    Dispatches ladderSnapshot ladderAccount ladderRisk (ladderProposal notionalBps 60000000000)
      (ladderProposal notionalBps 57000000000) ladderContext where
  limit := rfl
  market := rfl
  portfolio := rfl
  reference := by
    have isTop : ladderBook.opposingTopPriceMicroUsdc .sell = .ok 60000000000 := by decide
    exact ⟨60000000000, isTop, rfl⟩

theorem bestFirst_ladder : BestFirst .sell (ladderBook.opposite .sell) := by
  refine List.pairwise_pair.mpr fun price price' isPrice isPrice' => ?_
  have high : decimalStringToFixed "60000" 6 = .ok 60000000000 := by decide
  have low : decimalStringToFixed "57000" 6 = .ok 57000000000 := by decide
  obtain rfl := Except.ok.inj (isPrice.symm.trans high)
  obtain rfl := Except.ok.inj (isPrice'.symm.trans low)
  decide

/-- A sale of 12 USDC is filled from the ladder. -/
theorem fillsFromBook_ladder :
    (ladderOrder 20000 11400000 114).quantityE8.toInt ≤
      displayedSize .sell 57000000000 (ladderBook.opposite .sell) := by
  have approved : evaluateProposal (ladderProposal 120 57000000000) ladderContext =
      .ok (ladderOrder 20000 11400000 114) := by
    decide
  exact (fillsFromBook_iff marketSnapshotFromParts_ladderBook (dispatches_ladder 120) approved
    bestFirst_ladder).1.mpr (by decide)

/-- A sale of 13 USDC is approved for 0.00022 BTC where the ladder displays 0.00021. -/
theorem approved_above_ladder :
    ¬∀ (decimals : Decimals) (asset : CoreAsset) (parts : PerpAssetCtx) (book : BookSnapshot)
      (nowMs : UInt64) (snapshot : MarketSnapshot) (account : AccountSnapshot)
      (risk : LiveRiskState) (proposal marketable : Proposal) (context : PolicyContext)
      (order : OrderDecision),
      marketSnapshotFromParts decimals asset parts book nowMs = .ok snapshot →
      Dispatches snapshot account risk proposal marketable context →
      evaluateProposal marketable context = .ok order →
      BestFirst order.side (book.opposite order.side) →
      order.quantityE8.toInt ≤
        displayedSize order.side order.limitPriceMicroUsdc (book.opposite order.side) := by
  intro fills
  have filled := fills _ _ _ _ _ _ _ _ _ _ _ (ladderOrder 22000 12540000 126)
    marketSnapshotFromParts_ladderBook (dispatches_ladder 130) (by decide) bestFirst_ladder
  exact absurd filled (by decide)

/-! ## Orders and positions -/

/-- The position that an order reduces is on the other side of it. -/
theorem sides_of_reducesPosition {side : Side} {position : Int64}
    (reduces : reducesPosition side position = true) :
    side = .buy ∧ position.toInt < 0 ∨ side = .sell ∧ 0 < position.toInt := by
  have zero : (0 : Int64).toInt = 0 := by decide
  cases side with
  | buy =>
    have short := Int64.lt_iff_toInt_lt.mp (of_decide_eq_true reduces)
    exact .inl ⟨rfl, zero ▸ short⟩
  | sell =>
    have long := Int64.lt_iff_toInt_lt.mp (of_decide_eq_true reduces)
    exact .inr ⟨rfl, zero ▸ long⟩

/-- The signed notional of a position has the size of the notional and the sign of the quantity. -/
theorem signedNotional_eq_ok {position : PositionSnapshot} {signed : Int64}
    (ok : (position.signedNotional : Exec Empty Int64) = .ok signed) :
    position.quantityE8.toInt < 0 ∧ signed.toInt = -position.notionalMicroUsdc.toInt ∨
      0 ≤ position.quantityE8.toInt ∧ signed.toInt = position.notionalMicroUsdc.toInt := by
  have zero : (0 : Int64).toInt = 0 := by decide
  unfold PositionSnapshot.signedNotional at ok
  split_ifs at ok with short
  · rw [Int64.lt_iff_toInt_lt, zero] at short
    split at ok
    · rename_i negated isNegated
      obtain rfl := Except.ok.inj ok
      exact .inl ⟨short, FixedWidth.toI64?_eq_some.mp isNegated⟩
    · cases ok
  · rw [Int64.lt_iff_toInt_lt, zero, not_lt] at short
    obtain rfl := Except.ok.inj ok
    exact .inr ⟨short, rfl⟩

/-- A reduce-only order that passes the policy is on the other side of an open position. -/
theorem exists_position_of_reduces {account : AccountSnapshot} {risk : LiveRiskState}
    {symbol : String} {side : Side} {portfolio : PortfolioState}
    (isPortfolio : (portfolioState account risk symbol : Exec Empty PortfolioState) = .ok portfolio)
    (nonneg : ∀ entry ∈ account.positions, 0 ≤ entry.2.notionalMicroUsdc.toInt)
    (reduces : reducesPosition side portfolio.symbolPositionMicroUsdc = true) :
    ∃ position, account.position? symbol = some position ∧
      |portfolio.symbolPositionMicroUsdc.toInt| = position.notionalMicroUsdc.toInt ∧
      (position.quantityE8.toInt ≠ 0 → position.opposes side) := by
  simp only [portfolioState, AccountSnapshot.symbolPosition, bind_eq_ok] at isPortfolio
  obtain ⟨signed, isSigned, isPortfolio⟩ := isPortfolio
  obtain rfl := Except.ok.inj isPortfolio
  have sides := sides_of_reducesPosition reduces
  dsimp only at sides ⊢
  cases found : account.position? symbol with
  | none =>
    rw [found] at isSigned
    obtain rfl := Except.ok.inj isSigned
    have zero : (0 : Int64).toInt = 0 := by decide
    omega
  | some position =>
    rw [found] at isSigned
    have notionalNonneg : 0 ≤ position.notionalMicroUsdc.toInt := by
      obtain ⟨entry, isEntry, rfl⟩ := Option.map_eq_some_iff.mp found
      exact nonneg entry (List.mem_of_find?_eq_some isEntry)
    refine ⟨position, rfl, ?_, fun opened => ?_⟩
    · obtain ⟨-, isSigned⟩ | ⟨-, isSigned⟩ := signedNotional_eq_ok isSigned
      · rw [isSigned, abs_neg, abs_of_nonneg notionalNonneg]
      · rw [isSigned, abs_of_nonneg notionalNonneg]
    · obtain ⟨rfl, negative⟩ | ⟨rfl, positive⟩ := sides
      · change position.quantityE8.toInt < 0
        have := signedNotional_eq_ok isSigned
        omega
      · change 0 < position.quantityE8.toInt
        have := signedNotional_eq_ok isSigned
        omega

/-- **Staying in the position.**  A reduce-only order that is approved stays in the position
exactly when the whole lots of the position cover, at the best price, the notional that was asked
for; and it does so whenever it is limited at 100 USDC or more and the position is worth no more at
its mark than at the limit. -/
theorem staysInPosition_iff {decimals : Decimals} (signs : decimals.Signs)
    {assetPositions : List AssetPosition} {snapshot : MarketSnapshot} {account : AccountSnapshot}
    {risk : LiveRiskState} {proposal marketable : Proposal} {context : PolicyContext}
    {order : OrderDecision}
    (read : accountPositions decimals assetPositions = .ok account.positions)
    (dispatches : Dispatches snapshot account risk proposal marketable context)
    (approved : evaluateProposal marketable context = .ok order)
    (reduceOnly : proposal.reduceOnly = true) :
    ∃ position, account.position? order.symbol = some position ∧
      (order.StaysIn position ↔ LotsCover marketable context |position.quantityE8.toInt|) ∧
      (100000000 ≤ order.limitPriceMicroUsdc.toInt →
        position.notionalMicroUsdc.toInt * 100000000 ≤
          order.limitPriceMicroUsdc.toInt * |position.quantityE8.toInt| →
        order.StaysIn position) := by
  have approved := approved_of_evaluateProposal approved
  obtain ⟨isMarketable, -⟩ := deepestPrice_of_marketableProposal dispatches.limit
  have reduces := approved.tradable.reduces (by rw [isMarketable]; exact reduceOnly)
  have closing := approved.sized.closing (by rw [isMarketable]; exact reduceOnly)
  rw [isMarketable] at reduces
  obtain ⟨position, isPosition, isNotional, opposes⟩ :=
    exists_position_of_reduces dispatches.portfolio
      (notional_nonneg_of_accountPositions signs read) reduces
  have isSymbol : order.symbol = proposal.symbol := by
    rw [approved.sized.symbol, isMarketable]
  have isSide : order.side = proposal.side := by
    rw [approved.sized.side, isMarketable]
  have quantityPos : 0 < order.quantityE8.toInt := by
    rw [approved.sized.quantity]
    exact approved.tradable.sizedQuantity_pos
  have stays_iff : order.StaysIn position ↔
      order.quantityE8.toInt ≤ |position.quantityE8.toInt| := by
    refine ⟨fun stays => stays.1, fun within => ⟨within, isSide ▸ opposes fun none => ?_⟩⟩
    rw [none, abs_zero] at within
    exact absurd within (not_le.mpr quantityPos)
  refine ⟨position, isSymbol ▸ isPosition, stays_iff.trans (quantity_le_iff approved), ?_⟩
  intro coarse worth
  rw [isNotional, approved.sized.notional, ← approved.sized.limitPrice] at closing
  exact stays_iff.mpr (le_of_notional_le coarse closing worth)

/-- A position of 0.00021 BTC at a mark of 60,000. -/
def ladderPosition : AssetPosition where
  coin := "BTC"
  szi := ⟨21, 5⟩
  positionValue := ⟨126, 1⟩
  entryPx := none
  unrealizedPnl := ⟨0, 0⟩
  isolated := true
  leverage := 1

def longAccount : AccountSnapshot :=
  { ladderAccount with positions := [("BTC", {
      symbol := "BTC"
      quantityE8 := 21000
      notionalMicroUsdc := 12600000
      entryPriceMicroUsdc := none
      unrealizedPnlMicroUsdc := 0
      isolated := true
      leverage := 1 })] }

def closingProposal (notionalBps : UInt16) (limitPriceMicroUsdc : Int64) : Proposal :=
  { ladderProposal notionalBps limitPriceMicroUsdc with reduceOnly := true }

def longContext : PolicyContext :=
  { ladderContext with
    portfolio := { ladderContext.portfolio with symbolPositionMicroUsdc := 12600000 } }

def closingOrder (quantityE8 actualNotionalMicroUsdc : Int64) (effectiveNotionalBps : UInt16) :
    OrderDecision :=
  { ladderOrder quantityE8 actualNotionalMicroUsdc effectiveNotionalBps with reduceOnly := true }

theorem accountPositions_ladder :
    accountPositions sampleDecimals [ladderPosition] = .ok longAccount.positions := by
  decide

theorem dispatches_closing (notionalBps : UInt16) :
    Dispatches ladderSnapshot longAccount ladderRisk (closingProposal notionalBps 60000000000)
      (closingProposal notionalBps 57000000000) longContext where
  limit := rfl
  market := rfl
  portfolio := rfl
  reference := (dispatches_ladder notionalBps).reference

/-- A reduce-only sale of 12 USDC stays in the position. -/
theorem staysInPosition_ladder :
    ∃ position, longAccount.position? "BTC" = some position ∧
      (closingOrder 20000 11400000 114).StaysIn position := by
  have approved : evaluateProposal (closingProposal 120 57000000000) longContext =
      .ok (closingOrder 20000 11400000 114) := by
    decide
  obtain ⟨position, isPosition, stays, -⟩ := staysInPosition_iff sampleDecimals_signs
    accountPositions_ladder (dispatches_closing 120) approved rfl
  obtain rfl := Option.some.inj (isPosition.symm.trans rfl)
  exact ⟨_, isPosition, stays.mpr (by decide)⟩

/-- A reduce-only sale of 13 USDC is approved for 0.00022 BTC of a position of 0.00021. -/
theorem approved_above_position :
    ¬∀ (decimals : Decimals) (assetPositions : List AssetPosition) (asset : CoreAsset)
      (parts : PerpAssetCtx) (book : BookSnapshot) (nowMs : UInt64) (snapshot : MarketSnapshot)
      (account : AccountSnapshot) (risk : LiveRiskState) (proposal marketable : Proposal)
      (context : PolicyContext) (order : OrderDecision), decimals.Signs →
      accountPositions decimals assetPositions = .ok account.positions →
      marketSnapshotFromParts decimals asset parts book nowMs = .ok snapshot →
      BestFirst order.side (book.opposite order.side) →
      Dispatches snapshot account risk proposal marketable context →
      evaluateProposal marketable context = .ok order → proposal.reduceOnly = true →
      ∃ position, account.position? order.symbol = some position ∧ order.StaysIn position := by
  intro stays
  have approved : evaluateProposal (closingProposal 130 57000000000) longContext =
      .ok (closingOrder 22000 12540000 126) := by
    decide
  obtain ⟨position, isPosition, within, -⟩ := stays _ _ _ _ _ _ _ _ _ _ _ _ _
    sampleDecimals_signs accountPositions_ladder marketSnapshotFromParts_ladderBook
    bestFirst_ladder (dispatches_closing 130) approved rfl
  obtain rfl := Option.some.inj (isPosition.symm.trans rfl)
  exact absurd within (by decide)

end CrowAgent
