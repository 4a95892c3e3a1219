import CrowAgent.Core.LiveCycle
import CrowAgent.Lib.Loop
import CrowAgent.Policy.Sizing

/-!
# Market snapshots

A market snapshot is put together from the metadata of an asset, its context and its book: the age
of the book in whole seconds, the spread in whole bps, the depth inside the slippage ceiling on
either side.  The positions of an account are read from the venue's in the same way.

The decimals of the venue are those of a crate, whose texts are a parameter.
-/

namespace CrowAgent

open FixedWidth

/-- A decimal, `coefficient / 10 ^ scale`. -/
structure Decimal : Type where
  coefficient : Int
  scale : Nat
  deriving DecidableEq, Repr

/-- What a decimal stands for. -/
def Decimal.value (decimal : Decimal) : ℚ := decimal.coefficient / 10 ^ decimal.scale

def Decimal.abs (decimal : Decimal) : Decimal :=
  { decimal with coefficient := |decimal.coefficient| }

/-- The texts of decimals. -/
structure Decimals : Type where
  /-- `to_string` of the normalised decimal. -/
  toText : Decimal → String
  /-- `parse::<Decimal>`. -/
  parse : String → Option Decimal

/-- Only a negative decimal is written with a sign. -/
def Decimals.Signs (decimals : Decimals) : Prop :=
  ∀ decimal : Decimal, 0 ≤ decimal.coefficient →
    (decimals.toText decimal).toList.head? ≠ some '-'

/-- `decimal_to_fixed`. -/
def decimalToFixed (decimals : Decimals) (value : Decimal) (scale : UInt8) :
    Except HyperliquidError Int64 :=
  decimalStringToFixed (decimals.toText value) scale

/-! ## Books -/

def quantityE8Scale : Int := 100000000

namespace BookSnapshot

/-- `is_fresh_at`, with the maximum age in milliseconds. -/
def isFreshAt (book : BookSnapshot) (nowMs : UInt64) (maximumAge : Nat) : Bool :=
  book.venueTimeMs ≤ nowMs &&
    (nowMs - book.venueTimeMs).toNat ≤ (if maximumAge < 2 ^ 64 then maximumAge else 2 ^ 64 - 1)

/-- The loop of `marketable_depth_micro_usdc` over the levels. -/
def depthWithin (side : Side) (top : Int64) (depth : Int) :
    List BookLevel → Exec HyperliquidError Int
  | [] => .ok depth
  | level :: rest => do
    let price ← liftResult (decimalStringToFixed level.price 6)
    let levelQuantityE8 ← liftResult (decimalStringToFixed level.size 8)
    rejectIf (price ≤ 0 ∨ levelQuantityE8 ≤ 0) .book
    if withinMarketSlippage side top price then do
      let product ← okOr (checkedMulI128 price.toInt levelQuantityE8.toInt) .numeric
      let notional ← i128Div product quantityE8Scale
      let depth ← okOr (checkedAddI128 depth notional) .numeric
      depthWithin side top depth rest
    else return depth

/-- `marketable_depth_micro_usdc`: the displayed notional inside the slippage ceiling. -/
def marketableDepthMicroUsdc (book : BookSnapshot) (side : Side) :
    Exec HyperliquidError Int64 := do
  let (first, rest) ← liftResult (book.opposingLevels side)
  let top ← liftResult (decimalStringToFixed first.price 6)
  rejectIf (top ≤ 0) .book
  let depth ← depthWithin side top 0 (first :: rest)
  tryI64 depth .numeric

end BookSnapshot

/-! ## Markets -/

structure CoreAsset : Type where
  symbol : String
  assetIndex : UInt32
  sizeDecimals : UInt8
  maxLeverage : UInt32
  deriving DecidableEq, Repr

/-- The prices in the context of an asset. -/
structure PerpAssetCtx : Type where
  markPx : Decimal
  oraclePx : Decimal
  deriving DecidableEq, Repr

/-- `market_snapshot_from_parts`. -/
def marketSnapshotFromParts (decimals : Decimals) (asset : CoreAsset) (context : PerpAssetCtx)
    (book : BookSnapshot) (nowMs : UInt64) : Exec HyperliquidError MarketSnapshot := do
  let bid ← okOr book.bids.head? .book
  let ask ← okOr book.asks.head? .book
  let bidPrice ← liftResult (decimalStringToFixed bid.price 6)
  let askPrice ← liftResult (decimalStringToFixed ask.price 6)
  rejectIf (bidPrice ≤ 0 ∨ askPrice < bidPrice ∨ nowMs < book.venueTimeMs) .book
  let sum ← okOr (checkedAddI64 bidPrice askPrice) .numeric
  let midpoint := sum.toInt.tdiv 2
  let difference ← subI64 askPrice bidPrice
  let scaled ← okOr (checkedMulI128 difference.toInt 10000) .numeric
  let ratio ← i128Div scaled midpoint
  let spreadBps ← tryI64 ratio .numeric
  let bidDepth ← book.marketableDepthMicroUsdc .sell
  let askDepth ← book.marketableDepthMicroUsdc .buy
  let markPriceMicroUsdc ← liftResult (decimalToFixed decimals context.markPx 6)
  let oraclePriceMicroUsdc ← liftResult (decimalToFixed decimals context.oraclePx 6)
  let spreadBps ← tryU16 spreadBps.toInt .numeric
  let seconds := (nowMs.toNat - book.venueTimeMs.toNat) / 1000
  return {
    market := {
      symbol := asset.symbol
      markPriceMicroUsdc
      oraclePriceMicroUsdc
      spreadBps
      bookAgeSeconds := .ofNat (min seconds (2 ^ 16 - 1))
      askDepthMicroUsdc := askDepth
      bidDepthMicroUsdc := bidDepth
      sizeDecimals := asset.sizeDecimals
      delisted := false }
    book }

/-! ## Positions -/

/-- A position of an account as the venue reports it. -/
structure AssetPosition : Type where
  coin : String
  szi : Decimal
  positionValue : Decimal
  entryPx : Option Decimal
  unrealizedPnl : Decimal
  isolated : Bool
  leverage : UInt32
  deriving DecidableEq, Repr

/-- `BTreeMap::insert`. -/
def insertEntry {α : Type} (key : String) (value : α) : List (String × α) → List (String × α)
  | [] => [(key, value)]
  | (key', value') :: rest =>
    if key < key' then (key, value) :: (key', value') :: rest
    else if key = key' then (key, value) :: rest
    else (key', value') :: insertEntry key value rest

/-- A decimal that may be missing. -/
def optionalToFixed (decimals : Decimals) (value : Option Decimal) (scale : UInt8) :
    Except HyperliquidError (Option Int64) :=
  match value with
  | none => .ok none
  | some value => some <$> decimalToFixed decimals value scale

/-- The snapshot of a position. -/
def positionSnapshot (decimals : Decimals) (position : AssetPosition) :
    Except HyperliquidError PositionSnapshot := do
  let quantityE8 ← decimalToFixed decimals position.szi 8
  let notionalMicroUsdc ← decimalToFixed decimals position.positionValue.abs 6
  let entryPriceMicroUsdc ← optionalToFixed decimals position.entryPx 6
  let unrealizedPnlMicroUsdc ← decimalToFixed decimals position.unrealizedPnl 6
  return {
    symbol := position.coin
    quantityE8
    notionalMicroUsdc
    entryPriceMicroUsdc
    unrealizedPnlMicroUsdc
    isolated := position.isolated
    leverage := position.leverage }

/-- Add a position to those before it, when it is open and in a market of the arena. -/
def addPosition (decimals : Decimals) (positions : List (String × PositionSnapshot))
    (position : AssetPosition) : Except HyperliquidError (List (String × PositionSnapshot)) :=
  if position.coin ∉ allowedSymbols ∨ position.szi.coefficient = 0 then .ok positions
  else do
    let snapshot ← positionSnapshot decimals position
    return insertEntry position.coin snapshot positions

/-- The positions of `account_snapshot`. -/
def accountPositions (decimals : Decimals) (assetPositions : List AssetPosition) :
    Except HyperliquidError (List (String × PositionSnapshot)) :=
  assetPositions.foldlM (addPosition decimals) []

/-! ## What a snapshot takes from its parts -/

/-- The price of the first level. -/
def BestPrice (levels : List BookLevel) (price : Int64) : Prop :=
  ∃ level, levels.head? = some level ∧ decimalStringToFixed level.price 6 = .ok price

/-- What a snapshot takes from its parts. -/
structure Snapped (asset : CoreAsset) (book : BookSnapshot) (nowMs : UInt64)
    (snapshot : MarketSnapshot) (bid ask : Int64) : Prop where
  bestBid : BestPrice book.bids bid
  bestAsk : BestPrice book.asks ask
  bidPos : 0 < bid.toInt
  ordered : bid.toInt ≤ ask.toInt
  time : book.venueTimeMs.toNat ≤ nowMs.toNat
  isBook : snapshot.book = book
  symbol : snapshot.market.symbol = asset.symbol
  sizeDecimals : snapshot.market.sizeDecimals = asset.sizeDecimals
  spread : (snapshot.market.spreadBps.toNat : Int) =
    (ask.toInt - bid.toInt) * 10000 / ((bid.toInt + ask.toInt) / 2)
  age : snapshot.market.bookAgeSeconds.toNat =
    min ((nowMs.toNat - book.venueTimeMs.toNat) / 1000) (2 ^ 16 - 1)
  bidDepth : book.marketableDepthMicroUsdc .sell = .ok snapshot.market.bidDepthMicroUsdc
  askDepth : book.marketableDepthMicroUsdc .buy = .ok snapshot.market.askDepthMicroUsdc

/-! ## Inversion -/

/-- **What goes into a snapshot.** -/
theorem snapped_of_marketSnapshotFromParts {decimals : Decimals} {asset : CoreAsset}
    {context : PerpAssetCtx} {book : BookSnapshot} {nowMs : UInt64} {snapshot : MarketSnapshot}
    (ok : marketSnapshotFromParts decimals asset context book nowMs = .ok snapshot) :
    ∃ bid ask, Snapped asset book nowMs snapshot bid ask := by
  simp only [marketSnapshotFromParts, bind_eq_ok, okOr_eq_ok, liftResult_eq_ok, rejectIf_eq_ok,
    checkedAddI64_eq_some, checkedMulI128_eq_some, subI64_eq_ok, i128_eq_ok, i128Div_eq_ok,
    tryI64_eq_ok, tryU16_eq_ok, exists_const, existsAndEq, not_or, and_true, pure, Except.pure,
    Except.ok.injEq] at ok
  obtain ⟨bidLevel, isBid, askLevel, isAsk, bid, bidPrice, ask, askPrice, ⟨bidPos, ordered, time⟩,
    sum, sumEq, difference, differenceEq, -, -, ratio, ratioEq, bidDepth, isBidDepth, askDepth,
    isAskDepth, mark, -, oracle, -, spreadBps, spreadEq, rfl⟩ := ok
  have zero : (0 : Int64).toInt = 0 := by decide
  rw [Int64.le_iff_toInt_le, zero, not_le] at bidPos
  rw [Int64.lt_iff_toInt_lt, not_lt] at ordered
  rw [UInt64.lt_iff_toNat_lt, not_lt] at time
  rw [Int.tdiv_eq_ediv_of_nonneg (by omega), Int.tdiv_eq_ediv_of_nonneg (by omega), differenceEq,
    sumEq] at ratioEq
  have seconds : min ((nowMs.toNat - book.venueTimeMs.toNat) / 1000) (2 ^ 16 - 1) < 2 ^ 16 := by
    omega
  exact ⟨bid, ask, {
    bestBid := ⟨bidLevel, isBid, bidPrice⟩
    bestAsk := ⟨askLevel, isAsk, askPrice⟩
    bidPos
    ordered
    time
    isBook := rfl
    symbol := rfl
    sizeDecimals := rfl
    spread := spreadEq.trans ratioEq
    age := UInt16.toNat_ofNat_of_lt' seconds
    bidDepth := isBidDepth
    askDepth := isAskDepth }⟩

/-! ## Positions are valued by their size -/

/-- A text without a sign is not negative. -/
theorem nonneg_of_decimalStringToFixed {text : String} {scale : UInt8} {value : Int64}
    (read : decimalStringToFixed text scale = .ok value) (unsigned : text.toList.head? ≠ some '-') :
    0 ≤ value.toInt := by
  unfold decimalStringToFixed at read
  simp only [unsigned, if_false] at read
  split at read
  · cases read
  · split at read
    · cases read
    · split at read
      · rename_i fixed isFixed
        obtain rfl := Except.ok.inj read
        obtain ⟨whole, -, isFixed⟩ := Option.bind_eq_some_iff.mp isFixed
        split at isFixed
        all_goals
          obtain ⟨fractional, -, isFixed⟩ := Option.bind_eq_some_iff.mp isFixed
          obtain ⟨multiplier, -, isFixed⟩ := Option.bind_eq_some_iff.mp isFixed
          rw [Option.ite_none_right_eq_some, FixedWidth.toI64?_eq_some] at isFixed
          rw [isFixed.2]
          positivity
      · cases read

theorem mem_insertEntry {α : Type} {key : String} {value : α} {entries : List (String × α)}
    {entry : String × α} (mem : entry ∈ insertEntry key value entries) :
    entry = (key, value) ∨ entry ∈ entries := by
  induction entries with
  | nil => simpa [insertEntry] using mem
  | cons first rest ih =>
    rw [insertEntry] at mem
    split_ifs at mem with before same
    · exact List.mem_cons.mp mem
    · exact (List.mem_cons.mp mem).imp_right (List.mem_cons_of_mem _)
    · rcases List.mem_cons.mp mem with rfl | mem
      · exact .inr List.mem_cons_self
      · exact (ih mem).imp_right (List.mem_cons_of_mem _)

/-- The notional of a position of an account is not negative. -/
theorem notional_nonneg_of_accountPositions {decimals : Decimals} (signs : decimals.Signs)
    {assetPositions : List AssetPosition} {positions : List (String × PositionSnapshot)}
    (read : accountPositions decimals assetPositions = .ok positions) :
    ∀ entry ∈ positions, 0 ≤ entry.2.notionalMicroUsdc.toInt := by
  refine @Loop.invariant _ _ _ _ (fun _ positions =>
    ∀ entry ∈ positions, 0 ≤ entry.2.notionalMicroUsdc.toInt) _ _ _ ?_ ?_ read
  · exact fun entry mem => absurd mem List.not_mem_nil
  · intro _ position _ before after _ holds added
    unfold addPosition at added
    split_ifs at added with skipped
    · obtain rfl := Except.ok.inj added
      exact holds
    · obtain ⟨snapshot, isSnapshot, added⟩ := Loop.bind_eq_ok.mp added
      obtain rfl := Except.ok.inj added
      intro entry mem
      rcases mem_insertEntry mem with rfl | mem
      · simp only [positionSnapshot, Loop.bind_eq_ok] at isSnapshot
        obtain ⟨quantity, -, notional, isNotional, entryPrice, -, pnl, -, isSnapshot⟩ := isSnapshot
        obtain rfl := Except.ok.inj isSnapshot
        exact nonneg_of_decimalStringToFixed isNotional (signs _ (abs_nonneg _))
      · exact holds entry mem

/-! ## Freshness and spread -/

/-- The age of a book in milliseconds. -/
def BookSnapshot.age (book : BookSnapshot) (nowMs : UInt64) : Nat :=
  nowMs.toNat - book.venueTimeMs.toNat

/-- The book is as fresh as the rules ask to the millisecond, and the spread of its best prices is
inside their bps of the middle as a rational. -/
structure WithinMarketRules (rules : RiskRulesV1) (book : BookSnapshot) (nowMs : UInt64)
    (bid ask : Int64) : Prop where
  age : book.age nowMs ≤ 1000 * rules.bookMaxAgeSeconds.toNat
  fresh : book.isFreshAt nowMs (1000 * rules.bookMaxAgeSeconds.toNat)
  spread : ((ask.toInt : ℚ) - bid.toInt) * 10000 ≤
    rules.maxSpreadBps.toNat * (((ask.toInt : ℚ) + bid.toInt) / 2)

/-- Nothing that the rules look at was lost in rounding: the age was counted, an age of the last
second is whole, and a spread of the last bps leaves no more than the rounding of the middle. -/
structure RoundedWithinRules (rules : RiskRulesV1) (book : BookSnapshot) (nowMs : UInt64)
    (bid ask : Int64) : Prop where
  counted : book.age nowMs / 1000 < 2 ^ 16
  age : book.age nowMs / 1000 = rules.bookMaxAgeSeconds.toNat → book.age nowMs % 1000 = 0
  spread : (ask.toInt - bid.toInt) * 10000 / ((bid.toInt + ask.toInt) / 2) =
      rules.maxSpreadBps.toNat →
    2 * ((ask.toInt - bid.toInt) * 10000 % ((bid.toInt + ask.toInt) / 2)) ≤
      rules.maxSpreadBps.toNat * ((bid.toInt + ask.toInt) % 2)

section MarketRules

variable {rules : RiskRulesV1} {book : BookSnapshot} {nowMs : UInt64} {bid ask : Int64}

/-- A rounded age within the rule is an exact one unless it was cut off or is in its last second. -/
theorem age_le_iff {age limit : Nat} (within : min (age / 1000) (2 ^ 16 - 1) ≤ limit)
    (small : limit < 2 ^ 16) :
    age ≤ 1000 * limit ↔ age / 1000 < 2 ^ 16 ∧ (age / 1000 = limit → age % 1000 = 0) := by
  omega

/-- A rounded spread within the rule is an exact one unless its remainder at the rule outweighs the
rounding of the middle. -/
theorem spread_le_iff {difference sum limit : Int} (sumPos : 2 ≤ sum) (limitNonneg : 0 ≤ limit)
    (within : difference * 10000 / (sum / 2) ≤ limit) :
    2 * (difference * 10000) ≤ limit * sum ↔
      (difference * 10000 / (sum / 2) = limit →
        2 * (difference * 10000 % (sum / 2)) ≤ limit * (sum % 2)) := by
  have middlePos : 0 < sum / 2 := by omega
  have split := Int.mul_ediv_add_emod (difference * 10000) (sum / 2)
  have remainder := Int.emod_lt_of_pos (difference * 10000) middlePos
  have halves : sum = 2 * (sum / 2) + sum % 2 := by omega
  have parity : 0 ≤ sum % 2 := by omega
  rcases eq_or_lt_of_le within with exact | below
  · simp only [exact, forall_const]
    rw [exact] at split
    have expand : limit * sum = 2 * (sum / 2 * limit) + limit * (sum % 2) := by
      nth_rewrite 1 [halves]
      ring
    rw [expand]
    omega
  · simp only [below.ne, false_implies, iff_true]
    have next : (difference * 10000 / (sum / 2) + 1) * (sum / 2) ≤ limit * (sum / 2) :=
      mul_le_mul_of_nonneg_right below middlePos.le
    calc 2 * (difference * 10000)
        ≤ 2 * ((difference * 10000 / (sum / 2) + 1) * (sum / 2)) := by
          rw [add_mul, one_mul, mul_comm (difference * 10000 / (sum / 2))]
          omega
      _ ≤ 2 * (limit * (sum / 2)) := by omega
      _ ≤ 2 * (limit * (sum / 2)) + limit * (sum % 2) :=
          le_add_of_nonneg_right (mul_nonneg limitNonneg parity)
      _ = limit * (2 * (sum / 2) + sum % 2) := by ring
      _ = limit * sum := by rw [← halves]

/-- The spread as a rational, without denominators. -/
theorem rational_spread_iff {limit : Nat} :
    ((ask.toInt : ℚ) - bid.toInt) * 10000 ≤ limit * (((ask.toInt : ℚ) + bid.toInt) / 2) ↔
      2 * ((ask.toInt - bid.toInt) * 10000) ≤ limit * (bid.toInt + ask.toInt) := by
  rw [← Int.cast_le (R := ℚ), ← mul_div_assoc, le_div_iff₀ (by norm_num)]
  push_cast
  rw [mul_comm, add_comm (ask.toInt : ℚ)]

theorem BestPrice.unique {levels : List BookLevel} {a b : Int64} (isA : BestPrice levels a)
    (isB : BestPrice levels b) : a = b := by
  obtain ⟨first, isFirst, readA⟩ := isA
  obtain ⟨first', isFirst', readB⟩ := isB
  obtain rfl := Option.some.inj (isFirst.symm.trans isFirst')
  exact Except.ok.inj (readA.symm.trans readB)

theorem isFreshAt_iff {limit : Nat} (small : 1000 * limit < 2 ^ 64)
    (time : book.venueTimeMs.toNat ≤ nowMs.toNat) :
    book.isFreshAt nowMs (1000 * limit) = true ↔ book.age nowMs ≤ 1000 * limit := by
  have difference : (nowMs - book.venueTimeMs).toNat = nowMs.toNat - book.venueTimeMs.toNat :=
    UInt64.toNat_sub_of_le _ _ (UInt64.le_iff_toNat_le.mpr time)
  rw [BookSnapshot.isFreshAt, if_pos small, Bool.and_eq_true, decide_eq_true_eq,
    decide_eq_true_eq, difference]
  exact ⟨fun fresh => fresh.2, fun fresh => ⟨UInt64.le_iff_toNat_le.mpr time, fresh⟩⟩

end MarketRules

/-! ## A sample book -/

/-- The decimals of the samples with their texts. -/
def sampleTexts : List (Decimal × String) := [
  (⟨0, 0⟩, "0"),
  (⟨60000, 0⟩, "60000"),
  (⟨21, 5⟩, "0.00021"),
  (⟨126, 1⟩, "12.6")]

/-- Read a text of digits with or without a point. -/
def readDecimal (text : String) : Option Decimal :=
  let (whole, fraction) := splitPoint text.toList
  if whole ≠ [] ∧ whole.all Char.isDigit ∧ fraction.all Char.isDigit then
    some ⟨digitsValue (whole ++ fraction), fraction.length⟩
  else none

def sampleDecimals : Decimals where
  toText := fun decimal => ((sampleTexts.find? (·.1 = decimal)).map (·.2)).getD ""
  parse := readDecimal

theorem sampleDecimals_signs : sampleDecimals.Signs := by
  intro decimal _ signed
  have unsigned : ∀ entry ∈ sampleTexts, entry.2.toList.head? ≠ some '-' := by decide
  cases found : sampleTexts.find? (·.1 = decimal) with
  | none => simp [sampleDecimals, found] at signed
  | some entry =>
    refine unsigned entry (List.mem_of_find?_eq_some found) ?_
    simpa [sampleDecimals, found] using signed

def sampleAsset : CoreAsset where
  symbol := "BTC"
  assetIndex := 0
  sizeDecimals := 5
  maxLeverage := 40

def sampleBook : BookSnapshot where
  symbol := "BTC"
  venueTimeMs := 1767571200000
  bids := [⟨"59757", "1", 1⟩]
  asks := [⟨"60000", "1", 1⟩, ⟨"60900", "1", 1⟩]

/-- The snapshot of the sample book at an age in seconds. -/
def bookSnapshotAt (bookAgeSeconds : UInt16) : MarketSnapshot where
  market := { sampleContext.market with
    spreadBps := 40
    bookAgeSeconds
    askDepthMicroUsdc := 120900000000
    bidDepthMicroUsdc := 59757000000 }
  book := sampleBook

def bookContextAt (rules : RiskRulesV1) (bookAgeSeconds : UInt16) : PolicyContext :=
  { sampleContext with rules, market := (bookSnapshotAt bookAgeSeconds).market }

theorem marketSnapshotFromParts_sampleBook :
    marketSnapshotFromParts sampleDecimals sampleAsset ⟨⟨60000, 0⟩, ⟨60000, 0⟩⟩ sampleBook
        1767571201500 = .ok (bookSnapshotAt 1) ∧
      marketSnapshotFromParts sampleDecimals sampleAsset ⟨⟨60000, 0⟩, ⟨60000, 0⟩⟩ sampleBook
        1767571210999 = .ok (bookSnapshotAt 10) := by
  decide

theorem bestPrice_sampleBook :
    BestPrice sampleBook.bids 59757000000 ∧ BestPrice sampleBook.asks 60000000000 :=
  ⟨⟨_, rfl, by decide⟩, ⟨_, rfl, by decide⟩⟩

/-! ## The market gates -/

/-- **Market gates.**  An order that is approved on a snapshot is within the rules for the age and
the spread of the book exactly when their rounding to seconds and bps lost nothing. -/
theorem withinMarketRules_iff {book : BookSnapshot} {nowMs : UInt64} {bid ask : Int64}
    {decimals : Decimals} {asset : CoreAsset} {parts : PerpAssetCtx}
    {snapshot : MarketSnapshot} {proposal : Proposal} {context : PolicyContext}
    {order : OrderDecision}
    (built : marketSnapshotFromParts decimals asset parts book nowMs = .ok snapshot)
    (isMarket : context.market = snapshot.market)
    (approved : evaluateProposal proposal context = .ok order)
    (bestBid : BestPrice book.bids bid) (bestAsk : BestPrice book.asks ask) :
    WithinMarketRules context.rules book nowMs bid ask ↔
      RoundedWithinRules context.rules book nowMs bid ask := by
  obtain ⟨bid', ask', snapped⟩ := snapped_of_marketSnapshotFromParts built
  obtain rfl := bestBid.unique snapped.bestBid
  obtain rfl := bestAsk.unique snapped.bestAsk
  have tradable := (approved_of_evaluateProposal approved).tradable
  have ageSmall := context.rules.bookMaxAgeSeconds.toNat_lt
  have bidPos := snapped.bidPos
  have ordered := snapped.ordered
  have ageRule : min (book.age nowMs / 1000) (2 ^ 16 - 1) ≤
      context.rules.bookMaxAgeSeconds.toNat := by
    have fresh := tradable.fresh
    rw [isMarket, snapped.age] at fresh
    exact fresh
  have spreadRule : (ask.toInt - bid.toInt) * 10000 / ((bid.toInt + ask.toInt) / 2) ≤
      context.rules.maxSpreadBps.toNat := by
    have spread := tradable.spread
    rw [isMarket, ← Int.ofNat_le, snapped.spread] at spread
    exact spread
  have ages := age_le_iff ageRule ageSmall
  have spreads := spread_le_iff (by omega) (by positivity) spreadRule
  have fresh := @isFreshAt_iff book nowMs context.rules.bookMaxAgeSeconds.toNat (by omega)
    snapped.time
  constructor
  · intro within
    obtain ⟨counted, whole⟩ := ages.mp within.age
    exact ⟨counted, whole, spreads.mp (rational_spread_iff.mp within.spread)⟩
  · intro rounded
    have age := ages.mpr ⟨rounded.counted, rounded.age⟩
    exact ⟨age, fresh.mpr age, rational_spread_iff.mpr (spreads.mpr rounded.spread)⟩

/-- Under rules of 41 bps the sample book is within them a second and a half after its time. -/
theorem withinMarketRules_sampleBook :
    WithinMarketRules { RiskRulesV1.default with maxSpreadBps := 41 } sampleBook 1767571201500
      59757000000 60000000000 := by
  have rounded : RoundedWithinRules { RiskRulesV1.default with maxSpreadBps := 41 } sampleBook
      1767571201500 59757000000 60000000000 :=
    ⟨by decide, by decide, by decide⟩
  have approved : evaluateProposal sampleProposal
      (bookContextAt { RiskRulesV1.default with maxSpreadBps := 41 } 1) = .ok sampleOrder := by
    decide
  exact (withinMarketRules_iff marketSnapshotFromParts_sampleBook.1 rfl approved
    bestPrice_sampleBook.1 bestPrice_sampleBook.2).mpr rounded

/-- An order is approved on the sample book 10.999 seconds after its time, where the rules allow
ten, and at a spread above their 40 bps. -/
theorem approved_on_stale_book :
    ¬∀ (decimals : Decimals) (asset : CoreAsset) (parts : PerpAssetCtx) (book : BookSnapshot)
      (nowMs : UInt64) (snapshot : MarketSnapshot) (proposal : Proposal) (context : PolicyContext)
      (order : OrderDecision) (bid ask : Int64),
      marketSnapshotFromParts decimals asset parts book nowMs = .ok snapshot →
      context.market = snapshot.market → evaluateProposal proposal context = .ok order →
      BestPrice book.bids bid → BestPrice book.asks ask →
      WithinMarketRules context.rules book nowMs bid ask := by
  intro exact
  have within := exact _ _ _ _ _ _ sampleProposal (bookContextAt RiskRulesV1.default 10)
    sampleOrder _ _ marketSnapshotFromParts_sampleBook.2 rfl (by decide)
    bestPrice_sampleBook.1 bestPrice_sampleBook.2
  exact absurd within.age (by decide)

end CrowAgent
