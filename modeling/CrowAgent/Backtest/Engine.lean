import CrowAgent.Lib.Loop
import CrowAgent.Policy.Evaluate
import CrowAgent.Protocol.Manifest
import Mathlib.Logic.Function.Basic

/-!
# Synchronised replay

`BacktestEngine.runSynchronizedProposals` replays a schedule of proposals over 15-minute candles of
the three arena markets.  Each interval charges funding, marks the account, hands the proposal that
was decided in it to `executeNextOpen`, which prices it at the open of the next interval, and books
the fill; the account between two intervals is a `Ledger`.
-/

namespace CrowAgent

open FixedWidth

structure CandleV1 : Type where
  symbol : String
  openTimeMs : Int64
  closeTimeMs : Int64
  openMicroUsdc : Int64
  highMicroUsdc : Int64
  lowMicroUsdc : Int64
  closeMicroUsdc : Int64
  volumeE8 : Int64
  fundingRateE12 : Int64
  sizeDecimals : UInt8
  deriving DecidableEq, Repr

structure SimulatedFill : Type where
  symbol : String
  side : Side
  quantityE8 : Int64
  priceMicroUsdc : Int64
  feeMicroUsdc : Int64
  candleOpenTimeMs : Int64
  deriving DecidableEq, Repr

structure EquityPoint : Type where
  closeTimeMs : Int64
  equityMicroUsdc : Int64
  deriving DecidableEq, Repr

structure BacktestResult : Type where
  endingCashMicroUsdc : Int64
  endingEquityMicroUsdc : Int64
  feesMicroUsdc : Int64
  fundingMicroUsdc : Int64
  fills : List SimulatedFill
  equityCurve : List EquityPoint
  policyRejections : UInt32
  deriving DecidableEq, Repr

structure ScheduledProposal : Type where
  decisionOpenTimeMs : Int64
  proposal : Proposal
  deriving DecidableEq, Repr

inductive BacktestError : Type
  | candleOrder
  | overflow
  | policy (error : PolicyError)
  deriving DecidableEq, Repr

structure BacktestEngine : Type where
  rules : RiskRulesV1
  execution : ExecutionAssumptionsV1
  deriving DecidableEq, Repr

/-! ## One fill at the next open -/

/-- The price of a fill: the next open, moved against the order by spread and slippage. -/
def BacktestEngine.fillPrice (engine : BacktestEngine) (side : Side) (nextOpen : Int64) :
    Exec BacktestError Int64 := do
  let direction : Int := match side with
    | .buy => 1
    | .sell => -1
  let impactBps ← addU16 engine.execution.halfSpreadBps engine.execution.slippageBps
  let scaled ← i128 (nextOpen.toInt * (10000 + direction * impactBps.toNat))
  let price ← i128Div scaled 10000
  tryI64 price .overflow

/-- Whether the limit of an order reaches a price. -/
def crosses (side : Side) (limit price : Int64) : Bool :=
  match side with
  | .buy => limit ≥ price
  | .sell => limit ≤ price

/-- The market the policy sees: the close of the decision candle, and a book that is never short. -/
def BacktestEngine.market (engine : BacktestEngine) (decisionCandle : CandleV1) : MarketState where
  symbol := decisionCandle.symbol
  markPriceMicroUsdc := decisionCandle.closeMicroUsdc
  oraclePriceMicroUsdc := decisionCandle.closeMicroUsdc
  spreadBps := saturatingMulU16 engine.execution.halfSpreadBps 2
  bookAgeSeconds := 0
  askDepthMicroUsdc := Int64.maxValue / 4
  bidDepthMicroUsdc := Int64.maxValue / 4
  sizeDecimals := decisionCandle.sizeDecimals
  delisted := false

def BacktestEngine.policyContext (engine : BacktestEngine) (decisionCandle : CandleV1)
    (portfolio : PortfolioState) : PolicyContext where
  rules := engine.rules
  isolatedLeverage := engine.rules.isolatedLeverage
  market := engine.market decisionCandle
  portfolio
  startingCapitalMicroUsdc := portfolio.equityMicroUsdc
  quantityReferencePriceMicroUsdc := none

/-- The two candles are the decision candle of the proposal and a later one of its market. -/
def IsPair (decisionCandle nextCandle : CandleV1) (proposal : Proposal) : Prop :=
  decisionCandle.symbol = nextCandle.symbol ∧ decisionCandle.symbol = proposal.symbol ∧
    decisionCandle.closeTimeMs < nextCandle.closeTimeMs ∧
    decisionCandle.closeTimeMs ≤ nextCandle.openTimeMs

instance (decisionCandle nextCandle : CandleV1) (proposal : Proposal) :
    Decidable (IsPair decisionCandle nextCandle proposal) :=
  inferInstanceAs (Decidable (_ ∧ _ ∧ _ ∧ _))

/-- `BacktestEngine::execute_next_open`. -/
def BacktestEngine.executeNextOpen (engine : BacktestEngine) (decisionCandle nextCandle : CandleV1)
    (proposal : Proposal) (portfolio : PortfolioState) :
    Exec BacktestError (Option SimulatedFill) := do
  rejectIf (¬IsPair decisionCandle nextCandle proposal) .candleOrder
  let fillPrice ← engine.fillPrice proposal.side nextCandle.openMicroUsdc
  if crosses proposal.side proposal.limitPriceMicroUsdc fillPrice then
    let executable := { proposal with limitPriceMicroUsdc := fillPrice }
    let order ← withErrors .policy
      (evaluateProposal executable (engine.policyContext decisionCandle portfolio))
    let scaledFee ← i128 (order.actualNotionalMicroUsdc.toInt * engine.execution.takerFeeBps.toNat)
    let exactFee ← i128Div scaledFee 10000
    let fee ← tryI64 exactFee .overflow
    return some {
      symbol := proposal.symbol
      side := proposal.side
      quantityE8 := order.quantityE8
      priceMicroUsdc := fillPrice
      feeMicroUsdc := fee
      candleOpenTimeMs := nextCandle.openTimeMs }
  else return none

/-! ## Intervals -/

/-- The candles of one interval, in the order of the arena universe. -/
structure Interval : Type where
  btc : CandleV1
  eth : CandleV1
  sol : CandleV1
  deriving DecidableEq, Repr

namespace Interval

def candles (interval : Interval) : List CandleV1 := [interval.btc, interval.eth, interval.sol]

/-- The candle at the place of a symbol in the arena universe. -/
def candle? (interval : Interval) (symbol : String) : Option CandleV1 :=
  (allowedSymbols.idxOf? symbol).bind (interval.candles[·]?)

end Interval

/-- `chunks_exact(3)`. -/
def chunksExact : List CandleV1 → List Interval
  | btc :: eth :: sol :: rest => ⟨btc, eth, sol⟩ :: chunksExact rest
  | _ => []

/-- One candle of an interval is where it belongs, right after the one before it. -/
def checkCandle (openTime : Int64) (previous : Option CandleV1) (symbol : String)
    (candle : CandleV1) : Exec BacktestError Unit := do
  rejectIf (candle.symbol ≠ symbol ∨ candle.openTimeMs ≠ openTime) .candleOrder
  let nextOpenTime ← addI64 openTime 900000
  let closeTime ← subI64 nextOpenTime 1
  rejectIf (candle.closeTimeMs ≠ closeTime ∨ candle.sizeDecimals > 8) .candleOrder
  match previous with
  | none => return ()
  | some previous => do
    let expected ← addI64 previous.openTimeMs 900000
    rejectIf (candle.openTimeMs ≠ expected) .candleOrder

def checkInterval (previous : Option Interval) (interval : Interval) :
    Exec BacktestError Unit := do
  checkCandle interval.btc.openTimeMs (previous.map Interval.btc) "BTC" interval.btc
  checkCandle interval.btc.openTimeMs (previous.map Interval.eth) "ETH" interval.eth
  checkCandle interval.btc.openTimeMs (previous.map Interval.sol) "SOL" interval.sol

def checkIntervals (previous : Option Interval) : List Interval → Exec BacktestError Unit
  | [] => return ()
  | interval :: rest => do
    checkInterval previous interval
    checkIntervals (some interval) rest

/-- The intervals, each with the one after it. -/
def turns : List Interval → List (Interval × Option Interval)
  | [] => []
  | interval :: rest => (interval, rest.head?) :: turns rest

/-! ## The account -/

abbrev Positions : Type := String → Option Int64

/-- Nothing is held of any market. -/
def Positions.opening : Positions := fun symbol => if symbol ∈ allowedSymbols then some 0 else none

def positionNotional (quantityE8 priceMicroUsdc : Int64) : Exec BacktestError Int64 := do
  let product ← i128 (quantityE8.toInt * priceMicroUsdc.toInt)
  let notional ← i128Div product 100000000
  tryI64 notional .overflow

def portfolioEquity (cash : Int64) (positions : Positions) (candles : List CandleV1) :
    Exec BacktestError Int64 :=
  candles.foldlM (fun equity candle => do
    let quantity ← okOr (positions candle.symbol) .candleOrder
    let notional ← positionNotional quantity candle.closeMicroUsdc
    okOr (checkedAddI64 equity notional) .overflow) cash

/-- What the replay keeps from one interval to the next. -/
structure Ledger : Type where
  cash : Int64
  positions : Positions
  fills : List SimulatedFill
  equityCurve : List EquityPoint
  fees : Int64
  funding : Int64
  policyRejections : UInt32
  peakEquity : Int64
  day : Int64
  dayStartEquity : Int64
  ordersToday : UInt16
  /-- The proposals that are still to come. -/
  scheduled : List ScheduledProposal

namespace Ledger

def opening (startingCash day : Int64) (scheduled : List ScheduledProposal) : Ledger where
  cash := startingCash
  positions := .opening
  fills := []
  equityCurve := []
  fees := 0
  funding := 0
  policyRejections := 0
  peakEquity := startingCash
  day
  dayStartEquity := startingCash
  ordersToday := 0
  scheduled

/-- Funding of one market on what is held of it at the close. -/
def chargeFunding (ledger : Ledger) (candle : CandleV1) : Exec BacktestError Ledger := do
  let quantity ← okOr (ledger.positions candle.symbol) .candleOrder
  let notional ← positionNotional quantity candle.closeMicroUsdc
  let scaled ← i128 (notional.toInt * candle.fundingRateE12.toInt)
  let exact ← i128Div scaled 1000000000000
  let payment ← tryI64 exact .overflow
  let cash ← okOr (checkedSubI64 ledger.cash payment) .overflow
  let funding ← okOr (checkedAddI64 ledger.funding payment) .overflow
  return { ledger with cash, funding }

def dayMillis : Int64 := 86400000

/-- The peak and, on a new day, the start of the day follow the equity of the interval. -/
def openDay (ledger : Ledger) (interval : Interval) (equity : Int64) : Ledger :=
  let currentDay := interval.btc.closeTimeMs / dayMillis
  let opened :=
    if currentDay ≠ ledger.day then
      { ledger with day := currentDay, dayStartEquity := equity, ordersToday := 0 }
    else ledger
  { opened with peakEquity := max opened.peakEquity equity }

/-- The fill as it enters the account, with the cash and the holding it leaves. -/
def enterFill (ledger : Ledger) (fill : SimulatedFill) (cash held : Int64) :
    Exec BacktestError Ledger := do
  let fees ← okOr (checkedAddI64 ledger.fees fill.feeMicroUsdc) .overflow
  return {
    ledger with
    cash
    positions := Function.update ledger.positions fill.symbol (some held)
    fees
    ordersToday := saturatingAddU16 ledger.ordersToday 1
    fills := ledger.fills ++ [fill] }

def bookFill (ledger : Ledger) (fill : SimulatedFill) : Exec BacktestError Ledger := do
  let notional ← positionNotional fill.quantityE8 fill.priceMicroUsdc
  let held ← okOr (ledger.positions fill.symbol) .candleOrder
  match fill.side with
  | .buy =>
    let paid ← okOr (checkedSubI64 ledger.cash notional) .overflow
    let cash ← okOr (checkedSubI64 paid fill.feeMicroUsdc) .overflow
    let holding ← okOr (checkedAddI64 held fill.quantityE8) .overflow
    ledger.enterFill fill cash holding
  | .sell =>
    rejectIf (fill.quantityE8 > held) (.policy .reduceOnly)
    let received ← okOr (checkedAddI64 ledger.cash notional) .overflow
    let cash ← okOr (checkedSubI64 received fill.feeMicroUsdc) .overflow
    let holding ← subI64 held fill.quantityE8
    ledger.enterFill fill cash holding

def reject (ledger : Ledger) : Ledger :=
  { ledger with policyRejections := saturatingAddU32 ledger.policyRejections 1 }

def closeInterval (ledger : Ledger) (interval : Interval) (equity : Int64) : Ledger :=
  { ledger with
    equityCurve := ledger.equityCurve ++
      [{ closeTimeMs := interval.btc.closeTimeMs, equityMicroUsdc := equity }] }

/-- `scheduled.remove` of the proposal that was decided at a time. -/
def unschedule (ledger : Ledger) (openTime : Int64) : Ledger :=
  { ledger with
    scheduled := ledger.scheduled.filter fun entry => entry.decisionOpenTimeMs ≠ openTime }

/-- The account as the policy sees it for an order on a symbol. -/
def portfolio (ledger : Ledger) (equity position : Int64) : PortfolioState where
  equityMicroUsdc := equity
  availableCollateralMicroUsdc := ledger.cash
  tradingDayStartEquityMicroUsdc := ledger.dayStartEquity
  peakEquityMicroUsdc := ledger.peakEquity
  symbolPositionMicroUsdc := position
  ordersToday := ledger.ordersToday

end Ledger

/-! ## The replay -/

namespace BacktestEngine

/-- The fill a proposal of the interval gets, on the account as it stands. -/
def attempt (engine : BacktestEngine) (ledger : Ledger) (interval : Interval)
    (next : Option Interval) (equity : Int64) (proposal : Proposal) :
    Exec BacktestError (Option SimulatedFill) := do
  let next ← okOr next .candleOrder
  let decision ← okOr (interval.candle? proposal.symbol) .candleOrder
  let nextCandle ← okOr (next.candle? proposal.symbol) .candleOrder
  let quantity ← okOr (ledger.positions proposal.symbol) .candleOrder
  let position ← positionNotional quantity decision.closeMicroUsdc
  engine.executeNextOpen decision nextCandle proposal (ledger.portfolio equity position)

/-- A proposal is filled, does not cross, or is refused by the policy. -/
def decide (engine : BacktestEngine) (ledger : Ledger) (interval : Interval)
    (next : Option Interval) (equity : Int64) (proposal : Proposal) : Exec BacktestError Ledger :=
  match engine.attempt ledger interval next equity proposal with
  | .ok (some fill) => ledger.bookFill fill
  | .ok none => .ok ledger
  | .error (.error (.policy _)) => .ok ledger.reject
  | .error halt => .error halt

/-- The account when the interval is decided: funding is charged and the day is open. -/
def markInterval (ledger : Ledger) (interval : Interval) : Exec BacktestError (Ledger × Int64) := do
  let ledger ← interval.candles.foldlM Ledger.chargeFunding ledger
  let equity ← portfolioEquity ledger.cash ledger.positions interval.candles
  return (ledger.openDay interval equity, equity)

/-- The body of the replay loop. -/
def replayInterval (engine : BacktestEngine) (ledger : Ledger)
    (turn : Interval × Option Interval) : Exec BacktestError Ledger := do
  let (interval, next) := turn
  let (ledger, equity) ← markInterval ledger interval
  match ledger.scheduled.find? (·.decisionOpenTimeMs = interval.btc.openTimeMs) with
  | none => return ledger.closeInterval interval equity
  | some entry => do
    let ledger ← engine.decide (ledger.unschedule interval.btc.openTimeMs) interval next equity
      entry.proposal
    let equity ← portfolioEquity ledger.cash ledger.positions interval.candles
    let ledger := { ledger with peakEquity := max ledger.peakEquity equity }
    return ledger.closeInterval interval equity

/-- The schedule as a map from decision times. -/
def schedule (proposals : List ScheduledProposal) : Exec BacktestError (List ScheduledProposal) :=
  proposals.foldlM (fun scheduled proposal => do
    rejectIf (scheduled.any (·.decisionOpenTimeMs = proposal.decisionOpenTimeMs)) .candleOrder
    return scheduled ++ [proposal]) []

/-- `BacktestEngine::run_synchronized_proposals`. -/
def runSynchronizedProposals (engine : BacktestEngine) (candles : List CandleV1)
    (proposals : List ScheduledProposal) (startingCash : Int64) :
    Exec BacktestError BacktestResult := do
  rejectIf (startingCash ≤ 0 ∨ candles.length < 6 ∨ candles.length % 3 ≠ 0) .candleOrder
  let intervals := chunksExact candles
  checkIntervals none intervals
  let scheduled ← schedule proposals
  let first ← okOr intervals.head? .candleOrder
  let opening := Ledger.opening startingCash (first.btc.closeTimeMs / Ledger.dayMillis) scheduled
  let ledger ← (turns intervals).foldlM engine.replayInterval opening
  rejectIf (ledger.scheduled ≠ []) .candleOrder
  let last ← okOr intervals.getLast? .candleOrder
  let endingEquity ← portfolioEquity ledger.cash ledger.positions last.candles
  return {
    endingCashMicroUsdc := ledger.cash
    endingEquityMicroUsdc := endingEquity
    feesMicroUsdc := ledger.fees
    fundingMicroUsdc := ledger.funding
    fills := ledger.fills
    equityCurve := ledger.equityCurve
    policyRejections := ledger.policyRejections }

end BacktestEngine

end CrowAgent
