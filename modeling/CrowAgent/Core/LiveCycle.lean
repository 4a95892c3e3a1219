import CrowAgent.Core.Live
import CrowAgent.Policy.Evaluate

/-!
# Live cycles

`executeLiveCycle` takes a decision from the model to the venue: it records what it sees, lets the
policy size the proposal against fresh evidence, asks whether it may order, records the order,
counts it, and only then hands it to the venue.  `reconcileLiveState` brings the risk state of a
session up to date.

The local variables of both are the caller's risk state.
-/

namespace CrowAgent

open Coroutine FixedWidth

inductive LiveCycleError : Type
  | venue (error : HyperliquidError)
  | runtime (error : RuntimeError)
  | event (error : DurableRunEventError)
  | journal (error : JournalError)
  | riskState
  | accountPolicy
  deriving DecidableEq, Repr

/-! ## The risk state -/

structure LiveRiskState : Type where
  tradingDay : Date
  tradingDayStartEquityMicroUsdc : Int64
  peakEquityMicroUsdc : Int64
  ordersToday : UInt16
  lastReconciliationMs : UInt64
  deriving DecidableEq, Repr

namespace LiveRiskState

/-- The fields in the order of their declaration. -/
def fields (prims : Primitives) (state : LiveRiskState) : List (String × Json) := [
  ("trading_day", prims.dateJson state.tradingDay),
  ("trading_day_start_equity_micro_usdc", Int64.toJson state.tradingDayStartEquityMicroUsdc),
  ("peak_equity_micro_usdc", Int64.toJson state.peakEquityMicroUsdc),
  ("orders_today", UInt64.toJson state.ordersToday.toUInt64),
  ("last_reconciliation_ms", UInt64.toJson state.lastReconciliationMs)]

/-- `serde_json::to_vec` of the state. -/
def encoded (prims : Primitives) (state : LiveRiskState) : Bytes :=
  prims.jsonBytes (.object (state.fields prims))

/-- `serde_json::from_value` of a state. -/
def ofJson? (prims : Primitives) (json : Json) : Option LiveRiskState := do
  let tradingDay ← prims.parseDate (← json.get? "trading_day")
  let startEquity ← Json.toI64? (← json.get? "trading_day_start_equity_micro_usdc")
  let peakEquity ← Json.toI64? (← json.get? "peak_equity_micro_usdc")
  let .number (.unsigned ordersToday) ← json.get? "orders_today" | none
  let .number (.unsigned lastReconciliationMs) ← json.get? "last_reconciliation_ms" | none
  if ordersToday.toNat < 2 ^ 16 then
    some ⟨tradingDay, startEquity, peakEquity, ordersToday.toUInt16, lastReconciliationMs⟩
  else none

/-- `update_risk_state`. -/
def update (state : LiveRiskState) (account : AccountSnapshot) (today : Date) : LiveRiskState :=
  let state := if state.tradingDay ≠ today then
    { state with
      tradingDay := today
      tradingDayStartEquityMicroUsdc := account.equityMicroUsdc
      ordersToday := 0 }
  else state
  { state with peakEquityMicroUsdc := max state.peakEquityMicroUsdc account.equityMicroUsdc }

/-- The order is counted; the count stops at the largest `u16`. -/
def countOrder (state : LiveRiskState) : LiveRiskState :=
  { state with ordersToday :=
      if state.ordersToday.toNat + 1 < 2 ^ 16 then state.ordersToday + 1 else state.ordersToday }

end LiveRiskState

def liveRiskStateKey (runId : Uuid) : String := "live-risk-state-" ++ runId.hyphenated

/-- `store_live_risk_state`. -/
def storeLiveRiskState {σ : Type} (prims : Primitives) (runId : Uuid) (state : LiveRiskState) :
    Act calls σ LiveCycleError Unit :=
  askJournal .journal (.putSecret (liveRiskStateKey runId) (state.encoded prims))

/-- `load_live_risk_state`. -/
def loadLiveRiskState {σ : Type} (prims : Primitives) (runId : Uuid) :
    Act calls σ LiveCycleError (Option LiveRiskState) := do
  match ← askJournal .journal (.secret (liveRiskStateKey runId)) with
  | none => pure none
  | some value =>
    match (prims.parseJson value).bind (LiveRiskState.ofJson? prims) with
    | none => throw .riskState
    | some state => pure (some state)

/-! ## Helpers -/

def unixMilliseconds (value : OffsetDateTime) : Except LiveCycleError UInt64 :=
  let milliseconds := value.unixNanoseconds.tdiv 1000000
  if 0 ≤ milliseconds ∧ milliseconds < 2 ^ 64 then .ok (UInt64.ofNat milliseconds.toNat)
  else .error .riskState

def validateAccountPolicy (account : AccountSnapshot) (isolatedLeverage : UInt8) :
    Except LiveCycleError Unit :=
  if account.equityMicroUsdc ≤ 0 ∨ isolatedLeverage = 0 ∨
      account.positions.any (fun entry =>
        !entry.2.isolated || entry.2.leverage ≠ isolatedLeverage.toUInt32) then
    .error .accountPolicy
  else .ok ()

/-- The proposal at the deepest price of the book inside the slippage ceiling. -/
def marketableProposal (proposal : Proposal) (snapshots : List (String × MarketSnapshot)) :
    Except LiveCycleError Proposal :=
  match (snapshots.find? (·.1 = proposal.symbol)).map (·.2) with
  | none => .error .riskState
  | some snapshot =>
    match snapshot.book.marketableLimitPriceMicroUsdc proposal.side with
    | .error error => .error (.venue error)
    | .ok limitPriceMicroUsdc => .ok { proposal with limitPriceMicroUsdc }

/-- The notional of a position, negative when it is short. -/
def PositionSnapshot.signedNotional {ε : Type} (position : PositionSnapshot) : Exec ε Int64 :=
  if position.quantityE8 < 0 then
    match toI64? (-position.notionalMicroUsdc.toInt) with
    | some notional => .ok notional
    | none => .error .trap
  else .ok position.notionalMicroUsdc

def AccountSnapshot.symbolPosition {ε : Type} (account : AccountSnapshot) (symbol : String) :
    Exec ε Int64 :=
  match account.position? symbol with
  | none => .ok 0
  | some position => position.signedNotional

/-- What the policy sees of the account and of the risk state. -/
def portfolioState {ε : Type} (account : AccountSnapshot) (risk : LiveRiskState)
    (symbol : String) : Exec ε PortfolioState := do
  let symbolPositionMicroUsdc ← account.symbolPosition symbol
  return {
    equityMicroUsdc := account.equityMicroUsdc
    availableCollateralMicroUsdc := account.withdrawableMicroUsdc
    tradingDayStartEquityMicroUsdc := risk.tradingDayStartEquityMicroUsdc
    peakEquityMicroUsdc := risk.peakEquityMicroUsdc
    symbolPositionMicroUsdc
    ordersToday := risk.ordersToday }

/-- Go on with the result of checked arithmetic; an overflow is a panic. -/
def ofExec {σ ε ε' α : Type} (convert : ε' → ε) : Exec ε' α → Act calls σ ε α
  | .ok value => pure value
  | .error (.error error) => throw (convert error)
  | .error .trap => do
    let never : Empty ← ask .panic
    never.elim

/-- Append an event of a session or a cycle. -/
def appendEvent {σ : Type} (prims : Primitives) (writer : DurableRunEventWriter)
    (cycleId : Option Uuid) (eventType : String) (payload privatePayload : Json) :
    Act calls σ LiveCycleError RunEventEnvelopeV1 :=
  (writer.append prims cycleId eventType payload privatePayload).mapError .event

/-- `store_live_risk_state_with_writer` of the caller's state. -/
def storeRisk (prims : Primitives) (runId : Uuid) : Act calls LiveRiskState LiveCycleError Unit := do
  let risk ← get
  (DurableRunEventWriter.putLocalSecret (liveRiskStateKey runId) (risk.encoded prims)).mapError
    .event

def AccountSnapshot.portfolioJson (account : AccountSnapshot) : Json := .ofFields [
  ("equity_micro_usdc", Int64.toJson account.equityMicroUsdc),
  ("venue_time_ms", UInt64.toJson account.venueTimeMs),
  ("positions", account.positionsJson)]

/-! ## Reconciliation -/

structure SessionAccount : Type where
  signingKey : FixedBytes 32
  arenaId : Uuid
  runId : Uuid
  executionAccount : String
  isolatedLeverage : UInt8

def SessionAccount.writer (session : SessionAccount) : DurableRunEventWriter :=
  ⟨session.signingKey, session.arenaId, session.runId⟩

/-- `reconcile_live_state`. -/
def reconcileLiveState (prims : Primitives) (session : SessionAccount) :
    Act calls LiveRiskState LiveCycleError String := do
  let reconcileAt ← Act.ofExcept id (unixMilliseconds (← ask .nowUtc))
  let since := (← get).lastReconciliationMs
  let fills ← askVenue .venue (.fillsSince session.executionAccount since reconcileAt)
  let funding ← askVenue .venue (.fundingSince session.executionAccount since reconcileAt)
  let account ← askVenue .venue (.accountSnapshot session.executionAccount)
  Act.ofExcept id (validateAccountPolicy account session.isolatedLeverage)
  modify ({ · with lastReconciliationMs := reconcileAt })
  let today ← ask .nowUtc
  modify (·.update account today.date)
  ask (.observes session.runId today.date account.equityMicroUsdc)
  let _ ← appendEvent prims session.writer none "fill"
    (.ofFields [("fills", fills), ("source", .string "session_reconciliation")]) .null
  let _ ← appendEvent prims session.writer none "funding"
    (.ofFields [("funding", funding), ("source", .string "session_reconciliation")]) .null
  let _ ← appendEvent prims session.writer none "reconciliation"
    (.ofFields [
      ("source", .string "session_reconciliation"),
      ("venue_time_ms", UInt64.toJson account.venueTimeMs),
      ("positions", account.positionsJson)]) .null
  let finalEvent ← appendEvent prims session.writer none "portfolio_snapshot"
    account.portfolioJson .null
  storeRisk prims session.runId
  return finalEvent.eventSha256

/-! ## A cycle -/

structure LiveCycleResult : Type where
  cycleId : Uuid
  proposalSymbol : String
  policyAllowed : Bool
  orderSubmitted : Bool
  clientOrderId : Option String
  lastEventSha256 : String
  deriving DecidableEq, Repr

/-- What `execute_live_cycle` is called with. -/
structure LiveCycle : Type where
  signingKey : FixedBytes 32
  manifest : ArenaManifestV1
  runId : Uuid
  modelId : String
  isolatedLeverage : UInt8
  strategyInstructions : String
  executionAccount : String
  books : List BookSnapshot

/-- What a cycle knows when it asks the model. -/
structure CycleEvidence : Type where
  now : OffsetDateTime
  nowMs : UInt64
  account : AccountSnapshot
  snapshots : List (String × MarketSnapshot)
  portfolios : List (String × PortfolioState)
  candles : Json

def CycleEvidence.marketValue (evidence : CycleEvidence) : Json :=
  .ofFields (evidence.snapshots.map fun entry => (entry.1, entry.2.toJson))

def approvedPayload (order : OrderDecision) : Json := .ofFields [
  ("allowed", .bool true),
  ("order", order.toJson)]

def dispatchingPayload (order : OrderDecision) (clientOrderId policyEventSha256 : String) : Json :=
  .ofFields [
    ("client_order_id", .string clientOrderId),
    ("policy_event_sha256", .string policyEventSha256),
    ("order", order.toJson),
    ("phase", .string "dispatching")]

namespace LiveCycle

variable (prims : Primitives) (cycle : LiveCycle) (cycleId : Uuid)

def writer : DurableRunEventWriter := ⟨cycle.signingKey, cycle.manifest.arenaId, cycle.runId⟩

/-- Append an event of the cycle. -/
def append (eventType : String) (payload : Json) :
    Act calls LiveRiskState LiveCycleError RunEventEnvelopeV1 :=
  appendEvent prims cycle.writer (some cycleId) eventType payload .null

/-- The account, checked and taken into the risk state, with a note of it. -/
def refreshAccount (today : Date) : Act calls LiveRiskState LiveCycleError AccountSnapshot := do
  let account ← askVenue .venue (.accountSnapshot cycle.executionAccount)
  Act.ofExcept id (validateAccountPolicy account cycle.isolatedLeverage)
  modify (·.update account today)
  ask (.observes cycle.runId today account.equityMicroUsdc)
  return account

/-- What the cycle sees before it asks the model. -/
def observe (now : OffsetDateTime) : Act calls LiveRiskState LiveCycleError CycleEvidence := do
  let nowMs ← Act.ofExcept id (unixMilliseconds now)
  let candleStartMs := if 32 * 900000 ≤ nowMs.toNat then nowMs - 32 * 900000 else 0
  let account ← cycle.refreshAccount now.date
  let snapshots ← askVenue .venue (.marketSnapshots cycle.books nowMs)
  let risk ← get
  let portfolios ← ofExec (fun never : Empty => never.elim)
    (snapshots.mapM fun entry => do return (entry.1, ← portfolioState account risk entry.1))
  let candles ← askVenue .venue (.recentCandles candleStartMs nowMs)
  return { now, nowMs, account, snapshots, portfolios, candles }

/-- What the cycle journals of it. -/
def recordEvidence (evidence : CycleEvidence) : Act calls LiveRiskState LiveCycleError Unit := do
  let _ ← cycle.append prims cycleId "cycle_started"
    (.ofFields [
      ("scheduled_at", prims.timeJson evidence.now),
      ("venue_time_ms", UInt64.toJson evidence.nowMs)])
  let _ ← cycle.append prims cycleId "book_snapshot" evidence.marketValue
  let _ ← cycle.append prims cycleId "candle_closed" evidence.candles
  let _ ← cycle.append prims cycleId "portfolio_snapshot" evidence.account.portfolioJson

/-- The context the model decides on. -/
def contextJson (evidence : CycleEvidence) (risk : LiveRiskState) : Json := .ofFields [
  ("scheduled_at", prims.timeJson evidence.now),
  ("market_snapshot", evidence.marketValue),
  ("portfolio_snapshot", evidence.account.toJson),
  ("recent_candles", evidence.candles),
  ("risk_state", .ofFields (risk.fields prims))]

/-- The receipts of the decision. -/
def recordReceipts : List Uuid → Act calls LiveRiskState LiveCycleError Unit
  | [] => pure ()
  | receipt :: receipts => do
    let _ ← cycle.append prims cycleId "inference_receipt"
      (.ofFields [("receipt_id", .string receipt.hyphenated)])
    recordReceipts receipts

/-- Ask the model, and journal what it decided or that it failed. -/
def askModel (evidence : CycleEvidence) :
    Act calls LiveRiskState LiveCycleError CycleOutcome := do
  let cycleContext := contextJson prims evidence (← get)
  let answer ← ask (.executeCycle {
    manifest := cycle.manifest
    runId := cycle.runId
    cycleId
    modelId := cycle.modelId
    strategyInstructions := cycle.strategyInstructions
    markets := evidence.snapshots.map fun entry => (entry.1, entry.2.market)
    portfolios := evidence.portfolios
    cycleContext
    tools := [
      (.marketSnapshot, evidence.marketValue),
      (.portfolioSnapshot, evidence.account.toJson),
      (.recentCandles, evidence.candles)] })
  match answer with
  | .error error => do
    let _ ← cycle.append prims cycleId "cycle_failed"
      (.ofFields [
        ("stage", .string "model_decision"),
        ("reason", .string error.failureClass),
        ("order_submitted", .bool false)])
    storeRisk prims cycle.runId
    throw (.runtime error)
  | .ok outcome => do
    cycle.recordReceipts prims cycleId outcome.receipts
    let _ ← appendEvent prims cycle.writer (some cycleId) "proposal"
      (.ofFields [
        ("action", .string (if outcome.proposal.isSome then "order" else "hold")),
        ("decision_summary", .string outcome.decisionSummary),
        ("proposal", (outcome.proposal.map Proposal.toJson).getD .null)])
      (.ofFields [
        ("cycle_context", cycleContext),
        ("tool_results", .array (outcome.toolResults.map ToolResult.toJson))])
    return outcome

/-- End the cycle with a policy outcome and without an order. -/
def conclude (symbol : String) (policyAllowed : Bool) (payload : Json) :
    Act calls LiveRiskState LiveCycleError LiveCycleResult := do
  let policyEvent ← cycle.append prims cycleId "policy_outcome" payload
  storeRisk prims cycle.runId
  return {
    cycleId
    proposalSymbol := symbol
    policyAllowed
    orderSubmitted := false
    clientOrderId := none
    lastEventSha256 := policyEvent.eventSha256 }

/-- `i64::try_from` of the starting capital. -/
def startingCapital : Except LiveCycleError Int64 :=
  if cycle.manifest.startingCapitalMicroUsdc.toNat < 2 ^ 63 then
    .ok cycle.manifest.startingCapitalMicroUsdc.toInt64
  else .error .riskState

/-- Fresh evidence for the proposal, and what the policy makes of it.  Account state is refreshed
first and the book last, so that the order crosses dispatch-time liquidity. -/
def evaluate (now : OffsetDateTime) (proposal : Proposal) :
    Act calls LiveRiskState LiveCycleError (Except PolicyError OrderDecision) := do
  let account ← cycle.refreshAccount now.date
  let nowMs ← Act.ofExcept id (unixMilliseconds (← ask .nowUtc))
  let snapshot ← askVenue .venue (.freshMarketSnapshot proposal.symbol nowMs)
  let _ ← cycle.append prims cycleId "book_snapshot"
    (.ofFields [(proposal.symbol, snapshot.toJson)])
  let marketable ← Act.ofExcept id (marketableProposal proposal [(proposal.symbol, snapshot)])
  let portfolio ← ofExec (fun never : Empty => never.elim)
    (portfolioState account (← get) proposal.symbol)
  let startingCapitalMicroUsdc ← Act.ofExcept id cycle.startingCapital
  let reference ← Act.ofExcept .venue (snapshot.book.opposingTopPriceMicroUsdc proposal.side)
  let context : PolicyContext := {
    rules := cycle.manifest.riskRules
    market := snapshot.market
    portfolio
    startingCapitalMicroUsdc
    quantityReferencePriceMicroUsdc := some reference
    isolatedLeverage := cycle.isolatedLeverage }
  ask (.judges cycle.runId context)
  (ofExec id (evaluateProposal marketable context)).attempt

/-- Journal an approved order, count it and hand it to the venue. -/
def dispatch (order : OrderDecision) : Act calls LiveRiskState LiveCycleError VenueSubmission := do
  let policyEvent ← cycle.append prims cycleId "policy_outcome" (approvedPayload order)
  let clientOrderId := (← ask .newV4).simple
  let _ ← cycle.append prims cycleId "order_submitted"
    (dispatchingPayload order clientOrderId policyEvent.eventSha256)
  modify (·.countOrder)
  storeRisk prims cycle.runId
  askVenue .venue (.submitIoc order clientOrderId)

/-- What follows on an order. -/
def settle (now : OffsetDateTime) (symbol : String) (submission : VenueSubmission) :
    Act calls LiveRiskState LiveCycleError LiveCycleResult := do
  let _ ← cycle.append prims cycleId "venue_acknowledgement"
    (.ofFields [
      ("client_order_id", .string submission.clientOrderId),
      ("statuses", submission.statuses)])
  let reconcileAt ← Act.ofExcept id (unixMilliseconds (← ask .nowUtc))
  let since := (← get).lastReconciliationMs
  let fills ← askVenue .venue (.fillsSince cycle.executionAccount since reconcileAt)
  let funding ← askVenue .venue (.fundingSince cycle.executionAccount since reconcileAt)
  let reconciled ← askVenue .venue (.accountSnapshot cycle.executionAccount)
  Act.ofExcept id (validateAccountPolicy reconciled cycle.isolatedLeverage)
  modify ({ · with lastReconciliationMs := reconcileAt })
  modify (·.update reconciled now.date)
  ask (.observes cycle.runId now.date reconciled.equityMicroUsdc)
  let _ ← cycle.append prims cycleId "fill" (.ofFields [("fills", fills)])
  let _ ← cycle.append prims cycleId "funding" (.ofFields [("funding", funding)])
  let _ ← cycle.append prims cycleId "reconciliation"
    (.ofFields [
      ("venue_time_ms", UInt64.toJson reconciled.venueTimeMs),
      ("positions", reconciled.positionsJson)])
  let finalEvent ← cycle.append prims cycleId "portfolio_snapshot" reconciled.portfolioJson
  storeRisk prims cycle.runId
  return {
    cycleId
    proposalSymbol := symbol
    policyAllowed := true
    orderSubmitted := true
    clientOrderId := some submission.clientOrderId
    lastEventSha256 := finalEvent.eventSha256 }

/-- The cycle after its id is drawn and the clock is read. -/
def run (now : OffsetDateTime) : Act calls LiveRiskState LiveCycleError LiveCycleResult := do
  let evidence ← cycle.observe now
  cycle.recordEvidence prims cycleId evidence
  let outcome ← cycle.askModel prims cycleId evidence
  match outcome.proposal with
  | none =>
    cycle.conclude prims cycleId "HOLD" true
      (.ofFields [
        ("allowed", .bool true),
        ("action", .string "hold"),
        ("reason", .string "model_abstained"),
        ("order_submitted", .bool false)])
  | some proposal =>
    match ← cycle.evaluate prims cycleId evidence.now proposal with
    | .error error =>
      cycle.conclude prims cycleId proposal.symbol false
        (.ofFields [("allowed", .bool false), ("reason", .string error.toText)])
    | .ok order =>
      let permitted : Bool ← ask .orderPermitted
      if permitted then
        let submission ← cycle.dispatch prims cycleId order
        cycle.settle prims cycleId evidence.now proposal.symbol submission
      else
        cycle.conclude prims cycleId proposal.symbol false
          (.ofFields [("allowed", .bool false), ("reason", .string "execution_gate_closed")])

end LiveCycle

/-- `execute_live_cycle`, with a note of the cycle's start and of its end. -/
def executeLiveCycle (prims : Primitives) (cycle : LiveCycle) :
    Act calls LiveRiskState LiveCycleError LiveCycleResult := do
  let cycleId ← ask .newV4
  let now ← ask .nowUtc
  ask (.cycleStarts cycle.runId cycleId now.date)
  let result ← (cycle.run prims cycleId now).attempt
  ask .cycleEnds
  Act.ofExcept id result

end CrowAgent
