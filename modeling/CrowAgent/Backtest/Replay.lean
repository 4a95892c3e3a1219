import CrowAgent.Backtest.Account

/-!
# One interval and a whole replay

What one interval of the replay does to the ledger (`Decided`, `replayInterval_eq_ok`), what a
completed replay consists of (`Completed`), and the account it reports: every interval keeps the
ledger the account of its fills, and closes with the equity of that account.
-/

namespace CrowAgent

open FixedWidth

/-! ## Turns -/

section Turns

attribute [local simp] turns chunksExact

theorem length_turns (intervals : List Interval) : (turns intervals).length = intervals.length := by
  induction intervals with
  | nil => rfl
  | cons interval rest ih => rw [turns, List.length_cons, List.length_cons, ih]

theorem getElem?_turns (intervals : List Interval) (index : Nat) :
    (turns intervals)[index]? =
      (intervals[index]?).map fun interval => (interval, intervals[index + 1]?) := by
  induction intervals generalizing index with
  | nil => rfl
  | cons interval rest ih =>
    cases index with
    | zero => simp [List.head?_eq_getElem?]
    | succ index => simpa using ih index

/-- The turn of an interval is followed by the turns of the intervals after it. -/
theorem drop_turns (intervals : List Interval) (index : Nat) :
    (turns intervals).drop index = turns (intervals.drop index) := by
  induction intervals generalizing index with
  | nil => simp
  | cons interval rest ih =>
    cases index with
    | zero => rfl
    | succ index => simpa using ih index

theorem length_chunksExact (candles : List CandleV1) :
    (chunksExact candles).length = candles.length / 3 := by
  induction candles using chunksExact.induct with
  | case1 btc eth sol rest ih =>
    rw [chunksExact, List.length_cons, ih]
    simp only [List.length_cons]
    omega
  | case2 candles short =>
    match candles, short with
    | [], _ => rfl
    | [_], _ => simp
    | [_, _], _ => simp
    | btc :: eth :: sol :: rest, short => exact absurd rfl (short btc eth sol rest)

end Turns

/-! ## One fill -/

/-- **Specification of a fill.**  Only a pair of candles is executed, at a price and for a quantity
above zero, and the fill is stamped with the open of the later candle. -/
structure Executed (engine : BacktestEngine) (decisionCandle nextCandle : CandleV1)
    (proposal : Proposal) (portfolio : PortfolioState) (fill : SimulatedFill) : Prop where
  pair : IsPair decisionCandle nextCandle proposal
  price : engine.fillPrice proposal.side nextCandle.openMicroUsdc = .ok fill.priceMicroUsdc
  symbol : fill.symbol = proposal.symbol
  side : fill.side = proposal.side
  stamped : fill.candleOpenTimeMs = nextCandle.openTimeMs
  pricePos : 0 < fill.priceMicroUsdc.toInt
  quantityPos : 0 < fill.quantityE8.toInt
  approved : ∃ order, Approved { proposal with limitPriceMicroUsdc := fill.priceMicroUsdc }
      (engine.policyContext decisionCandle portfolio) order ∧
    order.quantityE8 = fill.quantityE8

theorem executed_of_executeNextOpen {engine : BacktestEngine}
    {decisionCandle nextCandle : CandleV1} {proposal : Proposal} {portfolio : PortfolioState}
    {fill : SimulatedFill}
    (ok : engine.executeNextOpen decisionCandle nextCandle proposal portfolio = .ok (some fill)) :
    Executed engine decisionCandle nextCandle proposal portfolio fill := by
  simp only [BacktestEngine.executeNextOpen, bind_eq_ok, rejectIf_eq_ok, not_not,
    exists_const] at ok
  obtain ⟨pair, price, priced, ok⟩ := ok
  split at ok
  · simp only [bind_eq_ok, withErrors_eq_ok, pure, Except.pure, Except.ok.injEq,
      Option.some.injEq] at ok
    obtain ⟨order, approves, -, -, -, -, fee, -, rfl⟩ := ok
    have approved := approved_of_evaluateProposal approves
    exact {
      pair
      price := priced
      symbol := rfl
      side := rfl
      stamped := rfl
      pricePos := approved.tradable.limitPos
      quantityPos := approved.sized.quantity ▸ approved.tradable.sizedQuantity_pos
      approved := ⟨order, approved, rfl⟩ }
  · simp [pure, Except.pure] at ok

/-- A fill of an interval is executed on the candles of its market. -/
theorem executed_of_attempt {engine : BacktestEngine} {ledger : Ledger} {interval : Interval}
    {next : Option Interval} {equity : Int64} {proposal : Proposal} {fill : SimulatedFill}
    (ok : engine.attempt ledger interval next equity proposal = .ok (some fill)) :
    ∃ following decision nextCandle position, next = some following ∧
      interval.candle? proposal.symbol = some decision ∧
      following.candle? proposal.symbol = some nextCandle ∧
      Executed engine decision nextCandle proposal (ledger.portfolio equity position) fill := by
  simp only [BacktestEngine.attempt, bind_eq_ok, okOr_eq_ok] at ok
  obtain ⟨following, isNext, decision, isDecision, nextCandle, isNextCandle, quantity, -, position,
    -, ok⟩ := ok
  exact ⟨following, decision, nextCandle, position, isNext, isDecision, isNextCandle,
    executed_of_executeNextOpen ok⟩

/-! ## One interval -/

section fields

variable (ledger : Ledger) (interval : Interval) (equity : Int64)

@[simp] theorem openDay_cash : (ledger.openDay interval equity).cash = ledger.cash := by
  simp only [Ledger.openDay]
  split <;> rfl

@[simp] theorem openDay_positions :
    (ledger.openDay interval equity).positions = ledger.positions := by
  simp only [Ledger.openDay]
  split <;> rfl

@[simp] theorem openDay_fills : (ledger.openDay interval equity).fills = ledger.fills := by
  simp only [Ledger.openDay]
  split <;> rfl

@[simp] theorem openDay_fees : (ledger.openDay interval equity).fees = ledger.fees := by
  simp only [Ledger.openDay]
  split <;> rfl

@[simp] theorem openDay_funding : (ledger.openDay interval equity).funding = ledger.funding := by
  simp only [Ledger.openDay]
  split <;> rfl

@[simp] theorem openDay_equityCurve :
    (ledger.openDay interval equity).equityCurve = ledger.equityCurve := by
  simp only [Ledger.openDay]
  split <;> rfl

@[simp] theorem openDay_scheduled :
    (ledger.openDay interval equity).scheduled = ledger.scheduled := by
  simp only [Ledger.openDay]
  split <;> rfl

@[simp] theorem openDay_policyRejections :
    (ledger.openDay interval equity).policyRejections = ledger.policyRejections := by
  simp only [Ledger.openDay]
  split <;> rfl

end fields

/-- The proposal decided in an interval, if it is still scheduled. -/
def Ledger.due (ledger : Ledger) (interval : Interval) : Option ScheduledProposal :=
  ledger.scheduled.find? (·.decisionOpenTimeMs = interval.btc.openTimeMs)

/-- What an interval decides on the marked ledger, and the ledger it leaves. -/
inductive Decided (engine : BacktestEngine) (marked : Ledger) (interval : Interval)
    (next : Option Interval) (equity : Int64) : Ledger → Prop
  | nothing (none : marked.due interval = none) : Decided engine marked interval next equity marked
  | fills {entry : ScheduledProposal} {fill : SimulatedFill} {after : Ledger}
      (due : marked.due interval = some entry)
      (filled : engine.attempt (marked.unschedule interval.btc.openTimeMs) interval next equity
        entry.proposal = .ok (some fill))
      (booked : (marked.unschedule interval.btc.openTimeMs).bookFill fill = .ok after) :
      Decided engine marked interval next equity after
  | rests {entry : ScheduledProposal} (due : marked.due interval = some entry)
      (missed : engine.attempt (marked.unschedule interval.btc.openTimeMs) interval next equity
        entry.proposal = .ok none) :
      Decided engine marked interval next equity (marked.unschedule interval.btc.openTimeMs)
  | refuses {entry : ScheduledProposal} {error : PolicyError}
      (due : marked.due interval = some entry)
      (refused : engine.attempt (marked.unschedule interval.btc.openTimeMs) interval next equity
        entry.proposal = .error (.error (.policy error))) :
      Decided engine marked interval next equity
        (marked.unschedule interval.btc.openTimeMs).reject

theorem markInterval_eq_ok {before marked : Ledger} {interval : Interval} {equity : Int64}
    (ok : BacktestEngine.markInterval before interval = .ok (marked, equity)) :
    ∃ funded, interval.candles.foldlM Ledger.chargeFunding before = .ok funded ∧
      portfolioEquity funded.cash funded.positions interval.candles = .ok equity ∧
      marked = funded.openDay interval equity := by
  simp only [BacktestEngine.markInterval, bind_eq_ok, pure, Except.pure, Except.ok.injEq,
    Prod.mk.injEq] at ok
  obtain ⟨funded, charged, equity', valued, rfl, rfl⟩ := ok
  exact ⟨funded, charged, valued, rfl⟩

theorem decided_of_decide {engine : BacktestEngine} {marked decided : Ledger} {interval : Interval}
    {next : Option Interval} {equity : Int64} {entry : ScheduledProposal}
    (due : marked.due interval = some entry)
    (decides : engine.decide (marked.unschedule interval.btc.openTimeMs) interval next equity
      entry.proposal = .ok decided) : Decided engine marked interval next equity decided := by
  unfold BacktestEngine.decide at decides
  split at decides
  · rename_i fill filled
    exact .fills due filled decides
  · rename_i missed
    cases decides
    exact .rests due missed
  · rename_i error refused
    cases decides
    exact .refuses due refused
  · cases decides

/-- **Inversion of an interval.**  It marks the account, decides, and closes with the equity of
what it leaves. -/
theorem replayInterval_eq_ok {engine : BacktestEngine} {before after : Ledger}
    {interval : Interval} {next : Option Interval}
    (ok : engine.replayInterval before (interval, next) = .ok after) :
    ∃ marked equity decided closing peak,
      BacktestEngine.markInterval before interval = .ok (marked, equity) ∧
      Decided engine marked interval next equity decided ∧
      portfolioEquity decided.cash decided.positions interval.candles = .ok closing ∧
      after = { decided with peakEquity := peak }.closeInterval interval closing := by
  simp only [BacktestEngine.replayInterval, bind_eq_ok] at ok
  obtain ⟨⟨marked, equity⟩, marks, ok⟩ := ok
  have valued : portfolioEquity marked.cash marked.positions interval.candles = .ok equity := by
    obtain ⟨funded, -, valued, rfl⟩ := markInterval_eq_ok marks
    simpa using valued
  cases due : marked.due interval with
  | none =>
    unfold Ledger.due at due
    simp only [due, pure, Except.pure, Except.ok.injEq] at ok
    exact ⟨marked, equity, marked, equity, marked.peakEquity, marks, .nothing due, valued, ok.symm⟩
  | some entry =>
    have isDue := due
    unfold Ledger.due at due
    simp only [due, bind_eq_ok, pure, Except.pure, Except.ok.injEq] at ok
    obtain ⟨decided, decides, closing, closes, rfl⟩ := ok
    exact ⟨marked, equity, decided, closing, _, marks, decided_of_decide isDue decides, closes, rfl⟩

/-- A decision adds at most one fill, for a quantity and at a price above zero. -/
theorem Decided.fills_eq {engine : BacktestEngine} {marked decided : Ledger} {interval : Interval}
    {next : Option Interval} {equity : Int64}
    (decides : Decided engine marked interval next equity decided) :
    decided.fills = marked.fills ∨ ∃ entry fill, marked.due interval = some entry ∧
      engine.attempt (marked.unschedule interval.btc.openTimeMs) interval next equity
        entry.proposal = .ok (some fill) ∧ decided.fills = marked.fills ++ [fill] := by
  cases decides with
  | nothing none => exact .inl rfl
  | rests due missed => exact .inl rfl
  | refuses due refused => exact .inl rfl
  | @fills entry fill after due filled booked =>
    obtain ⟨_, _, _, _, -, -, -, executed⟩ := executed_of_attempt filled
    obtain ⟨held, cash, holding, fees, -, -, -, -, -, rfl⟩ :=
      bookFill_eq_ok executed.quantityPos executed.pricePos booked
    exact .inr ⟨entry, fill, due, filled, rfl⟩

/-- Deciding changes the curve and the funding in no way. -/
theorem Decided.frame {engine : BacktestEngine} {marked decided : Ledger} {interval : Interval}
    {next : Option Interval} {equity : Int64}
    (decides : Decided engine marked interval next equity decided) :
    decided.equityCurve = marked.equityCurve ∧ decided.funding = marked.funding := by
  cases decides with
  | nothing none => exact ⟨rfl, rfl⟩
  | rests due missed => exact ⟨rfl, rfl⟩
  | refuses due refused => exact ⟨rfl, rfl⟩
  | @fills entry fill after due filled booked =>
    obtain ⟨_, _, _, _, -, -, -, executed⟩ := executed_of_attempt filled
    obtain ⟨held, cash, holding, fees, -, -, -, -, -, rfl⟩ :=
      bookFill_eq_ok executed.quantityPos executed.pricePos booked
    exact ⟨rfl, rfl⟩

theorem Booked.decided {start : Int} {engine : BacktestEngine} {marked decided : Ledger}
    {interval : Interval} {next : Option Interval} {equity : Int64} (booked : Booked start marked)
    (decides : Decided engine marked interval next equity decided) : Booked start decided := by
  cases decides with
  | nothing none => exact booked
  | rests due missed => exact booked.of_eq rfl rfl rfl rfl rfl
  | refuses due refused => exact booked.of_eq rfl rfl rfl rfl rfl
  | fills due filled books =>
    obtain ⟨_, _, _, _, -, -, -, executed⟩ := executed_of_attempt filled
    have unscheduled : Booked start (marked.unschedule interval.btc.openTimeMs) :=
      booked.of_eq rfl rfl rfl rfl rfl
    exact unscheduled.bookFill executed.quantityPos executed.pricePos books

theorem chargeFunding_frame {ledger charged : Ledger} {candles : List CandleV1}
    (ok : candles.foldlM Ledger.chargeFunding ledger = .ok charged) :
    ∃ cash funding, charged = { ledger with cash, funding } := by
  refine Loop.preserved (R := fun before after : Ledger => ∃ cash funding,
    after = { before with cash, funding }) (fun s => ⟨s.cash, s.funding, rfl⟩) ?_ ?_ ok
  · rintro a b c ⟨cash, funding, rfl⟩ ⟨cash', funding', rfl⟩
    exact ⟨cash', funding', rfl⟩
  · intro candle _ before after charge
    obtain ⟨quantity, cash, funding, -, same, -, -⟩ := chargeFunding_eq_ok charge
    exact ⟨cash, funding, same⟩

/-- Marking an interval charges the funding of the positions held and changes no fill. -/
theorem Booked.marked {start : Int} {before marked : Ledger} {interval : Interval} {equity : Int64}
    (booked : Booked start before)
    (ok : BacktestEngine.markInterval before interval = .ok (marked, equity)) :
    Booked start marked ∧ marked.fills = before.fills ∧
      marked.equityCurve = before.equityCurve ∧
      marked.funding.toInt = before.funding.toInt + fundingOf before.fills interval := by
  obtain ⟨funded, charged, valued, rfl⟩ := markInterval_eq_ok ok
  obtain ⟨cash, funding, rfl, total, paid⟩ := chargeFunding_interval booked.positions charged
  have funded : Booked start { before with cash, funding } := by
    refine ⟨?_, booked.fees, booked.positions, booked.covered, booked.positive⟩
    have cashEq := booked.cash
    simp only
    omega
  refine ⟨funded.of_eq ?_ ?_ ?_ ?_ ?_, ?_, ?_, ?_⟩
  all_goals simp
  exact paid

/-- **Step lemma.**  An interval keeps the ledger the account of its fills, charges funding on what
was held before, and closes with the equity of what it leaves. -/
theorem Booked.replayInterval {start : Int} {engine : BacktestEngine} {before after : Ledger}
    {interval : Interval} {next : Option Interval} (booked : Booked start before)
    (ok : engine.replayInterval before (interval, next) = .ok after) :
    Booked start after ∧
      after.funding.toInt = before.funding.toInt + fundingOf before.fills interval ∧
      ∃ closing, portfolioEquity after.cash after.positions interval.candles = .ok closing ∧
        after.equityCurve = before.equityCurve ++ [⟨interval.btc.closeTimeMs, closing⟩] := by
  obtain ⟨marked, equity, decided, closing, peak, marks, decides, closes, rfl⟩ :=
    replayInterval_eq_ok ok
  obtain ⟨bookedMarked, -, curve, funding⟩ := booked.marked marks
  obtain ⟨sameCurve, sameFunding⟩ := decides.frame
  refine ⟨(bookedMarked.decided decides).of_eq rfl rfl rfl rfl rfl, ?_, closing, closes, ?_⟩
  · change decided.funding.toInt = _
    rw [sameFunding, funding]
  · change decided.equityCurve ++ _ = _
    rw [sameCurve, curve]

/-! ## A whole replay -/

/-- What a replay that returns consists of. -/
structure Completed (engine : BacktestEngine) (candles : List CandleV1)
    (proposals scheduled : List ScheduledProposal) (startingCash : Int64)
    (first last : Interval) (ledger : Ledger) (result : BacktestResult) : Prop where
  cashPos : 0 < startingCash
  enough : 6 ≤ candles.length
  whole : candles.length % 3 = 0
  checked : checkIntervals none (chunksExact candles) = .ok ()
  schedules : BacktestEngine.schedule proposals = .ok scheduled
  isFirst : (chunksExact candles).head? = some first
  reaches : Loop.Reaches engine.replayInterval
    (.opening startingCash (first.btc.closeTimeMs / Ledger.dayMillis) scheduled)
    (turns (chunksExact candles)) ledger
  served : ledger.scheduled = []
  isLast : (chunksExact candles).getLast? = some last
  closes : portfolioEquity ledger.cash ledger.positions last.candles =
    .ok result.endingEquityMicroUsdc
  cash : result.endingCashMicroUsdc = ledger.cash
  fees : result.feesMicroUsdc = ledger.fees
  funding : result.fundingMicroUsdc = ledger.funding
  fills : result.fills = ledger.fills
  equityCurve : result.equityCurve = ledger.equityCurve
  policyRejections : result.policyRejections = ledger.policyRejections

theorem completed_of_runSynchronizedProposals {engine : BacktestEngine} {candles : List CandleV1}
    {proposals : List ScheduledProposal} {startingCash : Int64} {result : BacktestResult}
    (ok : engine.runSynchronizedProposals candles proposals startingCash = .ok result) :
    ∃ scheduled first last ledger,
      Completed engine candles proposals scheduled startingCash first last ledger result := by
  simp only [BacktestEngine.runSynchronizedProposals, bind_eq_ok, rejectIf_eq_ok, exists_const,
    okOr_eq_ok, pure, Except.pure, Except.ok.injEq] at ok
  obtain ⟨start, _, checked, scheduled, schedules, first, isFirst, ledger, reaches, served, last,
    isLast, equity, closes, rfl⟩ := ok
  simp only [not_or, not_lt, not_not] at start served
  exact ⟨scheduled, first, last, ledger, Int64.not_le.mp start.1, start.2.1, start.2.2, checked, schedules, isFirst,
    reaches, served, isLast, closes, rfl, rfl, rfl, rfl, rfl, rfl⟩

/-- The ledger after any number of intervals is the account of its fills, with one point of the
curve for each of them. -/
theorem booked_of_reaches {engine : BacktestEngine} {startingCash day : Int64}
    {scheduled : List ScheduledProposal} {passed : List (Interval × Option Interval)}
    {ledger : Ledger}
    (reaches : Loop.Reaches engine.replayInterval (.opening startingCash day scheduled) passed
      ledger) :
    Booked startingCash.toInt ledger ∧ ledger.equityCurve.length = passed.length := by
  refine Loop.invariant (P := fun passed ledger =>
    Booked startingCash.toInt ledger ∧ ledger.equityCurve.length = passed.length)
    ⟨booked_opening _ _ _, rfl⟩ ?_ reaches
  rintro passed ⟨interval, next⟩ left before after - ⟨booked, length⟩ stepped
  obtain ⟨booked, -, closing, -, curve⟩ := booked.replayInterval stepped
  refine ⟨booked, ?_⟩
  rw [curve, List.length_append, List.length_append, length]
  rfl

/-- The account a result reports, in exact integers. -/
structure Accounted (candles : List CandleV1) (startingCash : Int64) (result : BacktestResult) :
    Prop where
  cash : result.endingCashMicroUsdc.toInt =
    startingCash.toInt - notionalOf .buy result.fills + notionalOf .sell result.fills -
      result.feesMicroUsdc.toInt - result.fundingMicroUsdc.toInt
  fees : result.feesMicroUsdc.toInt = feesOf result.fills
  equity : ∃ last, (chunksExact candles).getLast? = some last ∧
    result.endingEquityMicroUsdc.toInt =
      result.endingCashMicroUsdc.toInt + markedPositions result.fills last
  points : result.equityCurve.length = (chunksExact candles).length
  ends : result.equityCurve.getLast?.map (·.equityMicroUsdc) = some result.endingEquityMicroUsdc
  covered : ∀ earlier, earlier <+: result.fills → ∀ symbol, 0 ≤ netQuantity earlier symbol

/-- **Accounts of a replay.**  Cash is the starting cash less the buys, the fees and the funding,
plus the sells; the ending equity adds what is held at the last closes; the curve has a point for
each interval and ends there; and no market is ever sold short. -/
theorem accounted_of_runSynchronizedProposals {engine : BacktestEngine} {candles : List CandleV1}
    {proposals : List ScheduledProposal} {startingCash : Int64} {result : BacktestResult}
    (ok : engine.runSynchronizedProposals candles proposals startingCash = .ok result) :
    Accounted candles startingCash result := by
  obtain ⟨scheduled, first, last, ledger, completed⟩ := completed_of_runSynchronizedProposals ok
  obtain ⟨booked, length⟩ := booked_of_reaches completed.reaches
  have effect := cashEffectOf_eq ledger.fills
  have cash := booked.cash
  have fees := booked.fees
  refine ⟨?_, ?_, ⟨last, completed.isLast, ?_⟩, ?_, ?_, ?_⟩
  · rw [completed.cash, completed.fees, completed.funding, completed.fills]
    omega
  · rw [completed.fees, completed.fills, fees]
  · rw [completed.cash, completed.fills]
    exact toInt_of_portfolioEquity booked.positions completed.closes
  · rw [completed.equityCurve, length, length_turns]
  · obtain ⟨front, split⟩ := List.getLast?_eq_some_iff.mp completed.isLast
    have lastTurn : (turns (chunksExact candles))[front.length]? = some (last, none) := by
      rw [getElem?_turns, split]
      simp
    have size : (turns (chunksExact candles)).length = front.length + 1 := by
      rw [length_turns, split, List.length_append]
      rfl
    obtain ⟨before, after, reached, stepped, rest⟩ := completed.reaches.before lastTurn
    rw [List.drop_of_length_le (by omega), Loop.reaches_nil] at rest
    subst rest
    obtain ⟨-, -, closing, closes, curve⟩ := (booked_of_reaches reached).1.replayInterval stepped
    rw [completed.closes, Except.ok.injEq] at closes
    rw [completed.equityCurve, curve, List.getLast?_concat, Option.map_some, closes]
  · rw [completed.fills]
    exact booked.covered

/-! ## A replay of two intervals -/

def sampleEngine : BacktestEngine where
  rules := .default
  execution := { halfSpreadBps := 2, slippageBps := 3, takerFeeBps := 5 }

/-- A candle that opens, trades and closes at one price. -/
def flatCandle (symbol : String) (openTimeMs price : Int64) (sizeDecimals : UInt8) : CandleV1 where
  symbol
  openTimeMs
  closeTimeMs := openTimeMs + 899999
  openMicroUsdc := price
  highMicroUsdc := price
  lowMicroUsdc := price
  closeMicroUsdc := price
  volumeE8 := 100
  fundingRateE12 := 0
  sizeDecimals

/-- The three markets over one interval. -/
def flatInterval (openTimeMs : Int64) : Interval where
  btc := flatCandle "BTC" openTimeMs 60000000000 5
  eth := flatCandle "ETH" openTimeMs 3000000000 4
  sol := flatCandle "SOL" openTimeMs 150000000 2

def sampleCandles : List CandleV1 := (flatInterval 0).candles ++ (flatInterval 900000).candles

def sampleBuy : ScheduledProposal where
  decisionOpenTimeMs := 0
  proposal := {
    symbol := "BTC"
    side := .buy
    notionalBps := 100
    limitPriceMicroUsdc := 61000000000
    reduceOnly := false }

/-- The result of the sample buy, which is filled at the second open. -/
def sampleResult : BacktestResult where
  endingCashMicroUsdc := 989789798
  endingEquityMicroUsdc := 999989798
  feesMicroUsdc := 5102
  fundingMicroUsdc := 0
  fills := [{
    symbol := "BTC"
    side := .buy
    quantityE8 := 17000
    priceMicroUsdc := 60030000000
    feeMicroUsdc := 5102
    candleOpenTimeMs := 900000 }]
  equityCurve := [⟨899999, 999989798⟩, ⟨1799999, 999989798⟩]
  policyRejections := 0

/-- The accounts of a replay that buys once. -/
theorem accounted_sampleResult : Accounted sampleCandles 1000000000 sampleResult :=
  @accounted_of_runSynchronizedProposals sampleEngine _ [sampleBuy] _ _ (by decide)

end CrowAgent
