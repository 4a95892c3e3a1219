import CrowAgent.Backtest.Timeline

/-!
# What the curve may know

Two questions about time.  Looking forward, the replay up to an interval depends on the next
interval through its opens alone (`no_lookahead`).  Looking back, a point of the curve is the
account of the fills stamped up to its close, unless the order decided at that close is filled for
more or less than it is worth there (`equityCurve_iff`).
-/

namespace CrowAgent

open FixedWidth

/-! ## No look-ahead beyond the next open -/

/-- Two candles agree on all that an execution at the open reads of them. -/
structure SameOpen (a b : CandleV1) : Prop where
  symbol : a.symbol = b.symbol
  openTime : a.openTimeMs = b.openTimeMs
  closeTime : a.closeTimeMs = b.closeTimeMs
  price : a.openMicroUsdc = b.openMicroUsdc

theorem executeNextOpen_congr {engine : BacktestEngine} {decision a b : CandleV1}
    {proposal : Proposal} {portfolio : PortfolioState} (same : SameOpen a b) :
    engine.executeNextOpen decision a proposal portfolio =
      engine.executeNextOpen decision b proposal portfolio := by
  have pair : IsPair decision a proposal ↔ IsPair decision b proposal := by
    simp only [IsPair, same.symbol, same.openTime, same.closeTime]
  unfold BacktestEngine.executeNextOpen
  rw [rejectIf_congr (not_congr pair), same.price, same.openTime]

/-- Two intervals agree on all that executions at their opens read of them. -/
structure SameOpens (a b : Interval) : Prop where
  btc : SameOpen a.btc b.btc
  eth : SameOpen a.eth b.eth
  sol : SameOpen a.sol b.sol

theorem SameOpens.candle? {a b : Interval} (same : SameOpens a b) (symbol : String) :
    Option.Rel SameOpen (a.candle? symbol) (b.candle? symbol) := by
  unfold Interval.candle?
  cases allowedSymbols.idxOf? symbol with
  | none => exact .none
  | some index =>
    match index with
    | 0 => exact .some same.btc
    | 1 => exact .some same.eth
    | 2 => exact .some same.sol
    | index + 3 => exact .none

/-- An interval is decided alike whatever the next one does after its opens. -/
theorem replayInterval_congr {engine : BacktestEngine} {ledger : Ledger} {interval a b : Interval}
    (same : SameOpens a b) :
    engine.replayInterval ledger (interval, some a) =
      engine.replayInterval ledger (interval, some b) := by
  have attempts : ∀ ledger equity proposal,
      engine.attempt ledger interval (some a) equity proposal =
        engine.attempt ledger interval (some b) equity proposal := by
    intro ledger equity proposal
    simp only [BacktestEngine.attempt, okOr, bind, Except.bind]
    have related := same.candle? proposal.symbol
    generalize a.candle? proposal.symbol = nextA at related ⊢
    generalize b.candle? proposal.symbol = nextB at related ⊢
    cases related with
    | none => rfl
    | some same => simp only [executeNextOpen_congr same]
  simp only [BacktestEngine.replayInterval, BacktestEngine.decide, attempts]

/-- Placed intervals that open at the same time and at the same prices agree at their opens. -/
theorem sameOpens_of_placed {a b : Interval} (placedA : a.Placed) (placedB : b.Placed)
    (openTime : a.btc.openTimeMs = b.btc.openTimeMs)
    (prices : a.candles.map CandleV1.openMicroUsdc = b.candles.map CandleV1.openMicroUsdc) :
    SameOpens a b := by
  have symbols := placedA.symbols.trans placedB.symbols.symm
  simp only [Interval.candles, List.map_cons, List.map_nil, List.cons.injEq, and_true]
    at symbols prices
  have times : ∀ x ∈ a.candles, ∀ y ∈ b.candles,
      x.openTimeMs = y.openTimeMs ∧ x.closeTimeMs = y.closeTimeMs := by
    intro x memX y memY
    refine ⟨?_, Int64.toInt_inj.mp ?_⟩
    · rw [placedA.opens x memX, placedB.opens y memY, openTime]
    · rw [placedA.closes x memX, placedB.closes y memY, openTime]
  have btc := times a.btc (by simp [Interval.candles]) b.btc (by simp [Interval.candles])
  have eth := times a.eth (by simp [Interval.candles]) b.eth (by simp [Interval.candles])
  have sol := times a.sol (by simp [Interval.candles]) b.sol (by simp [Interval.candles])
  exact ⟨⟨symbols.1, btc.1, btc.2, prices.1⟩, ⟨symbols.2.1, eth.1, eth.2, prices.2.1⟩,
    ⟨symbols.2.2, sol.1, sol.2, prices.2.2⟩⟩

/-- The replay of intervals that agree up to one, and on the opens of the next, is in the same
state after that interval. -/
theorem reaches_congr {engine : BacktestEngine} {start : Ledger} {intervals intervals' : List Interval}
    {index : Nat} {next next' : Interval}
    (agree : intervals.take (index + 1) = intervals'.take (index + 1))
    (isNext : intervals[index + 1]? = some next) (isNext' : intervals'[index + 1]? = some next')
    (opens : SameOpens next next') :
    ((turns intervals).take (index + 1)).foldlM engine.replayInterval start =
      ((turns intervals').take (index + 1)).foldlM engine.replayInterval start := by
  have same : ∀ i ≤ index, intervals[i]? = intervals'[i]? := by
    intro i le
    have at' := congrArg (·[i]?) agree
    simpa only [List.getElem?_take, Nat.lt_succ_of_le le, if_true] using at'
  have fits := (List.getElem?_eq_some_iff.mp isNext).1
  have fits' := (List.getElem?_eq_some_iff.mp isNext').1
  refine Loop.congr ?_ ?_
  · rw [List.length_take, List.length_take, length_turns, length_turns]
    omega
  · intro i item item' ledger isItem isItem'
    rw [List.getElem?_take, Option.ite_none_right_eq_some, getElem?_turns,
      Option.map_eq_some_iff] at isItem isItem'
    obtain ⟨before, interval, isInterval, rfl⟩ := isItem
    obtain ⟨-, interval', isInterval', rfl⟩ := isItem'
    rw [same i (by omega), isInterval', Option.some.injEq] at isInterval
    subst isInterval
    by_cases last : i = index
    · rw [last, isNext, isNext']
      exact replayInterval_congr opens
    · rw [same (i + 1) (by omega)]

/-- The fills of a completed replay up to the open of an interval are the ones it had before that
interval, and so is the curve. -/
theorem split_at {engine : BacktestEngine} {startingCash day : Int64}
    {scheduled : List ScheduledProposal} {intervals : List Interval} {ledger final : Ledger}
    {index : Nat} {interval : Interval} (timeline : Timeline intervals)
    (reached : Loop.Reaches engine.replayInterval (.opening startingCash day scheduled)
      ((turns intervals).take index) ledger)
    (rest : Loop.Reaches engine.replayInterval ledger ((turns intervals).drop index) final)
    (here : intervals[index]? = some interval) {time : Int64}
    (from' : interval.btc.openTimeMs.toInt ≤ time.toInt)
    (upTo : time.toInt < interval.btc.openTimeMs.toInt + 900000) :
    final.fills.filter (·.candleOpenTimeMs ≤ time) = ledger.fills ∧
      final.equityCurve.take index = ledger.equityCurve := by
  obtain ⟨⟨points, curve⟩, more, fills, later⟩ := stamped_from timeline rest
  have fits := (List.getElem?_eq_some_iff.mp here).1
  constructor
  · rw [fills, List.filter_append]
    have kept : ledger.fills.filter (·.candleOpenTimeMs ≤ time) = ledger.fills := by
      refine List.filter_eq_self.mpr fun fill mem => decide_eq_true ?_
      have bound := stamped_before timeline reached here fill mem
      exact Int64.le_iff_toInt_le.mpr (by omega)
    have dropped : more.filter (·.candleOpenTimeMs ≤ time) = [] := by
      refine List.filter_eq_nil_iff.mpr fun fill mem => ?_
      have bound := later fill mem interval here
      simp only [decide_eq_true_eq, Int64.le_iff_toInt_le]
      omega
    rw [kept, dropped, List.append_nil]
  · have length := (booked_of_reaches reached).2
    rw [List.length_take, length_turns, Nat.min_eq_left fits.le] at length
    rw [curve, ← length, List.take_left]

/-- **No look-ahead.**  Two replays of one schedule over candles that agree up to an interval, and
on the opens of the next, have the same fills up to those opens and the same curve up to that
interval. -/
theorem no_lookahead {engine : BacktestEngine} {candles candles' : List CandleV1}
    {proposals : List ScheduledProposal} {startingCash : Int64} {result result' : BacktestResult}
    {index : Nat} {next next' : Interval}
    (ok : engine.runSynchronizedProposals candles proposals startingCash = .ok result)
    (ok' : engine.runSynchronizedProposals candles' proposals startingCash = .ok result')
    (agree : (chunksExact candles).take (index + 1) = (chunksExact candles').take (index + 1))
    (isNext : (chunksExact candles)[index + 1]? = some next)
    (isNext' : (chunksExact candles')[index + 1]? = some next')
    (opens : next.candles.map CandleV1.openMicroUsdc = next'.candles.map CandleV1.openMicroUsdc) :
    result.fills.filter (·.candleOpenTimeMs ≤ next.btc.openTimeMs) =
        result'.fills.filter (·.candleOpenTimeMs ≤ next.btc.openTimeMs) ∧
      result.equityCurve.take (index + 1) = result'.equityCurve.take (index + 1) := by
  obtain ⟨scheduled, first, last, ledger, completed⟩ := completed_of_runSynchronizedProposals ok
  obtain ⟨scheduled', first', last', ledger', completed'⟩ :=
    completed_of_runSynchronizedProposals ok'
  have timeline := (timeline_of_checkIntervals completed.checked).1
  have timeline' := (timeline_of_checkIntervals completed'.checked).1
  have sameSchedule : scheduled = scheduled' :=
    Except.ok.inj (completed.schedules.symm.trans completed'.schedules)
  have sameFirst : first = first' := by
    have heads := congrArg List.head? agree
    simp only [List.head?_take, Nat.add_one_ne_zero, if_false, completed.isFirst,
      completed'.isFirst, Option.some.injEq] at heads
    exact heads
  subst sameSchedule sameFirst
  have sameHere : (chunksExact candles)[index]? = (chunksExact candles')[index]? := by
    have at' := congrArg (·[index]?) agree
    simpa using at'
  have fits := (List.getElem?_eq_some_iff.mp isNext).1
  have here : (chunksExact candles)[index]? = some (chunksExact candles)[index] :=
    List.getElem?_eq_getElem (by omega)
  have openTime : next.btc.openTimeMs = next'.btc.openTimeMs := by
    apply Int64.toInt_inj.mp
    rw [timeline.contiguous here isNext, timeline'.contiguous (sameHere.symm.trans here) isNext']
  have sameOpens := sameOpens_of_placed (timeline.placed next (List.mem_of_getElem? isNext))
    (timeline'.placed next' (List.mem_of_getElem? isNext')) openTime opens
  have reaches := completed.reaches
  have reaches' := completed'.reaches
  rw [← List.take_append_drop (index + 1) (turns (chunksExact candles)),
    Loop.reaches_append] at reaches
  rw [← List.take_append_drop (index + 1) (turns (chunksExact candles')),
    Loop.reaches_append] at reaches'
  obtain ⟨middle, reached, rest⟩ := reaches
  obtain ⟨middle', reached', rest'⟩ := reaches'
  have sameMiddle : middle = middle' := by
    have both := @reaches_congr engine (.opening startingCash
      (first.btc.closeTimeMs / Ledger.dayMillis) scheduled) _ _ _ _ _ agree isNext isNext' sameOpens
    exact Except.ok.inj (reached.symm.trans (both.trans reached'))
  subst sameMiddle
  obtain ⟨fills, curve⟩ := split_at timeline reached rest isNext le_rfl (by omega)
  obtain ⟨fills', curve'⟩ := split_at timeline' reached' rest' isNext'
    (congrArg Int64.toInt openTime).ge (by rw [openTime]; omega)
  rw [completed.fills, completed'.fills, completed.equityCurve, completed'.equityCurve]
  exact ⟨fills.trans fills'.symm, curve.trans curve'.symm⟩

/-- An interval in which the price of bitcoin moves after its open. -/
def movedInterval (openTimeMs : Int64) : Interval :=
  { flatInterval openTimeMs with
    btc := { flatCandle "BTC" openTimeMs 60000000000 5 with
      highMicroUsdc := 63000000000
      closeMicroUsdc := 63000000000 } }

/-- The result of the sample buy when the price moves after the fill. -/
def movedResult : BacktestResult :=
  { sampleResult with
    endingEquityMicroUsdc := 1000499798
    equityCurve := [⟨899999, 999989798⟩, ⟨1799999, 1000499798⟩] }

/-- The move after the second open is not known at the first close. -/
theorem no_lookahead_moved :
    sampleResult.fills.filter (·.candleOpenTimeMs ≤ 900000) =
        movedResult.fills.filter (·.candleOpenTimeMs ≤ 900000) ∧
      sampleResult.equityCurve.take 1 = movedResult.equityCurve.take 1 :=
  @no_lookahead sampleEngine sampleCandles
    ((flatInterval 0).candles ++ (movedInterval 900000).candles) [sampleBuy] 1000000000 sampleResult
    movedResult 0 (flatInterval 900000) (movedInterval 900000) (by decide)
    (by decide) (by decide) (by decide) (by decide)
    (by decide)

/-! ## The curve and the stamps -/

/-- The fills stamped up to a time. -/
def fillsUntil (fills : List SimulatedFill) (time : Int64) : List SimulatedFill :=
  fills.filter (·.candleOpenTimeMs ≤ time)

/-- The funding of the first intervals, on the positions of the fills stamped by their closes. -/
def fundingThrough (fills : List SimulatedFill) (intervals : List Interval) : Int :=
  (intervals.map fun interval =>
    fundingOf (fillsUntil fills interval.btc.closeTimeMs) interval).sum

/-- The account replayed from the reported fills by their timestamps, at the closes of an
interval. -/
def replayedEquity (startingCash : Int) (fills : List SimulatedFill) (intervals : List Interval)
    (index : Nat) (interval : Interval) : Int :=
  startingCash - fundingThrough fills (intervals.take (index + 1)) +
    cashEffectOf (fillsUntil fills interval.btc.closeTimeMs) +
    markedPositions (fillsUntil fills interval.btc.closeTimeMs) interval

/-- The fill that the order decided in an interval gets at the next open, on the account as it
stands before the interval. -/
def BacktestEngine.fillAt (engine : BacktestEngine) (ledger : Ledger) (interval : Interval)
    (next : Option Interval) : Option SimulatedFill :=
  match BacktestEngine.markInterval ledger interval with
  | .error _ => none
  | .ok (marked, equity) =>
    match marked.due interval with
    | none => none
    | some entry =>
      match engine.attempt (marked.unschedule interval.btc.openTimeMs) interval next equity
        entry.proposal with
      | .ok fill => fill
      | .error _ => none

/-- The order decided in an interval is not filled, or costs exactly what its position is worth at
the closes of the interval. -/
def BacktestEngine.Neutral (engine : BacktestEngine) (ledger : Ledger) (interval : Interval)
    (next : Option Interval) : Prop :=
  ∀ fill, engine.fillAt ledger interval next = some fill →
    fill.cashEffect + markedPositions (ledger.fills ++ [fill]) interval =
      markedPositions ledger.fills interval

/-- The ledger of a replay before one of its intervals. -/
def BacktestEngine.LedgerBefore (engine : BacktestEngine) (candles : List CandleV1)
    (proposals : List ScheduledProposal) (startingCash : Int64) (index : Nat) (ledger : Ledger) :
    Prop :=
  ∃ scheduled first, BacktestEngine.schedule proposals = .ok scheduled ∧
    (chunksExact candles).head? = some first ∧
    Loop.Reaches engine.replayInterval
      (.opening startingCash (first.btc.closeTimeMs / Ledger.dayMillis) scheduled)
      ((turns (chunksExact candles)).take index) ledger

/-- The fills after an interval are the ones before it and the one it decided. -/
theorem fills_eq_fillAt {engine : BacktestEngine} {before after : Ledger} {interval : Interval}
    {next : Option Interval} (ok : engine.replayInterval before (interval, next) = .ok after) :
    after.fills = before.fills ++ (engine.fillAt before interval next).toList := by
  obtain ⟨marked, equity, decided, closing, peak, marks, decides, -, rfl⟩ :=
    replayInterval_eq_ok ok
  have kept : marked.fills = before.fills := by
    obtain ⟨funded, charged, valued, rfl⟩ := markInterval_eq_ok marks
    obtain ⟨cash, funding, rfl⟩ := chargeFunding_frame charged
    exact openDay_fills _ _ _
  change decided.fills = _
  rw [← kept, BacktestEngine.fillAt, marks]
  cases decides with
  | nothing none => simp [none]
  | rests due missed =>
    simp only [due, missed, Option.toList_none, List.append_nil]
    rfl
  | refuses due refused =>
    simp only [due, refused, Option.toList_none, List.append_nil]
    rfl
  | fills due filled booked =>
    obtain ⟨_, _, _, _, -, -, -, executed⟩ := executed_of_attempt filled
    obtain ⟨held, cash, holding, fees, -, -, -, -, -, rfl⟩ :=
      bookFill_eq_ok executed.quantityPos executed.pricePos booked
    simp only [due, filled, Option.toList_some]
    rfl

/-- **The curve.**  A point is the cash and the positions after the order of its interval, marked at
the closes of that interval. -/
theorem equityCurve_eq {engine : BacktestEngine} {start : Int} {before after : Ledger}
    {interval : Interval} {next : Option Interval} (booked : Booked start before)
    (ok : engine.replayInterval before (interval, next) = .ok after) :
    ∃ point, after.equityCurve = before.equityCurve ++ [point] ∧
      point.closeTimeMs = interval.btc.closeTimeMs ∧
      point.equityMicroUsdc.toInt =
        start - (before.funding.toInt + fundingOf before.fills interval) +
          cashEffectOf after.fills + markedPositions after.fills interval := by
  obtain ⟨bookedAfter, funding, closing, closes, curve⟩ := booked.replayInterval ok
  refine ⟨_, curve, rfl, ?_⟩
  have value := toInt_of_portfolioEquity bookedAfter.positions closes
  have cash := bookedAfter.cash
  rw [funding] at cash
  rw [value, cash]
  rfl

/-- The fills a ledger has before an interval are the reported ones stamped by its close. -/
theorem fills_before {engine : BacktestEngine} {startingCash day : Int64}
    {scheduled : List ScheduledProposal} {intervals : List Interval} {ledger final : Ledger}
    {index : Nat} {interval : Interval} (timeline : Timeline intervals)
    (reached : Loop.Reaches engine.replayInterval (.opening startingCash day scheduled)
      ((turns intervals).take index) ledger)
    (rest : Loop.Reaches engine.replayInterval ledger ((turns intervals).drop index) final)
    (here : intervals[index]? = some interval) :
    ledger.fills = fillsUntil final.fills interval.btc.closeTimeMs := by
  have placed := timeline.placed interval (List.mem_of_getElem? here)
  have close := placed.closes interval.btc (by simp [Interval.candles])
  exact (split_at timeline reached rest here (by omega) (by omega)).1.symm

theorem map_fst_turns (intervals : List Interval) : (turns intervals).map Prod.fst = intervals := by
  induction intervals with
  | nil => rfl
  | cons interval rest ih => rw [turns, List.map_cons, ih]

/-- The funding charged before an interval is the one of the positions by their stamps. -/
theorem funding_eq_fundingThrough {engine : BacktestEngine} {startingCash day : Int64}
    {scheduled : List ScheduledProposal} {intervals : List Interval} {ledger final : Ledger}
    {index : Nat} (timeline : Timeline intervals)
    (reached : Loop.Reaches engine.replayInterval (.opening startingCash day scheduled)
      ((turns intervals).take index) ledger)
    (rest : Loop.Reaches engine.replayInterval ledger ((turns intervals).drop index) final) :
    ledger.funding.toInt = fundingThrough final.fills (intervals.take index) := by
  have passes : ledger.funding.toInt =
      fundingThrough final.fills (((turns intervals).take index).map Prod.fst) := by
    refine Loop.invariant_at (P := fun passed now =>
      now.funding.toInt = fundingThrough final.fills (passed.map Prod.fst)) rfl ?_
      (List.take_append_drop index (turns intervals)).symm reached rest
    rintro passed ⟨interval, next⟩ left before after split reached stepped rest funding
    have isTake : (turns intervals).take passed.length = passed := by
      rw [split, List.take_left]
    have isDrop : (turns intervals).drop passed.length = (interval, next) :: left := by
      rw [split, List.drop_left]
    have turn : (turns intervals)[passed.length]? = some (interval, next) := by
      rw [split]
      simp
    have fills := fills_before timeline (isTake.symm ▸ reached)
      (isDrop.symm ▸ Loop.reaches_cons.mpr ⟨after, stepped, rest⟩) (placed_of_turn timeline turn).1
    have booked := (booked_of_reaches reached).1
    rw [(booked.replayInterval stepped).2.1, funding, fills]
    simp [fundingThrough]
  rw [passes, List.map_take, map_fst_turns]

/-- **The curve by the stamps.**  A point of the curve is the account replayed from the fills
stamped up to its close exactly when the order decided in its interval is neutral there. -/
theorem equityCurve_iff {engine : BacktestEngine} {candles : List CandleV1}
    {proposals : List ScheduledProposal} {startingCash : Int64} {result : BacktestResult}
    {index : Nat} {interval : Interval}
    (ok : engine.runSynchronizedProposals candles proposals startingCash = .ok result)
    (here : (chunksExact candles)[index]? = some interval) :
    ∃ point ledger, result.equityCurve[index]? = some point ∧
      point.closeTimeMs = interval.btc.closeTimeMs ∧
      engine.LedgerBefore candles proposals startingCash index ledger ∧
      (point.equityMicroUsdc.toInt =
          replayedEquity startingCash.toInt result.fills (chunksExact candles) index interval ↔
        engine.Neutral ledger interval (chunksExact candles)[index + 1]?) := by
  obtain ⟨scheduled, first, last, final, completed⟩ := completed_of_runSynchronizedProposals ok
  have timeline := (timeline_of_checkIntervals completed.checked).1
  have turn : (turns (chunksExact candles))[index]? =
      some (interval, (chunksExact candles)[index + 1]?) := by
    rw [getElem?_turns, here]
    rfl
  obtain ⟨before, after, reached, stepped, rest⟩ := completed.reaches.before turn
  obtain ⟨booked, length⟩ := booked_of_reaches reached
  obtain ⟨point, added, close, value⟩ := equityCurve_eq booked stepped
  obtain ⟨⟨points, curve⟩, -⟩ := stamped_from timeline rest
  have fits := (List.getElem?_eq_some_iff.mp here).1
  rw [List.length_take, length_turns, Nat.min_eq_left fits.le] at length
  have isPoint : final.equityCurve[index]? = some point := by
    rw [curve, added, ← length]
    simp
  have onward : Loop.Reaches engine.replayInterval before
      ((turns (chunksExact candles)).drop index) final := by
    rw [List.drop_eq_getElem?_toList_append, turn]
    exact Loop.reaches_cons.mpr ⟨after, stepped, rest⟩
  have stamped := fills_before timeline reached onward here
  have funding := funding_eq_fundingThrough timeline reached onward
  refine ⟨point, before, completed.equityCurve ▸ isPoint, close,
    ⟨scheduled, first, completed.schedules, completed.isFirst, reached⟩, ?_⟩
  have through : fundingThrough final.fills ((chunksExact candles).take (index + 1)) =
      before.funding.toInt + fundingOf before.fills interval := by
    rw [List.take_add_one, here, funding, stamped]
    simp [fundingThrough]
  have fills := fills_eq_fillAt stepped
  unfold replayedEquity BacktestEngine.Neutral
  rw [completed.fills, through, ← stamped, value, fills]
  cases engine.fillAt before interval (chunksExact candles)[index + 1]? with
  | none => simp
  | some fill =>
    simp only [Option.toList_some, cashEffectOf_concat, Option.some.injEq, forall_eq']
    omega

/-- The first point of the sample curve has paid for a fill that is stamped after it. -/
theorem equityCurve_sample :
    sampleEngine.runSynchronizedProposals sampleCandles [sampleBuy] 1000000000 = .ok sampleResult ∧
      sampleResult.equityCurve[0]?.map (·.equityMicroUsdc.toInt) ≠
        some (replayedEquity 1000000000 sampleResult.fills (chunksExact sampleCandles) 0
          (flatInterval 0)) := by
  decide

/-- A replay that the equivalence speaks of. -/
theorem equityCurve_iff_sample :
    ∃ point ledger, sampleResult.equityCurve[1]? = some point ∧
      point.closeTimeMs = (flatInterval 900000).btc.closeTimeMs ∧
      sampleEngine.LedgerBefore sampleCandles [sampleBuy] 1000000000 1 ledger ∧
      (point.equityMicroUsdc.toInt =
          replayedEquity (1000000000 : Int64).toInt sampleResult.fills (chunksExact sampleCandles) 1
            (flatInterval 900000) ↔
        sampleEngine.Neutral ledger (flatInterval 900000) (chunksExact sampleCandles)[2]?) :=
  equityCurve_iff (by decide) (by decide)

end CrowAgent
