import CrowAgent.Backtest.Causality

/-!
# How a replay fails

Over candles and a schedule that pass the structural checks (`Structural`) a replay stops early only
for an arithmetic overflow or because an approved sell is larger than what is held (`Oversells`).
Every other refusal is counted, and changes nothing else.
-/

namespace CrowAgent

open FixedWidth

/-! ## Arithmetic failures -/

/-- The computation stopped because a number does not fit its type. -/
def Overflowed (halt : Halt BacktestError) : Prop := halt = .trap ∨ halt = .error .overflow

theorem overflowed_trap : Overflowed .trap := .inl rfl

theorem overflowed_overflow : Overflowed (.error .overflow) := .inr rfl

theorem failsIn_positionNotional {quantity price : Int64} :
    FailsIn Overflowed (positionNotional quantity price) :=
  .bind (.i128 overflowed_trap) fun _ _ => .bind (.i128Div overflowed_trap) fun _ _ =>
    .tryI64 overflowed_overflow

/-- Every market of the arena universe has a position. -/
def Positions.Tracked (positions : Positions) : Prop :=
  ∀ symbol ∈ allowedSymbols, ∃ quantity, positions symbol = some quantity

theorem failsIn_portfolioEquity {cash : Int64} {positions : Positions} {candles : List CandleV1}
    (tracked : positions.Tracked) (symbols : ∀ candle ∈ candles, candle.symbol ∈ allowedSymbols) :
    FailsIn Overflowed (portfolioEquity cash positions candles) := by
  intro halt failed
  obtain ⟨index, candle, equity, here, -, fails⟩ := Loop.stops failed
  have mem := List.mem_of_getElem? here
  obtain ⟨quantity, held⟩ := tracked candle.symbol (symbols candle mem)
  have step : FailsIn Overflowed (okOr (positions candle.symbol) .candleOrder >>= fun quantity =>
      positionNotional quantity candle.closeMicroUsdc >>= fun notional =>
        okOr (checkedAddI64 equity notional) .overflow) := by
    refine .bind (.okOr fun missing => ?_) fun _ _ => .bind failsIn_positionNotional fun _ _ =>
      .okOr fun _ => overflowed_overflow
    rw [held] at missing
    cases missing
  exact step halt fails

theorem failsIn_chargeFunding {ledger : Ledger} {candle : CandleV1}
    (held : ∃ quantity, ledger.positions candle.symbol = some quantity) :
    FailsIn Overflowed (ledger.chargeFunding candle) := by
  obtain ⟨quantity, held⟩ := held
  unfold Ledger.chargeFunding
  refine .bind (.okOr fun missing => ?_) fun _ _ => .bind failsIn_positionNotional fun _ _ =>
    .bind (.i128 overflowed_trap) fun _ _ => .bind (.i128Div overflowed_trap) fun _ _ =>
      .bind (.tryI64 overflowed_overflow) fun _ _ =>
        .bind (.okOr fun _ => overflowed_overflow) fun _ _ =>
          .bind (.okOr fun _ => overflowed_overflow) fun _ _ => .ok
  rw [held] at missing
  cases missing

theorem Interval.Placed.symbol_mem {interval : Interval} (placed : interval.Placed) :
    ∀ candle ∈ interval.candles, candle.symbol ∈ allowedSymbols := by
  intro candle mem
  rw [← placed.symbols]
  exact List.mem_map_of_mem mem

theorem failsIn_markInterval {ledger : Ledger} {interval : Interval}
    (tracked : ledger.positions.Tracked) (placed : interval.Placed) :
    FailsIn Overflowed (BacktestEngine.markInterval ledger interval) := by
  refine .bind ?_ fun funded charged => .bind ?_ fun _ _ => .ok
  · intro halt failed
    obtain ⟨index, candle, before, here, reached, fails⟩ := Loop.stops failed
    obtain ⟨cash, funding, same⟩ := chargeFunding_frame reached
    have held : ∃ quantity, before.positions candle.symbol = some quantity := by
      rw [same]
      exact tracked candle.symbol (placed.symbol_mem candle (List.mem_of_getElem? here))
    exact failsIn_chargeFunding held halt fails
  · obtain ⟨cash, funding, same⟩ := chargeFunding_frame charged
    have stillTracked : funded.positions.Tracked := by
      rw [same]
      exact tracked
    exact failsIn_portfolioEquity stillTracked placed.symbol_mem

/-! ## Failures of one order -/

/-- An order fails for its arithmetic, or is refused by the policy. -/
def Unfilled (halt : Halt BacktestError) : Prop :=
  Overflowed halt ∨ ∃ error, halt = .error (.policy error)

theorem failsIn_fillPrice {engine : BacktestEngine} {side : Side} {nextOpen : Int64} :
    FailsIn Overflowed (engine.fillPrice side nextOpen) := by
  unfold BacktestEngine.fillPrice
  refine .bind ?_ fun _ _ => .bind (.i128 overflowed_trap) fun _ _ =>
    .bind (.i128Div overflowed_trap) fun _ _ => .tryI64 overflowed_overflow
  intro halt failed
  unfold addU16 at failed
  split at failed
  · cases failed
  · cases failed
    exact overflowed_trap

/-- On a pair of candles an execution never complains about the candles. -/
theorem failsIn_executeNextOpen {engine : BacktestEngine} {decision next : CandleV1}
    {proposal : Proposal} {portfolio : PortfolioState} (pair : IsPair decision next proposal) :
    FailsIn Unfilled (engine.executeNextOpen decision next proposal portfolio) := by
  have trap : Unfilled .trap := .inl overflowed_trap
  have overflow : Unfilled (.error .overflow) := .inl overflowed_overflow
  unfold BacktestEngine.executeNextOpen
  refine .bind (.rejectIf fun notPair => absurd pair notPair) fun _ _ =>
    .bind (failsIn_fillPrice.mono fun _ overflowed => .inl overflowed) fun price _ => ?_
  split
  · exact .bind (.withErrors trap fun error => .inr ⟨error, rfl⟩) fun _ _ =>
      .bind (.i128 trap) fun _ _ => .bind (.i128Div trap) fun _ _ =>
        .bind (.tryI64 overflow) fun _ _ => .ok
  · exact .ok

theorem symbol_of_candle? {interval : Interval} {symbol : String} {candle : CandleV1}
    (placed : interval.Placed) (isCandle : interval.candle? symbol = some candle) :
    candle.symbol = symbol := by
  obtain ⟨index, isIndex, isCandle⟩ := Option.bind_eq_some_iff.mp isCandle
  obtain ⟨fits, same, -⟩ := List.idxOf?_eq_some_iff.mp isIndex
  have isSymbol : (interval.candles.map CandleV1.symbol)[index]? = some symbol := by
    rw [placed.symbols, List.getElem?_eq_getElem fits, same]
  rw [List.getElem?_map, isCandle, Option.map_some, Option.some.injEq] at isSymbol
  exact isSymbol

theorem candle?_of_mem (interval : Interval) {symbol : String} (mem : symbol ∈ allowedSymbols) :
    ∃ candle, interval.candle? symbol = some candle := by
  obtain ⟨index, isIndex⟩ := Option.isSome_iff_exists.mp (List.isSome_idxOf?.mpr mem)
  obtain ⟨fits, -⟩ := List.idxOf?_eq_some_iff.mp isIndex
  have inside : index < interval.candles.length := fits
  exact ⟨interval.candles[index], by
    rw [Interval.candle?, isIndex, Option.bind_some, List.getElem?_eq_getElem inside]⟩

/-- Two neighbouring intervals give a pair of candles for every market. -/
theorem isPair_of_timeline {intervals : List Interval} (timeline : Timeline intervals)
    {index : Nat} {interval next : Interval} {proposal : Proposal} {decision nextCandle : CandleV1}
    (here : intervals[index]? = some interval) (there : intervals[index + 1]? = some next)
    (isDecision : interval.candle? proposal.symbol = some decision)
    (isNext : next.candle? proposal.symbol = some nextCandle) :
    IsPair decision nextCandle proposal := by
  have placed := timeline.placed interval (List.mem_of_getElem? here)
  have placedNext := timeline.placed next (List.mem_of_getElem? there)
  have later := timeline.contiguous here there
  have close := placed.closes decision (mem_of_candle? isDecision)
  have nextClose := placedNext.closes nextCandle (mem_of_candle? isNext)
  have nextOpen := congrArg Int64.toInt (placedNext.opens nextCandle (mem_of_candle? isNext))
  have symbol := symbol_of_candle? placed isDecision
  have nextSymbol := symbol_of_candle? placedNext isNext
  refine ⟨symbol.trans nextSymbol.symm, symbol, ?_, ?_⟩
  · exact Int64.lt_iff_toInt_lt.mpr (by omega)
  · exact Int64.le_iff_toInt_le.mpr (by omega)

/-- An order on two neighbouring intervals is filled, missed or refused by the policy, unless its
arithmetic overflows. -/
theorem failsIn_attempt {engine : BacktestEngine} {ledger : Ledger} {intervals : List Interval}
    {index : Nat} {interval next : Interval} {equity : Int64} {proposal : Proposal}
    (timeline : Timeline intervals) (here : intervals[index]? = some interval)
    (there : intervals[index + 1]? = some next) (tracked : ledger.positions.Tracked)
    (named : proposal.symbol ∈ allowedSymbols) :
    FailsIn Unfilled (engine.attempt ledger interval (some next) equity proposal) := by
  have found : ∀ interval : Interval, interval.candle? proposal.symbol ≠ none := by
    intro interval missing
    obtain ⟨candle, isCandle⟩ := candle?_of_mem interval named
    exact Option.some_ne_none candle (isCandle.symm.trans missing)
  have held : ledger.positions proposal.symbol ≠ none := by
    intro missing
    obtain ⟨quantity, isHeld⟩ := tracked proposal.symbol named
    exact Option.some_ne_none quantity (isHeld.symm.trans missing)
  have overflows : ∀ quantity price, FailsIn Unfilled (positionNotional quantity price) :=
    fun _ _ => failsIn_positionNotional.mono fun _ overflowed => .inl overflowed
  unfold BacktestEngine.attempt
  refine .bind .ok fun following isFollowing => ?_
  cases isFollowing
  refine .bind (.okOr fun missing => absurd missing (found _)) fun decision isDecision =>
    .bind (.okOr fun missing => absurd missing (found _)) fun nextCandle isNext =>
      .bind (.okOr fun missing => absurd missing held) fun _ _ =>
        .bind (overflows _ _) fun _ _ => failsIn_executeNextOpen ?_
  exact isPair_of_timeline timeline here there (okOr_eq_ok.mp isDecision) (okOr_eq_ok.mp isNext)

/-- A sell of more than is held. -/
def Ledger.Exceeded (ledger : Ledger) (fill : SimulatedFill) : Prop :=
  fill.side = .sell ∧ ∃ held, ledger.positions fill.symbol = some held ∧ held < fill.quantityE8

/-- Booking a fill fails for its arithmetic, or because the sell exceeds what is held. -/
theorem failsIn_bookFill {ledger : Ledger} {fill : SimulatedFill}
    (held : ∃ held, ledger.positions fill.symbol = some held) :
    FailsIn (fun halt => Overflowed halt ∨
      halt = .error (.policy .reduceOnly) ∧ ledger.Exceeded fill) (ledger.bookFill fill) := by
  obtain ⟨held, isHeld⟩ := held
  have overflow : ∀ {α : Type} {value : Option α}, FailsIn (fun halt => Overflowed halt ∨
      halt = .error (.policy .reduceOnly) ∧ ledger.Exceeded fill) (okOr value .overflow) :=
    .okOr fun _ => .inl overflowed_overflow
  have enters : ∀ cash holding, FailsIn (fun halt => Overflowed halt ∨
      halt = .error (.policy .reduceOnly) ∧ ledger.Exceeded fill)
      (ledger.enterFill fill cash holding) := fun _ _ => .bind overflow fun _ _ => .ok
  unfold Ledger.bookFill
  rw [isHeld]
  refine .bind (failsIn_positionNotional.mono fun _ overflowed => .inl overflowed) fun _ _ =>
    .bind .ok fun current isCurrent => ?_
  cases isCurrent
  cases side : fill.side with
  | buy =>
    exact .bind overflow fun _ _ => .bind overflow fun _ _ => .bind overflow fun _ _ => enters _ _
  | sell =>
    refine .bind (.rejectIf fun exceeds => .inr ⟨rfl, side, held, isHeld, exceeds⟩) fun _ _ =>
      .bind overflow fun _ _ => .bind overflow fun _ _ =>
        .bind (.subI64 (.inl overflowed_trap)) fun _ _ => enters _ _

/-! ## Failures of one interval -/

/-- The order decided in an interval is an approved sell of more than is held. -/
def BacktestEngine.Oversells (engine : BacktestEngine) (ledger : Ledger) (interval : Interval)
    (next : Option Interval) : Prop :=
  ∃ fill, engine.fillAt ledger interval next = some fill ∧ ledger.Exceeded fill

/-- The policy refuses the order decided in an interval. -/
def BacktestEngine.PolicyRefuses (engine : BacktestEngine) (ledger : Ledger) (interval : Interval)
    (next : Option Interval) : Prop :=
  ∃ marked equity entry error,
    BacktestEngine.markInterval ledger interval = .ok (marked, equity) ∧
      marked.due interval = some entry ∧
      engine.attempt (marked.unschedule interval.btc.openTimeMs) interval next equity
        entry.proposal = .error (.error (.policy error))

theorem fillAt_eq_some {engine : BacktestEngine} {ledger : Ledger} {interval : Interval}
    {next : Option Interval} {fill : SimulatedFill} :
    engine.fillAt ledger interval next = some fill ↔ ∃ marked equity entry,
      BacktestEngine.markInterval ledger interval = .ok (marked, equity) ∧
        marked.due interval = some entry ∧
        engine.attempt (marked.unschedule interval.btc.openTimeMs) interval next equity
          entry.proposal = .ok (some fill) := by
  unfold BacktestEngine.fillAt
  cases marks : BacktestEngine.markInterval ledger interval with
  | error halt => simp
  | ok pair =>
    obtain ⟨marked, equity⟩ := pair
    cases due : marked.due interval with
    | none => simp [due]
    | some entry =>
      cases attempts : engine.attempt (marked.unschedule interval.btc.openTimeMs) interval next
        equity entry.proposal with
      | error halt => simp [due, attempts]
      | ok fill' => simp [due, attempts]

/-- The positions of the marked ledger are the ones before the interval. -/
theorem positions_of_markInterval {ledger marked : Ledger} {interval : Interval} {equity : Int64}
    (marks : BacktestEngine.markInterval ledger interval = .ok (marked, equity)) :
    marked.positions = ledger.positions := by
  obtain ⟨funded, charged, -, rfl⟩ := markInterval_eq_ok marks
  obtain ⟨cash, funding, rfl⟩ := chargeFunding_frame charged
  exact openDay_positions _ _ _

/-- An oversell aborts the replay with the error of a refusal. -/
theorem replayInterval_of_oversells {engine : BacktestEngine} {ledger : Ledger}
    {interval : Interval} {next : Option Interval}
    (oversells : engine.Oversells ledger interval next) :
    engine.replayInterval ledger (interval, next) = .error (.error (.policy .reduceOnly)) := by
  obtain ⟨fill, filled, sells, held, isHeld, exceeds⟩ := oversells
  obtain ⟨marked, equity, entry, marks, due, attempts⟩ := fillAt_eq_some.mp filled
  obtain ⟨_, _, _, _, -, -, -, executed⟩ := executed_of_attempt attempts
  obtain ⟨order, approved, sameQuantity⟩ := executed.approved
  have valued : positionNotional fill.quantityE8 fill.priceMicroUsdc =
      .ok order.actualNotionalMicroUsdc := by
    rw [positionNotional_eq_ok, markedAt_eq_notionalAt executed.quantityPos executed.pricePos,
      approved.sized.notional, sameQuantity]
  have stillHeld : (marked.unschedule interval.btc.openTimeMs).positions fill.symbol = some held := by
    change marked.positions fill.symbol = some held
    rw [positions_of_markInterval marks, isHeld]
  have refused : (marked.unschedule interval.btc.openTimeMs).bookFill fill =
      .error (.error (.policy .reduceOnly)) := by
    unfold Ledger.bookFill
    rw [valued, stillHeld, sells]
    simp only [bind, Except.bind, okOr, rejectIf, gt_iff_lt, exceeds, if_true, raise]
  unfold Ledger.due at due
  unfold BacktestEngine.replayInterval BacktestEngine.decide
  simp only [marks, due, attempts, refused, bind, Except.bind]

/-- Deciding leaves every market with a position. -/
theorem Decided.tracked {engine : BacktestEngine} {marked decided : Ledger} {interval : Interval}
    {next : Option Interval} {equity : Int64}
    (decides : Decided engine marked interval next equity decided)
    (tracked : marked.positions.Tracked) : decided.positions.Tracked := by
  cases decides with
  | nothing none => exact tracked
  | rests due missed => exact tracked
  | refuses due refused => exact tracked
  | @fills entry fill after due filled booked =>
    obtain ⟨_, _, _, _, -, -, -, executed⟩ := executed_of_attempt filled
    obtain ⟨held, cash, holding, fees, -, -, -, -, -, rfl⟩ :=
      bookFill_eq_ok executed.quantityPos executed.pricePos booked
    intro symbol named
    obtain ⟨quantity, isHeld⟩ := tracked symbol named
    by_cases same : symbol = fill.symbol
    · exact ⟨holding, by rw [same]; exact Function.update_self _ _ _⟩
    · exact ⟨quantity, (Function.update_of_ne same _ _).trans isHeld⟩

/-- After an interval nothing decided at its open is left in the schedule. -/
theorem Decided.waits {engine : BacktestEngine} {marked decided : Ledger} {interval : Interval}
    {next : Option Interval} {equity : Int64}
    (decides : Decided engine marked interval next equity decided) :
    ∀ entry ∈ decided.scheduled, entry ∈ marked.scheduled ∧
      entry.decisionOpenTimeMs ≠ interval.btc.openTimeMs := by
  have unscheduled : ∀ entry ∈ (marked.unschedule interval.btc.openTimeMs).scheduled,
      entry ∈ marked.scheduled ∧ entry.decisionOpenTimeMs ≠ interval.btc.openTimeMs := by
    intro entry mem
    obtain ⟨mem, other⟩ := List.mem_filter.mp mem
    exact ⟨mem, of_decide_eq_true other⟩
  cases decides with
  | nothing none =>
    intro entry mem
    have notDue := List.find?_eq_none.mp none entry mem
    exact ⟨mem, fun same => notDue (decide_eq_true same)⟩
  | rests due missed => exact unscheduled
  | refuses due refused => exact unscheduled
  | @fills entry fill after due filled booked =>
    obtain ⟨_, _, _, _, -, -, -, executed⟩ := executed_of_attempt filled
    obtain ⟨held, cash, holding, fees, -, -, -, -, -, rfl⟩ :=
      bookFill_eq_ok executed.quantityPos executed.pricePos booked
    exact unscheduled

/-- **Failures of an interval.**  Its arithmetic overflows, or it oversells. -/
theorem failsIn_replayInterval {engine : BacktestEngine} {ledger : Ledger}
    {intervals : List Interval} {index : Nat} {interval : Interval} (timeline : Timeline intervals)
    (here : intervals[index]? = some interval) (tracked : ledger.positions.Tracked)
    (fits : ∀ entry, entry ∈ ledger.scheduled →
      entry.decisionOpenTimeMs = interval.btc.openTimeMs →
        entry.proposal.symbol ∈ allowedSymbols ∧ ∃ next, intervals[index + 1]? = some next) :
    FailsIn (fun halt => Overflowed halt ∨ halt = .error (.policy .reduceOnly) ∧
        engine.Oversells ledger interval intervals[index + 1]?)
      (engine.replayInterval ledger (interval, intervals[index + 1]?)) := by
  have placed := timeline.placed interval (List.mem_of_getElem? here)
  unfold BacktestEngine.replayInterval
  refine .bind ((failsIn_markInterval tracked placed).mono fun _ => .inl) ?_
  rintro ⟨marked, equity⟩ marks
  have positions := positions_of_markInterval marks
  have scheduled : marked.scheduled = ledger.scheduled := by
    obtain ⟨funded, charged, -, rfl⟩ := markInterval_eq_ok marks
    obtain ⟨cash, funding, rfl⟩ := chargeFunding_frame charged
    exact openDay_scheduled _ _ _
  cases due : marked.due interval with
  | none =>
    unfold Ledger.due at due
    simp only [due]
    exact .ok
  | some entry =>
    have found := due
    unfold Ledger.due at found
    simp only [found]
    have isEntry := List.find?_some found
    obtain ⟨named, next, there⟩ := fits entry (scheduled ▸ List.mem_of_find?_eq_some found)
      (of_decide_eq_true isEntry)
    have trackedMarked : (marked.unschedule interval.btc.openTimeMs).positions.Tracked := by
      change marked.positions.Tracked
      rw [positions]
      exact tracked
    have attempts := @failsIn_attempt engine (marked.unschedule interval.btc.openTimeMs) _ _ _ _
      equity _ timeline here there trackedMarked named
    refine .bind ?_ fun decided decides => .bind ?_ fun _ _ => .ok
    · unfold BacktestEngine.decide
      split
      · rename_i fill filled
        obtain ⟨_, _, _, _, -, -, -, executed⟩ := executed_of_attempt filled
        refine (failsIn_bookFill (trackedMarked fill.symbol (executed.symbol ▸ named))).mono ?_
        rintro halt (overflowed | ⟨rfl, sells, held, isHeld, exceeds⟩)
        · exact .inl overflowed
        · refine .inr ⟨rfl, fill, fillAt_eq_some.mpr ⟨marked, equity, entry, marks, due, filled⟩,
            sells, held, ?_, exceeds⟩
          rw [← positions]
          exact isHeld
      · exact .ok
      · exact .ok
      · rename_i halt notPolicy failed
        rw [there] at failed
        rintro halt' same
        cases same
        rcases attempts halt failed with overflowed | ⟨error, rfl⟩
        · exact .inl overflowed
        · exact absurd rfl (notPolicy error)
    · have decided := decided_of_decide due decides
      exact (failsIn_portfolioEquity (decided.tracked (positions ▸ tracked))
        placed.symbol_mem).mono fun _ => .inl

/-! ## Failures of a replay -/

/-- The candles and the cash a replay accepts. -/
structure CandlesFit (candles : List CandleV1) (startingCash : Int64) : Prop where
  cashPos : 0 < startingCash
  enough : 6 ≤ candles.length
  whole : candles.length % 3 = 0
  checked : checkIntervals none (chunksExact candles) = .ok ()

/-- At most one proposal an interval, each for a market of the arena, and none on the last. -/
structure ScheduleFits (intervals : List Interval) (proposals : List ScheduledProposal) : Prop where
  distinct : (proposals.map ScheduledProposal.decisionOpenTimeMs).Nodup
  named : ∀ entry ∈ proposals, entry.proposal.symbol ∈ allowedSymbols
  decided : ∀ entry ∈ proposals, ∃ index interval next : _, intervals[index]? = some interval ∧
    intervals[index + 1]? = some (next : Interval) ∧
    interval.btc.openTimeMs = entry.decisionOpenTimeMs

/-- Proposals with different decision times are scheduled as they are. -/
theorem schedule_eq_ok {proposals : List ScheduledProposal}
    (distinct : (proposals.map ScheduledProposal.decisionOpenTimeMs).Nodup) :
    BacktestEngine.schedule proposals = .ok proposals := by
  suffices collects : ∀ front back : List ScheduledProposal,
      ((front ++ back).map ScheduledProposal.decisionOpenTimeMs).Nodup →
      back.foldlM (fun scheduled proposal => do
        rejectIf (scheduled.any (·.decisionOpenTimeMs = proposal.decisionOpenTimeMs)) .candleOrder
        return scheduled ++ [proposal]) front = (.ok (front ++ back) : Exec BacktestError _) by
    exact collects [] proposals distinct
  intro front back
  induction back generalizing front with
  | nil =>
    intro _
    rw [List.append_nil]
    rfl
  | cons proposal rest ih =>
    intro distinct
    have fresh : front.any (·.decisionOpenTimeMs = proposal.decisionOpenTimeMs) = false := by
      rw [List.any_eq_false]
      intro entry mem same
      rw [List.map_append, List.nodup_append] at distinct
      exact distinct.2.2 _ (List.mem_map_of_mem mem) _ (List.mem_map_of_mem List.mem_cons_self)
        (of_decide_eq_true same)
    rw [List.foldlM_cons, bind_eq_ok]
    refine ⟨front ++ [proposal], ?_, by simpa using ih (front ++ [proposal]) (by simpa using distinct)⟩
    rw [fresh]
    rfl

/-- What is still scheduled was proposed, for an interval to come; and every market is tracked. -/
structure Waiting (proposals : List ScheduledProposal) (passed : List (Interval × Option Interval))
    (ledger : Ledger) : Prop where
  tracked : ledger.positions.Tracked
  scheduled : ∀ entry ∈ ledger.scheduled, entry ∈ proposals ∧
    ∀ turn ∈ passed, entry.decisionOpenTimeMs ≠ turn.1.btc.openTimeMs

theorem waiting_of_reaches {engine : BacktestEngine} {startingCash day : Int64}
    {proposals : List ScheduledProposal} {passed : List (Interval × Option Interval)}
    {ledger : Ledger}
    (reaches : Loop.Reaches engine.replayInterval (.opening startingCash day proposals) passed
      ledger) : Waiting proposals passed ledger := by
  refine Loop.invariant (P := Waiting proposals) ⟨?_, ?_⟩ ?_ reaches
  · intro symbol named
    exact ⟨0, if_pos named⟩
  · intro entry mem
    exact ⟨mem, by simp⟩
  · rintro passed ⟨interval, next⟩ left before after - waiting stepped
    obtain ⟨marked, equity, decided, closing, peak, marks, decides, -, rfl⟩ :=
      replayInterval_eq_ok stepped
    have scheduled : marked.scheduled = before.scheduled := by
      obtain ⟨funded, charged, -, rfl⟩ := markInterval_eq_ok marks
      obtain ⟨cash, funding, rfl⟩ := chargeFunding_frame charged
      exact openDay_scheduled _ _ _
    refine ⟨decides.tracked (positions_of_markInterval marks ▸ waiting.tracked), ?_⟩
    intro entry mem
    obtain ⟨mem, other⟩ := decides.waits entry mem
    obtain ⟨proposed, earlier⟩ := waiting.scheduled entry (scheduled ▸ mem)
    refine ⟨proposed, fun turn memTurn => ?_⟩
    rcases List.mem_append.mp memTurn with old | last
    · exact earlier turn old
    · rw [List.mem_singleton.mp last]
      exact other

/-- Intervals that open at the same time are the same place. -/
theorem Timeline.index_unique {intervals : List Interval} (timeline : Timeline intervals)
    {i j : Nat} {a b : Interval} (isA : intervals[i]? = some a) (isB : intervals[j]? = some b)
    (same : a.btc.openTimeMs = b.btc.openTimeMs) : i = j := by
  have time := congrArg Int64.toInt same
  rcases Nat.le_total i j with le | le
  · obtain ⟨gap, rfl⟩ := Nat.exists_eq_add_of_le le
    have later := timeline.opens_later isA isB
    omega
  · obtain ⟨gap, rfl⟩ := Nat.exists_eq_add_of_le le
    have later := timeline.opens_later isB isA
    omega

/-- **Run lemma.**  Where candles and schedule fit, a replay returns, overflows, or stops at an
oversell. -/
theorem outcome_of_fits {engine : BacktestEngine} {candles : List CandleV1}
    {proposals : List ScheduledProposal} {startingCash : Int64}
    (candlesFit : CandlesFit candles startingCash)
    (scheduleFits : ScheduleFits (chunksExact candles) proposals) :
    FailsIn (fun halt => Overflowed halt ∨ halt = .error (.policy .reduceOnly) ∧
      ∃ index interval ledger, (chunksExact candles)[index]? = some interval ∧
        engine.LedgerBefore candles proposals startingCash index ledger ∧
        engine.Oversells ledger interval (chunksExact candles)[index + 1]?)
      (engine.runSynchronizedProposals candles proposals startingCash) := by
  obtain ⟨cashPos, enough, whole, checked⟩ := candlesFit
  have timeline := (timeline_of_checkIntervals checked).1
  have count := length_chunksExact candles
  obtain ⟨first, isFirst⟩ : ∃ first, (chunksExact candles).head? = some first := by
    rw [List.head?_eq_getElem?, List.getElem?_eq_getElem (by omega)]
    exact ⟨_, rfl⟩
  unfold BacktestEngine.runSynchronizedProposals
  refine .bind (.rejectIf fun bad => ?_) fun _ _ => ?_
  · rcases bad with notPos | short | uneven
    · exact absurd notPos (Int64.not_le.mpr cashPos)
    · omega
    · exact absurd whole uneven
  dsimp only
  rw [checked, schedule_eq_ok scheduleFits.distinct, isFirst]
  refine .bind .ok fun _ _ => .bind .ok fun scheduled same => .bind .ok fun opening isOpening => ?_
  cases same
  cases isOpening
  refine .bind ?_ fun final reaches => .bind (.rejectIf fun left => ?_) fun _ _ =>
    .bind (.okOr fun missing => ?_) fun last isLast => .bind ?_ fun _ _ => .ok
  · intro halt failed
    obtain ⟨index, ⟨interval, next⟩, before, turn, reached, fails⟩ := Loop.stops failed
    obtain ⟨here, isNext, -⟩ := placed_of_turn timeline turn
    subst isNext
    have waiting := waiting_of_reaches reached
    have fits : ∀ entry, entry ∈ before.scheduled →
        entry.decisionOpenTimeMs = interval.btc.openTimeMs →
          entry.proposal.symbol ∈ allowedSymbols ∧
            ∃ next, (chunksExact candles)[index + 1]? = some next := by
      intro entry mem same
      have proposed := (waiting.scheduled entry mem).1
      obtain ⟨place, other, next, isOther, isNext, time⟩ := scheduleFits.decided entry proposed
      have samePlace := timeline.index_unique isOther here (time.trans same)
      exact ⟨scheduleFits.named entry proposed, next, samePlace ▸ isNext⟩
    rcases failsIn_replayInterval timeline here waiting.tracked fits halt fails with
      overflowed | ⟨rfl, oversells⟩
    · exact .inl overflowed
    · exact .inr ⟨rfl, index, interval, before, here,
        ⟨proposals, first, schedule_eq_ok scheduleFits.distinct, isFirst, reached⟩, oversells⟩
  · obtain ⟨entry, mem⟩ := List.exists_mem_of_ne_nil _ left
    obtain ⟨proposed, passed⟩ := (waiting_of_reaches reaches).scheduled entry mem
    obtain ⟨index, interval, next, here, -, time⟩ := scheduleFits.decided entry proposed
    have turn : (turns (chunksExact candles))[index]? =
        some (interval, (chunksExact candles)[index + 1]?) := by
      rw [getElem?_turns, here]
      rfl
    exact absurd time.symm (passed _ (List.mem_of_getElem? turn))
  · rw [List.getLast?_eq_none_iff] at missing
    rw [missing] at count
    simp only [List.length_nil] at count
    omega
  · have placed := timeline.placed last (List.mem_of_getLast? (okOr_eq_ok.mp isLast))
    exact (failsIn_portfolioEquity (waiting_of_reaches reaches).tracked
      placed.symbol_mem).mono fun _ => .inl

/-! ## What a refusal leaves -/

/-- The refused order is counted, and the interval leaves the account it was decided on. -/
def BacktestEngine.Counted (engine : BacktestEngine) (ledger : Ledger) (interval : Interval)
    (next : Option Interval) : Prop :=
  ∃ marked equity after, BacktestEngine.markInterval ledger interval = .ok (marked, equity) ∧
    engine.replayInterval ledger (interval, next) = .ok after ∧
    after.policyRejections.toNat = ledger.policyRejections.toNat + 1 ∧
    after.cash = marked.cash ∧ after.positions = marked.positions ∧ after.fees = marked.fees ∧
    after.fills = marked.fills ∧ after.ordersToday = marked.ordersToday

/-- An order the policy refuses is counted, as long as the counter has room. -/
theorem counted_of_policyRefuses {engine : BacktestEngine} {ledger : Ledger} {interval : Interval}
    {next : Option Interval} (refuses : engine.PolicyRefuses ledger interval next)
    (room : ledger.policyRejections.toNat + 1 < 2 ^ 32) : engine.Counted ledger interval next := by
  obtain ⟨marked, equity, entry, error, marks, due, attempts⟩ := refuses
  obtain ⟨funded, charged, valued, same⟩ := markInterval_eq_ok marks
  have unchanged : marked.policyRejections = ledger.policyRejections := by
    obtain ⟨cash, funding, rfl⟩ := chargeFunding_frame charged
    rw [same]
    exact openDay_policyRejections _ _ _
  have closes : portfolioEquity marked.cash marked.positions interval.candles = .ok equity := by
    rw [same]
    simpa using valued
  have one : (1 : UInt32).toNat = 1 := by decide
  unfold Ledger.due at due
  let left := (marked.unschedule interval.btc.openTimeMs).reject
  refine ⟨marked, equity, { left with peakEquity := max left.peakEquity equity }.closeInterval
    interval equity, marks, ?_, ?_, rfl, rfl, rfl, rfl, rfl⟩
  · have closesLeft : portfolioEquity left.cash left.positions interval.candles = .ok equity :=
      closes
    unfold BacktestEngine.replayInterval BacktestEngine.decide
    simp only [marks, due, attempts, bind, Except.bind]
    rw [closesLeft]
    rfl
  · change (saturatingAddU32 marked.policyRejections 1).toNat = _
    rw [toNat_saturatingAddU32, unchanged, one]
    omega

/-- The replay fails for its arithmetic alone, and counts every order that the policy or the rule
on what is held refuses. -/
def BacktestEngine.CountsRefusals (engine : BacktestEngine) (candles : List CandleV1)
    (proposals : List ScheduledProposal) (startingCash : Int64) : Prop :=
  FailsIn Overflowed (engine.runSynchronizedProposals candles proposals startingCash) ∧
    ∀ index interval ledger, (chunksExact candles)[index]? = some interval →
      engine.LedgerBefore candles proposals startingCash index ledger →
        engine.PolicyRefuses ledger interval (chunksExact candles)[index + 1]? ∨
          engine.Oversells ledger interval (chunksExact candles)[index + 1]? →
        engine.Counted ledger interval (chunksExact candles)[index + 1]?

/-- No state the replay reaches oversells, or has counted all it can when it refuses. -/
def BacktestEngine.StaysCovered (engine : BacktestEngine) (candles : List CandleV1)
    (proposals : List ScheduledProposal) (startingCash : Int64) : Prop :=
  ∀ index interval ledger, (chunksExact candles)[index]? = some interval →
    engine.LedgerBefore candles proposals startingCash index ledger →
      ¬engine.Oversells ledger interval (chunksExact candles)[index + 1]? ∧
        (engine.PolicyRefuses ledger interval (chunksExact candles)[index + 1]? →
          ledger.policyRejections.toNat + 1 < 2 ^ 32)

/-- **Refusals.**  Over candles and a schedule that fit, a replay fails for its arithmetic alone and
counts every refused order, exactly when no state it reaches oversells. -/
theorem countsRefusals_iff {engine : BacktestEngine} {candles : List CandleV1}
    {proposals : List ScheduledProposal} {startingCash : Int64}
    (candlesFit : CandlesFit candles startingCash)
    (scheduleFits : ScheduleFits (chunksExact candles) proposals) :
    engine.CountsRefusals candles proposals startingCash ↔
      engine.StaysCovered candles proposals startingCash := by
  constructor
  · rintro ⟨-, counts⟩ index interval ledger here before
    constructor
    · intro oversells
      obtain ⟨marked, equity, after, -, steps, -⟩ :=
        counts index interval ledger here before (.inr oversells)
      rw [replayInterval_of_oversells oversells] at steps
      cases steps
    · intro refuses
      obtain ⟨marked, equity, after, -, -, counted, -⟩ :=
        counts index interval ledger here before (.inl refuses)
      have bound := after.policyRejections.toNat_lt
      omega
  · intro condition
    constructor
    · refine (outcome_of_fits candlesFit scheduleFits).mono ?_
      rintro halt (overflowed | ⟨-, index, interval, ledger, here, before, oversells⟩)
      · exact overflowed
      · exact absurd oversells (condition index interval ledger here before).1
    · rintro index interval ledger here before (refuses | oversells)
      · exact counted_of_policyRefuses refuses
          ((condition index interval ledger here before).2 refuses)
      · exact absurd oversells (condition index interval ledger here before).1

/-- A sell that is not reduce-only, of which nothing is held. -/
def sampleShort : ScheduledProposal :=
  { sampleBuy with
    proposal := { sampleBuy.proposal with side := .sell, limitPriceMicroUsdc := 1 } }

theorem candlesFit_sample : CandlesFit sampleCandles 1000000000 where
  cashPos := by decide
  enough := by decide
  whole := by decide
  checked := by decide

theorem scheduleFits_sample (side : Side) (limit : Int64) :
    ScheduleFits (chunksExact sampleCandles) [{ sampleBuy with
      proposal := { sampleBuy.proposal with side, limitPriceMicroUsdc := limit } }] where
  distinct := by simp
  named := by
    intro entry mem
    rw [List.mem_singleton.mp mem]
    exact List.mem_cons_self
  decided := by
    intro entry mem
    rw [List.mem_singleton.mp mem]
    exact ⟨0, flatInterval 0, flatInterval 900000, rfl, rfl, rfl⟩

/-- A replay that the equivalence speaks of. -/
theorem countsRefusals_iff_sample :
    sampleEngine.CountsRefusals sampleCandles [sampleBuy] 1000000000 ↔
      sampleEngine.StaysCovered sampleCandles [sampleBuy] 1000000000 :=
  countsRefusals_iff candlesFit_sample (scheduleFits_sample .buy 61000000000)

/-- The policy approves the short, and the replay aborts at it instead of counting it. -/
theorem countsRefusals_short :
    CandlesFit sampleCandles 1000000000 ∧ ScheduleFits (chunksExact sampleCandles) [sampleShort] ∧
      ¬sampleEngine.CountsRefusals sampleCandles [sampleShort] 1000000000 := by
  refine ⟨candlesFit_sample, scheduleFits_sample .sell 1, ?_⟩
  rintro ⟨fails, -⟩
  have aborts : sampleEngine.runSynchronizedProposals sampleCandles [sampleShort] 1000000000 =
      .error (.error (.policy .reduceOnly)) := by
    decide
  rcases fails _ aborts with trap | overflow
  · cases trap
  · cases overflow

end CrowAgent
