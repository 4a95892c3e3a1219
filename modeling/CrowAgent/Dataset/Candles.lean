import CrowAgent.Backtest.Rejections

/-!
# Valid candles

`validateCandles` walks a flat list of candles with the last open time and the decimals of every
market, and checks the intervals they fall into.  What it accepts the replay accepts as well:
`checkIntervals_of_validateCandles`.
-/

namespace CrowAgent

open FixedWidth

inductive DatasetError : Type
  | io
  | arrow
  | parquet
  | protocol (error : ProtocolError)
  | candles
  | instruments
  | column
  | timestamp
  deriving DecidableEq, Repr

structure InstrumentV1 : Type where
  symbol : String
  sizeDecimals : UInt8
  maxLeverage : UInt16
  isDelisted : Bool
  deriving DecidableEq, Repr

def candleIntervalMillis : Int64 := 900000

def fundingIntervalMillis : Int := 3600000

/-- What the validation remembers of the candles it has passed. -/
structure CandleWalk : Type where
  previousKey : Option (Int64 × Nat) := none
  lastOpen : String → Option Int64 := fun _ => none
  instrumentDecimals : String → Option UInt8 := fun _ => none

/-- `symbol_order`. -/
def symbolOrder (symbol : String) : Option Nat := allowedSymbols.idxOf? symbol

/-- The order of the keys: by open time, then by market. -/
def keyLe (a b : Int64 × Nat) : Bool := a.1 < b.1 || (a.1 = b.1 && a.2 ≤ b.2)

/-- The fields of a candle fit each other. -/
def CandleV1.Coherent (candle : CandleV1) : Prop :=
  ¬(candle.openMicroUsdc ≤ 0
    ∨ candle.highMicroUsdc < candle.openMicroUsdc
    ∨ candle.highMicroUsdc < candle.closeMicroUsdc
    ∨ candle.lowMicroUsdc > candle.openMicroUsdc
    ∨ candle.lowMicroUsdc > candle.closeMicroUsdc
    ∨ candle.volumeE8 < 0
    ∨ candle.sizeDecimals > 8
    ∨ candle.fundingRateE12 ≠ 0 ∧ candle.openTimeMs.toInt.emod fundingIntervalMillis ≠ 0)

instance (candle : CandleV1) : Decidable candle.Coherent :=
  inferInstanceAs (Decidable (¬_))

/-- A candle opens right after the last one of its market. -/
def checkFollows (lastOpen : Option Int64) (openTime : Int64) : Exec DatasetError Unit :=
  match lastOpen with
  | none => return ()
  | some previous => do
    let expected ← addI64 previous candleIntervalMillis
    rejectIf (openTime ≠ expected) .candles

/-- One candle of the walk. -/
def validateCandle (walk : CandleWalk) (candle : CandleV1) : Exec DatasetError CandleWalk := do
  let order ← okOr (symbolOrder candle.symbol) .candles
  let key := (candle.openTimeMs, order)
  rejectIf (walk.previousKey.any (keyLe key ·)) .candles
  let nextOpenTime ← addI64 candle.openTimeMs candleIntervalMillis
  let closeTime ← subI64 nextOpenTime 1
  rejectIf (candle.closeTimeMs ≠ closeTime ∨ ¬candle.Coherent) .candles
  checkFollows (walk.lastOpen candle.symbol) candle.openTimeMs
  rejectIf ((walk.instrumentDecimals candle.symbol).any (· ≠ candle.sizeDecimals)) .candles
  return {
    previousKey := some key
    lastOpen := Function.update walk.lastOpen candle.symbol (some candle.openTimeMs)
    instrumentDecimals :=
      Function.update walk.instrumentDecimals candle.symbol (some candle.sizeDecimals) }

/-- The number of markets the walk has met. -/
def CandleWalk.marketCount (walk : CandleWalk) : Nat :=
  (allowedSymbols.filter fun symbol => (walk.lastOpen symbol).isSome).length

/-- Three candles in a row are the three markets at one time. -/
def Interval.InOrder (interval : Interval) : Prop :=
  ¬(interval.btc.symbol ≠ "BTC" ∨ interval.eth.symbol ≠ "ETH" ∨ interval.sol.symbol ≠ "SOL"
    ∨ interval.btc.openTimeMs ≠ interval.eth.openTimeMs
    ∨ interval.btc.openTimeMs ≠ interval.sol.openTimeMs)

instance (interval : Interval) : Decidable interval.InOrder :=
  inferInstanceAs (Decidable (¬_))

/-- `validate_candles`. -/
def validateCandles (candles : List CandleV1) : Exec DatasetError Unit := do
  rejectIf (candles = [] ∨ candles.length % 3 ≠ 0) .candles
  let walk ← candles.foldlM validateCandle {}
  rejectIf (walk.marketCount ≠ 3) .candles
  rejectIf (¬∀ interval ∈ chunksExact candles, interval.InOrder) .candles

/-- `validate_instruments`. -/
def validateInstruments (instruments : List InstrumentV1) (candles : List CandleV1) :
    Exec DatasetError Unit := do
  rejectIf (instruments.length ≠ 3 ∨ instruments.map InstrumentV1.symbol ≠ allowedSymbols
    ∨ instruments.any fun instrument =>
        instrument.sizeDecimals > 8 || instrument.maxLeverage = 0 || instrument.isDelisted)
    .instruments
  rejectIf (instruments.any fun instrument =>
      (candles.filter (·.symbol = instrument.symbol)).any
        (·.sizeDecimals ≠ instrument.sizeDecimals))
    .instruments

/-! ## What the validation accepts -/

theorem toInt_candleIntervalMillis : candleIntervalMillis.toInt = 900000 := by decide

/-- A candle the walk passes is whole, follows the last one of its market, and is remembered. -/
theorem validateCandle_eq_ok {walk after : CandleWalk} {candle : CandleV1}
    (ok : validateCandle walk candle = .ok after) :
    (∃ nextOpen : Int64, nextOpen.toInt = candle.openTimeMs.toInt + 900000 ∧
      candle.closeTimeMs.toInt = nextOpen.toInt - 1) ∧ candle.Coherent ∧
      (∀ previous, walk.lastOpen candle.symbol = some previous →
        candle.openTimeMs.toInt = previous.toInt + 900000) ∧
      after.lastOpen = Function.update walk.lastOpen candle.symbol (some candle.openTimeMs) := by
  have one : (1 : Int64).toInt = 1 := by decide
  simp only [validateCandle, bind_eq_ok, okOr_eq_ok, rejectIf_eq_ok, exists_const, addI64_eq_ok,
    subI64_eq_ok, not_or, not_not, toInt_candleIntervalMillis, one] at ok
  obtain ⟨order, -, -, nextOpen, nextOpenEq, close, closeEq, ⟨isClose, coherent⟩, ⟨⟩, follows, -,
    same⟩ := ok
  cases same
  refine ⟨⟨nextOpen, nextOpenEq, by rw [isClose, closeEq]⟩, coherent, ?_, rfl⟩
  intro previous isPrevious
  simp only [checkFollows, isPrevious, bind_eq_ok, addI64_eq_ok, rejectIf_eq_ok, not_not,
    toInt_candleIntervalMillis] at follows
  obtain ⟨expected, expectedEq, isExpected⟩ := follows
  rw [isExpected, expectedEq]

/-- A candle the walk passes does not open before the one before it. -/
theorem openTime_of_validateCandle {walk after : CandleWalk} {candle : CandleV1}
    (ok : validateCandle walk candle = .ok after) :
    (∀ previous, walk.previousKey = some previous → previous.1 ≤ candle.openTimeMs) ∧
      after.previousKey.map (·.1) = some candle.openTimeMs := by
  simp only [validateCandle, bind_eq_ok, okOr_eq_ok, rejectIf_eq_ok, exists_const] at ok
  obtain ⟨order, -, above, -, -, -, -, -, ⟨⟩, -, -, same⟩ := ok
  cases same
  refine ⟨fun previous isPrevious => ?_, rfl⟩
  rw [isPrevious, Option.any_some, keyLe, Bool.or_eq_true, not_or, decide_eq_true_eq] at above
  exact Int64.not_lt.mp above.1

theorem openTime_le_of_walk {candles : List CandleV1} {walk final : CandleWalk}
    (ok : candles.foldlM validateCandle walk = .ok final) {openTime : Int64}
    (before : walk.previousKey.map (·.1) = some openTime) :
    ∀ candle ∈ candles, openTime ≤ candle.openTimeMs := by
  induction candles generalizing walk openTime with
  | nil => simp
  | cons candle rest ih =>
    rw [List.foldlM_cons, bind_eq_ok] at ok
    obtain ⟨after, first, ok⟩ := ok
    obtain ⟨above, now⟩ := openTime_of_validateCandle first
    obtain ⟨previous, isPrevious, rfl⟩ := Option.map_eq_some_iff.mp before
    have here := above previous isPrevious
    rw [List.forall_mem_cons]
    exact ⟨here, fun other mem => Int64.le_trans here (ih ok now other mem)⟩

/-- Valid candles span some time. -/
theorem window_of_validateCandles {candles : List CandleV1}
    (valid : validateCandles candles = .ok ()) :
    ∃ first last, candles.head? = some first ∧ candles.getLast? = some last ∧
      first.openTimeMs.toInt < last.closeTimeMs.toInt := by
  simp only [validateCandles, bind_eq_ok, rejectIf_eq_ok, exists_const, not_or, not_not] at valid
  obtain ⟨⟨some, -⟩, walk, walked, -, -⟩ := valid
  obtain ⟨first, rest, rfl⟩ := List.exists_cons_of_ne_nil some
  have passed : ∀ candle ∈ first :: rest, ∃ walk after, validateCandle walk candle = .ok after := by
    intro candle mem
    obtain ⟨index, here⟩ := List.mem_iff_getElem?.mp mem
    have reaches : Loop.Reaches validateCandle {} (first :: rest) walk := walked
    obtain ⟨walk, after, -, ok, -⟩ := reaches.before here
    exact ⟨walk, after, ok⟩
  have ordered : ∀ candle ∈ first :: rest, first.openTimeMs ≤ candle.openTimeMs := by
    rw [List.foldlM_cons, bind_eq_ok] at walked
    obtain ⟨after, begins, walked⟩ := walked
    rw [List.forall_mem_cons]
    exact ⟨Int64.le_refl _,
      openTime_le_of_walk walked (openTime_of_validateCandle begins).2⟩
  have last := List.getLast_mem (List.cons_ne_nil first rest)
  obtain ⟨walk, after, ok⟩ := passed _ last
  obtain ⟨⟨nextOpen, nextOpenEq, closeEq⟩, -⟩ := validateCandle_eq_ok ok
  have le := Int64.le_iff_toInt_le.mp (ordered _ last)
  exact ⟨first, _, rfl, List.getLast?_eq_some_getLast _, by omega⟩

/-- A candle the walk passes is one the replay accepts in its place. -/
theorem checkCandle_of_validateCandle {walk after : CandleWalk} {candle : CandleV1}
    {openTime : Int64} {previous : Option CandleV1} {symbol : String}
    (ok : validateCandle walk candle = .ok after) (isSymbol : candle.symbol = symbol)
    (isOpen : candle.openTimeMs = openTime)
    (remembers : ∀ before, previous = some before →
      walk.lastOpen symbol = some before.openTimeMs) :
    checkCandle openTime previous symbol candle = .ok () := by
  have interval : (900000 : Int64).toInt = 900000 := by decide
  have one : (1 : Int64).toInt = 1 := by decide
  obtain ⟨⟨nextOpen, nextOpenEq, closeEq⟩, coherent, follows, -⟩ := validateCandle_eq_ok ok
  subst isSymbol isOpen
  have decimals : ¬candle.sizeDecimals > 8 := fun above =>
    coherent (.inr (.inr (.inr (.inr (.inr (.inr (.inl above)))))))
  simp only [checkCandle, bind_eq_ok, rejectIf_eq_ok, exists_const, addI64_eq_ok, subI64_eq_ok,
    interval, one]
  refine ⟨by simp, nextOpen, nextOpenEq, candle.closeTimeMs, closeEq, ?_, ?_⟩
  · rintro (differs | above)
    · exact differs rfl
    · exact decimals above
  · cases isPrevious : previous with
    | none => rfl
    | some before =>
      simp only [bind_eq_ok, addI64_eq_ok, rejectIf_eq_ok, not_not, interval]
      exact ⟨candle.openTimeMs, follows _ (remembers before isPrevious), rfl⟩

/-- The walk remembers the opens of an interval. -/
def CandleWalk.Remembers (walk : CandleWalk) (interval : Interval) : Prop :=
  walk.lastOpen "BTC" = some interval.btc.openTimeMs ∧
    walk.lastOpen "ETH" = some interval.eth.openTimeMs ∧
    walk.lastOpen "SOL" = some interval.sol.openTimeMs

/-- **Walk and check.**  Intervals whose candles the walk passes are accepted by the replay. -/
theorem checkIntervals_of_walk {intervals : List Interval} {previous : Option Interval}
    {walk final : CandleWalk} (inOrder : ∀ interval ∈ intervals, interval.InOrder)
    (remembers : ∀ before, previous = some before → walk.Remembers before)
    (ok : (intervals.flatMap Interval.candles).foldlM validateCandle walk = .ok final) :
    checkIntervals previous intervals = .ok () := by
  induction intervals generalizing previous walk with
  | nil => rfl
  | cons interval rest ih =>
    have order := inOrder interval List.mem_cons_self
    simp only [Interval.InOrder, not_or, not_not] at order
    obtain ⟨btcSymbol, ethSymbol, solSymbol, ethOpen, solOpen⟩ := order
    rw [List.flatMap_cons, List.foldlM_append, bind_eq_ok] at ok
    obtain ⟨walk₃, three, ok⟩ := ok
    simp only [Interval.candles, List.foldlM_cons, List.foldlM_nil, bind_eq_ok, pure, Except.pure,
      Except.ok.injEq, exists_eq_right] at three
    obtain ⟨walk₁, btc, walk₂, eth, sol⟩ := three
    have last₁ := (validateCandle_eq_ok btc).2.2.2
    have last₂ := (validateCandle_eq_ok eth).2.2.2
    have last₃ := (validateCandle_eq_ok sol).2.2.2
    rw [btcSymbol] at last₁
    rw [ethSymbol] at last₂
    rw [solSymbol] at last₃
    have checkedBtc := @checkCandle_of_validateCandle _ _ _ _ (previous.map Interval.btc) _ btc
      btcSymbol rfl (by
        rintro _ isPrevious
        obtain ⟨before, rfl, rfl⟩ := Option.map_eq_some_iff.mp isPrevious
        exact (remembers before rfl).1)
    have checkedEth := @checkCandle_of_validateCandle _ _ _ _ (previous.map Interval.eth) _ eth
      ethSymbol ethOpen.symm (by
        rintro _ isPrevious
        obtain ⟨before, rfl, rfl⟩ := Option.map_eq_some_iff.mp isPrevious
        rw [last₁, Function.update_of_ne (by decide)]
        exact (remembers before rfl).2.1)
    have checkedSol := @checkCandle_of_validateCandle _ _ _ _ (previous.map Interval.sol) _ sol
      solSymbol solOpen.symm (by
        rintro _ isPrevious
        obtain ⟨before, rfl, rfl⟩ := Option.map_eq_some_iff.mp isPrevious
        rw [last₂, last₁, Function.update_of_ne (by decide), Function.update_of_ne (by decide)]
        exact (remembers before rfl).2.2)
    have remembersNow : walk₃.Remembers interval := by
      refine ⟨?_, ?_, ?_⟩
      · rw [last₃, last₂, last₁, Function.update_of_ne (by decide),
          Function.update_of_ne (by decide), Function.update_self]
      · rw [last₃, last₂, Function.update_of_ne (by decide), Function.update_self]
      · rw [last₃, Function.update_self]
    have later := @ih (some interval) walk₃
      (fun other mem => inOrder other (List.mem_cons_of_mem _ mem))
      (by rintro before ⟨⟩; exact remembersNow) ok
    rw [checkIntervals, checkInterval, checkedBtc, checkedEth, checkedSol]
    exact later

/-- A list of whole intervals is the list of their candles. -/
theorem flatMap_chunksExact {candles : List CandleV1} (whole : candles.length % 3 = 0) :
    (chunksExact candles).flatMap Interval.candles = candles := by
  induction candles using chunksExact.induct with
  | case1 btc eth sol rest ih =>
    simp only [List.length_cons] at whole
    rw [chunksExact, List.flatMap_cons, ih (by omega)]
    rfl
  | case2 candles short =>
    rcases candles with _ | ⟨btc, _ | ⟨eth, _ | ⟨sol, rest⟩⟩⟩
    · rfl
    · simp at whole
    · simp at whole
    · exact absurd rfl (short btc eth sol rest)

/-- **Valid candles fit the replay.**  What `validate_candles` accepts passes every check a replay
makes of its candles. -/
theorem candlesFit_of_validateCandles {candles : List CandleV1} {startingCash : Int64}
    (valid : validateCandles candles = .ok ()) (enough : 2 ≤ (chunksExact candles).length)
    (cashPos : 0 < startingCash) : CandlesFit candles startingCash := by
  simp only [validateCandles, bind_eq_ok, rejectIf_eq_ok, exists_const, not_or, not_not] at valid
  obtain ⟨⟨-, whole⟩, walk, walked, -, inOrder⟩ := valid
  have count := length_chunksExact candles
  refine ⟨cashPos, by omega, whole, ?_⟩
  refine @checkIntervals_of_walk _ none {} walk inOrder (by simp) ?_
  rw [flatMap_chunksExact whole]
  exact walked

/-- What a replay of valid candles asks of its schedule is the only reason for a candle-order
error. -/
structure CandlesAccepted (engine : BacktestEngine) (candles : List CandleV1)
    (proposals : List ScheduledProposal) (startingCash : Int64) : Prop where
  start : ¬(startingCash ≤ 0 ∨ candles.length < 6 ∨ candles.length % 3 ≠ 0)
  checked : checkIntervals none (chunksExact candles) = .ok ()
  pairs : ∀ index interval next proposal decision nextCandle,
    (chunksExact candles)[index]? = some interval →
      (chunksExact candles)[index + 1]? = some next →
      interval.candle? proposal.symbol = some decision →
      next.candle? proposal.symbol = some nextCandle → IsPair decision nextCandle proposal
  blamesSchedule : engine.runSynchronizedProposals candles proposals startingCash =
    .error (.error .candleOrder) → ¬ScheduleFits (chunksExact candles) proposals

/-- **Replays of valid candles.**  The replay never complains about candles that were validated. -/
theorem candlesAccepted_of_validateCandles {engine : BacktestEngine} {candles : List CandleV1}
    {proposals : List ScheduledProposal} {startingCash : Int64}
    (valid : validateCandles candles = .ok ()) (enough : 2 ≤ (chunksExact candles).length)
    (cashPos : 0 < startingCash) : CandlesAccepted engine candles proposals startingCash := by
  have fit := candlesFit_of_validateCandles valid enough cashPos
  refine ⟨?_, fit.checked, ?_, ?_⟩
  · rintro (notPos | short | uneven)
    · exact Int64.not_le.mpr cashPos notPos
    · have long := fit.enough
      omega
    · exact uneven fit.whole
  · intro index interval next proposal decision nextCandle here there isDecision isNext
    exact isPair_of_timeline (timeline_of_checkIntervals fit.checked).1 here there isDecision isNext
  · intro failed scheduleFits
    rcases outcome_of_fits fit scheduleFits _ failed with (trap | overflow) | ⟨refused, -⟩
    · cases trap
    · cases overflow
    · cases refused

theorem candlesAccepted_sample :
    CandlesAccepted sampleEngine sampleCandles [sampleBuy] 1000000000 :=
  candlesAccepted_of_validateCandles (by decide) (by decide) (by decide)

end CrowAgent
