import CrowAgent.Backtest.Replay

/-!
# The times of a replay

Intervals that pass the checks lie one after the other (`Timeline`).  A fill is stamped with the
open of the interval after its decision, so the fills before an interval and the ones from it on are
told apart by their stamps (`fillsUntil_eq`), and up to an interval the replay depends on nothing
beyond the next open.
-/

namespace CrowAgent

open FixedWidth

/-! ## Intervals one after the other -/

/-- The three candles are of the arena universe and cover one interval of 15 minutes. -/
structure Interval.Placed (interval : Interval) : Prop where
  symbols : interval.candles.map CandleV1.symbol = allowedSymbols
  opens : ∀ candle ∈ interval.candles, candle.openTimeMs = interval.btc.openTimeMs
  closes : ∀ candle ∈ interval.candles,
    candle.closeTimeMs.toInt = interval.btc.openTimeMs.toInt + 899999
  decimals : ∀ candle ∈ interval.candles, candle.sizeDecimals.toNat ≤ 8

/-- Every interval is in its place, right after the one before it. -/
structure Timeline (intervals : List Interval) : Prop where
  placed : ∀ interval ∈ intervals, interval.Placed
  contiguous : ∀ {index interval next}, intervals[index]? = some interval →
    intervals[index + 1]? = some next →
    next.btc.openTimeMs.toInt = interval.btc.openTimeMs.toInt + 900000

theorem checkCandle_eq_ok {openTime : Int64} {previous : Option CandleV1} {symbol : String}
    {candle : CandleV1} (ok : checkCandle openTime previous symbol candle = .ok ()) :
    candle.symbol = symbol ∧ candle.openTimeMs = openTime ∧
      candle.closeTimeMs.toInt = openTime.toInt + 899999 ∧ candle.sizeDecimals.toNat ≤ 8 ∧
      ∀ before, previous = some before →
        candle.openTimeMs.toInt = before.openTimeMs.toInt + 900000 := by
  have interval : (900000 : Int64).toInt = 900000 := by decide
  have one : (1 : Int64).toInt = 1 := by decide
  have eight : (8 : UInt8).toNat = 8 := by decide
  simp only [checkCandle, bind_eq_ok, rejectIf_eq_ok, exists_const, addI64_eq_ok, subI64_eq_ok,
    not_or, not_not, gt_iff_lt, UInt8.lt_iff_toNat_lt, not_lt, interval, one, eight] at ok
  obtain ⟨⟨isSymbol, isOpen⟩, nextOpen, nextOpenEq, close, closeEq, ⟨isClose, decimals⟩, follows⟩ :=
    ok
  refine ⟨isSymbol, isOpen, by rw [isClose]; omega, decimals, ?_⟩
  rintro before rfl
  simp only [bind_eq_ok, addI64_eq_ok, rejectIf_eq_ok, not_not, interval] at follows
  obtain ⟨expected, expectedEq, same⟩ := follows
  rw [same, expectedEq]

theorem placed_of_checkInterval {previous : Option Interval} {interval : Interval}
    (ok : checkInterval previous interval = .ok ()) :
    interval.Placed ∧ ∀ before, previous = some before →
      interval.btc.openTimeMs.toInt = before.btc.openTimeMs.toInt + 900000 := by
  simp only [checkInterval, bind_eq_ok] at ok
  obtain ⟨⟨⟩, btc, ⟨⟩, eth, sol⟩ := ok
  obtain ⟨btcSymbol, btcOpen, btcClose, btcDecimals, follows⟩ := checkCandle_eq_ok btc
  obtain ⟨ethSymbol, ethOpen, ethClose, ethDecimals, -⟩ := checkCandle_eq_ok eth
  obtain ⟨solSymbol, solOpen, solClose, solDecimals, -⟩ := checkCandle_eq_ok sol
  refine ⟨⟨?_, ?_, ?_, ?_⟩, ?_⟩
  · simp [Interval.candles, allowedSymbols, btcSymbol, ethSymbol, solSymbol]
  · simp [Interval.candles, ethOpen, solOpen]
  · simp [Interval.candles, btcClose, ethClose, solClose]
  · simp [Interval.candles, btcDecimals, ethDecimals, solDecimals]
  · rintro before rfl
    exact follows before.btc rfl

/-- The checks of the replay accept only a timeline. -/
theorem timeline_of_checkIntervals {previous : Option Interval} {intervals : List Interval}
    (ok : checkIntervals previous intervals = .ok ()) :
    Timeline intervals ∧ ∀ before first, previous = some before → intervals.head? = some first →
      first.btc.openTimeMs.toInt = before.btc.openTimeMs.toInt + 900000 := by
  induction intervals generalizing previous with
  | nil => exact ⟨⟨by simp, by simp⟩, by simp⟩
  | cons interval rest ih =>
    simp only [checkIntervals, bind_eq_ok] at ok
    obtain ⟨⟨⟩, here, there⟩ := ok
    obtain ⟨placed, follows⟩ := placed_of_checkInterval here
    obtain ⟨timeline, linked⟩ := ih there
    refine ⟨⟨?_, ?_⟩, ?_⟩
    · intro other mem
      rcases List.mem_cons.mp mem with rfl | mem
      · exact placed
      · exact timeline.placed other mem
    · intro index a b isA isB
      cases index with
      | zero =>
        cases isA
        exact linked interval b rfl (by simpa [List.head?_eq_getElem?] using isB)
      | succ index => exact timeline.contiguous isA isB
    · rintro before first rfl isFirst
      cases isFirst
      exact follows before rfl

namespace Timeline

variable {intervals : List Interval}

/-- Later intervals open later. -/
theorem opens_later (timeline : Timeline intervals) {index : Nat} {interval : Interval}
    (here : intervals[index]? = some interval) {gap : Nat} {later : Interval}
    (there : intervals[index + gap]? = some later) :
    later.btc.openTimeMs.toInt = interval.btc.openTimeMs.toInt + 900000 * gap := by
  induction gap generalizing later with
  | zero =>
    rw [Nat.add_zero, here, Option.some.injEq] at there
    rw [there]
    simp
  | succ gap ih =>
    have fits : index + gap < intervals.length := by
      have := (List.getElem?_eq_some_iff.mp there).1
      omega
    have middle : intervals[index + gap]? = some intervals[index + gap] :=
      List.getElem?_eq_getElem fits
    rw [timeline.contiguous middle there, ih middle]
    push_cast
    ring

theorem drop (timeline : Timeline intervals) (count : Nat) : Timeline (intervals.drop count) where
  placed := fun interval mem => timeline.placed interval (List.mem_of_mem_drop mem)
  contiguous := by
    intro index interval next isInterval isNext
    rw [List.getElem?_drop] at isInterval isNext
    exact timeline.contiguous isInterval isNext

end Timeline

/-- The candle at the place of a symbol is one of the interval. -/
theorem mem_of_candle? {interval : Interval} {symbol : String} {candle : CandleV1}
    (isCandle : interval.candle? symbol = some candle) : candle ∈ interval.candles := by
  obtain ⟨index, -, at'⟩ := Option.bind_eq_some_iff.mp isCandle
  exact List.mem_of_getElem? at'

/-! ## Stamps -/

/-- The fill of an interval is stamped with the open of the next one. -/
theorem stamped_of_attempt {engine : BacktestEngine} {ledger : Ledger} {interval : Interval}
    {next : Option Interval} {equity : Int64} {proposal : Proposal} {fill : SimulatedFill}
    (placed : ∀ following, next = some following → following.Placed)
    (ok : engine.attempt ledger interval next equity proposal = .ok (some fill)) :
    ∃ following, next = some following ∧
      fill.candleOpenTimeMs = following.btc.openTimeMs := by
  obtain ⟨following, decision, nextCandle, position, isNext, -, isNextCandle, executed⟩ :=
    executed_of_attempt ok
  refine ⟨following, isNext, ?_⟩
  rw [executed.stamped]
  exact (placed following isNext).opens nextCandle (mem_of_candle? isNextCandle)

/-- **Step lemma.**  An interval adds at most one fill, stamped with the next open, and one point of
the curve. -/
theorem replayInterval_adds {engine : BacktestEngine} {before after : Ledger} {interval : Interval}
    {next : Option Interval}
    (placed : ∀ following, next = some following → following.Placed)
    (ok : engine.replayInterval before (interval, next) = .ok after) :
    (∃ point, after.equityCurve = before.equityCurve ++ [point]) ∧
      (after.fills = before.fills ∨ ∃ fill following, after.fills = before.fills ++ [fill] ∧
        next = some following ∧ fill.candleOpenTimeMs = following.btc.openTimeMs) := by
  obtain ⟨marked, equity, decided, closing, peak, marks, decides, -, rfl⟩ :=
    replayInterval_eq_ok ok
  obtain ⟨funded, charged, valued, rfl⟩ := markInterval_eq_ok marks
  obtain ⟨cash, funding, rfl⟩ := chargeFunding_frame charged
  have curve := decides.frame.1
  rw [openDay_equityCurve] at curve
  refine ⟨⟨⟨interval.btc.closeTimeMs, closing⟩, ?_⟩, ?_⟩
  · change decided.equityCurve ++ _ = _
    rw [curve]
  · rcases decides.fills_eq with same | ⟨entry, fill, due, filled, added⟩
    · left
      change decided.fills = before.fills
      rw [same, openDay_fills]
    · right
      obtain ⟨following, isNext, stamped⟩ := stamped_of_attempt placed filled
      refine ⟨fill, following, ?_, isNext, stamped⟩
      change decided.fills = before.fills ++ [fill]
      rw [added, openDay_fills]

section run

variable {engine : BacktestEngine} {startingCash day : Int64} {scheduled : List ScheduledProposal}
  {intervals : List Interval} {ledger final : Ledger} {index : Nat} {interval : Interval}

theorem placed_of_turn (timeline : Timeline intervals) {next : Option Interval}
    (turn : (turns intervals)[index]? = some (interval, next)) :
    intervals[index]? = some interval ∧ intervals[index + 1]? = next ∧
      ∀ following, next = some following → following.Placed := by
  rw [getElem?_turns, Option.map_eq_some_iff] at turn
  obtain ⟨same, isInterval, pair⟩ := turn
  cases pair
  refine ⟨isInterval, rfl, ?_⟩
  intro following isNext
  exact timeline.placed following (List.mem_of_getElem? isNext)

/-- Before an interval every fill is stamped by its open. -/
theorem stamped_before (timeline : Timeline intervals)
    (reaches : Loop.Reaches engine.replayInterval (.opening startingCash day scheduled)
      ((turns intervals).take index) ledger)
    (here : intervals[index]? = some interval) :
    ∀ fill ∈ ledger.fills, fill.candleOpenTimeMs.toInt ≤ interval.btc.openTimeMs.toInt := by
  let P (passed : List (Interval × Option Interval)) (ledger : Ledger) : Prop :=
    ∀ interval, intervals[passed.length]? = some interval →
      ∀ fill ∈ ledger.fills, fill.candleOpenTimeMs.toInt ≤ interval.btc.openTimeMs.toInt
  have fits : index < (turns intervals).length := by
    rw [length_turns]
    exact (List.getElem?_eq_some_iff.mp here).1
  have holds : P ((turns intervals).take index) ledger := by
    refine Loop.invariant_at (P := P) ?_ ?_ (List.append_nil _).symm reaches
      (Loop.reaches_nil.mpr rfl)
    · intro interval _ fill mem
      simp [Ledger.opening] at mem
    · rintro passed ⟨current, next⟩ left before after split - stepped - bounded
      intro following isFollowing fill mem
      have turn : (turns intervals)[passed.length]? = some (current, next) := by
        have inside : ((turns intervals).take index)[passed.length]? = some (current, next) := by
          rw [split]
          simp
        rw [List.getElem?_take] at inside
        exact (Option.ite_none_right_eq_some.mp inside).2
      obtain ⟨isCurrent, isNext, placed⟩ := placed_of_turn timeline turn
      rw [List.length_append, List.length_singleton] at isFollowing
      have later := timeline.contiguous isCurrent isFollowing
      rcases (replayInterval_adds placed stepped).2 with same | ⟨new, other, added, isOther,
        stamped⟩
      · rw [same] at mem
        have bound := bounded current isCurrent fill mem
        omega
      · rw [added] at mem
        rcases List.mem_append.mp mem with old | last
        · have bound := bounded current isCurrent fill old
          omega
        · rw [List.mem_singleton.mp last, stamped]
          rw [← isNext, isFollowing, Option.some.injEq] at isOther
          rw [isOther]
  have size : ((turns intervals).take index).length = index := by
    rw [List.length_take]
    omega
  exact holds interval (by rw [size]; exact here)

/-- From an interval on, the replay only appends: points to the curve, and fills stamped after it. -/
theorem stamped_from (timeline : Timeline intervals)
    (rest : Loop.Reaches engine.replayInterval ledger ((turns intervals).drop index) final) :
    (∃ points, final.equityCurve = ledger.equityCurve ++ points) ∧
      ∃ more, final.fills = ledger.fills ++ more ∧ ∀ fill ∈ more, ∀ interval,
        intervals[index]? = some interval →
          interval.btc.openTimeMs.toInt + 900000 ≤ fill.candleOpenTimeMs.toInt := by
  let P (passed : List (Interval × Option Interval)) (now : Ledger) : Prop :=
    (∃ points, now.equityCurve = ledger.equityCurve ++ points) ∧
      ∃ more, now.fills = ledger.fills ++ more ∧ ∀ fill ∈ more, ∀ interval,
        intervals[index]? = some interval →
          interval.btc.openTimeMs.toInt + 900000 ≤ fill.candleOpenTimeMs.toInt
  have holds : P ((turns intervals).drop index) final := by
    refine Loop.invariant (P := P) ?_ ?_ rest
    · exact ⟨⟨[], (List.append_nil _).symm⟩, [], (List.append_nil _).symm, by simp⟩
    · rintro passed ⟨current, next⟩ left before after split ⟨⟨points, curve⟩, more, fills,
        stamps⟩ stepped
      have turn : (turns intervals)[index + passed.length]? = some (current, next) := by
        rw [← List.getElem?_drop, split]
        simp
      obtain ⟨isCurrent, isNext, placed⟩ := placed_of_turn timeline turn
      obtain ⟨⟨point, added⟩, adds⟩ := replayInterval_adds placed stepped
      refine ⟨⟨points ++ [point], by rw [added, curve, List.append_assoc]⟩, ?_⟩
      rcases adds with same | ⟨new, following, filled, isFollowing, stamped⟩
      · exact ⟨more, by rw [same, fills], stamps⟩
      · refine ⟨more ++ [new], by rw [filled, fills, List.append_assoc], ?_⟩
        intro fill mem interval here
        rcases List.mem_append.mp mem with old | last
        · exact stamps fill old interval here
        · have later := timeline.opens_later here isCurrent
          have next := timeline.contiguous isCurrent (isNext.trans isFollowing)
          rw [List.mem_singleton.mp last, stamped]
          omega
  exact holds

end run

end CrowAgent
