import CrowAgent.Dataset.Candles

/-!
# What the validation accepts

`Passes` says of a list of candles and the next one what the walk of `validateCandles` checks, in
exact integers and without its state.  From it follow when the validation overflows, what it
accepts (`validateCandles_eq_ok_iff`), and what it does not check: that prices are positive.
-/

namespace CrowAgent

open FixedWidth

/-- What candles are ordered by. -/
def CandleV1.key? (candle : CandleV1) : Option (Int64 × Nat) :=
  (symbolOrder candle.symbol).map fun order => (candle.openTimeMs, order)

/-- The last candle of a market. -/
def lastOf (symbol : String) (candles : List CandleV1) : Option CandleV1 :=
  (candles.filter (·.symbol = symbol)).getLast?

/-- A candle of the arena that is later than the one before it. -/
def Arrives (before : List CandleV1) (candle : CandleV1) : Prop :=
  ∃ key, candle.key? = some key ∧
    ∀ previous, before.getLast?.bind CandleV1.key? = some previous → keyLe key previous = false

/-- The end of the interval of a candle is a 64-bit time. -/
def CandleV1.TimesFit (candle : CandleV1) : Prop := candle.openTimeMs.toInt + 900000 < 2 ^ 63

/-- A candle that the walk passes after some others. -/
structure Passes (before : List CandleV1) (candle : CandleV1) : Prop where
  arrives : Arrives before candle
  timesFit : candle.TimesFit
  closes : candle.closeTimeMs.toInt = candle.openTimeMs.toInt + 900000 - 1
  coherent : candle.Coherent
  follows : ∀ previous, lastOf candle.symbol before = some previous →
    candle.openTimeMs.toInt = previous.openTimeMs.toInt + 900000
  decimals : ∀ previous, lastOf candle.symbol before = some previous →
    candle.sizeDecimals = previous.sizeDecimals

/-- Every candle passes after those before it. -/
def Walked (candles : List CandleV1) : Prop :=
  ∀ index candle, candles[index]? = some candle → Passes (candles.take index) candle

/-- The candles the validation accepts. -/
structure Accepted (candles : List CandleV1) : Prop where
  some : candles ≠ []
  whole : candles.length % 3 = 0
  walked : Walked candles
  inOrder : ∀ interval ∈ chunksExact candles, interval.InOrder

/-! ## The walk -/

/-- The walk remembers some candles. -/
structure CandleWalk.Of (walk : CandleWalk) (before : List CandleV1) : Prop where
  key : walk.previousKey = before.getLast?.bind CandleV1.key?
  opens : ∀ symbol, walk.lastOpen symbol = (lastOf symbol before).map CandleV1.openTimeMs
  decimals : ∀ symbol, walk.instrumentDecimals symbol =
    (lastOf symbol before).map CandleV1.sizeDecimals

theorem CandleWalk.of_nil : CandleWalk.Of {} [] := ⟨rfl, fun _ => rfl, fun _ => rfl⟩

theorem lastOf_concat (symbol : String) (before : List CandleV1) (candle : CandleV1) :
    lastOf symbol (before ++ [candle]) =
      if candle.symbol = symbol then some candle else lastOf symbol before := by
  unfold lastOf
  rw [List.filter_append]
  by_cases same : candle.symbol = symbol
  · simp [same]
  · simp [same]

/-- The walk remembers a candle it has passed. -/
theorem CandleWalk.Of.passed {walk after : CandleWalk} {before : List CandleV1}
    {candle : CandleV1} (isOf : walk.Of before) (ok : validateCandle walk candle = .ok after) :
    after.Of (before ++ [candle]) := by
  simp only [validateCandle, bind_eq_ok, okOr_eq_ok] at ok
  rcases ok with ⟨order, isOrder, _, -, _, -, _, -, _, -, _, -, _, -, same⟩
  cases same
  refine ⟨?_, fun symbol => ?_, fun symbol => ?_⟩
  · rw [List.getLast?_concat, Option.bind_some, CandleV1.key?, isOrder, Option.map_some]
  · rw [lastOf_concat]
    dsimp only
    by_cases same : candle.symbol = symbol
    · rw [if_pos same, ← same, Function.update_self, Option.map_some]
    · rw [if_neg same, Function.update_of_ne (Ne.symm same), isOf.opens]
  · rw [lastOf_concat]
    dsimp only
    by_cases same : candle.symbol = symbol
    · rw [if_pos same, ← same, Function.update_self, Option.map_some]
    · rw [if_neg same, Function.update_of_ne (Ne.symm same), isOf.decimals]

theorem mem_of_lastOf {symbol : String} {candles : List CandleV1} {candle : CandleV1}
    (isLast : lastOf symbol candles = some candle) : candle ∈ candles :=
  List.mem_of_mem_filter (List.mem_of_getLast? isLast)

/-- What the walk checks of a candle that arrives. -/
def validateArrived (walk : CandleWalk) (key : Int64 × Nat) (candle : CandleV1) :
    Exec DatasetError CandleWalk := do
  let nextOpenTime ← addI64 candle.openTimeMs candleIntervalMillis
  let closeTime ← subI64 nextOpenTime 1
  rejectIf (candle.closeTimeMs ≠ closeTime ∨ ¬candle.Coherent) .candles
  checkFollows (walk.lastOpen candle.symbol) candle.openTimeMs
  rejectIf ((walk.instrumentDecimals candle.symbol).any (· ≠ candle.sizeDecimals)) .candles
  return {
    previousKey := some key
    lastOpen := Function.update walk.lastOpen candle.symbol (some candle.openTimeMs)
    instrumentDecimals :=
      Function.update walk.instrumentDecimals candle.symbol (some candle.sizeDecimals) }

/-- A candle that does not arrive is refused, and what follows is checked of one that does. -/
theorem CandleWalk.Of.validateCandle_eq {walk : CandleWalk} {before : List CandleV1}
    {candle : CandleV1} (isOf : walk.Of before) :
    (∃ key, Arrives before candle ∧
        validateCandle walk candle = validateArrived walk key candle) ∨
      (¬Arrives before candle ∧ validateCandle walk candle = .error (.error .candles)) := by
  cases isOrder : symbolOrder candle.symbol with
  | none =>
    refine .inr ⟨?_, ?_⟩
    · rintro ⟨key, isKey, -⟩
      rw [CandleV1.key?, isOrder] at isKey
      cases isKey
    · rw [validateCandle, isOrder]
      rfl
  | some order =>
    have isKey : candle.key? = some (candle.openTimeMs, order) := by
      rw [CandleV1.key?, isOrder, Option.map_some]
    have afterOrder : validateCandle walk candle =
        (do
          rejectIf (walk.previousKey.any (keyLe (candle.openTimeMs, order) ·)) .candles
          validateArrived walk (candle.openTimeMs, order) candle) := by
      rw [validateCandle, isOrder]
      rfl
    rw [afterOrder, isOf.key]
    by_cases early : (before.getLast?.bind CandleV1.key?).any
        (keyLe (candle.openTimeMs, order) ·) = true
    · refine .inr ⟨?_, ?_⟩
      · rintro ⟨key, isKey', later⟩
        obtain rfl := Option.some.inj (isKey.symm.trans isKey')
        cases isPrevious : before.getLast?.bind CandleV1.key? with
        | none =>
          rw [isPrevious] at early
          cases early
        | some previous =>
          rw [isPrevious, Option.any_some, later previous isPrevious] at early
          cases early
      · rw [rejectIf_eq_error.mpr ⟨early, rfl⟩]
        rfl
    · refine .inl ⟨(candle.openTimeMs, order), ⟨_, isKey, fun previous isPrevious => ?_⟩, ?_⟩
      · rw [isPrevious, Option.any_some] at early
        exact Bool.eq_false_iff.mpr early
      · rw [rejectIf, if_neg early]
        rfl

theorem checkFollows_eq_ok {lastOpen : Option Int64} {openTime : Int64} :
    checkFollows lastOpen openTime = .ok () ↔
      ∀ previous, lastOpen = some previous → openTime.toInt = previous.toInt + 900000 := by
  cases lastOpen with
  | none => exact ⟨fun _ => nofun, fun _ => rfl⟩
  | some previous =>
    simp only [checkFollows, bind_eq_ok, addI64_eq_ok, rejectIf_eq_ok, not_not,
      toInt_candleIntervalMillis, Option.some.injEq, forall_eq']
    constructor
    · rintro ⟨expected, isExpected, rfl⟩
      exact isExpected
    · intro same
      exact ⟨openTime, same, rfl⟩

/-- A candle that arrives is passed when its fields fit each other and the last of its market. -/
theorem CandleWalk.Of.arrived_iff {walk : CandleWalk} {before : List CandleV1}
    {candle : CandleV1} {key : Int64 × Nat} (isOf : walk.Of before) :
    (∃ after, validateArrived walk key candle = .ok after) ↔
      candle.TimesFit ∧ candle.closeTimeMs.toInt = candle.openTimeMs.toInt + 900000 - 1 ∧
      candle.Coherent ∧
      (∀ previous, lastOf candle.symbol before = some previous →
        candle.openTimeMs.toInt = previous.openTimeMs.toInt + 900000) ∧
      ∀ previous, lastOf candle.symbol before = some previous →
        candle.sizeDecimals = previous.sizeDecimals := by
  have one : (1 : Int64).toInt = 1 := by decide
  simp only [validateArrived, bind_eq_ok, rejectIf_eq_ok, exists_const, addI64_eq_ok, subI64_eq_ok,
    not_or, not_not, toInt_candleIntervalMillis, one, isOf.opens, isOf.decimals]
  constructor
  · rintro ⟨after, nextOpen, isNext, close, isClose, ⟨rfl, coherent⟩, ⟨⟩, follows, decimals, -⟩
    refine ⟨by have := nextOpen.toInt_lt; unfold CandleV1.TimesFit; omega, by omega, coherent,
      fun previous isPrevious => ?_, fun previous isPrevious => ?_⟩
    · exact checkFollows_eq_ok.mp follows _ (by rw [isPrevious]; rfl)
    · rw [isPrevious] at decimals
      exact (by simpa using decimals : previous.sizeDecimals = _).symm
  · rintro ⟨timesFit, closes, coherent, follows, decimals⟩
    unfold CandleV1.TimesFit at timesFit
    have lower := candle.openTimeMs.le_toInt
    refine ⟨_, .ofInt (candle.openTimeMs.toInt + 900000),
      Int64.toInt_ofInt_of_le (by omega) (by omega), candle.closeTimeMs, ?_, ⟨rfl, coherent⟩, (),
      checkFollows_eq_ok.mpr ?_, ?_, rfl⟩
    · rw [Int64.toInt_ofInt_of_le (by omega) (by omega), closes]
    · intro previous isPrevious
      obtain ⟨last, isLast, rfl⟩ := Option.map_eq_some_iff.mp isPrevious
      exact follows last isLast
    · cases isLast : lastOf candle.symbol before with
      | none => simp
      | some previous => simp [decimals previous isLast]

/-- The checks of the walk are those of `Passes`. -/
theorem CandleWalk.Of.passes_iff {walk : CandleWalk} {before : List CandleV1}
    {candle : CandleV1} (isOf : walk.Of before) :
    (∃ after, validateCandle walk candle = .ok after) ↔ Passes before candle := by
  rcases @isOf.validateCandle_eq _ _ candle with ⟨key, arrives, same⟩ | ⟨early, same⟩
  · rw [same, isOf.arrived_iff]
    exact ⟨fun ⟨timesFit, closes, coherent, follows, decimals⟩ =>
        ⟨arrives, timesFit, closes, coherent, follows, decimals⟩,
      fun passes => ⟨passes.timesFit, passes.closes, passes.coherent, passes.follows,
        passes.decimals⟩⟩
  · rw [same]
    exact ⟨nofun, fun passes => absurd passes.arrives early⟩

theorem noTrap_addI64 {a b : Int64} (lower : -2 ^ 63 ≤ a.toInt + b.toInt)
    (upper : a.toInt + b.toInt < 2 ^ 63) : NoTrap (addI64 a b : Exec DatasetError Int64) := by
  rw [NoTrap, Ne, addI64_eq_trap_iff, toI64?, if_pos ⟨lower, upper⟩]
  exact Option.some_ne_none _

/-- Within the 64-bit times the walk does not overflow. -/
theorem noTrap_validateArrived {walk : CandleWalk} {before : List CandleV1}
    {candle : CandleV1} {key : Int64 × Nat} (isOf : walk.Of before)
    (fit : ∀ candle ∈ before, candle.TimesFit) (timesFit : candle.TimesFit) :
    NoTrap (validateArrived walk key candle) := by
  have interval := toInt_candleIntervalMillis
  have one : (1 : Int64).toInt = 1 := by decide
  have lower := candle.openTimeMs.le_toInt
  unfold CandleV1.TimesFit at timesFit
  refine .bind (noTrap_addI64 (by omega) (by omega)) fun nextOpen isNext => ?_
  rw [addI64_eq_ok] at isNext
  refine .bind ?_ fun _ _ => .bind .rejectIf fun _ _ => .bind ?_ fun _ _ =>
    .bind .rejectIf fun _ _ => .ok
  · intro trapped
    have isOk : (subI64 nextOpen 1 : Exec DatasetError Int64) =
        .ok (.ofInt (nextOpen.toInt - 1)) := by
      have upper := nextOpen.toInt_lt
      rw [subI64_eq_ok, one, Int64.toInt_ofInt_of_le (by omega) (by omega)]
    cases trapped.symm.trans isOk
  · rw [isOf.opens]
    cases isLast : lastOf candle.symbol before with
    | none => exact .ok
    | some previous =>
      have previousFits := fit previous (mem_of_lastOf isLast)
      have previousLower := previous.openTimeMs.le_toInt
      unfold CandleV1.TimesFit at previousFits
      exact .bind (noTrap_addI64 (by omega) (by omega)) fun _ _ => .rejectIf

/-- The walk overflows at a candle whose interval ends after the last 64-bit time. -/
theorem CandleWalk.Of.trap_iff {walk : CandleWalk} {before : List CandleV1}
    {candle : CandleV1} (isOf : walk.Of before)
    (fit : ∀ candle ∈ before, candle.TimesFit) :
    validateCandle walk candle = .error .trap ↔ Arrives before candle ∧ ¬candle.TimesFit := by
  rcases @isOf.validateCandle_eq _ _ candle with ⟨key, arrives, same⟩ | ⟨early, same⟩
  · rw [same]
    constructor
    · intro trapped
      refine ⟨arrives, fun timesFit => ?_⟩
      exact noTrap_validateArrived isOf fit timesFit trapped
    · rintro ⟨-, late⟩
      unfold CandleV1.TimesFit at late
      have overflows : (addI64 candle.openTimeMs candleIntervalMillis : Exec DatasetError Int64) =
          .error .trap := by
        rw [addI64_eq_trap_iff, toInt_candleIntervalMillis]
        exact if_neg fun fits => late fits.2
      rw [validateArrived, overflows]
      rfl
  · rw [same]
    exact ⟨nofun, fun overflows => absurd overflows.1 early⟩

/-! ## Whole lists -/

theorem walked_concat {before : List CandleV1} {candle : CandleV1} :
    Walked (before ++ [candle]) ↔ Walked before ∧ Passes before candle := by
  constructor
  · intro walked
    refine ⟨fun index other here => ?_, ?_⟩
    · obtain ⟨fits, -⟩ := List.getElem?_eq_some_iff.mp here
      have passes := walked index other (by rw [List.getElem?_append_left fits, here])
      rwa [List.take_append_of_le_length fits.le] at passes
    · have passes := walked before.length candle (by simp)
      rwa [List.take_left] at passes
  · rintro ⟨walked, passes⟩ index other here
    rcases Nat.lt_or_ge index before.length with fits | last
    · rw [List.getElem?_append_left fits] at here
      rw [List.take_append_of_le_length fits.le]
      exact walked index other here
    · have isLast : index = before.length := by
        have fits := (List.getElem?_eq_some_iff.mp here).1
        rw [List.length_append, List.length_singleton] at fits
        omega
      subst isLast
      rw [List.getElem?_append_right le_rfl, Nat.sub_self] at here
      obtain rfl := Option.some.inj here
      rwa [List.take_left]

theorem Walked.timesFit {candles : List CandleV1} (walked : Walked candles) :
    ∀ candle ∈ candles, candle.TimesFit := by
  intro candle mem
  obtain ⟨index, here⟩ := List.mem_iff_getElem?.mp mem
  exact (walked index candle here).timesFit

/-- The walk remembers the candles it has passed. -/
theorem walked_of_reaches {candles : List CandleV1} {walk : CandleWalk}
    (reaches : Loop.Reaches validateCandle {} candles walk) : Walked candles ∧ walk.Of candles := by
  refine @Loop.invariant _ _ _ _ (fun passed walk => Walked passed ∧ walk.Of passed) _ _ _
    ⟨nofun, CandleWalk.of_nil⟩ ?_ reaches
  intro passed candle left before after _ holds ok
  exact ⟨walked_concat.mpr ⟨holds.1, holds.2.passes_iff.mp ⟨after, ok⟩⟩, holds.2.passed ok⟩

theorem reaches_of_walked {candles : List CandleV1} (walked : Walked candles) :
    ∃ walk, Loop.Reaches validateCandle {} candles walk := by
  induction candles using List.reverseRecOn with
  | nil => exact ⟨{}, Loop.reaches_nil.mpr rfl⟩
  | append_singleton before candle ih =>
    obtain ⟨walked, passes⟩ := walked_concat.mp walked
    obtain ⟨walk, reaches⟩ := ih walked
    obtain ⟨after, ok⟩ := (walked_of_reaches reaches).2.passes_iff.mpr passes
    exact ⟨after, Loop.reaches_concat.mpr ⟨walk, reaches, ok⟩⟩

/-- Three candles in order are of the three markets. -/
theorem exists_lastOf_of_inOrder {candles : List CandleV1} (some : candles ≠ [])
    (whole : candles.length % 3 = 0) (inOrder : ∀ interval ∈ chunksExact candles, interval.InOrder) :
    ∀ symbol ∈ allowedSymbols, (lastOf symbol candles).isSome = true := by
  rcases candles with _ | ⟨btc, _ | ⟨eth, _ | ⟨sol, rest⟩⟩⟩
  · exact absurd rfl some
  · simp at whole
  · simp at whole
  · have first := inOrder ⟨btc, eth, sol⟩ List.mem_cons_self
    simp only [Interval.InOrder, not_or, not_not] at first
    obtain ⟨isBtc, isEth, isSol, -, -⟩ := first
    have shown : ∀ candle ∈ btc :: eth :: sol :: rest,
        (lastOf candle.symbol (btc :: eth :: sol :: rest)).isSome = true := by
      intro candle mem
      rw [lastOf, List.getLast?_isSome]
      exact List.ne_nil_of_mem (List.mem_filter.mpr ⟨mem, by simp⟩)
    have markets : allowedSymbols = [btc.symbol, eth.symbol, sol.symbol] := by
      rw [isBtc, isEth, isSol]
      rfl
    rw [markets]
    simp only [List.forall_mem_cons]
    exact ⟨shown btc (by simp), shown eth (by simp), shown sol (by simp), by simp⟩

/-- **Acceptance.**  The validation accepts whole intervals in order whose candles pass. -/
theorem validateCandles_eq_ok_iff {candles : List CandleV1} :
    validateCandles candles = .ok () ↔ Accepted candles := by
  simp only [validateCandles, bind_eq_ok, rejectIf_eq_ok, exists_const, not_or, not_not]
  constructor
  · rintro ⟨⟨some, whole⟩, walk, walked, -, inOrder⟩
    exact ⟨some, whole, (walked_of_reaches walked).1, inOrder⟩
  · intro accepted
    obtain ⟨walk, reaches⟩ := reaches_of_walked accepted.walked
    have isOf := (walked_of_reaches reaches).2
    refine ⟨⟨accepted.some, accepted.whole⟩, walk, reaches, ?_, accepted.inOrder⟩
    have all : ∀ symbol ∈ allowedSymbols, (walk.lastOpen symbol).isSome = true := by
      intro symbol mem
      rw [isOf.opens, Option.isSome_map]
      exact exists_lastOf_of_inOrder accepted.some accepted.whole accepted.inOrder symbol mem
    rw [CandleWalk.marketCount, List.filter_eq_self.mpr all]
    rfl

/-- Every candle the walk comes to ends within the 64-bit times. -/
def TimesHold (candles : List CandleV1) : Prop :=
  candles ≠ [] → candles.length % 3 = 0 → ∀ index candle, candles[index]? = some candle →
    Walked (candles.take index) → Arrives (candles.take index) candle → candle.TimesFit

/-- **Overflow.**  The validation overflows at a candle that ends after the last 64-bit time. -/
theorem noTrap_validateCandles_iff {candles : List CandleV1} :
    NoTrap (validateCandles candles) ↔ TimesHold candles := by
  constructor
  · intro noTrap some whole index candle here walked arrives
    by_contra late
    obtain ⟨walk, reaches⟩ := reaches_of_walked walked
    have isOf := (walked_of_reaches reaches).2
    have fails := Loop.fails_of_step here reaches
      ((isOf.trap_iff walked.timesFit).mpr ⟨arrives, late⟩)
    refine noTrap ?_
    rw [validateCandles, rejectIf, if_neg (not_or.mpr ⟨some, not_not.mpr whole⟩), fails]
    rfl
  · intro hold
    refine .bind .rejectIf fun _ isWhole => .bind ?_ fun _ _ =>
      .bind .rejectIf fun _ _ => .rejectIf
    rw [rejectIf_eq_ok, not_or, not_not] at isWhole
    intro trapped
    obtain ⟨index, candle, walk, here, reaches, fails⟩ := Loop.stops trapped
    obtain ⟨walked, isOf⟩ := walked_of_reaches reaches
    obtain ⟨arrives, late⟩ := (isOf.trap_iff walked.timesFit).mp fails
    exact late (hold isWhole.1 isWhole.2 index candle here walked arrives)

/-! ## Markets in a row -/

/-- A candle at its place in a list that shows the markets in turn from a time on. -/
structure StandsAt (startTime : Int) (decimals : String → UInt8) (index : Nat)
    (candle : CandleV1) : Prop where
  symbol : allowedSymbols[index % 3]? = some candle.symbol
  opens : candle.openTimeMs.toInt = startTime + (index / 3 : Nat) * 900000
  closes : candle.closeTimeMs.toInt = candle.openTimeMs.toInt + 900000 - 1
  timesFit : candle.TimesFit
  coherent : candle.Coherent
  decimals : candle.sizeDecimals = decimals candle.symbol

/-- A market is found in its place. -/
theorem symbolOrder_of_getElem? {index : Nat} {symbol : String}
    (here : allowedSymbols[index]? = some symbol) : symbolOrder symbol = some index := by
  match index, here with
  | 0, here => exact Option.some.inj here ▸ rfl
  | 1, here => exact Option.some.inj here ▸ rfl
  | 2, here => exact Option.some.inj here ▸ rfl
  | _ + 3, here => cases here

/-- The last candle of a market has its place, and no later candle is of the market. -/
theorem exists_of_lastOf {symbol : String} {candles : List CandleV1} {last : CandleV1}
    (isLast : lastOf symbol candles = some last) :
    ∃ index, candles[index]? = some last ∧ last.symbol = symbol ∧
      ∀ (later : Nat) (candle : CandleV1), index < later → candles[later]? = some candle →
        candle.symbol ≠ symbol := by
  induction candles using List.reverseRecOn with
  | nil => cases isLast
  | append_singleton before candle ih =>
    rw [lastOf_concat] at isLast
    by_cases same : candle.symbol = symbol
    · rw [if_pos same] at isLast
      obtain rfl := Option.some.inj isLast
      refine ⟨before.length, by simp, same, fun later other after here => ?_⟩
      have fits := (List.getElem?_eq_some_iff.mp here).1
      rw [List.length_append, List.length_singleton] at fits
      omega
    · rw [if_neg same] at isLast
      obtain ⟨index, here, isSymbol, noLater⟩ := ih isLast
      have fits := (List.getElem?_eq_some_iff.mp here).1
      refine ⟨index, by rw [List.getElem?_append_left fits, here], isSymbol, ?_⟩
      intro later other after there
      rcases Nat.lt_or_ge later before.length with within | beyond
      · rw [List.getElem?_append_left within] at there
        exact noLater later other after there
      · have fits := (List.getElem?_eq_some_iff.mp there).1
        rw [List.length_append, List.length_singleton] at fits
        obtain rfl : later = before.length := by omega
        rw [List.getElem?_append_right le_rfl, Nat.sub_self] at there
        obtain rfl := Option.some.inj there
        exact same

/-- An interval of a list of candles is three of them in a row. -/
theorem getElem?_of_mem_chunksExact {candles : List CandleV1} {interval : Interval}
    (mem : interval ∈ chunksExact candles) :
    ∃ index, candles[3 * index]? = some interval.btc ∧
      candles[3 * index + 1]? = some interval.eth ∧ candles[3 * index + 2]? = some interval.sol := by
  induction candles using chunksExact.induct with
  | case1 btc eth sol rest ih =>
    rw [chunksExact] at mem
    rcases List.mem_cons.mp mem with rfl | mem
    · exact ⟨0, rfl, rfl, rfl⟩
    · obtain ⟨index, isBtc, isEth, isSol⟩ := ih mem
      exact ⟨index + 1, isBtc, isEth, isSol⟩
  | case2 candles short =>
    rw [chunksExact.eq_2 _ short] at mem
    cases mem

section Standing

variable {candles : List CandleV1} {startTime : Int} {decimals : String → UInt8}

/-- A candle in its place comes after the one before it. -/
theorem arrives_of_standsAt {index : Nat} {candle : CandleV1}
    (stands : ∀ (index : Nat) (candle : CandleV1), candles[index]? = some candle →
      StandsAt startTime decimals index candle)
    (here : candles[index]? = some candle) : Arrives (candles.take index) candle := by
  have stand := stands index candle here
  have isKey : candle.key? = some (candle.openTimeMs, index % 3) := by
    rw [CandleV1.key?, symbolOrder_of_getElem? stand.symbol, Option.map_some]
  refine ⟨_, isKey, fun previousKey isPrevious => ?_⟩
  obtain ⟨previous, isLast, isPreviousKey⟩ := Option.bind_eq_some_iff.mp isPrevious
  have fits := (List.getElem?_eq_some_iff.mp here).1
  have length : (candles.take index).length = index := List.length_take_of_le fits.le
  rw [List.getLast?_eq_getElem?, length] at isLast
  have below := (List.getElem?_eq_some_iff.mp isLast).1
  rw [length] at below
  rw [List.getElem?_take_of_lt below] at isLast
  have stand' := stands _ previous isLast
  rw [CandleV1.key?, symbolOrder_of_getElem? stand'.symbol, Option.map_some] at isPreviousKey
  obtain rfl := Option.some.inj isPreviousKey
  have opens := stand.opens
  have opens' := stand'.opens
  simp only [keyLe, Bool.or_eq_false_iff, Bool.and_eq_false_iff, decide_eq_false_iff_not, not_le,
    Int64.lt_iff_toInt_lt, ← Int64.toInt_inj]
  omega

/-- A candle in its place follows the one three places before it. -/
theorem follows_of_standsAt {index : Nat} {candle previous : CandleV1}
    (stands : ∀ (index : Nat) (candle : CandleV1), candles[index]? = some candle →
      StandsAt startTime decimals index candle)
    (here : candles[index]? = some candle)
    (isLast : lastOf candle.symbol (candles.take index) = some previous) :
    candle.openTimeMs.toInt = previous.openTimeMs.toInt + 900000 ∧
      candle.sizeDecimals = previous.sizeDecimals := by
  obtain ⟨earlier, there, same, noLater⟩ := exists_of_lastOf isLast
  have fits := (List.getElem?_eq_some_iff.mp here).1
  have below := (List.getElem?_eq_some_iff.mp there).1
  rw [List.length_take_of_le fits.le] at below
  rw [List.getElem?_take_of_lt below] at there
  have stand := stands index candle here
  have stand' := stands earlier previous there
  have order := symbolOrder_of_getElem? stand.symbol
  have order' := symbolOrder_of_getElem? stand'.symbol
  rw [same, order] at order'
  have sameOrder : index % 3 = earlier % 3 := Option.some.inj order'
  have near : index ≤ earlier + 3 := by
    by_contra far
    have within : index - 3 < candles.length := by omega
    have between := List.getElem?_eq_getElem within
    have isSymbol := (stands _ _ between).symbol
    rw [show (index - 3) % 3 = index % 3 by omega, stand.symbol] at isSymbol
    refine noLater (index - 3) _ (by omega) ?_ (Option.some.inj isSymbol).symm
    rw [List.getElem?_take_of_lt (by omega), between]
  have opens := stand.opens
  have opens' := stand'.opens
  refine ⟨by omega, ?_⟩
  rw [stand.decimals, stand'.decimals, same]

/-- Three candles in their places make an interval in order. -/
theorem inOrder_of_standsAt {interval : Interval}
    (stands : ∀ (index : Nat) (candle : CandleV1), candles[index]? = some candle →
      StandsAt startTime decimals index candle)
    (mem : interval ∈ chunksExact candles) : interval.InOrder := by
  obtain ⟨index, isBtc, isEth, isSol⟩ := getElem?_of_mem_chunksExact mem
  have btc := stands _ _ isBtc
  have eth := stands _ _ isEth
  have sol := stands _ _ isSol
  have symbols := And.intro btc.symbol (And.intro eth.symbol sol.symbol)
  rw [show 3 * index % 3 = 0 by omega, show (3 * index + 1) % 3 = 1 by omega,
    show (3 * index + 2) % 3 = 2 by omega] at symbols
  have opens := btc.opens
  have opensEth := eth.opens
  have opensSol := sol.opens
  simp only [Interval.InOrder, not_or, not_not, ← Int64.toInt_inj]
  refine ⟨(Option.some.inj symbols.1).symm, (Option.some.inj symbols.2.1).symm,
    (Option.some.inj symbols.2.2).symm, by omega, by omega⟩

/-- **Markets in a row.**  The validation accepts whole intervals of candles in their places. -/
theorem accepted_of_standsAt (nonempty : candles ≠ []) (whole : candles.length % 3 = 0)
    (stands : ∀ (index : Nat) (candle : CandleV1), candles[index]? = some candle →
      StandsAt startTime decimals index candle) : Accepted candles where
  some := nonempty
  whole := whole
  walked := fun index candle here =>
    { arrives := arrives_of_standsAt stands here
      timesFit := (stands index candle here).timesFit
      closes := (stands index candle here).closes
      coherent := (stands index candle here).coherent
      follows := fun _ isLast => (follows_of_standsAt stands here isLast).1
      decimals := fun _ isLast => (follows_of_standsAt stands here isLast).2 }
  inOrder := fun _ mem => inOrder_of_standsAt stands mem

end Standing

/-! ## Prices -/

/-- Positive prices, with the opening and the closing one between the lowest and the highest. -/
structure CandleV1.WellPriced (candle : CandleV1) : Prop where
  lowPos : 0 < candle.lowMicroUsdc.toInt
  low : candle.lowMicroUsdc.toInt ≤
    min candle.openMicroUsdc.toInt candle.closeMicroUsdc.toInt
  high : max candle.openMicroUsdc.toInt candle.closeMicroUsdc.toInt ≤
    candle.highMicroUsdc.toInt

/-- The prices of a candle. -/
def CandleV1.prices (candle : CandleV1) : List Int64 :=
  [candle.openMicroUsdc, candle.highMicroUsdc, candle.lowMicroUsdc, candle.closeMicroUsdc]

/-- A context whose market is marked at a price. -/
def PolicyContext.marked (context : PolicyContext) (price : Int64) : PolicyContext :=
  { context with
    market := { context.market with markPriceMicroUsdc := price, oraclePriceMicroUsdc := price } }

/-- The policy never refuses a market for being marked at the price: it would at any other. -/
def Markable (price : Int64) : Prop :=
  ∀ (proposal : Proposal) (context : PolicyContext),
    evaluateProposal proposal (context.marked price) = .error (.error .market) → ∀ other : Int64, 0 < other.toInt →
      evaluateProposal proposal (context.marked other) = .error (.error .market)

/-- The fields of a coherent candle in integers. -/
theorem CandleV1.Coherent.bounds {candle : CandleV1} (coherent : candle.Coherent) :
    0 < candle.openMicroUsdc.toInt ∧
      candle.lowMicroUsdc.toInt ≤ min candle.openMicroUsdc.toInt candle.closeMicroUsdc.toInt ∧
      max candle.openMicroUsdc.toInt candle.closeMicroUsdc.toInt ≤ candle.highMicroUsdc.toInt := by
  have zero : (0 : Int64).toInt = 0 := by decide
  simp only [Coherent, not_or, Int64.le_iff_toInt_le, Int64.lt_iff_toInt_lt, zero, not_lt, not_le,
    gt_iff_lt] at coherent
  obtain ⟨openPos, highOpen, highClose, lowOpen, lowClose, -⟩ := coherent
  exact ⟨openPos, le_min lowOpen lowClose, max_le highOpen highClose⟩

/-- The policy looks at a mark only to see that it is positive. -/
theorem evaluateProposal_marked {proposal : Proposal} {context : PolicyContext}
    {price other : Int64} (pricePos : 0 < price.toInt) (otherPos : 0 < other.toInt) :
    evaluateProposal proposal (context.marked price) =
      evaluateProposal proposal (context.marked other) := by
  have zero : (0 : Int64).toInt = 0 := by decide
  have notNonpos : ∀ price : Int64, 0 < price.toInt → (price ≤ 0) = False := by
    intro price positive
    rw [Int64.le_iff_toInt_le, zero]
    exact eq_false (not_le.mpr positive)
  simp only [evaluateProposal, PolicyContext.marked, notNonpos price pricePos,
    notNonpos other otherPos]
  rfl

theorem markable_of_pos {price : Int64} (positive : 0 < price.toInt) : Markable price :=
  fun _ _ refused _ otherPos => (evaluateProposal_marked otherPos positive).trans refused

/-- The validation ends without an overflow, what it accepts is well priced, and no mark taken from
it is refused. -/
structure ValidatesSoundly (candles : List CandleV1) : Prop where
  noTrap : NoTrap (validateCandles candles)
  wellPriced : validateCandles candles = .ok () → ∀ candle ∈ candles, candle.WellPriced
  markable : validateCandles candles = .ok () → ∀ candle ∈ candles, ∀ price ∈ candle.prices,
    Markable price

/-- **Sound validation.**  The validation is sound for exactly the candles that it does not follow
beyond the 64-bit times and that, where it accepts them, have positive lows. -/
theorem validatesSoundly_iff (candles : List CandleV1) :
    ValidatesSoundly candles ↔
      TimesHold candles ∧
        (Accepted candles → ∀ candle ∈ candles, 0 < candle.lowMicroUsdc.toInt) := by
  constructor
  · intro sound
    exact ⟨noTrap_validateCandles_iff.mp sound.noTrap, fun accepted candle mem =>
      (sound.wellPriced (validateCandles_eq_ok_iff.mpr accepted) candle mem).lowPos⟩
  · rintro ⟨hold, lows⟩
    have wellPriced : validateCandles candles = .ok () →
        ∀ candle ∈ candles, candle.WellPriced := by
      intro ok candle mem
      have accepted := validateCandles_eq_ok_iff.mp ok
      obtain ⟨index, here⟩ := List.mem_iff_getElem?.mp mem
      obtain ⟨-, low, high⟩ := (accepted.walked index candle here).coherent.bounds
      exact ⟨lows accepted candle mem, low, high⟩
    refine ⟨noTrap_validateCandles_iff.mpr hold, wellPriced, fun ok candle mem price isPrice => ?_⟩
    obtain ⟨lowPos, low, high⟩ := wellPriced ok candle mem
    refine markable_of_pos ?_
    simp only [CandleV1.prices, List.mem_cons, List.not_mem_nil, or_false] at isPrice
    rcases isPrice with rfl | rfl | rfl | rfl <;> omega

/-- The three markets over one interval that opens at 1 and closes at -5. -/
def sunkCandles : List CandleV1 :=
  (flatInterval 0).candles.map fun candle =>
    { candle with
      openMicroUsdc := 1
      highMicroUsdc := 1
      lowMicroUsdc := -5
      closeMicroUsdc := -5 }

/-- The three markets over the last interval that ends within the 64-bit times. -/
def lastCandles : List CandleV1 := (flatInterval 9223372036853875808).candles

/-- Negative prices are accepted, and the last interval is an overflow although its candles end at
the last 64-bit time. -/
theorem validatesSoundly_sunk : ¬ValidatesSoundly sunkCandles ∧ ¬ValidatesSoundly lastCandles := by
  constructor
  · intro sound
    have ok : validateCandles sunkCandles = .ok () := by decide
    have priced := sound.wellPriced ok _ List.mem_cons_self
    exact absurd priced.lowPos (by decide)
  · intro sound
    have trapped : validateCandles lastCandles = .error .trap := by decide
    exact sound.noTrap trapped

end CrowAgent
