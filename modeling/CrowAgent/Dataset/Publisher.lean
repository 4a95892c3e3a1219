import CrowAgent.Core.IocRequest
import CrowAgent.Dataset.Acceptance

/-!
# The dataset publisher

The publisher asks the venue for the candles and the funding of a window that is aligned to hours,
normalises them for each market, and interleaves the markets.  `publishes_exactly` says that every
interval has its candle and every funding record is charged once, at its hour, and that what is
assembled meets the checks of the dataset but for those on prices and volumes, which are the
venue's.
-/

namespace CrowAgent

open FixedWidth

inductive PublisherError : Type
  | window
  | sourceData
  | decimal
  deriving DecidableEq, Repr

structure MetaAsset : Type where
  name : String
  szDecimals : UInt8
  maxLeverage : UInt16
  isDelisted : Bool
  deriving DecidableEq, Repr

structure CandleResponse : Type where
  openTimeMs : Int64
  closeTimeMs : Int64
  symbol : String
  interval : String
  openText : String
  closeText : String
  highText : String
  lowText : String
  volumeText : String
  deriving DecidableEq, Repr

structure FundingResponse : Type where
  coin : String
  fundingRate : String
  time : Int64
  deriving DecidableEq, Repr

/-- What the venue answers. -/
structure SourceData : Type where
  assets : List MetaAsset
  candles : String → List CandleResponse
  funding : String → List FundingResponse

def maxCandlesPerSymbol : Int := 5000

/-- `validate_window`: the number of intervals of a window. -/
def validateWindow (startTimeMs endTimeMs : Int64) : Exec PublisherError Nat := do
  rejectIf (startTimeMs < 0 ∨ endTimeMs ≤ startTimeMs
    ∨ startTimeMs.toInt % fundingIntervalMillis ≠ 0
    ∨ endTimeMs.toInt % fundingIntervalMillis ≠ 0) .window
  let span ← subI64 endTimeMs startTimeMs
  rejectIf (span.toInt % candleIntervalMillis.toInt ≠ 0) .window
  let intervals := span.toInt.tdiv candleIntervalMillis.toInt
  rejectIf (¬(2 ≤ intervals ∧ intervals ≤ maxCandlesPerSymbol)) .window
  return intervals.toNat

/-! ## Numbers of the venue -/

/-- A sign and what follows it. -/
def stripSign (text : List Char) : Bool × List Char :=
  if text.head? = some '-' then (true, text.drop 1) else (false, text)

/-- A power of ten, when it fits into 128 bits. -/
def checkedPowTen (exponent : Nat) : Option Int :=
  if (10 : Int) ^ exponent < 2 ^ 127 then some (10 ^ exponent) else none

/-- The digits of a number in 64 bits, with their sign. -/
def signedDigits (negative : Bool) (digits : Int) : Except PublisherError Int64 :=
  match toI64? (if negative then -digits else digits) with
  | some value => .ok value
  | none => .error .decimal

/-- `parse_scaled`: a number with at most `scale` decimals in units of `10 ^ -scale`. -/
def parseScaled (value : String) (scale : Nat) : Except PublisherError Int64 :=
  let (negative, unsigned) := stripSign value.toList
  let (whole, fraction) := splitPoint unsigned
  if unsigned = [] ∨ unsigned.head? = some '+' then .error .decimal
  else if whole = [] ∨ !whole.all Char.isDigit ∨ !fraction.all Char.isDigit
      ∨ fraction.length > scale then .error .decimal
  else
    let scaled := do
      let factor ← checkedPowTen scale
      let whole ← parseI128 whole
      let fraction ←
        if fraction = [] then some 0
        else do
          let digits ← parseI128 fraction
          let factor ← checkedPowTen (scale - fraction.length)
          checkedMulI128 digits factor
      let product ← checkedMulI128 whole factor
      checkedAddI128 product fraction
    match scaled with
    | some scaled => signedDigits negative scaled
    | none => .error .decimal

/-- `parse_scaled_rounded`: a number with more decimals is rounded to `scale` of them. -/
def parseScaledRounded (value : String) (scale : Nat) : Except PublisherError Int64 :=
  let (negative, unsigned) := stripSign value.toList
  let (whole, fraction) := splitPoint unsigned
  if whole = [] ∨ !whole.all Char.isDigit ∨ !fraction.all Char.isDigit
      ∨ fraction.length ≤ scale then parseScaled value scale
  else if fraction.length > 18 then .error .decimal
  else
    let roundUp : Int := if fraction[scale]?.any ('5' ≤ ·) then 1 else 0
    let scaled := do
      let factor ← checkedPowTen scale
      let whole ← parseI128 whole
      let retained ←
        if fraction.take scale = [] then some 0 else parseI128 (fraction.take scale)
      let product ← checkedMulI128 whole factor
      let sum ← checkedAddI128 product retained
      checkedAddI128 sum roundUp
    match scaled with
    | some scaled => signedDigits negative scaled
    | none => .error .decimal

/-! ## One market -/

/-- A product that fits into 64 bits without a sign. -/
def checkedMulUsize (a b : Nat) : Option Nat := if a * b < 2 ^ 64 then some (a * b) else none

/-- The time some intervals after a start. -/
def timeAfter (startTimeMs : Int64) (interval : Int) (index : Nat) : Exec PublisherError Int64 := do
  let index ← tryI64 index .sourceData
  let offset ← i64 (index.toInt * interval)
  i64 (startTimeMs.toInt + offset.toInt)

/-- The rates of some hours. -/
abbrev FundingByOpen : Type := List (Int64 × Int64)

/-- A record enters the rate of its hour, which has none yet. -/
def enterFunding (symbol : String) (startTimeMs : Int64) (fundingByOpen : FundingByOpen)
    (record : FundingResponse) : Exec PublisherError FundingByOpen := do
  let openTime ← i64 (record.time.toInt / fundingIntervalMillis * fundingIntervalMillis)
  rejectIf (record.coin ≠ symbol ∨ openTime < startTimeMs) .sourceData
  let rate ← liftResult (parseScaled record.fundingRate 12)
  rejectIf (openTime ∈ fundingByOpen.map (·.1)) .sourceData
  return fundingByOpen ++ [(openTime, rate)]

/-- The rate of an hour. -/
def rateAt (fundingByOpen : FundingByOpen) (openTime : Int64) : Int64 :=
  ((fundingByOpen.find? (·.1 = openTime)).map (·.2)).getD 0

/-- One candle of the venue in its place. -/
def normalizeCandle (symbol : String) (sizeDecimals : UInt8) (startTimeMs : Int64)
    (fundingByOpen : FundingByOpen) (entry : CandleResponse × Nat) :
    Exec PublisherError CandleV1 := do
  let (candle, index) := entry
  let openTimeMs ← timeAfter startTimeMs candleIntervalMillis.toInt index
  rejectIf (candle.symbol ≠ symbol ∨ candle.interval ≠ "15m" ∨ candle.openTimeMs ≠ openTimeMs)
    .sourceData
  let nextTimeMs ← addI64 openTimeMs candleIntervalMillis
  let closeTimeMs ← subI64 nextTimeMs 1
  rejectIf (candle.closeTimeMs ≠ closeTimeMs) .sourceData
  let openMicroUsdc ← liftResult (parseScaled candle.openText 6)
  let highMicroUsdc ← liftResult (parseScaled candle.highText 6)
  let lowMicroUsdc ← liftResult (parseScaled candle.lowText 6)
  let closeMicroUsdc ← liftResult (parseScaled candle.closeText 6)
  let volumeE8 ← liftResult (parseScaledRounded candle.volumeText 8)
  return {
    symbol
    openTimeMs
    closeTimeMs := candle.closeTimeMs
    openMicroUsdc
    highMicroUsdc
    lowMicroUsdc
    closeMicroUsdc
    volumeE8
    fundingRateE12 := rateAt fundingByOpen openTimeMs
    sizeDecimals }

/-- `normalize_symbol`. -/
def normalizeSymbol (symbol : String) (sizeDecimals : UInt8) (expectedIntervals : Nat)
    (startTimeMs : Int64) (candles : List CandleResponse) (funding : List FundingResponse) :
    Exec PublisherError (List CandleV1) := do
  rejectIf (candles.length ≠ expectedIntervals) .sourceData
  let minutes ← okOr (checkedMulUsize expectedIntervals 15) .sourceData
  let expectedFunding := minutes / 60
  let fundingByOpen ← funding.foldlM (enterFunding symbol startTimeMs) []
  rejectIf (fundingByOpen.length ≠ expectedFunding) .sourceData
  let expectedFundingTimes ←
    (List.range expectedFunding).mapM (timeAfter startTimeMs fundingIntervalMillis)
  rejectIf (!(fundingByOpen.all (·.1 ∈ expectedFundingTimes) &&
    expectedFundingTimes.all (· ∈ fundingByOpen.map (·.1)))) .sourceData
  candles.zipIdx.mapM (normalizeCandle symbol sizeDecimals startTimeMs fundingByOpen)

/-! ## The dataset -/

/-- The instruments of the arena among the assets of the venue. -/
def SourceData.instruments (source : SourceData) : Exec PublisherError (List InstrumentV1) :=
  let bySymbol := source.assets.foldl (fun assets asset => insertEntry asset.name asset assets) []
  allowedSymbols.mapM fun symbol => do
    let asset ← okOr (named? bySymbol symbol) .sourceData
    rejectIf asset.isDelisted .sourceData
    return {
      symbol
      sizeDecimals := asset.szDecimals
      maxLeverage := asset.maxLeverage
      isDelisted := asset.isDelisted }

/-- The candles of the markets, interval by interval. -/
def assemble (expectedIntervals : Nat) (bySymbol : List (String × List CandleV1)) :
    Exec PublisherError (List CandleV1) := do
  let rows ← (List.range expectedIntervals).mapM fun index => allowedSymbols.mapM fun symbol =>
    okOr ((named? bySymbol symbol).bind (·[index]?)) .sourceData
  return rows.flatten

/-- The candles that `publish` packages. -/
def publishedCandles (source : SourceData) (startTimeMs endTimeMs : Int64) :
    Exec PublisherError (List CandleV1) := do
  let expectedIntervals ← validateWindow startTimeMs endTimeMs
  let instruments ← source.instruments
  let bySymbol ← instruments.foldlM (fun bySymbol instrument => do
    let candles ← normalizeSymbol instrument.symbol instrument.sizeDecimals expectedIntervals
      startTimeMs (source.candles instrument.symbol) (source.funding instrument.symbol)
    return insertEntry instrument.symbol candles bySymbol) []
  assemble expectedIntervals bySymbol

/-! ## Times -/

theorem toInt_timeAfter {startTimeMs time : Int64} {interval : Int} {index : Nat}
    (ok : timeAfter startTimeMs interval index = .ok time) :
    time.toInt = startTimeMs.toInt + index * interval := by
  simp only [timeAfter, bind_eq_ok, tryI64_eq_ok, i64_eq_ok] at ok
  obtain ⟨i, isIndex, offset, isOffset, isTime⟩ := ok
  rw [isTime, isOffset, isIndex]

theorem eq_of_checkedMulUsize {a b product : Nat} (ok : checkedMulUsize a b = some product) :
    a * b = product := by
  rw [checkedMulUsize] at ok
  split at ok
  · exact Option.some.inj ok
  · cases ok

/-- The window of some intervals is aligned to hours and within the 64-bit times. -/
theorem window_of_validateWindow {startTimeMs endTimeMs : Int64} {expected : Nat}
    (ok : validateWindow startTimeMs endTimeMs = .ok expected) :
    startTimeMs.toInt % 3600000 = 0 ∧ 2 ≤ expected ∧
      startTimeMs.toInt + expected * 900000 = endTimeMs.toInt := by
  simp only [validateWindow, bind_eq_ok, rejectIf_eq_ok, exists_const, subI64_eq_ok, not_or, not_not,
    pure, Except.pure, Except.ok.injEq, toInt_candleIntervalMillis] at ok
  obtain ⟨⟨-, after, aligned, -⟩, span, isSpan, whole, ⟨least, -⟩, rfl⟩ := ok
  have positive : startTimeMs.toInt < endTimeMs.toInt :=
    Int64.lt_iff_toInt_lt.mp (Int64.not_le.mp after)
  rw [Int.tdiv_eq_ediv_of_nonneg (by omega)] at least ⊢
  exact ⟨aligned, by omega, by omega⟩

/-! ## Funding -/

/-- The hour of a record. -/
def FundingResponse.hour (record : FundingResponse) : Int := record.time.toInt / 3600000 * 3600000

/-- What an entry is of a record. -/
structure Enters (symbol : String) (record : FundingResponse) (entry : Int64 × Int64) : Prop where
  hour : entry.1.toInt = record.hour
  rate : parseScaled record.fundingRate 12 = .ok entry.2
  coin : record.coin = symbol

/-- The entries are those of the records, with an hour of its own each. -/
theorem entries_of_funding {symbol : String} {startTimeMs : Int64} {funding : List FundingResponse}
    {entries : FundingByOpen}
    (ok : funding.foldlM (enterFunding symbol startTimeMs) [] = .ok entries) :
    List.Forall₂ (Enters symbol) funding entries ∧ (entries.map (·.1)).Nodup := by
  refine @Loop.invariant _ _ _ _ (fun passed entries =>
    List.Forall₂ (Enters symbol) passed entries ∧ (entries.map (·.1)).Nodup) _ _ _
    ⟨.nil, List.nodup_nil⟩ ?_ ok
  intro passed record left before after _ holds entered
  simp only [enterFunding, bind_eq_ok, i64_eq_ok, rejectIf_eq_ok, exists_const, liftResult_eq_ok,
    not_or, not_not, pure, Except.pure, Except.ok.injEq] at entered
  obtain ⟨openTime, isHour, ⟨isCoin, -⟩, rate, isRate, fresh, rfl⟩ := entered
  refine ⟨List.rel_append holds.1 (.cons ⟨isHour, isRate, isCoin⟩ .nil), ?_⟩
  rw [List.map_append, List.nodup_append]
  refine ⟨holds.2, List.nodup_singleton _, ?_⟩
  rintro time mem _ here rfl
  rw [List.map_singleton, List.mem_singleton] at here
  rw [here] at mem
  exact fresh mem

/-- The rate of an hour is the one it was entered with. -/
theorem rateAt_of_mem {entries : FundingByOpen} {entry : Int64 × Int64}
    (nodup : (entries.map (·.1)).Nodup) (mem : entry ∈ entries) :
    rateAt entries entry.1 = entry.2 := by
  induction entries with
  | nil => cases mem
  | cons first rest ih =>
    rw [List.map_cons, List.nodup_cons] at nodup
    unfold rateAt
    rcases List.mem_cons.mp mem with rfl | mem
    · simp
    · have other : first.1 ≠ entry.1 := fun same =>
        nodup.1 (same ▸ List.mem_map_of_mem mem)
      rw [List.find?_cons_of_neg (by simpa using other)]
      exact ih nodup.2 mem

theorem rateAt_of_not_mem {entries : FundingByOpen} {openTime : Int64}
    (free : openTime ∉ entries.map (·.1)) : rateAt entries openTime = 0 := by
  have none : entries.find? (·.1 = openTime) = none := by
    rw [List.find?_eq_none]
    intro entry mem same
    exact free (of_decide_eq_true same ▸ List.mem_map_of_mem mem)
  rw [rateAt, none]
  rfl

/-- Related lists have a partner for each item. -/
theorem exists_partner {α β : Type} {R : α → β → Prop} {as : List α} {bs : List β}
    (related : List.Forall₂ R as bs) : ∀ a ∈ as, ∃ b ∈ bs, R a b := by
  induction related with
  | nil => exact fun _ mem => by cases mem
  | cons first _ ih =>
    intro a mem
    rcases List.mem_cons.mp mem with rfl | mem
    · exact ⟨_, List.mem_cons_self, first⟩
    · obtain ⟨b, isPartner, same⟩ := ih a mem
      exact ⟨b, List.mem_cons_of_mem _ isPartner, same⟩

/-- The hours of the records are those of the entries. -/
theorem hours_eq {symbol : String} {funding : List FundingResponse} {entries : FundingByOpen}
    (enters : List.Forall₂ (Enters symbol) funding entries) :
    funding.map FundingResponse.hour = (entries.map (·.1)).map Int64.toInt := by
  induction enters with
  | nil => rfl
  | cons first _ ih => rw [List.map_cons, List.map_cons, List.map_cons, ih, first.hour]

/-! ## One market -/

/-- The candles of a market and the funding of its records: one candle for each interval, each record
charged at the candle that opens at its hour, and nothing charged at the others. -/
structure Spread (startTimeMs : Int64) (expectedIntervals : Nat) (funding : List FundingResponse)
    (candles : List CandleV1) : Prop where
  length : candles.length = expectedIntervals
  opens : ∀ (index : Nat) (candle : CandleV1), candles[index]? = some candle →
    candle.openTimeMs.toInt = startTimeMs.toInt + index * 900000
  charged : ∀ record ∈ funding, ∃ (rate : Int64) (index : Nat) (candle : CandleV1),
    parseScaled record.fundingRate 12 = .ok rate ∧ candles[index]? = some candle ∧
      candle.openTimeMs.toInt = record.hour ∧ candle.fundingRateE12 = rate
  apart : (funding.map FundingResponse.hour).Nodup
  free : ∀ candle ∈ candles, (∀ record ∈ funding, record.hour ≠ candle.openTimeMs.toInt) →
    candle.fundingRateE12 = 0

/-- A candle in its place, with a rate at whole hours only. -/
structure PlacedAt (symbol : String) (sizeDecimals : UInt8) (startTimeMs : Int64) (index : Nat)
    (candle : CandleV1) : Prop where
  symbol : candle.symbol = symbol
  sizeDecimals : candle.sizeDecimals = sizeDecimals
  opens : candle.openTimeMs.toInt = startTimeMs.toInt + index * 900000
  closes : candle.closeTimeMs.toInt = candle.openTimeMs.toInt + 900000 - 1
  hourly : candle.fundingRateE12 ≠ 0 →
    ∃ hour : Nat, candle.openTimeMs.toInt = startTimeMs.toInt + hour * 3600000

/-- What is normalised of a candle. -/
theorem normalizeCandle_eq_ok {symbol : String} {sizeDecimals : UInt8} {startTimeMs : Int64}
    {fundingByOpen : FundingByOpen} {entry : CandleResponse × Nat} {candle : CandleV1}
    (ok : normalizeCandle symbol sizeDecimals startTimeMs fundingByOpen entry = .ok candle) :
    candle.symbol = symbol ∧ candle.sizeDecimals = sizeDecimals ∧
      candle.openTimeMs.toInt = startTimeMs.toInt + entry.2 * 900000 ∧
      candle.closeTimeMs.toInt = candle.openTimeMs.toInt + 900000 - 1 ∧
      candle.fundingRateE12 = rateAt fundingByOpen candle.openTimeMs := by
  have one : (1 : Int64).toInt = 1 := by decide
  simp only [normalizeCandle, bind_eq_ok, rejectIf_eq_ok, exists_const, liftResult_eq_ok,
    addI64_eq_ok, subI64_eq_ok, pure, Except.pure, Except.ok.injEq] at ok
  obtain ⟨openTime, isOpen, -, next, isNext, close, isClose, isCloseTime, _, -, _, -, _, -, _, -, _,
    -, rfl⟩ := ok
  rw [toInt_candleIntervalMillis] at isNext
  refine ⟨rfl, rfl, ?_, ?_, rfl⟩
  · exact toInt_timeAfter isOpen
  · rw [not_not.mp isCloseTime, isClose, isNext, one]

/-- **One market.**  What is normalised is spread over the window as it should be. -/
theorem spread_of_normalizeSymbol {symbol : String} {sizeDecimals : UInt8} {expected : Nat}
    {startTimeMs : Int64} {responses : List CandleResponse} {funding : List FundingResponse}
    {candles : List CandleV1}
    (ok : normalizeSymbol symbol sizeDecimals expected startTimeMs responses funding =
      .ok candles) :
    Spread startTimeMs expected funding candles ∧
      ∀ (index : Nat) (candle : CandleV1), candles[index]? = some candle →
        PlacedAt symbol sizeDecimals startTimeMs index candle := by
  simp only [normalizeSymbol, bind_eq_ok, okOr_eq_ok, rejectIf_eq_ok, exists_const, not_not,
    Bool.not_eq_true', Bool.not_eq_false, Bool.and_eq_true, List.all_eq_true, decide_eq_true_eq] at ok
  obtain ⟨count, minutes, isMinutes, entries, entered, -, times, areTimes, ⟨inTimes, -⟩,
    normalized⟩ := ok
  obtain rfl := eq_of_checkedMulUsize isMinutes
  obtain ⟨enters, nodup⟩ := entries_of_funding entered
  obtain ⟨length, each⟩ := Loop.mapM_eq_ok normalized
  have hours : ∀ entry ∈ entries, ∃ hour < expected * 15 / 60,
      entry.1.toInt = startTimeMs.toInt + hour * 3600000 := by
    intro entry mem
    obtain ⟨index, here⟩ := List.mem_iff_getElem?.mp (inTimes entry mem)
    obtain ⟨hour, isHour, isTime⟩ := (Loop.mapM_eq_ok areTimes).2 index entry.1 here
    obtain ⟨fits, rfl⟩ := List.getElem?_eq_some_iff.mp isHour
    rw [List.length_range] at fits
    rw [List.getElem_range] at isTime
    exact ⟨index, fits, toInt_timeAfter isTime⟩
  have placed : ∀ (index : Nat) (candle : CandleV1), candles[index]? = some candle →
      candle.symbol = symbol ∧ candle.sizeDecimals = sizeDecimals ∧
        candle.openTimeMs.toInt = startTimeMs.toInt + index * 900000 ∧
        candle.closeTimeMs.toInt = candle.openTimeMs.toInt + 900000 - 1 ∧
        candle.fundingRateE12 = rateAt entries candle.openTimeMs := by
    intro index candle here
    obtain ⟨entry, isEntry, isCandle⟩ := each index candle here
    rw [List.getElem?_zipIdx, Nat.zero_add] at isEntry
    obtain ⟨response, -, rfl⟩ := Option.map_eq_some_iff.mp isEntry
    have eqs := normalizeCandle_eq_ok isCandle
    dsimp only at eqs
    exact eqs
  have whole : candles.length = expected := by
    rw [length, List.length_zipIdx, count]
  refine ⟨⟨whole, fun index candle here => (placed index candle here).2.2.1, ?_, ?_, ?_⟩, ?_⟩
  · intro record mem
    obtain ⟨entry, isEntry, isRecord⟩ := exists_partner enters record mem
    obtain ⟨hour, fits, isHour⟩ := hours entry isEntry
    have within : 4 * hour < candles.length := by omega
    have here := List.getElem?_eq_getElem within
    have isPlaced := placed _ _ here
    have same : candles[4 * hour].openTimeMs = entry.1 := by
      rw [← Int64.toInt_inj, isPlaced.2.2.1, isHour]
      push_cast
      omega
    refine ⟨entry.2, 4 * hour, _, isRecord.rate, here, ?_, ?_⟩
    · rw [same, isRecord.hour]
    · rw [isPlaced.2.2.2.2, same, rateAt_of_mem nodup isEntry]
  · rw [hours_eq enters]
    exact nodup.map fun _ _ same => Int64.toInt_inj.mp same
  · intro candle mem free
    obtain ⟨index, here⟩ := List.mem_iff_getElem?.mp mem
    rw [(placed index candle here).2.2.2.2]
    refine rateAt_of_not_mem fun charged => ?_
    obtain ⟨entry, isEntry, isOpen⟩ := List.mem_map.mp charged
    obtain ⟨record, isIn, isRecord⟩ := exists_partner enters.flip entry isEntry
    exact free record isIn (by rw [← isOpen, isRecord.hour])
  · intro index candle here
    obtain ⟨isSymbol, isDecimals, opens, closes, isRate⟩ := placed index candle here
    refine ⟨isSymbol, isDecimals, opens, closes, fun charged => ?_⟩
    by_cases listed : candle.openTimeMs ∈ entries.map (·.1)
    · obtain ⟨entry, isEntry, isOpen⟩ := List.mem_map.mp listed
      obtain ⟨hour, -, isHour⟩ := hours entry isEntry
      exact ⟨hour, by rw [← isOpen, isHour]⟩
    · exact absurd (isRate.trans (rateAt_of_not_mem listed)) charged

/-! ## Interleaving -/

/-- An item of rows of one length is found by its row and its place there. -/
theorem getElem?_flatten {α : Type} {rows : List (List α)} {width : Nat} (pos : 0 < width)
    (wide : ∀ row ∈ rows, row.length = width) (index : Nat) :
    rows.flatten[index]? = rows[index / width]?.bind (·[index % width]?) := by
  induction rows generalizing index with
  | nil => rfl
  | cons row rest ih =>
    have length := wide row List.mem_cons_self
    rw [List.flatten_cons]
    rcases Nat.lt_or_ge index width with within | beyond
    · rw [List.getElem?_append_left (by omega), Nat.div_eq_of_lt within, Nat.mod_eq_of_lt within]
      rfl
    · obtain ⟨left, rfl⟩ := Nat.exists_eq_add_of_le' beyond
      rw [List.getElem?_append_right (by omega), length, Nat.add_sub_cancel,
        Nat.add_div_right _ pos, Nat.add_mod_right, List.getElem?_cons_succ]
      exact ih (fun other mem => wide other (List.mem_cons_of_mem _ mem)) left

/-- What is looked up after an insertion. -/
theorem named?_insertEntry {α : Type} {key key' : String} {value : α}
    {entries : List (String × α)} :
    named? (insertEntry key value entries) key' =
      if key = key' then some value else named? entries key' := by
  induction entries with
  | nil =>
    by_cases same : key = key'
    · simp [insertEntry, named?, same]
    · simp [insertEntry, named?, same]
  | cons first rest ih =>
    unfold named? at ih ⊢
    rw [insertEntry]
    by_cases same : key = key'
    · rw [if_pos same] at ih ⊢
      subst same
      split_ifs with before here
      · simp
      · simp
      · rw [List.find?_cons_of_neg (by simpa using Ne.symm here), ih]
    · rw [if_neg same] at ih ⊢
      split_ifs with before here
      · rw [List.find?_cons_of_neg (by simpa using same)]
      · subst here
        rw [List.find?_cons_of_neg (by simpa using same),
          List.find?_cons_of_neg (by simpa using same)]
      · by_cases found : first.1 = key'
        · rw [List.find?_cons_of_pos (by simpa using found),
            List.find?_cons_of_pos (by simpa using found)]
        · rw [List.find?_cons_of_neg (by simpa using found),
            List.find?_cons_of_neg (by simpa using found), ih]

/-- What is looked up after the insertions of some markets. -/
theorem named?_foldl_insertEntry {α : Type} {value : String → α} {keys : List String}
    {entries : List (String × α)} {key : String} (mem : key ∈ keys) :
    named? (keys.foldl (fun entries key => insertEntry key (value key) entries) entries) key =
      some (value key) := by
  induction keys using List.reverseRecOn with
  | nil => cases mem
  | append_singleton keys last ih =>
    rw [List.foldl_append, List.foldl_cons, List.foldl_nil, named?_insertEntry]
    by_cases same : last = key
    · rw [if_pos same, same]
    · rw [if_neg same]
      rcases List.mem_append.mp mem with earlier | here
      · exact ih earlier
      · exact absurd (List.mem_singleton.mp here).symm same

/-- The markets are interleaved when each has a candle for every interval. -/
theorem assemble_eq_ok {expected : Nat} {bySymbol : List (String × List CandleV1)}
    {series : String → List CandleV1}
    (named : ∀ symbol ∈ allowedSymbols, named? bySymbol symbol = some (series symbol))
    (length : ∀ symbol ∈ allowedSymbols, (series symbol).length = expected) :
    ∃ candles, assemble expected bySymbol = .ok candles ∧ candles.length = expected * 3 ∧
      ∀ (index : Nat) (candle : CandleV1), candles[index]? = some candle →
        ∃ symbol, allowedSymbols[index % 3]? = some symbol ∧
          (series symbol)[index / 3]? = some candle := by
  have found : ∀ symbol ∈ allowedSymbols, ∀ (index : Nat) (candle : CandleV1),
      okOr ((named? bySymbol symbol).bind (·[index]?)) PublisherError.sourceData = .ok candle ↔
        (series symbol)[index]? = some candle := by
    intro symbol mem index candle
    rw [okOr_eq_ok, named symbol mem, Option.bind_some]
  obtain ⟨rows, areRows⟩ := @Loop.exists_mapM _ _ _
    (fun index => allowedSymbols.mapM fun symbol =>
      okOr ((named? bySymbol symbol).bind (·[index]?)) PublisherError.sourceData)
    (List.range expected) (fun index mem => Loop.exists_mapM fun symbol isSymbol =>
      ⟨_, (found symbol isSymbol index _).mpr (List.getElem?_eq_getElem (by
        rw [length symbol isSymbol]
        exact List.mem_range.mp mem))⟩)
  obtain ⟨height, each⟩ := Loop.mapM_eq_ok areRows
  rw [List.length_range] at height
  have wide : ∀ row ∈ rows, row.length = 3 := by
    intro row mem
    obtain ⟨index, here⟩ := List.mem_iff_getElem?.mp mem
    obtain ⟨_, -, isRow⟩ := each index row here
    exact (Loop.mapM_eq_ok isRow).1
  refine ⟨rows.flatten, ?_, ?_, ?_⟩
  · exact bind_eq_ok.mpr ⟨rows, areRows, rfl⟩
  · rw [List.length_flatten, List.map_congr_left wide, List.map_const', List.sum_replicate_nat,
      height]
  · intro index candle here
    rw [getElem?_flatten (by decide) wide] at here
    obtain ⟨row, isRow, here⟩ := Option.bind_eq_some_iff.mp here
    obtain ⟨interval, isInterval, ofInterval⟩ := each _ row isRow
    obtain ⟨fits, rfl⟩ := List.getElem?_eq_some_iff.mp isInterval
    obtain ⟨symbol, isSymbol, ofSymbol⟩ := (Loop.mapM_eq_ok ofInterval).2 _ candle here
    rw [List.getElem_range] at ofSymbol
    exact ⟨symbol, isSymbol, (found symbol (List.mem_of_getElem? isSymbol) _ candle).mp ofSymbol⟩

/-- The instruments are those of the three markets. -/
theorem symbols_of_instruments {source : SourceData} {instruments : List InstrumentV1}
    (ok : source.instruments = .ok instruments) :
    instruments.map InstrumentV1.symbol = allowedSymbols := by
  obtain ⟨length, each⟩ := Loop.mapM_eq_ok ok
  refine List.ext_getElem? fun index => ?_
  rw [List.getElem?_map]
  cases isInstrument : instruments[index]? with
  | none =>
    rw [List.getElem?_eq_none_iff] at isInstrument
    exact (List.getElem?_eq_none (by omega)).symm
  | some instrument =>
    obtain ⟨symbol, isSymbol, isOk⟩ := each index instrument isInstrument
    simp only [bind_eq_ok, pure, Except.pure, Except.ok.injEq] at isOk
    obtain ⟨asset, -, _, -, rfl⟩ := isOk
    exact isSymbol.symm

/-! ## The assembled dataset -/

/-- The prices and the volume of a candle fit each other. -/
def CandleV1.PricesFit (candle : CandleV1) : Prop :=
  ¬(candle.openMicroUsdc ≤ 0
    ∨ candle.highMicroUsdc < candle.openMicroUsdc
    ∨ candle.highMicroUsdc < candle.closeMicroUsdc
    ∨ candle.lowMicroUsdc > candle.openMicroUsdc
    ∨ candle.lowMicroUsdc > candle.closeMicroUsdc
    ∨ candle.volumeE8 < 0)

/-- Two candles that differ at most in their prices and volumes. -/
structure CandleV1.Reprices (candle priced : CandleV1) : Prop where
  symbol : priced.symbol = candle.symbol
  openTimeMs : priced.openTimeMs = candle.openTimeMs
  closeTimeMs : priced.closeTimeMs = candle.closeTimeMs
  fundingRateE12 : priced.fundingRateE12 = candle.fundingRateE12
  sizeDecimals : priced.sizeDecimals = candle.sizeDecimals

/-- The validation accepts some candles but for their prices and volumes: it accepts them with any
others that fit each other. -/
def AcceptedButPrices (candles : List CandleV1) : Prop :=
  ∀ priced, List.Forall₂ CandleV1.Reprices candles priced →
    (∀ candle ∈ priced, candle.PricesFit) → validateCandles priced = .ok ()

/-- A candle in its place among those of its market is in its place among all. -/
theorem standsAt_of_placedAt {startTimeMs endTimeMs : Int64} {expected index : Nat}
    {decimals : String → UInt8} {symbol : String} {candle priced : CandleV1}
    (window : startTimeMs.toInt % 3600000 = 0 ∧ 2 ≤ expected ∧
      startTimeMs.toInt + expected * 900000 = endTimeMs.toInt)
    (within : index / 3 < expected) (isSymbol : allowedSymbols[index % 3]? = some symbol)
    (placed : PlacedAt symbol (decimals symbol) startTimeMs (index / 3) candle)
    (few : decimals symbol ≤ 8) (reprices : candle.Reprices priced) (fit : priced.PricesFit) :
    StandsAt startTimeMs.toInt decimals index priced := by
  have opens := placed.opens
  refine ⟨?_, ?_, ?_, ?_, ?_, ?_⟩
  · rw [reprices.symbol, placed.symbol, isSymbol]
  · rw [reprices.openTimeMs, opens]
  · rw [reprices.closeTimeMs, reprices.openTimeMs, placed.closes]
  · have late := endTimeMs.toInt_lt
    rw [CandleV1.TimesFit, reprices.openTimeMs]
    omega
  · simp only [CandleV1.PricesFit, not_or] at fit
    simp only [CandleV1.Coherent, not_or, not_and, not_not]
    refine ⟨fit.1, fit.2.1, fit.2.2.1, fit.2.2.2.1, fit.2.2.2.2.1, fit.2.2.2.2.2, ?_, ?_⟩
    · rw [reprices.sizeDecimals, placed.sizeDecimals]
      exact UInt8.not_lt.mpr few
    · intro charged
      rw [reprices.fundingRateE12] at charged
      obtain ⟨hour, isHour⟩ := placed.hourly charged
      rw [reprices.openTimeMs, isHour, fundingIntervalMillis]
      change (_ : Int) % 3600000 = 0
      omega
  · rw [reprices.sizeDecimals, reprices.symbol, placed.sizeDecimals, placed.symbol]

/-- **Publishing.**  What is normalised is spread over the window, each rate at its hour and each
once, and what is assembled of it is valid but for its prices and volumes. -/
theorem publishes_exactly {source : SourceData} {startTimeMs endTimeMs : Int64} {expected : Nat}
    {decimals : String → UInt8} {series : String → List CandleV1}
    (window : validateWindow startTimeMs endTimeMs = .ok expected)
    (few : ∀ symbol ∈ allowedSymbols, decimals symbol ≤ 8)
    (normalized : ∀ symbol ∈ allowedSymbols,
      normalizeSymbol symbol (decimals symbol) expected startTimeMs (source.candles symbol)
        (source.funding symbol) = .ok (series symbol)) :
    (∀ symbol ∈ allowedSymbols,
        Spread startTimeMs expected (source.funding symbol) (series symbol)) ∧
      ∀ instruments, source.instruments = .ok instruments →
        (∀ instrument ∈ instruments, instrument.sizeDecimals = decimals instrument.symbol) →
        ∃ candles, publishedCandles source startTimeMs endTimeMs = .ok candles ∧
          AcceptedButPrices candles := by
  have spread := fun symbol mem => (spread_of_normalizeSymbol (normalized symbol mem)).1
  have placed := fun symbol mem => (spread_of_normalizeSymbol (normalized symbol mem)).2
  refine ⟨spread, fun instruments areInstruments areDecimals => ?_⟩
  have symbols := symbols_of_instruments areInstruments
  have looped : instruments.foldlM (fun bySymbol instrument => do
      let candles ← normalizeSymbol instrument.symbol instrument.sizeDecimals expected
        startTimeMs (source.candles instrument.symbol) (source.funding instrument.symbol)
      return insertEntry instrument.symbol candles bySymbol) [] =
        .ok (allowedSymbols.foldl (fun entries symbol =>
          insertEntry symbol (series symbol) entries) []) := by
    rw [← symbols, List.foldl_map]
    refine Loop.foldlM_of_steps fun instrument mem bySymbol => ?_
    have isSymbol : instrument.symbol ∈ allowedSymbols := symbols ▸ List.mem_map_of_mem mem
    rw [areDecimals instrument mem, normalized instrument.symbol isSymbol]
    rfl
  obtain ⟨candles, areCandles, length, each⟩ := assemble_eq_ok
    (fun symbol mem => named?_foldl_insertEntry mem) (fun symbol mem => (spread symbol mem).length)
  refine ⟨candles, ?_, fun priced reprices fit => ?_⟩
  · exact bind_eq_ok.mpr ⟨expected, window, bind_eq_ok.mpr ⟨instruments, areInstruments,
      bind_eq_ok.mpr ⟨_, looped, areCandles⟩⟩⟩
  · have aligned := window_of_validateWindow window
    have same := reprices.length_eq
    refine validateCandles_eq_ok_iff.mpr
      (@accepted_of_standsAt priced startTimeMs.toInt decimals ?_ (by omega) ?_)
    · intro none
      rw [none, List.length_nil] at same
      omega
    · intro index candle here
      have fits := (List.getElem?_eq_some_iff.mp here).1
      obtain ⟨symbol, isSymbol, ofSymbol⟩ := each index _
        (List.getElem?_eq_getElem (same ▸ fits))
      have mem := List.mem_of_getElem? isSymbol
      refine standsAt_of_placedAt aligned (by omega) isSymbol (placed symbol mem _ _ ofSymbol)
        (few symbol mem) ?_ (fit candle (List.mem_of_getElem? here))
      obtain ⟨_, rfl⟩ := List.getElem?_eq_some_iff.mp here
      exact reprices.get (same ▸ fits) fits

/-- An hour of the three markets, with a funding record for each. -/
def sampleSource : SourceData where
  assets := [⟨"BTC", 5, 40, false⟩, ⟨"ETH", 4, 25, false⟩, ⟨"SOL", 2, 20, false⟩]
  candles := fun symbol => (List.range 4).map fun index =>
    { openTimeMs := .ofNat (900000 * index)
      closeTimeMs := .ofNat (900000 * index + 899999)
      symbol
      interval := "15m"
      openText := "100.5"
      closeText := "101"
      highText := "102.25"
      lowText := "99"
      volumeText := "12.3" }
  funding := fun symbol => [⟨symbol, "-0.0000125", 17⟩]

theorem publishes_exactly_sample :
    ∃ (series : String → List CandleV1) (candles : List CandleV1),
      (∀ symbol ∈ allowedSymbols, Spread 0 4 (sampleSource.funding symbol) (series symbol)) ∧
        publishedCandles sampleSource 0 3600000 = .ok candles ∧ AcceptedButPrices candles := by
  let decimals : String → UInt8 := fun symbol =>
    if symbol = "BTC" then 5 else if symbol = "ETH" then 4 else 2
  let series : String → List CandleV1 := fun symbol =>
    match normalizeSymbol symbol (decimals symbol) 4 0 (sampleSource.candles symbol)
      (sampleSource.funding symbol) with
    | .ok candles => candles
    | .error _ => []
  obtain ⟨spread, assembled⟩ := @publishes_exactly sampleSource 0 3600000 4 decimals series
    (by decide) (by decide) (by decide)
  obtain ⟨candles, areCandles, accepted⟩ := assembled
    [⟨"BTC", 5, 40, false⟩, ⟨"ETH", 4, 25, false⟩, ⟨"SOL", 2, 20, false⟩]
    (by decide) (by decide)
  exact ⟨series, candles, spread, areCandles, accepted⟩

end CrowAgent
