import CrowAgent.Dataset.Publishing

/-!
# Histories of the venue

The venue serves the funding of a market page by page.  `funding_collects` says that the publisher
comes to all records of its window or to an error, and `publish_charges_history` that what it
publishes charges the whole history of the window.
-/

namespace CrowAgent

open FixedWidth Paging

/-- When a record was charged. -/
def FundingResponse.timeMs (record : FundingResponse) : Int := record.time.toInt

/-- The records that are charged from a start on and before an end. -/
def chargedWithin (history : List FundingResponse) (startTimeMs endTimeMs : Int64) :
    List FundingResponse :=
  window FundingResponse.timeMs history startTimeMs.toInt (endTimeMs.toInt - 1)

/-- The venue serves the history of a market in pages of 500 records at least. -/
structure HyperliquidInfo.Serves (info : HyperliquidInfo) (symbol : String)
    (history : List FundingResponse) : Prop where
  ordered : Ordered FundingResponse.timeMs history
  page : ∀ start last, ∃ page, info.fundingHistory symbol start last = .ok page ∧
    IsPage 500 (window FundingResponse.timeMs history start.toInt last.toInt) page

variable {info : HyperliquidInfo} {symbol : String} {history collected : List FundingResponse}
  {startTimeMs endTimeMs cursor : Int64}

theorem exists_int64 {exact : Int} (low : -2 ^ 63 ≤ exact) (high : exact < 2 ^ 63) :
    ∃ value : Int64, value.toInt = exact :=
  ⟨.ofInt exact, Int64.toInt_ofInt_of_le low high⟩

/-! ## Pages -/

section Pages

variable {pages : Nat} {lastTimeMs cursor' : Int64} {page : List FundingResponse}
  {last : FundingResponse}

/-- The loop ends at an empty page. -/
theorem fundingPages_empty (within : ¬endTimeMs ≤ cursor)
    (isLastTime : lastTimeMs.toInt = endTimeMs.toInt - 1)
    (answered : info.fundingHistory symbol cursor lastTimeMs = .ok []) :
    info.fundingPages symbol endTimeMs (pages + 1) cursor collected = .ok (cursor, collected) := by
  rw [HyperliquidInfo.fundingPages, if_neg within, subI64_eq_ok.mpr isLastTime]
  change (info.fundingHistory symbol cursor lastTimeMs >>= _) = _
  rw [answered]
  rfl

/-- It goes on behind the last record of a page. -/
theorem fundingPages_next (within : ¬endTimeMs ≤ cursor)
    (isLastTime : lastTimeMs.toInt = endTimeMs.toInt - 1)
    (answered : info.fundingHistory symbol cursor lastTimeMs = .ok page)
    (isLast : page.getLast? = some last) (later : cursor.toInt ≤ last.time.toInt)
    (inside : ∀ record ∈ page, record.time.toInt < endTimeMs.toInt)
    (next : cursor'.toInt = last.time.toInt + 1) :
    info.fundingPages symbol endTimeMs (pages + 1) cursor collected =
      info.fundingPages symbol endTimeMs pages cursor' (collected ++ page) := by
  have all : page.filter (·.time < endTimeMs) = page :=
    List.filter_eq_self.mpr fun record mem => decide_eq_true (Int64.lt_iff_toInt_lt.mpr (inside record mem))
  have after : ¬last.time < cursor := Int64.not_lt.mpr (Int64.le_iff_toInt_le.mpr later)
  rw [HyperliquidInfo.fundingPages, if_neg within, subI64_eq_ok.mpr isLastTime]
  simp only [answered, isLast, rejectIf, if_neg after, tryI64_eq_ok.mpr next, all, bind, Except.bind]

end Pages

/-- What is left of a window after a page. -/
theorem length_of_collected {start cursor cursor' stop : Int} {more : List FundingResponse}
    (read : Collected FundingResponse.timeMs history start cursor stop collected)
    (read' : Collected FundingResponse.timeMs history start cursor' stop more) :
    collected.length + (window FundingResponse.timeMs history cursor stop).length =
      more.length + (window FundingResponse.timeMs history cursor' stop).length := by
  rw [← List.length_append, ← List.length_append, ← read.split, ← read'.split]

/-- **The loop.**  After some pages the reader has read its window up to its cursor; then nothing is
left, or all pages were full. -/
theorem fundingPages_collects (serves : info.Serves symbol history) (pages : Nat)
    (read : Collected FundingResponse.timeMs history startTimeMs.toInt cursor.toInt
      (endTimeMs.toInt - 1) collected) :
    ∃ cursor' collected',
      info.fundingPages symbol endTimeMs pages cursor collected = .ok (cursor', collected') ∧
      Collected FundingResponse.timeMs history startTimeMs.toInt cursor'.toInt (endTimeMs.toInt - 1)
        collected' ∧
      (window FundingResponse.timeMs history cursor'.toInt (endTimeMs.toInt - 1) = [] ∨
        collected.length + pages * 500 ≤ collected'.length) := by
  induction pages generalizing cursor collected with
  | zero => exact ⟨cursor, collected, rfl, read, .inr (Nat.le_of_eq (by omega))⟩
  | succ pages ih =>
    by_cases past : endTimeMs ≤ cursor
    · have beyond := Int64.le_iff_toInt_le.mp past
      refine ⟨cursor, collected, ?_, read, .inl (window_eq_nil (by omega))⟩
      rw [HyperliquidInfo.fundingPages, if_pos past]
      rfl
    · have within := Int64.lt_iff_toInt_lt.mp (Int64.not_le.mp past)
      have least := cursor.le_toInt
      have most := endTimeMs.toInt_lt
      rcases exists_int64 (by omega : -2 ^ 63 ≤ endTimeMs.toInt - 1) (by omega) with
        ⟨lastTimeMs, isLastTime⟩
      rcases serves.page cursor lastTimeMs with ⟨page, answered, isPage⟩
      rw [isLastTime] at isPage
      cases isLast : page.getLast? with
      | none =>
        rw [List.getLast?_eq_none_iff] at isLast
        subst isLast
        exact ⟨cursor, collected, fundingPages_empty past isLastTime answered, read,
          .inl (isPage.nil (by decide))⟩
      | some last =>
        rcases read.next serves.ordered isPage isLast with ⟨later, before, read₁⟩
        have inside : ∀ record ∈ page, record.time.toInt < endTimeMs.toInt := by
          intro record mem
          rcases isPage.first with ⟨rest, split⟩
          have here := (mem_window.mp (split ▸ List.mem_append_left rest mem)).2.2
          rw [FundingResponse.timeMs] at here
          omega
        rw [FundingResponse.timeMs] at later before read₁
        rcases exists_int64 (by omega : -2 ^ 63 ≤ last.time.toInt + 1) (by omega) with
          ⟨cursor', isNext⟩
        rw [← isNext] at read₁
        rcases ih read₁ with ⟨cursor'', collected', ran, read₂, goal⟩
        refine ⟨cursor'', collected', ?_, read₂, ?_⟩
        · rw [fundingPages_next past isLastTime answered isLast later inside isNext, ran]
        · rcases goal with nothing | full
          · exact .inl nothing
          · rw [List.length_append] at full
            rcases isPage.full with enough | all
            · exact .inr (by omega)
            · have lengths := length_of_collected read read₂
              rw [← all] at lengths
              exact .inl (List.eq_nil_of_length_eq_zero (by omega))

/-- **Funding.**  Against a venue that serves a history, the publisher comes to exactly the records of
its window or to an error, and to them when there are fewer than 16000. -/
theorem funding_collects (serves : info.Serves symbol history) :
    (∀ result, info.funding symbol startTimeMs endTimeMs = .ok result →
      result = chargedWithin history startTimeMs endTimeMs) ∧
    ((chargedWithin history startTimeMs endTimeMs).length < 16000 →
      info.funding symbol startTimeMs endTimeMs =
        .ok (chargedWithin history startTimeMs endTimeMs)) := by
  rcases @fundingPages_collects info symbol history [] startTimeMs endTimeMs startTimeMs serves
    maxFundingPages .none with ⟨cursor, collected, ran, read, goal⟩
  have split := read.split
  rw [List.length_nil, maxFundingPages, Nat.zero_add] at goal
  by_cases short : cursor < endTimeMs ∧ maxFundingPages * 500 ≤ collected.length
  · have rejected : info.funding symbol startTimeMs endTimeMs = raise (.source .sourceData) := by
      rw [HyperliquidInfo.funding, ran]
      change (rejectIf _ _ >>= _) = _
      rw [rejectIf, if_pos short]
      rfl
    refine ⟨fun result ok => absurd (rejected.symm.trans ok) raise_ne_ok, fun few => ?_⟩
    rw [chargedWithin, split, List.length_append] at few
    have many := short.2
    rw [maxFundingPages] at many
    omega
  · have nothing : window FundingResponse.timeMs history cursor.toInt (endTimeMs.toInt - 1) = [] := by
      rcases goal with nothing | full
      · exact nothing
      · have past : ¬cursor < endTimeMs := fun within => short ⟨within, full⟩
        have beyond := Int64.le_iff_toInt_le.mp (Int64.not_lt.mp past)
        exact window_eq_nil (by omega)
    have whole : collected = chargedWithin history startTimeMs endTimeMs := by
      rw [chargedWithin, split, nothing, List.append_nil]
    have accepted : info.funding symbol startTimeMs endTimeMs = .ok collected := by
      rw [HyperliquidInfo.funding, ran]
      change (rejectIf _ _ >>= _) = _
      rw [rejectIf, if_neg short]
      rfl
    refine ⟨fun result ok => ?_, fun _ => accepted.trans (congrArg _ whole)⟩
    rw [← Except.ok.inj (accepted.symm.trans ok), whole]

/-- A venue with some source data serves its funding. -/
theorem SourceData.serves {source : SourceData}
    (ordered : Ordered FundingResponse.timeMs (source.funding symbol)) :
    source.info.Serves symbol (source.funding symbol) where
  ordered
  page := fun _ _ => ⟨_, rfl, isPage_take 500 _⟩

/-- A month of funding, which is more than a page. -/
def monthSource : SourceData where
  assets := []
  candles := fun _ => []
  funding := fun symbol => (List.range 720).map fun hour =>
    ⟨symbol, "0.0000125", .ofNat (3600000 * hour)⟩

theorem sample_funding_collected : ∃ result,
    monthSource.info.funding "BTC" 0 2592000000 = .ok result ∧ result.length = 720 := by
  have ordered : Ordered FundingResponse.timeMs (monthSource.funding "BTC") :=
    List.isChain_iff_pairwise.mp (by decide +kernel)
  have length : (chargedWithin (monthSource.funding "BTC") 0 2592000000).length = 720 := by
    decide +kernel
  exact ⟨_, (funding_collects (SourceData.serves ordered)).2 (by omega), length⟩

/-! ## Publications -/

section Publications

variable {output : OutputDirectory} {datasetId : Uuid} {version : UInt32} {prims : WirePrimitives}
  {parquet : Parquet} {signingKeyFile : Option Bytes} {publication : Publication} {expected : Nat}
  {instruments : List InstrumentV1} {bySymbol : List (String × List CandleV1)}

/-- Each market has the series that its candles and its funding are normalised to. -/
theorem named?_of_collectMarkets (distinct : (instruments.map InstrumentV1.symbol).Nodup)
    (ok : collectMarkets info expected startTimeMs endTimeMs instruments = .ok bySymbol) :
    ∀ instrument ∈ instruments, ∃ candles funding series,
      info.funding instrument.symbol startTimeMs endTimeMs = .ok funding ∧
      normalizeSymbol instrument.symbol instrument.sizeDecimals expected startTimeMs candles funding =
        .ok series ∧
      named? bySymbol instrument.symbol = some series := by
  refine @Loop.invariant _ _ _ _ (fun passed bySymbol => ∀ instrument ∈ passed,
    ∃ candles funding series, info.funding instrument.symbol startTimeMs endTimeMs = .ok funding ∧
      normalizeSymbol instrument.symbol instrument.sizeDecimals expected startTimeMs candles funding =
        .ok series ∧
      named? bySymbol instrument.symbol = some series) _ _ _ (List.forall_mem_nil _) ?_ ok
  intro passed market left before after split holds entered
  simp only [bind_eq_ok, withErrors_eq_ok, pure, Except.pure, Except.ok.injEq] at entered
  rcases entered with ⟨candles, -, funding, isFunding, series, isSeries, rfl⟩
  intro instrument mem
  rcases List.mem_append.mp mem with earlier | here
  · rw [split, List.map_append, List.nodup_append] at distinct
    have other : market.symbol ≠ instrument.symbol := fun same =>
      distinct.2.2 _ (List.mem_map_of_mem earlier) _ List.mem_cons_self same.symm
    rcases holds instrument earlier with ⟨candles', funding', series', isFunding', isSeries', found⟩
    exact ⟨candles', funding', series', isFunding', isSeries',
      by rw [named?_insertEntry, if_neg other, found]⟩
  · rw [List.mem_singleton.mp here]
    exact ⟨candles, funding, series, isFunding, isSeries, by rw [named?_insertEntry, if_pos rfl]⟩

/-- **Publications.**  What is published against a venue that serves the histories of its markets has
the candles of the markets side by side, each interval of the window with its candle and each record
of the history in the window charged once, at the candle of its hour. -/
theorem publish_charges_history {histories : String → List FundingResponse}
    (serves : ∀ symbol ∈ allowedSymbols, info.Serves symbol (histories symbol))
    (published : publish prims parquet info output datasetId version startTimeMs endTimeMs
      signingKeyFile = .ok publication) :
    ∃ (expected : Nat) (series : String → List CandleV1),
      startTimeMs.toInt + expected * 900000 = endTimeMs.toInt ∧
      publication.candles.length = expected * 3 ∧
      (∀ (index : Nat) (candle : CandleV1), publication.candles[index]? = some candle →
        ∃ symbol, allowedSymbols[index % 3]? = some symbol ∧
          (series symbol)[index / 3]? = some candle) ∧
      ∀ symbol ∈ allowedSymbols, Spread startTimeMs expected
        (chargedWithin (histories symbol) startTimeMs endTimeMs) (series symbol) := by
  rcases publish_eq_ok.mp published with
    ⟨expected, window, -, -, -, -, areInstruments, ⟨bySymbol, collected, assembled⟩, -⟩
  simp only [HyperliquidInfo.instruments, bind_eq_ok, withErrors_eq_ok] at areInstruments
  rcases areInstruments with ⟨assets, -, areInstruments⟩
  have symbols := symbols_of_instruments areInstruments
  have distinct : (publication.instruments.map InstrumentV1.symbol).Nodup := by
    rw [symbols]
    decide
  have spread : ∀ symbol ∈ allowedSymbols, ∃ series, named? bySymbol symbol = some series ∧
      Spread startTimeMs expected (chargedWithin (histories symbol) startTimeMs endTimeMs) series := by
    intro symbol mem
    rcases List.mem_map.mp (symbols ▸ mem) with ⟨instrument, isInstrument, rfl⟩
    rcases named?_of_collectMarkets distinct collected instrument isInstrument with
      ⟨candles, funding, series, isFunding, normalized, found⟩
    have whole := (funding_collects (serves _ mem)).1 funding isFunding
    exact ⟨series, found, whole ▸ (spread_of_normalizeSymbol normalized).1⟩
  let series : String → List CandleV1 := fun symbol => (named? bySymbol symbol).getD []
  have isSeries : ∀ symbol ∈ allowedSymbols, named? bySymbol symbol = some (series symbol) ∧
      Spread startTimeMs expected (chargedWithin (histories symbol) startTimeMs endTimeMs)
        (series symbol) := by
    intro symbol mem
    rcases spread symbol mem with ⟨found, isFound, isSpread⟩
    have same : series symbol = found := by
      change (named? bySymbol symbol).getD [] = found
      rw [isFound]
      rfl
    exact ⟨same ▸ isFound, same ▸ isSpread⟩
  rcases assemble_eq_ok (fun symbol mem => (isSeries symbol mem).1)
    (fun symbol mem => (isSeries symbol mem).2.length) with ⟨candles, areCandles, length, each⟩
  cases assembled.symm.trans areCandles
  exact ⟨expected, series, (window_of_validateWindow window).2.2, length, each,
    fun symbol mem => (isSeries symbol mem).2⟩

/-- The theorem at the hour that was published. -/
theorem sample_history_charged : ∃ (expected : Nat) (series : String → List CandleV1),
    hourCandles.length = expected * 3 ∧
      ∀ symbol ∈ allowedSymbols, Spread 0 expected
        (chargedWithin (sampleSource.funding symbol) 0 3600000) (series symbol) := by
  have ordered : ∀ symbol, Ordered FundingResponse.timeMs (sampleSource.funding symbol) :=
    fun _ => List.pairwise_singleton _ _
  rcases publish_charges_history (fun symbol _ => SourceData.serves (ordered symbol)) publish_hour with ⟨expected, series, -, length, -, spread⟩
  exact ⟨expected, series, length, spread⟩

end Publications

end CrowAgent
