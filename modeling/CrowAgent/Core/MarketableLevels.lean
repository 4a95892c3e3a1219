import CrowAgent.Core.DispatchSizes

/-!
# Marketable levels

The limit of a market order and the depth it is checked against are taken from the same ladder by
two loops.  `Marketable` is what the first one returns, and `marketable_ladder` says that the second
one adds up the levels it stands for.
-/

namespace CrowAgent

open FixedWidth

/-- At most five percent worse than the best opposing price. -/
def WithinFivePercent (side : Side) (top price : Int64) : Prop :=
  match side with
  | .buy => price.toInt * 10000 ≤ top.toInt * 10500
  | .sell => top.toInt * 9500 ≤ price.toInt * 10000

/-- The levels show positive prices. -/
def PositivePrices (levels : List BookLevel) : Prop :=
  ∀ level ∈ levels, ∃ price, decimalStringToFixed level.price 6 = .ok price ∧ 0 < price.toInt

/-- A limit that separates the levels within five percent of a price from the others. -/
def Selects (side : Side) (top limit : Int64) (levels : List BookLevel) : Prop :=
  ∀ level ∈ levels, ∀ price, decimalStringToFixed level.price 6 = .ok price →
    (atOrBetter side limit price = true ↔ WithinFivePercent side top price)

/-- The worst displayed price within five percent of the best one. -/
structure Marketable (side : Side) (top limit : Int64) (levels : List BookLevel) : Prop where
  displayed : ∃ level ∈ levels, decimalStringToFixed level.price 6 = .ok limit
  within : WithinFivePercent side top limit
  selects : Selects side top limit levels

/-- The notional of a level at or better than a limit, in whole micro-USDC. -/
def BookLevel.notionalWithin (side : Side) (limit : Int64) (level : BookLevel) : Int :=
  match decimalStringToFixed level.price 6, decimalStringToFixed level.size 8 with
  | .ok price, .ok size =>
    if atOrBetter side limit price then price.toInt * size.toInt / 100000000 else 0
  | _, _ => 0

/-- The displayed notional of the levels at or better than a limit. -/
def displayedNotional (side : Side) (limit : Int64) (levels : List BookLevel) : Int :=
  (levels.map (BookLevel.notionalWithin side limit)).sum

/-- The levels at or better than a limit show positive sizes. -/
def PositiveSizes (side : Side) (limit : Int64) (levels : List BookLevel) : Prop :=
  ∀ level ∈ levels, ∀ price, decimalStringToFixed level.price 6 = .ok price →
    atOrBetter side limit price = true →
      ∃ size, decimalStringToFixed level.size 8 = .ok size ∧ 0 < size.toInt

/-! ## Prices -/

theorem withinMarketSlippage_iff {side : Side} {top price : Int64} :
    withinMarketSlippage side top price = true ↔ WithinFivePercent side top price := by
  cases side <;> exact decide_eq_true_iff

theorem atOrBetter_refl (side : Side) (price : Int64) : atOrBetter side price price = true := by
  cases side <;> exact decide_eq_true (Int64.le_refl price)

theorem withinFivePercent_self {side : Side} {top : Int64} (topPos : 0 < top.toInt) :
    WithinFivePercent side top top := by
  cases side with
  | buy => exact mul_le_mul_of_nonneg_left (by decide) topPos.le
  | sell => exact mul_le_mul_of_nonneg_left (by decide) topPos.le

/-- What is at or better than a price within five percent is within five percent. -/
theorem WithinFivePercent.better {side : Side} {top price price' : Int64}
    (within : WithinFivePercent side top price)
    (better : atOrBetter side price price' = true) : WithinFivePercent side top price' := by
  cases side with
  | buy =>
    have le := Int64.le_iff_toInt_le.mp (of_decide_eq_true better)
    exact (mul_le_mul_of_nonneg_right le (by decide)).trans within
  | sell =>
    have le := Int64.le_iff_toInt_le.mp (of_decide_eq_true better)
    exact within.trans (mul_le_mul_of_nonneg_right le (by decide))

/-! ## The limit -/

/-- No level behind one beyond the ceiling is within it. -/
theorem not_within_of_bestFirst {side : Side} {top price : Int64} {level : BookLevel}
    {levels : List BookLevel} (bestFirst : BestFirst side (level :: levels))
    (isPrice : decimalStringToFixed level.price 6 = .ok price)
    (beyond : ¬WithinFivePercent side top price) :
    ∀ level' ∈ level :: levels, ∀ price', decimalStringToFixed level'.price 6 = .ok price' →
      ¬WithinFivePercent side top price' := by
  intro level' mem price' isPrice' within
  refine beyond (within.better ?_)
  rcases List.mem_cons.mp mem with rfl | mem
  · rw [Except.ok.inj (isPrice.symm.trans isPrice')]
    exact atOrBetter_refl side price'
  · exact (List.pairwise_cons.mp bestFirst).1 level' mem price price' isPrice isPrice'

/-- Behind a level beyond the ceiling nothing is selected. -/
theorem selects_of_beyond {side : Side} {top limit price : Int64} {level : BookLevel}
    {levels : List BookLevel} (bestFirst : BestFirst side (level :: levels))
    (isPrice : decimalStringToFixed level.price 6 = .ok price)
    (within : WithinFivePercent side top limit) (beyond : ¬WithinFivePercent side top price) :
    Selects side top limit (level :: levels) := by
  intro level' mem price' isPrice'
  have beyond' := not_within_of_bestFirst bestFirst isPrice beyond level' mem price' isPrice'
  exact iff_of_false (fun better => beyond' (within.better better)) beyond'

/-- The loop of the limit ends at the worst price it may pass. -/
theorem exists_deepestPrice {side : Side} {top limit₀ : Int64} {levels : List BookLevel}
    (bestFirst : BestFirst side levels) (positive : PositivePrices levels)
    (within₀ : WithinFivePercent side top limit₀) :
    ∃ limit, BookSnapshot.deepestPrice side top limit₀ levels = .ok limit ∧
      (limit = limit₀ ∨ ∃ level ∈ levels, decimalStringToFixed level.price 6 = .ok limit) ∧
      WithinFivePercent side top limit ∧ Selects side top limit levels := by
  induction levels generalizing limit₀ with
  | nil => exact ⟨limit₀, rfl, .inl rfl, within₀, nofun⟩
  | cons level levels ih =>
    obtain ⟨⟨price, isPrice, pricePos⟩, positive⟩ := List.forall_mem_cons.mp positive
    have zero : (0 : Int64).toInt = 0 := by decide
    have notNonpos : ¬price ≤ 0 := by
      rw [Int64.le_iff_toInt_le, zero]
      exact not_le.mpr pricePos
    have step : BookSnapshot.deepestPrice side top limit₀ (level :: levels) =
        if withinMarketSlippage side top price then
          BookSnapshot.deepestPrice side top price levels else .ok limit₀ := by
      simp only [BookSnapshot.deepestPrice, isPrice, bind, Except.bind, notNonpos, if_false, pure,
        Except.pure]
    rw [step]
    by_cases within : WithinFivePercent side top price
    · rw [if_pos (withinMarketSlippage_iff.mpr within)]
      obtain ⟨limit, isLimit, shown, inside, selects⟩ :=
        ih (List.pairwise_cons.mp bestFirst).2 positive within
      have atLimit : atOrBetter side limit price = true := by
        rcases shown with rfl | ⟨level', mem, isLimit'⟩
        · exact atOrBetter_refl side limit
        · exact (List.pairwise_cons.mp bestFirst).1 level' mem price limit isPrice isLimit'
      refine ⟨limit, isLimit, .inr ?_, inside, List.forall_mem_cons.mpr ⟨?_, selects⟩⟩
      · rcases shown with rfl | ⟨level', mem, isLimit'⟩
        · exact ⟨level, List.mem_cons_self, isPrice⟩
        · exact ⟨level', List.mem_cons_of_mem _ mem, isLimit'⟩
      · intro price' isPrice'
        obtain rfl := Except.ok.inj (isPrice.symm.trans isPrice')
        exact iff_of_true atLimit within
    · rw [if_neg (withinMarketSlippage_iff.not.mpr within)]
      exact ⟨limit₀, rfl, .inl rfl, within₀,
        selects_of_beyond bestFirst isPrice within₀ within⟩

/-! ## The depth -/

theorem displayedNotional_cons {side : Side} {limit : Int64} {level : BookLevel}
    {levels : List BookLevel} : displayedNotional side limit (level :: levels) =
      level.notionalWithin side limit + displayedNotional side limit levels := by
  rw [displayedNotional, List.map_cons, List.sum_cons, ← displayedNotional]

/-- Levels that are all worse than a limit are worth nothing at it. -/
theorem displayedNotional_of_worse {side : Side} {limit : Int64} {levels : List BookLevel}
    (worse : ∀ level ∈ levels, ∀ price, decimalStringToFixed level.price 6 = .ok price →
      ¬atOrBetter side limit price = true) : displayedNotional side limit levels = 0 := by
  induction levels with
  | nil => rfl
  | cons level levels ih =>
    rw [List.forall_mem_cons] at worse
    rw [displayedNotional_cons, ih worse.2, BookLevel.notionalWithin]
    split
    · rename_i price size isPrice isSize
      rw [if_neg (worse.1 price isPrice), add_zero]
    · rfl

/-- The loop of the depth adds up the levels a limit selects. -/
theorem depthWithin_eq {side : Side} {top limit : Int64} {before depth : Int}
    {levels : List BookLevel} (bestFirst : BestFirst side levels)
    (positive : PositivePrices levels) (selects : Selects side top limit levels)
    (ok : BookSnapshot.depthWithin side top before levels = .ok depth) :
    depth = before + displayedNotional side limit levels ∧ PositiveSizes side limit levels := by
  induction levels generalizing before with
  | nil => exact ⟨(Except.ok.inj ok).symm.trans (add_zero before).symm, nofun⟩
  | cons level levels ih =>
    obtain ⟨⟨price, isPrice, -⟩, positive⟩ := List.forall_mem_cons.mp positive
    by_cases within : WithinFivePercent side top price
    · obtain ⟨size, isSize, -, sizePos, ok⟩ :=
        depthWithin_cons isPrice (withinMarketSlippage_iff.mpr within) ok
      obtain ⟨isSelected, selects⟩ := List.forall_mem_cons.mp selects
      obtain ⟨isDepth, sizes⟩ := ih (List.pairwise_cons.mp bestFirst).2 positive selects ok
      have counted : level.notionalWithin side limit =
          price.toInt * size.toInt / 100000000 := by
        simp only [BookLevel.notionalWithin, isPrice, isSize,
          (isSelected price isPrice).mpr within, if_true]
      refine ⟨?_, List.forall_mem_cons.mpr ⟨fun _ _ _ => ⟨size, isSize, sizePos⟩, sizes⟩⟩
      rw [isDepth, displayedNotional_cons, counted, add_assoc]
    · have worse : ∀ level' ∈ level :: levels, ∀ price',
          decimalStringToFixed level'.price 6 = .ok price' → ¬atOrBetter side limit price' = true :=
        fun level' mem price' isPrice' better =>
          not_within_of_bestFirst bestFirst isPrice within level' mem price' isPrice'
            ((selects level' mem price' isPrice').mp better)
      have beyond := Bool.eq_false_iff.mpr (withinMarketSlippage_iff.not.mpr within)
      rw [depthWithin_of_beyond isPrice beyond ok, displayedNotional_of_worse worse, add_zero]
      exact ⟨rfl, fun level' mem price' isPrice' better =>
        absurd better (worse level' mem price' isPrice')⟩

/-! ## The two loops -/

/-- **One ladder.**  Of levels with positive prices, best first, the limit is the worst one within
five percent of the best, and a depth is the sum of the notionals of exactly the levels at or better
than the limit, each rounded down. -/
theorem marketable_ladder {book : BookSnapshot} {side : Side} {first : BookLevel}
    {rest : List BookLevel} (isLevels : book.opposite side = first :: rest)
    (bestFirst : BestFirst side (first :: rest)) (positive : PositivePrices (first :: rest)) :
    ∃ top limit, decimalStringToFixed first.price 6 = .ok top ∧
      book.marketableLimitPriceMicroUsdc side = .ok limit ∧
      Marketable side top limit (first :: rest) ∧
      ∀ depth, book.marketableDepthMicroUsdc side = .ok depth →
        depth.toInt = displayedNotional side limit (first :: rest) ∧
        PositiveSizes side limit (first :: rest) := by
  obtain ⟨top, isTop, topPos⟩ := positive first List.mem_cons_self
  obtain ⟨limit, isLimit, shown, within, selects⟩ :=
    exists_deepestPrice bestFirst positive (withinFivePercent_self topPos)
  have zero : (0 : Int64).toInt = 0 := by decide
  have notNonpos : ¬top ≤ 0 := by
    rw [Int64.le_iff_toInt_le, zero]
    exact not_le.mpr topPos
  have opposing : book.opposingLevels side = .ok (first, rest) := by
    cases side with
    | buy => simp only [BookSnapshot.opposingLevels, show book.asks = first :: rest from isLevels]
    | sell => simp only [BookSnapshot.opposingLevels, show book.bids = first :: rest from isLevels]
  refine ⟨top, limit, isTop, ?_, ⟨?_, within, selects⟩, fun depth ok => ?_⟩
  · simp only [BookSnapshot.marketableLimitPriceMicroUsdc, opposing, isTop, bind, Except.bind,
      notNonpos, if_false]
    exact isLimit
  · rcases shown with rfl | shown
    · exact ⟨first, List.mem_cons_self, isTop⟩
    · exact shown
  · have depthOk := depthWithin_of_marketableDepth isLevels isTop ok
    have added := depthWithin_eq bestFirst positive selects depthOk
    rwa [zero_add] at added

/-- The limit of a sale and its depth on the ladder of two bids. -/
theorem marketable_ladderBook :
    ladderBook.marketableLimitPriceMicroUsdc .sell = .ok 57000000000 ∧
      ladderBook.marketableDepthMicroUsdc .sell = .ok 12570000 ∧
      displayedNotional .sell 57000000000 (ladderBook.opposite .sell) = 12570000 := by
  have high : decimalStringToFixed "60000" 6 = .ok 60000000000 := by decide
  have low : decimalStringToFixed "57000" 6 = .ok 57000000000 := by decide
  have positive : PositivePrices (ladderBook.opposite .sell) :=
    List.forall_mem_cons.mpr ⟨⟨_, high, by decide⟩, List.forall_mem_singleton.mpr
      ⟨_, low, by decide⟩⟩
  have isDepth : ladderBook.marketableDepthMicroUsdc .sell = .ok 12570000 := by decide
  obtain ⟨top, limit, -, isLimit, -, depth⟩ :=
    @marketable_ladder ladderBook .sell _ _ rfl bestFirst_ladder positive
  have isWorst : ladderBook.marketableLimitPriceMicroUsdc .sell = .ok 57000000000 := by
    decide
  obtain rfl := Except.ok.inj (isLimit.symm.trans isWorst)
  exact ⟨isWorst, isDepth, (depth _ isDepth).1.symm⟩

end CrowAgent
