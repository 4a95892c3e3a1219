import CrowAgent.Core.Snapshots
import CrowAgent.Lib.DecimalText
import Mathlib.Data.Nat.Cast.Field

/-!
# Requests to the venue

An approved order is encoded for the venue with decimals for its price and its size: their texts
are made from the integers, without zeros at the end, and the size is refused when it has more
decimals than the asset.

* `buildIocRequest_of_approved`: an approved order is neither refused nor altered.
-/

namespace CrowAgent

open FixedWidth DecimalText

/-- A market in the metadata of the venue. -/
structure PerpMarket : Type where
  name : String
  index : UInt64
  szDecimals : Int64
  maxLeverage : UInt64
  deriving DecidableEq, Repr

/-- The asset of a market, when its numbers fit. -/
def coreAsset (market : PerpMarket) : Except HyperliquidError CoreAsset :=
  if market.index.toNat < 2 ^ 32 ∧
      (0 ≤ market.szDecimals.toInt ∧ market.szDecimals.toInt < 2 ^ 8) ∧
      market.maxLeverage.toNat < 2 ^ 32 then
    .ok {
      symbol := market.name
      assetIndex := market.index.toUInt32
      sizeDecimals := .ofNat market.szDecimals.toInt.toNat
      maxLeverage := market.maxLeverage.toUInt32 }
  else .error .metadata

/-- Add the asset of a market of the arena. -/
def addAsset (assets : List (String × CoreAsset)) (market : PerpMarket) :
    Except HyperliquidError (List (String × CoreAsset)) :=
  if market.name ∈ allowedSymbols then do
    let asset ← coreAsset market
    return insertEntry market.name asset assets
  else .ok assets

/-- `discover_core_assets_from`. -/
def discoverCoreAssetsFrom (markets : List PerpMarket) :
    Except HyperliquidError (List (String × CoreAsset)) := do
  let assets ← markets.foldlM addAsset []
  if assets.length = allowedSymbols.length then return assets else throw .metadata

/-- `BTreeMap::get`. -/
def named? {α : Type} (entries : List (String × α)) (key : String) : Option α :=
  (entries.find? (·.1 = key)).map (·.2)

/-- The times in force the venue client uses. -/
inductive TimeInForce : Type
  | ioc
  deriving DecidableEq, Repr

inductive OrderTypePlacement : Type
  | limit (tif : TimeInForce)
  deriving DecidableEq, Repr

structure OrderRequest : Type where
  asset : UInt64
  isBuy : Bool
  reduceOnly : Bool
  limitPx : Decimal
  sz : Decimal
  cloid : FixedBytes 16
  orderType : OrderTypePlacement

/-- `fixed_decimal`: the text of `value / 10 ^ scale`. -/
def fixedDecimal (value : Int64) (scale : UInt8) : Except HyperliquidError String :=
  if value ≤ 0 then .error .numeric
  else if (10 : Int) ^ scale.toNat < 2 ^ 63 then
    .ok (String.ofList (fixedText scale.toNat value.toInt.toNat))
  else .error .numeric

/-- `decimal_places`: the bytes after the point. -/
def decimalPlaces (value : String) : Nat :=
  ((splitPoint value.toList).2.map Char.utf8Size).sum

/-- Read a text as a decimal of the venue. -/
def parseDecimal (decimals : Decimals) (text : String) : Except HyperliquidError Decimal :=
  match decimals.parse text with
  | some decimal => .ok decimal
  | none => .error .numeric

def buildIocRequest (decimals : Decimals) (order : OrderDecision)
    (assets : List (String × CoreAsset)) (cloid : FixedBytes 16) :
    Except HyperliquidError OrderRequest :=
  match named? assets order.symbol with
  | none => .error .symbol
  | some asset => do
    let limitPrice ← fixedDecimal order.limitPriceMicroUsdc 6
    let size ← fixedDecimal order.quantityE8 8
    let limitPx ← parseDecimal decimals limitPrice
    let sz ← parseDecimal decimals size
    if decimalPlaces size ≤ asset.sizeDecimals.toNat then
      return {
        asset := asset.assetIndex.toUInt64
        isBuy := order.side = .buy
        reduceOnly := order.reduceOnly
        limitPx
        sz
        cloid
        orderType := .limit .ioc }
    else throw .numeric

/-- A decimal is read exactly from a text of at most 28 digits, which is what its coefficient has
room for. -/
structure Decimals.Exact (decimals : Decimals) : Prop where
  whole : ∀ whole : List Char, Digits whole → whole ≠ [] → whole.length ≤ 28 →
    ∃ decimal, decimals.parse (String.ofList whole) = some decimal ∧
      decimal.value = valueOf whole []
  point : ∀ whole fraction : List Char, Digits whole → Digits fraction → whole ≠ [] →
    fraction ≠ [] → (whole ++ fraction).length ≤ 28 →
    ∃ decimal, decimals.parse (String.ofList (whole ++ '.' :: fraction)) = some decimal ∧
      decimal.value = valueOf whole fraction

/-! ## Assets -/

/-- The keys after an insertion. -/
theorem mem_keys_insertEntry_iff {α : Type} {key key' : String} {value : α}
    {entries : List (String × α)} :
    key' ∈ (insertEntry key value entries).map (·.1) ↔ key' = key ∨ key' ∈ entries.map (·.1) := by
  induction entries with
  | nil => simp [insertEntry]
  | cons first rest ih =>
    rw [insertEntry]
    split_ifs with before same
    · simp only [List.map_cons, List.mem_cons]
    · subst same
      simp only [List.map_cons, List.mem_cons, or_self_left]
    · simp only [List.map_cons, List.mem_cons, ih]
      exact or_left_comm

/-- An insertion keeps the keys in order. -/
theorem pairwise_insertEntry {α : Type} {key : String} {value : α} {entries : List (String × α)}
    (sorted : (entries.map (·.1)).Pairwise (· < ·)) :
    ((insertEntry key value entries).map (·.1)).Pairwise (· < ·) := by
  induction entries with
  | nil => exact List.pairwise_singleton _ _
  | cons first rest ih =>
    obtain ⟨above, restSorted⟩ := List.pairwise_cons.mp sorted
    rw [insertEntry]
    split_ifs with before same
    · refine List.pairwise_cons.mpr ⟨fun other mem => ?_, sorted⟩
      rcases List.mem_cons.mp mem with rfl | mem
      · exact before
      · exact String.lt_trans before (above other mem)
    · subst same
      exact List.pairwise_cons.mpr ⟨above, restSorted⟩
    · refine List.pairwise_cons.mpr ⟨fun other mem => ?_, ih restSorted⟩
      rcases mem_keys_insertEntry_iff.mp mem with rfl | mem
      · refine Decidable.by_contra fun notAbove => same ?_
        exact String.le_antisymm (String.not_lt.mp notAbove) (String.not_lt.mp before)
      · exact above other mem

/-- The assets that are discovered are those of the arena, each once. -/
theorem sorted_of_foldlM_addAsset {markets : List PerpMarket} {assets : List (String × CoreAsset)}
    (ok : markets.foldlM addAsset [] = .ok assets) :
    (assets.map (·.1)).Pairwise (· < ·) ∧ ∀ key ∈ assets.map (·.1), key ∈ allowedSymbols := by
  refine @Loop.invariant _ _ _ _ (fun _ assets =>
    (assets.map (·.1)).Pairwise (· < ·) ∧ ∀ key ∈ assets.map (·.1), key ∈ allowedSymbols)
    _ _ _ ?_ ?_ ok
  · exact ⟨List.Pairwise.nil, fun key mem => absurd mem List.not_mem_nil⟩
  · rintro _ market _ before after - ⟨sorted, allowed⟩ added
    unfold addAsset at added
    split_ifs at added with isAllowed
    · obtain ⟨asset, -, added⟩ := Loop.bind_eq_ok.mp added
      obtain rfl := Except.ok.inj added
      refine ⟨pairwise_insertEntry sorted, fun key mem => ?_⟩
      rcases mem_keys_insertEntry_iff.mp mem with rfl | mem
      · exact isAllowed
      · exact allowed key mem
    · obtain rfl := Except.ok.inj added
      exact ⟨sorted, allowed⟩

/-- Every market of the arena has its asset. -/
theorem exists_entry_of_discoverCoreAssetsFrom {markets : List PerpMarket}
    {assets : List (String × CoreAsset)} {symbol : String}
    (discovered : discoverCoreAssetsFrom markets = .ok assets) (allowed : symbol ∈ allowedSymbols) :
    ∃ asset, named? assets symbol = some asset := by
  obtain ⟨collected, folded, discovered⟩ := Loop.bind_eq_ok.mp discovered
  split_ifs at discovered with all
  · obtain rfl := Except.ok.inj discovered
    obtain ⟨sorted, known⟩ := sorted_of_foldlM_addAsset folded
    have nodup : (collected.map (·.1)).Nodup :=
    sorted.imp fun lt => fun same => String.lt_irrefl _ (same ▸ lt)
    have perm : (collected.map (·.1)).Perm allowedSymbols :=
      (List.subperm_of_subset nodup known).perm_of_length_le
        (by rw [List.length_map, all])
    obtain ⟨entry, isEntry, rfl⟩ := List.mem_map.mp (perm.mem_iff.mpr allowed)
    cases found : collected.find? (·.1 = entry.1) with
    | none => exact absurd (List.find?_eq_none.mp found entry isEntry) (by simp)
    | some entry' => exact ⟨entry'.2, by rw [named?, found, Option.map_some]⟩

/-! ## Texts -/

/-- The parts of a text with a point. -/
theorem splitPoint_point {whole fraction : List Char} (digits : Digits whole) :
    splitPoint (whole ++ '.' :: fraction) = (whole, fraction) := by
  have ahead : ∀ c ∈ whole, decide (c ≠ '.') = true :=
    fun c mem => decide_eq_true (digits.not_point c mem)
  rw [splitPoint, List.takeWhile_append_of_pos ahead, List.dropWhile_append_of_pos ahead,
    List.takeWhile_cons_of_neg (by decide), List.dropWhile_cons_of_neg (by decide),
    List.append_nil, List.drop_one, List.tail_cons]

theorem splitPoint_whole {whole : List Char} (digits : Digits whole) :
    splitPoint whole = (whole, []) := by
  have ahead : ∀ c ∈ whole, decide (c ≠ '.') = true :=
    fun c mem => decide_eq_true (digits.not_point c mem)
  rw [splitPoint, List.takeWhile_eq_self_iff.mpr ahead, List.dropWhile_eq_nil_iff.mpr ahead,
    List.drop_nil]

/-- A positive integer has a text, which the decimals read exactly and whose decimals are at most
those of the units that the integer is a multiple of. -/
theorem exists_fixedDecimal {decimals : Decimals} (exact : decimals.Exact) {value : Int64}
    {scale : UInt8} (positive : 0 < value.toInt) (scalePos : 0 < scale.toNat)
    (scaleLe : scale.toNat ≤ 8) :
    ∃ text decimal, fixedDecimal value scale = .ok text ∧
      parseDecimal decimals text = .ok decimal ∧
      decimal.value = (value.toInt : ℚ) / 10 ^ scale.toNat ∧
      ∀ places ≤ scale.toNat, (10 : Int) ^ (scale.toNat - places) ∣ value.toInt →
        decimalPlaces text ≤ places := by
  have zero : (0 : Int64).toInt = 0 := by decide
  obtain ⟨n, isNat⟩ := Int.eq_ofNat_of_zero_le positive.le
  have small : n < 10 ^ 19 := by
    have := value.toInt_lt
    omega
  have power : (10 : Int) ^ scale.toNat < 2 ^ 63 :=
    (pow_le_pow_right₀ (by decide) scaleLe).trans_lt (by decide)
  have notNonpos : ¬value ≤ 0 := by
    rw [Int64.le_iff_toInt_le, zero]
    exact not_le.mpr positive
  have isText : fixedDecimal value scale = .ok (String.ofList (fixedText scale.toNat n)) := by
    rw [fixedDecimal, if_neg notNonpos, if_pos power, isNat, Int.toNat_natCast]
  have short := @length_text_le scale.toNat n 19 scalePos (by decide) small
  rw [isText, isNat]
  by_cases whole : n % 10 ^ scale.toNat = 0
  · have text : fixedText scale.toNat n = Nat.toDigits 10 (n / 10 ^ scale.toNat) := if_pos whole
    have digits := digits_toDigits (n / 10 ^ scale.toNat)
    rw [List.length_append] at short
    obtain ⟨decimal, isDecimal, isValue⟩ := exact.whole _ digits Nat.toDigits_ne_nil (by omega)
    refine ⟨_, decimal, rfl, by rw [text, parseDecimal, isDecimal], ?_, fun places _ _ => ?_⟩
    · rw [isValue, valueOf, List.append_nil, Nat.ofDigitChars_ten_toDigits, List.length_nil,
        pow_zero, div_one, Nat.cast_div (Nat.dvd_of_mod_eq_zero whole) (by positivity)]
      push_cast
      rfl
    · rw [text, decimalPlaces, String.toList_ofList, splitPoint_whole digits]
      exact Nat.zero_le _
  · have text := fixedText_of_mod whole
    have digits := digits_toDigits (n / 10 ^ scale.toNat)
    obtain ⟨decimal, isDecimal, isValue⟩ := exact.point _ _ digits (digits_kept scale.toNat n)
      Nat.toDigits_ne_nil (kept_ne_nil scalePos whole) (by omega)
    refine ⟨_, decimal, rfl, by rw [text, parseDecimal, isDecimal], ?_,
      fun places placesLe multiple => ?_⟩
    · rw [isValue, valueOf_kept scalePos, Int.cast_natCast]
    · rw [text, decimalPlaces, String.toList_ofList, splitPoint_point digits,
        sum_utf8Size_of_digits (digits_kept _ _)]
      exact length_kept_le scalePos whole placesLe (by exact_mod_cast multiple)

/-- **Encoding of approved orders.**  An order that the policy approves with the size decimals of
the discovered asset is encoded: on its side, for the same asset, and with decimals that are
exactly its price and its quantity. -/
theorem buildIocRequest_of_approved {decimals : Decimals} (exact : decimals.Exact)
    {markets : List PerpMarket} {assets : List (String × CoreAsset)} {proposal : Proposal}
    {context : PolicyContext} {order : OrderDecision}
    (discovered : discoverCoreAssetsFrom markets = .ok assets)
    (approved : evaluateProposal proposal context = .ok order)
    (sizes : ∀ asset, named? assets order.symbol = some asset →
      context.market.sizeDecimals = asset.sizeDecimals)
    (cloid : FixedBytes 16) :
    ∃ asset request, named? assets order.symbol = some asset ∧
      buildIocRequest decimals order assets cloid = .ok request ∧
      request.asset = asset.assetIndex.toUInt64 ∧
      (request.isBuy = true ↔ order.side = .buy) ∧
      request.reduceOnly = order.reduceOnly ∧
      request.limitPx.value = (order.limitPriceMicroUsdc.toInt : ℚ) / 10 ^ 6 ∧
      request.sz.value = (order.quantityE8.toInt : ℚ) / 10 ^ 8 := by
  have approved := approved_of_evaluateProposal approved
  have allowed : order.symbol ∈ allowedSymbols := by
    rw [approved.sized.symbol]
    exact approved.tradable.symbol.1
  obtain ⟨asset, isAsset⟩ := exists_entry_of_discoverCoreAssetsFrom discovered allowed
  have decimalsLe : asset.sizeDecimals.toNat ≤ 8 := by
    rw [← sizes asset isAsset]
    exact approved.tradable.decimals
  have pricePos : 0 < order.limitPriceMicroUsdc.toInt := by
    rw [approved.sized.limitPrice]
    exact approved.tradable.limitPos
  have quantityPos : 0 < order.quantityE8.toInt := by
    rw [approved.sized.quantity]
    exact approved.tradable.sizedQuantity_pos
  have wholeLots : (10 : Int) ^ (8 - asset.sizeDecimals.toNat) ∣ order.quantityE8.toInt := by
    rw [approved.sized.quantity, ← sizes asset isAsset]
    exact Dvd.intro_left _ rfl
  obtain ⟨priceText, limitPx, isPriceText, isLimitPx, limitPxValue, -⟩ :=
    @exists_fixedDecimal _ exact _ 6 pricePos (by decide) (by decide)
  obtain ⟨sizeText, sz, isSizeText, isSz, szValue, places⟩ :=
    @exists_fixedDecimal _ exact _ 8 quantityPos (by decide) (by decide)
  refine ⟨asset, {
    asset := asset.assetIndex.toUInt64
    isBuy := order.side = .buy
    reduceOnly := order.reduceOnly
    limitPx
    sz
    cloid
    orderType := .limit .ioc }, isAsset, ?_, rfl, decide_eq_true_iff, rfl, limitPxValue, szValue⟩
  have fits : decimalPlaces sizeText ≤ asset.sizeDecimals.toNat :=
    places _ decimalsLe wholeLots
  simp only [buildIocRequest, isAsset, isPriceText, isSizeText, isLimitPx, isSz, bind, Except.bind,
    fits, if_true, pure, Except.pure]

/-! ## Sample metadata -/

theorem sampleDecimals_exact : sampleDecimals.Exact where
  whole := by
    intro whole digits some _
    refine ⟨⟨digitsValue whole, 0⟩, ?_, ?_⟩
    · simp only [sampleDecimals, readDecimal, String.toList_ofList, splitPoint_whole digits]
      rw [if_pos ⟨some, List.all_eq_true.mpr digits, rfl⟩, List.append_nil, List.length_nil]
    · rw [Decimal.value, valueOf, List.append_nil, List.length_nil, Int.cast_natCast]
      rfl
  point := by
    intro whole fraction digits fractionDigits some _ _
    refine ⟨⟨digitsValue (whole ++ fraction), fraction.length⟩, ?_, ?_⟩
    · simp only [sampleDecimals, readDecimal, String.toList_ofList, splitPoint_point digits]
      rw [if_pos ⟨some, List.all_eq_true.mpr digits, List.all_eq_true.mpr fractionDigits⟩]
    · rw [Decimal.value, valueOf, Int.cast_natCast]
      rfl

def sampleMarkets : List PerpMarket :=
  [⟨"BTC", 0, 5, 40⟩, ⟨"ETH", 1, 4, 25⟩, ⟨"DOGE", 12, 0, 10⟩, ⟨"SOL", 5, 2, 20⟩]

def sampleAssets : List (String × CoreAsset) :=
  [("BTC", sampleAsset), ("ETH", ⟨"ETH", 1, 4, 25⟩), ("SOL", ⟨"SOL", 5, 2, 20⟩)]

/-- The sample order is encoded. -/
theorem buildIocRequest_sampleOrder :
    ∃ request, buildIocRequest sampleDecimals sampleOrder sampleAssets (.ofNat 16 0) =
        .ok request ∧
      request.limitPx.value = 60900 ∧ request.sz.value = 0.00032 := by
  have discovered : discoverCoreAssetsFrom sampleMarkets = .ok sampleAssets := by decide
  have sizes : ∀ asset, named? sampleAssets sampleOrder.symbol = some asset →
      sampleContext.market.sizeDecimals = asset.sizeDecimals := by
    rintro asset isAsset
    obtain rfl := Option.some.inj (isAsset.symm.trans (rfl : _ = some sampleAsset))
    rfl
  obtain ⟨asset, request, -, built, -, -, -, limitPx, sz⟩ :=
    buildIocRequest_of_approved sampleDecimals_exact discovered
      (by decide : evaluateProposal sampleProposal sampleContext = .ok sampleOrder) sizes
      (.ofNat 16 0)
  refine ⟨request, built, limitPx.trans ?_, sz.trans ?_⟩
  · have price : sampleOrder.limitPriceMicroUsdc.toInt = 60900000000 := by decide
    rw [price]
    norm_num
  · have quantity : sampleOrder.quantityE8.toInt = 32000 := by decide
    rw [quantity]
    norm_num

end CrowAgent
