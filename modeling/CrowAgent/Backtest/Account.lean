import CrowAgent.Backtest.Engine
import CrowAgent.Policy.Traps
import Mathlib.Algebra.BigOperators.Group.List.Basic

/-!
# The account of a replay

The account a list of fills stands for, in exact integers: its cash, what it holds of each market,
and what that is worth at the closes of an interval.  `Booked` says that a ledger is the account of
its own fills; every operation of the replay keeps it, and the result of a replay is read off it
(`runSynchronizedProposals_accounts`).
-/

namespace CrowAgent

open FixedWidth

/-! ## The account of a list of fills -/

namespace SimulatedFill

/-- The value of the fill at its price, rounded down. -/
def notional (fill : SimulatedFill) : Int :=
  notionalAt fill.quantityE8.toInt fill.priceMicroUsdc.toInt

def signedQuantity (fill : SimulatedFill) : Int :=
  match fill.side with
  | .buy => fill.quantityE8.toInt
  | .sell => -fill.quantityE8.toInt

/-- What the fill does to the cash of the account. -/
def cashEffect (fill : SimulatedFill) : Int :=
  match fill.side with
  | .buy => -fill.notional - fill.feeMicroUsdc.toInt
  | .sell => fill.notional - fill.feeMicroUsdc.toInt

end SimulatedFill

/-- What is held of a market after some fills. -/
def netQuantity (fills : List SimulatedFill) (symbol : String) : Int :=
  (fills.map fun fill => if fill.symbol = symbol then fill.signedQuantity else 0).sum

/-- The sum of the notionals on one side. -/
def notionalOf (side : Side) (fills : List SimulatedFill) : Int :=
  ((fills.filter (·.side = side)).map SimulatedFill.notional).sum

def feesOf (fills : List SimulatedFill) : Int := (fills.map (·.feeMicroUsdc.toInt)).sum

def cashEffectOf (fills : List SimulatedFill) : Int := (fills.map SimulatedFill.cashEffect).sum

/-- A quantity marked at a close, truncated. -/
def markedAt (quantity close : Int) : Int := (quantity * close).tdiv 100000000

/-- The positions some fills leave, marked at the closes of an interval. -/
def markedPositions (fills : List SimulatedFill) (interval : Interval) : Int :=
  (interval.candles.map fun candle =>
    markedAt (netQuantity fills candle.symbol) candle.closeMicroUsdc.toInt).sum

/-- The funding an interval charges on the positions some fills leave. -/
def fundingOf (fills : List SimulatedFill) (interval : Interval) : Int :=
  (interval.candles.map fun candle =>
    (markedAt (netQuantity fills candle.symbol) candle.closeMicroUsdc.toInt *
      candle.fundingRateE12.toInt).tdiv 1000000000000).sum

theorem netQuantity_concat (fills : List SimulatedFill) (fill : SimulatedFill) (symbol : String) :
    netQuantity (fills ++ [fill]) symbol =
      netQuantity fills symbol + if fill.symbol = symbol then fill.signedQuantity else 0 := by
  simp [netQuantity]

theorem feesOf_concat (fills : List SimulatedFill) (fill : SimulatedFill) :
    feesOf (fills ++ [fill]) = feesOf fills + fill.feeMicroUsdc.toInt := by
  simp [feesOf]

theorem cashEffectOf_concat (fills : List SimulatedFill) (fill : SimulatedFill) :
    cashEffectOf (fills ++ [fill]) = cashEffectOf fills + fill.cashEffect := by
  simp [cashEffectOf]

/-- Cash moves by the sells less the buys and the fees. -/
theorem cashEffectOf_eq (fills : List SimulatedFill) :
    cashEffectOf fills = notionalOf .sell fills - notionalOf .buy fills - feesOf fills := by
  induction fills with
  | nil => rfl
  | cons fill rest ih =>
    simp only [cashEffectOf, notionalOf, feesOf, List.map_cons, List.sum_cons,
      List.filter_cons] at ih ⊢
    cases side : fill.side with
    | buy =>
      simp only [side, SimulatedFill.cashEffect, reduceCtorEq, decide_true, decide_false,
        Bool.false_eq_true, if_true, if_false, List.map_cons, List.sum_cons]
      omega
    | sell =>
      simp only [side, SimulatedFill.cashEffect, reduceCtorEq, decide_true, decide_false,
        Bool.false_eq_true, if_true, if_false, List.map_cons, List.sum_cons]
      omega

/-! ## Valuation -/

/-- A position is valued exactly, with truncation. -/
theorem positionNotional_eq_ok {quantity price notional : Int64} :
    positionNotional quantity price = .ok notional ↔
      notional.toInt = markedAt quantity.toInt price.toInt := by
  have product := natAbs_mul_lt (natAbs_toInt_le quantity) (natAbs_toInt_le price)
  have quotient : ((quantity.toInt * price.toInt).tdiv 100000000).natAbs < 2 ^ 127 := by
    rw [Int.natAbs_tdiv]
    exact Nat.lt_of_le_of_lt (Nat.div_le_self _ _) product
  simp only [positionNotional, bind_eq_ok, i128_eq_ok, i128Div_eq_ok, tryI64_eq_ok, existsAndEq,
    and_true, markedAt]
  constructor
  · rintro ⟨-, -, exact⟩
    exact exact
  · intro exact
    exact ⟨⟨by omega, by omega⟩, ⟨by decide, by omega, by omega⟩, exact⟩

/-- For a quantity and a price above zero truncation is rounding down. -/
theorem markedAt_eq_notionalAt {quantity price : Int} (quantityPos : 0 < quantity)
    (pricePos : 0 < price) : markedAt quantity price = notionalAt quantity price := by
  rw [markedAt, Int.tdiv_eq_ediv_of_nonneg (mul_pos quantityPos pricePos).le]
  rfl

/-- The positions are the ones some fills leave. -/
def Positions.AreOf (positions : Positions) (fills : List SimulatedFill) : Prop :=
  ∀ symbol quantity, positions symbol = some quantity → quantity.toInt = netQuantity fills symbol

/-- The equity of an account is its cash and its marked positions. -/
theorem toInt_of_portfolioEquity {cash equity : Int64} {positions : Positions}
    {fills : List SimulatedFill} {candles : List CandleV1} (areOf : positions.AreOf fills)
    (ok : portfolioEquity cash positions candles = .ok equity) :
    equity.toInt = cash.toInt + (candles.map fun candle =>
      markedAt (netQuantity fills candle.symbol) candle.closeMicroUsdc.toInt).sum := by
  unfold portfolioEquity at ok
  induction candles generalizing cash with
  | nil =>
    simp only [List.foldlM_nil, pure, Except.pure, Except.ok.injEq] at ok
    simp [ok]
  | cons candle rest ih =>
    rw [List.foldlM_cons] at ok
    simp only [bind_eq_ok, okOr_eq_ok, checkedAddI64_eq_some] at ok
    obtain ⟨next, ⟨quantity, held, notional, valued, added⟩, ok⟩ := ok
    rw [ih ok, added, positionNotional_eq_ok.mp valued, areOf _ _ held, List.map_cons,
      List.sum_cons]
    ring

/-! ## The invariant of the ledger -/

/-- The ledger is the account of its own fills, started with some cash. -/
structure Booked (start : Int) (ledger : Ledger) : Prop where
  cash : ledger.cash.toInt = start - ledger.funding.toInt + cashEffectOf ledger.fills
  fees : ledger.fees.toInt = feesOf ledger.fills
  positions : ledger.positions.AreOf ledger.fills
  covered : ∀ earlier, earlier <+: ledger.fills → ∀ symbol, 0 ≤ netQuantity earlier symbol
  positive : ∀ fill ∈ ledger.fills, 0 < fill.quantityE8.toInt ∧ 0 < fill.priceMicroUsdc.toInt

/-- The invariant is about cash, positions, fills, fees and funding alone. -/
theorem Booked.of_eq {start : Int} {before after : Ledger} (booked : Booked start before)
    (cash : after.cash = before.cash) (positions : after.positions = before.positions)
    (fills : after.fills = before.fills) (fees : after.fees = before.fees)
    (funding : after.funding = before.funding) : Booked start after where
  cash := by rw [cash, funding, fills, booked.cash]
  fees := by rw [fees, fills, booked.fees]
  positions := by rw [positions, fills]; exact booked.positions
  covered := by rw [fills]; exact booked.covered
  positive := by rw [fills]; exact booked.positive

theorem booked_opening (startingCash day : Int64) (scheduled : List ScheduledProposal) :
    Booked startingCash.toInt (.opening startingCash day scheduled) where
  cash := by
    have zero : (0 : Int64).toInt = 0 := by decide
    simp [Ledger.opening, cashEffectOf, zero]
  fees := rfl
  positions := by
    intro symbol quantity held
    simp only [Ledger.opening, Positions.opening] at held
    split at held
    · cases held
      rfl
    · cases held
  covered := by
    intro earlier isPrefix symbol
    have none : earlier = [] := List.prefix_nil.mp isPrefix
    rw [none]
    exact le_rfl
  positive := by simp [Ledger.opening]

/-- Charging funding moves cash into funding and nothing else. -/
theorem chargeFunding_eq_ok {ledger charged : Ledger} {candle : CandleV1}
    (ok : ledger.chargeFunding candle = .ok charged) :
    ∃ quantity cash funding, ledger.positions candle.symbol = some quantity ∧
      charged = { ledger with cash, funding } ∧
      cash.toInt + funding.toInt = ledger.cash.toInt + ledger.funding.toInt ∧
      funding.toInt = ledger.funding.toInt +
        (markedAt quantity.toInt candle.closeMicroUsdc.toInt *
          candle.fundingRateE12.toInt).tdiv 1000000000000 := by
  simp only [Ledger.chargeFunding, bind_eq_ok, okOr_eq_ok, i128_eq_ok, i128Div_eq_ok, tryI64_eq_ok,
    checkedSubI64_eq_some, checkedAddI64_eq_some, existsAndEq, pure, Except.pure,
    Except.ok.injEq] at ok
  obtain ⟨quantity, held, notional, valued, -, -, payment, paid, cash, cashEq, funding, fundingEq,
    rfl⟩ := ok
  rw [positionNotional_eq_ok] at valued
  rw [valued] at paid
  exact ⟨quantity, cash, funding, held, rfl, by omega, by omega⟩

/-- **Funding of an interval.**  It leaves everything but cash and funding, and the payment is the
one of the positions. -/
theorem chargeFunding_interval {ledger charged : Ledger} {interval : Interval}
    {fills : List SimulatedFill} (areOf : ledger.positions.AreOf fills)
    (ok : interval.candles.foldlM Ledger.chargeFunding ledger = .ok charged) :
    ∃ cash funding, charged = { ledger with cash, funding } ∧
      cash.toInt + funding.toInt = ledger.cash.toInt + ledger.funding.toInt ∧
      funding.toInt = ledger.funding.toInt + fundingOf fills interval := by
  unfold fundingOf
  revert ok
  generalize interval.candles = candles
  intro ok
  induction candles generalizing ledger with
  | nil =>
    simp only [List.foldlM_nil, pure, Except.pure, Except.ok.injEq] at ok
    exact ⟨ledger.cash, ledger.funding, ok.symm, rfl, by simp⟩
  | cons candle rest ih =>
    rw [List.foldlM_cons, bind_eq_ok] at ok
    obtain ⟨middle, charge, ok⟩ := ok
    obtain ⟨quantity, cash, funding, held, rfl, total, first⟩ := chargeFunding_eq_ok charge
    obtain ⟨cash', funding', rfl, total', others⟩ := @ih { ledger with cash, funding }
      areOf ok
    refine ⟨cash', funding', rfl, by simp only at total'; omega, ?_⟩
    rw [others, first, areOf _ _ held, List.map_cons, List.sum_cons]
    ring

/-- A fill enters the account with its quantity, its notional and its fee. -/
theorem bookFill_eq_ok {ledger after : Ledger} {fill : SimulatedFill}
    (quantityPos : 0 < fill.quantityE8.toInt) (pricePos : 0 < fill.priceMicroUsdc.toInt)
    (ok : ledger.bookFill fill = .ok after) :
    ∃ held cash holding fees, ledger.positions fill.symbol = some held ∧
      cash.toInt = ledger.cash.toInt + fill.cashEffect ∧
      holding.toInt = held.toInt + fill.signedQuantity ∧
      (fill.side = .sell → 0 ≤ holding.toInt) ∧
      fees.toInt = ledger.fees.toInt + fill.feeMicroUsdc.toInt ∧
      after = {
        ledger with
        cash
        positions := Function.update ledger.positions fill.symbol (some holding)
        fees
        ordersToday := saturatingAddU16 ledger.ordersToday 1
        fills := ledger.fills ++ [fill] } := by
  have exactNotional : ∀ notional : Int64,
      positionNotional fill.quantityE8 fill.priceMicroUsdc = .ok notional →
        notional.toInt = fill.notional := by
    intro notional valued
    rw [positionNotional_eq_ok.mp valued, markedAt_eq_notionalAt quantityPos pricePos]
    rfl
  unfold Ledger.bookFill at ok
  simp only [bind_eq_ok, okOr_eq_ok] at ok
  obtain ⟨notional, valued, held, isHeld, ok⟩ := ok
  have value := exactNotional notional valued
  cases side : fill.side with
  | buy =>
    simp only [side, bind_eq_ok, okOr_eq_ok, checkedSubI64_eq_some, checkedAddI64_eq_some,
      Ledger.enterFill, pure, Except.pure, Except.ok.injEq] at ok
    obtain ⟨paid, paidEq, cash, cashEq, holding, holdingEq, fees, feesEq, rfl⟩ := ok
    refine ⟨held, cash, holding, fees, isHeld, ?_, ?_, (fun sells => by cases sells), feesEq, rfl⟩
    · simp only [SimulatedFill.cashEffect, side]
      omega
    · simp only [SimulatedFill.signedQuantity, side]
      exact holdingEq
  | sell =>
    simp only [side, bind_eq_ok, rejectIf_eq_ok, exists_const, okOr_eq_ok, checkedSubI64_eq_some,
      checkedAddI64_eq_some, subI64_eq_ok, Ledger.enterFill, pure, Except.pure,
      Except.ok.injEq, gt_iff_lt, Int64.lt_iff_toInt_lt] at ok
    obtain ⟨enough, received, receivedEq, cash, cashEq, holding, holdingEq, fees, feesEq, rfl⟩ := ok
    refine ⟨held, cash, holding, fees, isHeld, ?_, ?_, fun _ => by omega, feesEq, rfl⟩
    · simp only [SimulatedFill.cashEffect, side]
      omega
    · simp only [SimulatedFill.signedQuantity, side]
      omega

theorem netQuantity_update {positions : Positions} {fills : List SimulatedFill}
    {fill : SimulatedFill} {held holding : Int64} (areOf : positions.AreOf fills)
    (isHeld : positions fill.symbol = some held)
    (holdingEq : holding.toInt = held.toInt + fill.signedQuantity) :
    Positions.AreOf (Function.update positions fill.symbol (some holding)) (fills ++ [fill]) := by
  intro symbol quantity isQuantity
  rw [netQuantity_concat]
  by_cases same : symbol = fill.symbol
  · subst same
    rw [Function.update_self, Option.some.injEq] at isQuantity
    rw [← isQuantity, holdingEq, areOf _ _ isHeld, if_pos rfl]
  · rw [Function.update_of_ne same] at isQuantity
    rw [areOf _ _ isQuantity, if_neg (Ne.symm same), add_zero]

/-- Booking a fill keeps the ledger the account of its fills. -/
theorem Booked.bookFill {start : Int} {ledger after : Ledger} {fill : SimulatedFill}
    (booked : Booked start ledger) (quantityPos : 0 < fill.quantityE8.toInt)
    (pricePos : 0 < fill.priceMicroUsdc.toInt) (ok : ledger.bookFill fill = .ok after) :
    Booked start after := by
  obtain ⟨held, cash, holding, fees, isHeld, cashEq, holdingEq, enough, feesEq, rfl⟩ :=
    bookFill_eq_ok quantityPos pricePos ok
  refine ⟨?_, ?_, netQuantity_update booked.positions isHeld holdingEq, ?_, ?_⟩
  · have before := booked.cash
    rw [cashEffectOf_concat]
    simp only
    omega
  · rw [feesOf_concat, ← booked.fees, feesEq]
  · intro earlier isPrefix symbol
    rcases List.prefix_concat_iff.mp isPrefix with rfl | isPrefix
    · have before := booked.covered _ (List.prefix_refl _) symbol
      have current := booked.positions _ _ isHeld
      rw [netQuantity_concat]
      split
      · rename_i same
        subst same
        cases side : fill.side with
        | buy =>
          simp only [SimulatedFill.signedQuantity, side]
          omega
        | sell =>
          have remains := enough side
          omega
      · omega
    · exact booked.covered earlier isPrefix symbol
  · intro other mem
    rcases List.mem_append.mp mem with earlier | last
    · exact booked.positive other earlier
    · rw [List.mem_singleton.mp last]
      exact ⟨quantityPos, pricePos⟩

end CrowAgent
