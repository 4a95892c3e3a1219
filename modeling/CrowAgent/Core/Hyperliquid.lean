import CrowAgent.Policy.Evaluate

/-!
# Venue snapshots

What the venue client hands to a live cycle: order books with decimal texts, the account with its
positions, and the market state that goes with a book.  Maps are lists in key order.
-/

namespace CrowAgent

open FixedWidth

inductive HyperliquidError : Type
  | sdk
  | wallet
  | metadata
  | symbol
  | numeric
  | rateLimit
  | streamClosed
  | book
  | snapshot
  | iocInvariant
  deriving DecidableEq, Repr

structure BookLevel : Type where
  price : String
  size : String
  orderCount : UInt64
  deriving DecidableEq, Repr

structure BookSnapshot : Type where
  symbol : String
  venueTimeMs : UInt64
  bids : List BookLevel
  asks : List BookLevel
  deriving DecidableEq, Repr

structure PositionSnapshot : Type where
  symbol : String
  quantityE8 : Int64
  notionalMicroUsdc : Int64
  entryPriceMicroUsdc : Option Int64
  unrealizedPnlMicroUsdc : Int64
  isolated : Bool
  leverage : UInt32
  deriving DecidableEq, Repr

structure AccountSnapshot : Type where
  venueTimeMs : UInt64
  equityMicroUsdc : Int64
  withdrawableMicroUsdc : Int64
  positions : List (String × PositionSnapshot)
  deriving DecidableEq, Repr

structure MarketSnapshot : Type where
  market : MarketState
  book : BookSnapshot
  deriving DecidableEq, Repr

structure VenueSubmission : Type where
  clientOrderId : String
  statuses : Json

/-! ## Decimal texts -/

/-- The value of a text of decimal digits. -/
def digitsValue (digits : List Char) : Nat :=
  digits.foldl (fun value digit => 10 * value + (digit.toNat - '0'.toNat)) 0

/-- `parse::<i128>` of a text of decimal digits. -/
def parseI128 (digits : List Char) : Option Nat :=
  if digits ≠ [] ∧ digitsValue digits < 2 ^ 127 then some (digitsValue digits) else none

/-- `split_once('.')`, with an empty fraction when there is no point. -/
def splitPoint (text : List Char) : List Char × List Char :=
  (text.takeWhile (· ≠ '.'), (text.dropWhile (· ≠ '.')).drop 1)

/-- `decimal_string_to_fixed`: the exact value of the text in units of `10 ^ -scale`. -/
def decimalStringToFixed (value : String) (scale : UInt8) : Except HyperliquidError Int64 :=
  let text := value.toList
  let negative := text.head? = some '-'
  let (whole, fraction) := splitPoint (if negative then text.drop 1 else text)
  let scale := scale.toNat
  if whole = [] ∨ !whole.all Char.isDigit ∨ !fraction.all Char.isDigit then .error .numeric
  else if (fraction.drop scale).any (· ≠ '0') then .error .numeric
  else
    let fractional := fraction.take scale ++ List.replicate (scale - fraction.length) '0'
    let fixed := do
      let whole ← parseI128 whole
      let fractional ← if fractional = [] then some 0 else parseI128 fractional
      let multiplier ← checkedU128 (10 ^ scale)
      let fixed := whole * multiplier + fractional
      if multiplier < 2 ^ 127 ∧ fixed < 2 ^ 127 then
        toI64? (if negative then -(fixed : Int) else fixed)
      else none
    match fixed with
    | some fixed => .ok fixed
    | none => .error .numeric

theorem fixed_eq_ok {fixed : Option Int64} {n : Int64} :
    (match fixed with
      | some fixed => Except.ok fixed
      | none => .error HyperliquidError.numeric) = .ok n ↔ fixed = some n := by
  cases fixed <;> simp

/-! ## Prices of a book -/

def marketIocSlippageBps : Int := 500

def bpsScale : Int := 10000

def withinMarketSlippage (side : Side) (top candidate : Int64) : Bool :=
  match side with
  | .buy => candidate.toInt * bpsScale ≤ top.toInt * (bpsScale + marketIocSlippageBps)
  | .sell => top.toInt * (bpsScale - marketIocSlippageBps) ≤ candidate.toInt * bpsScale

namespace BookSnapshot

/-- The levels on the other side of an order; there have to be some. -/
def opposingLevels (book : BookSnapshot) (side : Side) :
    Except HyperliquidError (BookLevel × List BookLevel) :=
  match (match side with | .buy => book.asks | .sell => book.bids) with
  | [] => .error .book
  | top :: rest => .ok (top, rest)

/-- The loop of `marketable_limit_price_micro_usdc` over the levels. -/
def deepestPrice (side : Side) (top limit : Int64) :
    List BookLevel → Except HyperliquidError Int64
  | [] => .ok limit
  | level :: rest => do
    let price ← decimalStringToFixed level.price 6
    if price ≤ 0 then throw .book
    if withinMarketSlippage side top price then deepestPrice side top price rest
    else return limit

/-- The deepest displayed opposing price inside the slippage ceiling. -/
def marketableLimitPriceMicroUsdc (book : BookSnapshot) (side : Side) :
    Except HyperliquidError Int64 := do
  let (first, rest) ← book.opposingLevels side
  let top ← decimalStringToFixed first.price 6
  if top ≤ 0 then throw .book
  deepestPrice side top top (first :: rest)

/-- The best opposing price. -/
def opposingTopPriceMicroUsdc (book : BookSnapshot) (side : Side) :
    Except HyperliquidError Int64 := do
  let (first, _) ← book.opposingLevels side
  let top ← decimalStringToFixed first.price 6
  if top ≤ 0 then throw .book
  return top

end BookSnapshot

/-! ## Serialised forms -/

/-- The number an `i64` is serialised as. -/
def Int64.toJson (value : Int64) : Json :=
  .number (if 0 ≤ value then .unsigned value.toUInt64 else .signed value)

def UInt64.toJson (value : UInt64) : Json := .number (.unsigned value)

def Side.toText : Side → String
  | .buy => "buy"
  | .sell => "sell"

namespace Proposal

def toJson (proposal : Proposal) : Json := .ofFields [
  ("symbol", .string proposal.symbol),
  ("side", .string proposal.side.toText),
  ("notional_bps", UInt64.toJson proposal.notionalBps.toUInt64),
  ("limit_price_micro_usdc", Int64.toJson proposal.limitPriceMicroUsdc),
  ("reduce_only", .bool proposal.reduceOnly)]

end Proposal

namespace OrderDecision

def toJson (order : OrderDecision) : Json := .ofFields [
  ("symbol", .string order.symbol),
  ("side", .string order.side.toText),
  ("quantity_e8", Int64.toJson order.quantityE8),
  ("limit_price_micro_usdc", Int64.toJson order.limitPriceMicroUsdc),
  ("actual_notional_micro_usdc", Int64.toJson order.actualNotionalMicroUsdc),
  ("effective_notional_bps", UInt64.toJson order.effectiveNotionalBps.toUInt64),
  ("reduce_only", .bool order.reduceOnly)]

end OrderDecision

def MarketState.toJson (market : MarketState) : Json := .ofFields [
  ("symbol", .string market.symbol),
  ("mark_price_micro_usdc", Int64.toJson market.markPriceMicroUsdc),
  ("oracle_price_micro_usdc", Int64.toJson market.oraclePriceMicroUsdc),
  ("spread_bps", UInt64.toJson market.spreadBps.toUInt64),
  ("book_age_seconds", UInt64.toJson market.bookAgeSeconds.toUInt64),
  ("ask_depth_micro_usdc", Int64.toJson market.askDepthMicroUsdc),
  ("bid_depth_micro_usdc", Int64.toJson market.bidDepthMicroUsdc),
  ("size_decimals", UInt64.toJson market.sizeDecimals.toUInt64),
  ("delisted", .bool market.delisted)]

def BookLevel.toJson (level : BookLevel) : Json := .ofFields [
  ("price", .string level.price),
  ("size", .string level.size),
  ("order_count", UInt64.toJson level.orderCount)]

def BookSnapshot.toJson (book : BookSnapshot) : Json := .ofFields [
  ("symbol", .string book.symbol),
  ("venue_time_ms", UInt64.toJson book.venueTimeMs),
  ("bids", .array (book.bids.map (·.toJson))),
  ("asks", .array (book.asks.map (·.toJson)))]

def MarketSnapshot.toJson (snapshot : MarketSnapshot) : Json := .ofFields [
  ("market", snapshot.market.toJson),
  ("book", snapshot.book.toJson)]

def PositionSnapshot.toJson (position : PositionSnapshot) : Json := .ofFields [
  ("symbol", .string position.symbol),
  ("quantity_e8", Int64.toJson position.quantityE8),
  ("notional_micro_usdc", Int64.toJson position.notionalMicroUsdc),
  ("entry_price_micro_usdc", (position.entryPriceMicroUsdc.map Int64.toJson).getD .null),
  ("unrealized_pnl_micro_usdc", Int64.toJson position.unrealizedPnlMicroUsdc),
  ("isolated", .bool position.isolated),
  ("leverage", UInt64.toJson position.leverage.toUInt64)]

namespace AccountSnapshot

def positionsJson (account : AccountSnapshot) : Json :=
  .ofFields (account.positions.map fun entry => (entry.1, entry.2.toJson))

def toJson (account : AccountSnapshot) : Json := .ofFields [
  ("venue_time_ms", UInt64.toJson account.venueTimeMs),
  ("equity_micro_usdc", Int64.toJson account.equityMicroUsdc),
  ("withdrawable_micro_usdc", Int64.toJson account.withdrawableMicroUsdc),
  ("positions", account.positionsJson)]

def position? (account : AccountSnapshot) (symbol : String) : Option PositionSnapshot :=
  (account.positions.find? (·.1 = symbol)).map (·.2)

end AccountSnapshot

end CrowAgent
