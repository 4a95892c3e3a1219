import CrowAgent.Policy.Evaluate

/-!
# The policy does not trap

Every operation of the policy has an operand small enough for its type, or an error of its own, so
that the policy refuses a proposal or approves it.  The last of these errors is never seen: a size
that has passed the checks is a share of the capital that fits into 16 bits.
-/

namespace CrowAgent

open FixedWidth

theorem natAbs_toInt_le (value : Int64) : value.toInt.natAbs ≤ 2 ^ 63 := by
  have lower := value.le_toInt
  have upper := value.toInt_lt
  omega

/-- A 64-bit number times a smaller one fits into 128 bits. -/
theorem natAbs_mul_lt {a b : Int} (small : a.natAbs ≤ 2 ^ 63) (smaller : b.natAbs ≤ 2 ^ 63) :
    (a * b).natAbs < 2 ^ 127 := by
  rw [Int.natAbs_mul]
  calc a.natAbs * b.natAbs ≤ 2 ^ 63 * 2 ^ 63 := Nat.mul_le_mul small smaller
    _ < 2 ^ 127 := by norm_num

theorem noTrap_bpsAmount (value : Int64) (bps : UInt16) : NoTrap (bpsAmount value bps) := by
  have bound := bps.toNat_lt
  have product : (value.toInt * bps.toNat).natAbs < 2 ^ 127 :=
    natAbs_mul_lt (natAbs_toInt_le value) (by omega)
  refine .bind (.i128 product) fun exact isExact => ?_
  refine .bind (.i128Div (by decide) ?_) fun _ _ => .tryI64
  rwa [← (i128_eq_ok.mp isExact).2]

theorem noTrap_lossBps {high current : Int64} (positive : 0 < current.toInt) :
    NoTrap (lossBps high current) := by
  unfold lossBps
  split
  · exact .ok
  · have above := high.toInt_lt
    have below := current.toInt_lt
    have lowest := high.le_toInt
    refine .bind (.u128 (by omega)) fun _ _ => .bind (.u128Div (by omega)) fun _ _ => .tryI64

theorem noTrap_ceilDiv {numerator denominator : Int} (small : denominator.natAbs ≤ 2 ^ 63) :
    NoTrap (ceilDiv numerator denominator) := by
  refine .bind .rejectIf fun _ positive => ?_
  rw [rejectIf_eq_ok] at positive
  refine .bind (.i128 (by omega)) fun pad isPad => .bind .okOr fun padded isPadded => ?_
  rw [okOr_eq_ok, checkedAddI128_eq_some] at isPadded
  rw [i128_eq_ok] at isPad
  exact .i128Div (by omega) (by omega)

theorem noTrap_roundUp {value step : Int64} : NoTrap (roundUp value step) := by
  refine .bind (noTrap_ceilDiv (natAbs_toInt_le step)) fun steps isSteps => ?_
  obtain ⟨nonneg, pos, rfl⟩ := eq_ceilDiv_of_ok (by have := step.toInt_lt; omega) isSteps
  have valueBound := value.toInt_lt
  have stepBound := step.toInt_lt
  have rounded : Rounding.ceilDiv value.toInt step.toInt * step.toInt ≤
      value.toInt + (step.toInt - 1) := Int.ediv_mul_le _ pos.ne'
  have positive : 0 ≤ Rounding.ceilDiv value.toInt step.toInt * step.toInt :=
    mul_nonneg (Rounding.ceilDiv_nonneg nonneg pos) pos.le
  exact .bind (.i128 (by omega)) fun _ _ => .tryI64

theorem noTrap_sizeProposal {proposal : Proposal} {context : PolicyContext}
    (decimals : context.market.sizeDecimals.toNat ≤ 8) :
    NoTrap (sizeProposal proposal context) := by
  unfold sizeProposal
  refine .bind (noTrap_bpsAmount _ _) fun requested _ => ?_
  refine .bind (.i128 (natAbs_mul_lt (natAbs_toInt_le _) (natAbs_toInt_le _))) fun needed _ => ?_
  refine .bind (noTrap_ceilDiv (natAbs_toInt_le _)) fun rawQuantity _ => ?_
  refine .bind (.u8Sub decimals) fun decimals _ => ?_
  refine .bind .okOr fun step _ => .bind .tryI64 fun raw _ => ?_
  refine .bind noTrap_roundUp fun quantityE8 _ => ?_
  have product := natAbs_mul_lt (natAbs_toInt_le quantityE8)
    (natAbs_toInt_le proposal.limitPriceMicroUsdc)
  refine .bind (.i128 product) fun scaled isScaled => ?_
  rw [i128_eq_ok] at isScaled
  obtain ⟨-, rfl⟩ := isScaled
  refine .bind (.i128Div (by decide) product) fun exactNotional _ => ?_
  refine .bind .tryI64 fun actualNotional _ => .bind (noTrap_bpsAmount _ _) fun orderLimit _ => ?_
  refine .bind .rejectIf fun _ _ => .bind (.onlyIf fun _ => ?_) fun _ _ => ?_
  · exact .bind .okOr fun _ _ => .bind (noTrap_bpsAmount _ _) fun _ _ =>
      .bind .tryU64 fun _ _ => .rejectIf
  refine .bind (.onlyIf fun _ => .bind .tryU64 fun _ _ => .rejectIf) fun _ _ => ?_
  refine .bind .rejectIf fun _ _ => .bind (noTrap_bpsAmount _ _) fun reserve _ => ?_
  have leverage := context.isolatedLeverage.toNat_lt
  refine .bind (noTrap_ceilDiv (by omega)) fun requiredMargin _ => ?_
  refine .bind (.onlyIf fun _ => .bind .tryI64 fun _ _ => .bind .okOr fun _ _ => .rejectIf)
    fun _ _ => ?_
  refine .bind .rejectIf fun _ _ => ?_
  refine .bind (.i128 (natAbs_mul_lt (natAbs_toInt_le _) (by decide))) fun scaledNotional _ => ?_
  refine .bind (noTrap_ceilDiv (natAbs_toInt_le _)) fun effectiveBps _ => ?_
  exact .bind .tryU16 fun _ _ => .ok

/-- **The policy does not trap**, whatever the proposal, the market and the account. -/
theorem noTrap_evaluateProposal (proposal : Proposal) (context : PolicyContext) :
    NoTrap (evaluateProposal proposal context) := by
  unfold evaluateProposal
  refine .bind .rejectIf fun _ _ => .bind .rejectIf fun _ market => ?_
  rw [rejectIf_eq_ok] at market
  push Not at market
  obtain ⟨-, -, -, -, decimals, equity, -⟩ := market
  have positive : 0 < context.portfolio.equityMicroUsdc.toInt := by
    simpa [Int64.lt_iff_toInt_lt] using equity
  have fits : context.market.sizeDecimals.toNat ≤ 8 := by
    simpa [UInt8.le_iff_toNat_le] using decimals
  refine .bind .rejectIf fun _ _ => .bind .rejectIf fun _ _ => .bind .rejectIf fun _ _ => ?_
  refine .bind .rejectIf fun _ _ => .bind (noTrap_lossBps positive) fun _ _ => ?_
  refine .bind .rejectIf fun _ _ => .bind (noTrap_lossBps positive) fun _ _ => ?_
  exact .bind .rejectIf fun _ _ => .bind .rejectIf fun _ _ => noTrap_sizeProposal fits

/-! ## The last conversion -/

/-- A size that has passed every check of the policy, with its share of the capital. -/
structure CheckedSize : Type where
  quantityE8 : Int64
  actualNotional : Int64
  effectiveBps : Int

/-- `sizeProposal` as far as its last conversion. -/
def checkedSize (proposal : Proposal) (context : PolicyContext) :
    Exec PolicyError CheckedSize := do
  let rules := context.rules
  let market := context.market
  let portfolio := context.portfolio
  let capital := context.capital
  let requested ← bpsAmount capital proposal.notionalBps
  let normalized := max requested minOrderMicroUsdc
  let quantityReferencePrice :=
    context.quantityReferencePriceMicroUsdc.getD proposal.limitPriceMicroUsdc
  let needed ← i128 (normalized.toInt * quantityScale.toInt)
  let rawQuantity ← ceilDiv needed quantityReferencePrice.toInt
  let decimals ← u8Sub 8 market.sizeDecimals
  let step ← okOr (checkedPowI64 10 decimals) .overflow
  let raw ← tryI64 rawQuantity .overflow
  let quantityE8 ← roundUp raw step
  let scaled ← i128 (quantityE8.toInt * proposal.limitPriceMicroUsdc.toInt)
  let exactNotional ← i128Div scaled quantityScale.toInt
  let actualNotional ← tryI64 exactNotional .overflow
  let orderLimit ← bpsAmount capital rules.maxOrderBps
  rejectIf (actualNotional > orderLimit) .orderSize
  onlyIf (!proposal.reduceOnly) do
    let projectedPosition ← okOr
      (match proposal.side with
        | .buy => checkedAddI64 portfolio.symbolPositionMicroUsdc actualNotional
        | .sell => checkedSubI64 portfolio.symbolPositionMicroUsdc actualNotional) .overflow
    let positionLimit ← bpsAmount capital rules.maxPositionBps
    let magnitudeLimit ← tryU64 positionLimit.toInt .overflow
    rejectIf (projectedPosition.toInt.natAbs > magnitudeLimit) .positionSize
  onlyIf proposal.reduceOnly do
    let notional ← tryU64 actualNotional.toInt .overflow
    rejectIf (notional > portfolio.symbolPositionMicroUsdc.toInt.natAbs) .reduceOnly
  rejectIf (context.isolatedLeverage = 0) .market
  let reserve ← bpsAmount capital rules.cashReserveBps
  let requiredMargin ← ceilDiv actualNotional.toInt context.isolatedLeverage.toNat
  onlyIf (!proposal.reduceOnly) do
    let margin ← tryI64 requiredMargin .overflow
    let remaining ← okOr (checkedSubI64 portfolio.availableCollateralMicroUsdc margin) .overflow
    rejectIf (remaining < reserve) .cashReserve
  let availableDepth := match proposal.side with
    | .buy => market.askDepthMicroUsdc
    | .sell => market.bidDepthMicroUsdc
  rejectIf (actualNotional > availableDepth) .depth
  let scaledNotional ← i128 (actualNotional.toInt * 10000)
  let effectiveBps ← ceilDiv scaledNotional capital.toInt
  return { quantityE8, actualNotional, effectiveBps }

/-- `evaluateProposal` as far as its last conversion. -/
def checkedProposal (proposal : Proposal) (context : PolicyContext) :
    Exec PolicyError CheckedSize := do
  let rules := context.rules
  let market := context.market
  let portfolio := context.portfolio
  let capital := context.capital
  rejectIf (proposal.symbol ∉ allowedSymbols ∨ proposal.symbol ≠ market.symbol) .symbol
  rejectIf
    (market.markPriceMicroUsdc ≤ 0
      ∨ market.oraclePriceMicroUsdc ≤ 0
      ∨ proposal.limitPriceMicroUsdc ≤ 0
      ∨ context.quantityReferencePriceMicroUsdc.any (· ≤ 0)
      ∨ market.sizeDecimals > 8
      ∨ portfolio.equityMicroUsdc ≤ 0
      ∨ capital ≤ 0) .market
  rejectIf market.delisted .delisted
  rejectIf (market.bookAgeSeconds > rules.bookMaxAgeSeconds) .staleBook
  rejectIf (market.spreadBps > rules.maxSpreadBps) .spread
  rejectIf (proposal.reduceOnly ∧ ¬reducesPosition proposal.side portfolio.symbolPositionMicroUsdc)
    .reduceOnly
  let dailyLoss ← lossBps portfolio.tradingDayStartEquityMicroUsdc portfolio.equityMicroUsdc
  rejectIf (dailyLoss.toInt ≥ rules.dailyLossBps.toNat) .dailyLoss
  let drawdown ← lossBps portfolio.peakEquityMicroUsdc portfolio.equityMicroUsdc
  rejectIf (drawdown.toInt ≥ rules.drawdownBps.toNat) .drawdown
  rejectIf (portfolio.ordersToday ≥ rules.maxOrdersDay) .orderLimit
  checkedSize proposal context

/-- The last conversion, and the order that is returned after it. -/
def convertSize (proposal : Proposal) (size : CheckedSize) : Exec PolicyError OrderDecision := do
  let effectiveNotionalBps ← tryU16 size.effectiveBps .overflow
  return {
    symbol := proposal.symbol
    side := proposal.side
    quantityE8 := size.quantityE8
    limitPriceMicroUsdc := proposal.limitPriceMicroUsdc
    actualNotionalMicroUsdc := size.actualNotional
    effectiveNotionalBps
    reduceOnly := proposal.reduceOnly }

theorem sizeProposal_eq (proposal : Proposal) (context : PolicyContext) :
    sizeProposal proposal context = checkedSize proposal context >>= convertSize proposal := by
  simp only [sizeProposal, checkedSize, convertSize, bind_assoc, pure_bind] <;> rfl

/-- The policy is its checks and the last conversion. -/
theorem evaluateProposal_eq (proposal : Proposal) (context : PolicyContext) :
    evaluateProposal proposal context =
      checkedProposal proposal context >>= convertSize proposal := by
  simp only [evaluateProposal, checkedProposal, sizeProposal_eq, bind_assoc]

/-- A checked size is a share of the capital within the largest order. -/
theorem effectiveBps_of_checkedSize {proposal : Proposal} {context : PolicyContext}
    {size : CheckedSize} (capitalPos : 0 < context.capital.toInt)
    (ok : checkedSize proposal context = .ok size) :
    0 ≤ size.effectiveBps ∧ size.effectiveBps ≤ context.rules.maxOrderBps.toNat := by
  simp only [checkedSize, bind_eq_ok, rejectIf_eq_ok, i128_eq_ok, bpsAmount_eq_ok capitalPos.le,
    exists_const, existsAndEq, pure, Except.pure, Except.ok.injEq, and_true, gt_iff_lt,
    Int64.lt_iff_toInt_lt] at ok
  rcases ok with ⟨_, -, -, _, -, _, -, _, -, _, -, _, -, -, _, -, notional, -, limit, isLimit,
    within, _, -, _, -, -, _, -, _, -, _, -, -, -, share, isShare, rfl⟩
  have small : context.capital.toInt ≤ 2 ^ 127 := by
    have := context.capital.toInt_lt
    omega
  obtain ⟨nonneg, -, rfl⟩ := eq_ceilDiv_of_ok small isShare
  refine ⟨Rounding.ceilDiv_nonneg nonneg capitalPos, (Rounding.ceilDiv_le_iff capitalPos).mpr ?_⟩
  have floor := Int.ediv_mul_le (context.capital.toInt * context.rules.maxOrderBps.toNat)
    (by decide : (10000 : Int) ≠ 0)
  calc notional.toInt * 10000 ≤ limit.toInt * 10000 :=
        mul_le_mul_of_nonneg_right (not_lt.mp within) (by decide)
    _ ≤ context.capital.toInt * context.rules.maxOrderBps.toNat := isLimit ▸ floor
    _ = context.rules.maxOrderBps.toNat * context.capital.toInt := mul_comm _ _

/-- A checked proposal is a checked size of some capital. -/
theorem checkedSize_of_checkedProposal {proposal : Proposal} {context : PolicyContext}
    {size : CheckedSize} (ok : checkedProposal proposal context = .ok size) :
    0 < context.capital.toInt ∧ checkedSize proposal context = .ok size := by
  simp only [checkedProposal, bind_eq_ok, rejectIf_eq_ok, exists_const] at ok
  rcases ok with ⟨-, market, -, -, -, -, _, -, -, _, -, -, -, checked⟩
  push Not at market
  have capital := market.2.2.2.2.2.2
  exact ⟨by simpa [Int64.lt_iff_toInt_lt] using capital, checked⟩

/-- **Nothing overflows.**  The policy is its checks and a last conversion to 16 bits; no operation
of it traps, and the conversion does not fail after the checks. -/
theorem evaluateProposal_in_range (proposal : Proposal) (context : PolicyContext) :
    NoTrap (evaluateProposal proposal context) ∧
    evaluateProposal proposal context =
      checkedProposal proposal context >>= convertSize proposal ∧
    ∀ size, checkedProposal proposal context = .ok size →
      ∃ bps : UInt16, (tryU16 size.effectiveBps .overflow : Exec PolicyError UInt16) = .ok bps ∧
        (bps.toNat : Int) = size.effectiveBps := by
  refine ⟨noTrap_evaluateProposal proposal context, evaluateProposal_eq proposal context,
    fun size ok => ?_⟩
  obtain ⟨capitalPos, checked⟩ := checkedSize_of_checkedProposal ok
  obtain ⟨nonneg, within⟩ := effectiveBps_of_checkedSize capitalPos checked
  have fits := context.rules.maxOrderBps.toNat_lt
  have small : size.effectiveBps < 2 ^ 16 := by omega
  refine ⟨.ofNat size.effectiveBps.toNat, if_pos ⟨nonneg, small⟩, ?_⟩
  rw [UInt16.toNat_ofNat_of_lt' ((Int.toNat_lt nonneg).mpr small), Int.toNat_of_nonneg nonneg]

end CrowAgent
