import CrowAgent.Protocol.Primitives

/-!
# Risk rules of an arena

`RiskRulesV1` is the part of a signed manifest that the local policy enforces, with the ceiling
every accepted manifest stays under (`RiskRulesV1.validateCeiling`).
-/

namespace CrowAgent

def allowedSymbols : List String := ["BTC", "ETH", "SOL"]

structure RiskRulesV1 : Type where
  cashReserveBps : UInt16
  dailyLossBps : UInt16
  drawdownBps : UInt16
  maxOrderBps : UInt16
  maxPositionBps : UInt16
  maxSpreadBps : UInt16
  maxOracleGapBps : UInt16
  bookMaxAgeSeconds : UInt16
  maxOrdersDay : UInt16
  isolatedLeverage : UInt8
  longOnly : Bool
  iocOnly : Bool
  deriving DecidableEq, Repr

namespace RiskRulesV1

/-- `RiskRulesV1::default`, which is also the ceiling. -/
def default : RiskRulesV1 where
  cashReserveBps := 1000
  dailyLossBps := 200
  drawdownBps := 1000
  maxOrderBps := 200
  maxPositionBps := 1000
  maxSpreadBps := 40
  maxOracleGapBps := 100
  bookMaxAgeSeconds := 10
  maxOrdersDay := 20
  isolatedLeverage := 1
  longOnly := false
  iocOnly := true

/-- The comparison `validate_ceiling` makes; the oracle gap is not part of it. -/
def withinCeiling (rules : RiskRulesV1) : Bool :=
  rules.cashReserveBps ≥ default.cashReserveBps
    && rules.dailyLossBps ≤ default.dailyLossBps
    && rules.drawdownBps ≤ default.drawdownBps
    && rules.maxOrderBps ≤ default.maxOrderBps
    && rules.maxPositionBps ≤ default.maxPositionBps
    && rules.maxSpreadBps ≤ default.maxSpreadBps
    && rules.bookMaxAgeSeconds ≤ default.bookMaxAgeSeconds
    && rules.maxOrdersDay ≤ default.maxOrdersDay
    && rules.isolatedLeverage == 1
    && rules.iocOnly

def validateCeiling (rules : RiskRulesV1) : Except ProtocolError Unit :=
  if rules.withinCeiling then .ok ()
  else .error (.invalidManifest "risk rules exceed the Crow safety ceiling")

/-- The defaults pass their own check. -/
theorem validateCeiling_default : default.validateCeiling = .ok () := by
  decide

/-- What an accepted set of rules promises about the limits the order size depends on. -/
theorem limits_of_validateCeiling {rules : RiskRulesV1} (valid : rules.validateCeiling = .ok ()) :
    1000 ≤ rules.cashReserveBps.toNat ∧ rules.maxOrderBps.toNat ≤ 200 ∧
      rules.maxPositionBps.toNat ≤ 1000 := by
  unfold validateCeiling at valid
  split at valid
  · rename_i within
    simp only [withinCeiling, default, Bool.and_eq_true, decide_eq_true_eq, ge_iff_le,
      UInt16.le_iff_toNat_le] at within
    obtain ⟨⟨⟨⟨⟨⟨⟨⟨⟨reserve, -⟩, -⟩, order⟩, position⟩, -⟩, -⟩, -⟩, -⟩, -⟩ := within
    exact ⟨reserve, order, position⟩
  · cases valid

end RiskRulesV1

end CrowAgent
