import CrowAgent.Protocol.Primitives

/-!
# Strategy bundles
-/

namespace CrowAgent

def requiredStrategyTools : List String :=
  ["market_snapshot", "portfolio_snapshot", "recent_candles"]

structure StrategyBundleV1 : Type where
  protocol : String
  versionId : Uuid
  modelId : String
  name : String
  systemInstructions : String
  tools : List String
  createdAt : OffsetDateTime
  deriving DecidableEq, Repr

/-- `Uuid::nil`. -/
def Uuid.nil : Uuid := ⟨.ofNat 16 0⟩

namespace StrategyBundleV1

/-- Whether `validate` accepts the bundle. -/
def isValid (bundle : StrategyBundleV1) : Bool :=
  bundle.protocol = harnessProtocolV1 && bundle.versionId ≠ Uuid.nil && !isBlank bundle.modelId
    && !isBlank bundle.name && bundle.name.length ≤ 80 && !isBlank bundle.systemInstructions
    && bundle.systemInstructions.length ≤ 8192 && bundle.tools = requiredStrategyTools

/-- The bundle as it is serialised, if its time has a text. -/
def toJson (prims : Primitives) (bundle : StrategyBundleV1) : Option Json :=
  (prims.rfc3339 bundle.createdAt).map fun createdAt => Json.ofFields [
    ("protocol", .string bundle.protocol),
    ("version_id", .string bundle.versionId.hyphenated),
    ("model_id", .string bundle.modelId),
    ("name", .string bundle.name),
    ("system_instructions", .string bundle.systemInstructions),
    ("tools", .array (bundle.tools.map .string)),
    ("created_at", .string createdAt)]

end StrategyBundleV1

end CrowAgent
