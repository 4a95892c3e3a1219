import CrowAgent.Protocol.Manifest
import CrowAgent.Protocol.RunEvent

/-!
# Inference receipts

What the gateway signs about one turn of the model.
-/

namespace CrowAgent

structure ArenaInferenceReceiptV1 : Type where
  protocol : String
  receiptId : Uuid
  arenaId : Uuid
  runId : Uuid
  cycleId : Uuid
  modelId : String
  modelRevision : String
  runtimeDigest : String
  inputSha256 : String
  outputSha256 : String
  toolCallsSha256 : String
  inputTokens : UInt64
  outputTokens : UInt64
  amountMicrocredits : UInt64
  gatewayPublicKey : String
  gatewaySignature : String
  finalizedAt : OffsetDateTime
  deriving DecidableEq

namespace ArenaInferenceReceiptV1

/-- The fields the signature covers. -/
def unsigned (prims : Primitives) (receipt : ArenaInferenceReceiptV1) : Option Json :=
  (prims.rfc3339 receipt.finalizedAt).map fun finalizedAt => Json.ofFields [
    ("protocol", .string receipt.protocol),
    ("receipt_id", .string receipt.receiptId.hyphenated),
    ("arena_id", .string receipt.arenaId.hyphenated),
    ("run_id", .string receipt.runId.hyphenated),
    ("cycle_id", .string receipt.cycleId.hyphenated),
    ("model_id", .string receipt.modelId),
    ("model_revision", .string receipt.modelRevision),
    ("runtime_digest", .string receipt.runtimeDigest),
    ("input_sha256", .string receipt.inputSha256),
    ("output_sha256", .string receipt.outputSha256),
    ("tool_calls_sha256", .string receipt.toolCallsSha256),
    ("input_tokens", .number (.unsigned receipt.inputTokens)),
    ("output_tokens", .number (.unsigned receipt.outputTokens)),
    ("amount_microcredits", .number (.unsigned receipt.amountMicrocredits)),
    ("gateway_public_key", .string receipt.gatewayPublicKey),
    ("finalized_at", .string finalizedAt)]

/-- `ArenaInferenceReceiptV1::verify`. -/
def verify (prims : Primitives) (receipt : ArenaInferenceReceiptV1) : Except ProtocolError Unit :=
  if receipt.protocol ≠ harnessProtocolV1 ∨ receipt.modelId = "" ∨ receipt.modelRevision = "" ∨
      receipt.runtimeDigest = "" ∨ 256 < receipt.runtimeDigest.utf8ByteSize ∨
      !isSha256 receipt.inputSha256 ∨ !isSha256 receipt.outputSha256 ∨
      !isSha256 receipt.toolCallsSha256 then .error .invalidInferenceReceipt
  else
    match receipt.unsigned prims with
    | none => .error .canonicalJson
    | some unsigned =>
      (verifySignature prims receipt.gatewayPublicKey receipt.gatewaySignature
        (canonicalJson prims unsigned)).mapError fun _ => .invalidInferenceReceipt

end ArenaInferenceReceiptV1

end CrowAgent
