import CrowAgent.Core.Runtime
import CrowAgent.Lib.JsonRead
import CrowAgent.Protocol.InferenceReceipt
import Mathlib.Data.List.Infix

/-!
# Turns of the model

One answer of the model to one request, how it is read from JSON, and what the runtime checks of it:
the receipt that binds it and the summary it shows its owner.
-/

namespace CrowAgent

structure ToolCall : Type where
  callId : String
  tool : AllowedTool
  arguments : Json

structure ModelTurnRequest : Type where
  arenaId : Uuid
  runId : Uuid
  cycleId : Uuid
  modelId : String
  strategyInstructions : String
  cycleContext : Json
  priorToolResults : List ToolResult

structure ModelTurn : Type where
  toolCalls : List ToolCall
  proposal : Option Proposal
  decisionSummary : String

structure InferenceTurn : Type where
  output : ModelTurn
  receipt : ArenaInferenceReceiptV1

/-! ## Serialised forms -/

def ToolCall.toJson (call : ToolCall) : Json := .ofFields [
  ("call_id", .string call.callId),
  ("tool", .string call.tool.toText),
  ("arguments", call.arguments)]

namespace ModelTurn

def toolCallsJson (turn : ModelTurn) : Json := .array (turn.toolCalls.map (·.toJson))

def toJson (turn : ModelTurn) : Json := .ofFields [
  ("tool_calls", turn.toolCallsJson),
  ("proposal", (turn.proposal.map (·.toJson)).getD .null),
  ("decision_summary", .string turn.decisionSummary)]

end ModelTurn

def ModelTurnRequest.toJson (request : ModelTurnRequest) : Json := .ofFields [
  ("arena_id", .string request.arenaId.hyphenated),
  ("run_id", .string request.runId.hyphenated),
  ("cycle_id", .string request.cycleId.hyphenated),
  ("model_id", .string request.modelId),
  ("strategy_instructions", .string request.strategyInstructions),
  ("cycle_context", request.cycleContext),
  ("prior_tool_results", .array (request.priorToolResults.map (·.toJson)))]

/-! ## Reading -/

def AllowedTool.ofText? (name : String) : Option AllowedTool :=
  [marketSnapshot, portfolioSnapshot, recentCandles].find? (·.toText = name)

def Side.ofText? (name : String) : Option Side := [buy, sell].find? (·.toText = name)

def ToolCall.ofJson? (json : Json) : Option ToolCall := do
  let [some callId, some tool, some arguments] ←
    json.structFields? ["call_id", "tool", "arguments"] | none
  let callId ← callId.asStr?
  let tool ← AllowedTool.ofText? (← tool.unitVariant?)
  return { callId, tool, arguments }

def Proposal.ofJson? (json : Json) : Option Proposal := do
  let [some symbol, some side, some notionalBps, some limitPriceMicroUsdc, some reduceOnly] ←
    json.structFields?
      ["symbol", "side", "notional_bps", "limit_price_micro_usdc", "reduce_only"] | none
  let symbol ← symbol.asStr?
  let side ← Side.ofText? (← side.unitVariant?)
  let notionalBps ← notionalBps.toU16?
  let limitPriceMicroUsdc ← Json.toI64? limitPriceMicroUsdc
  let reduceOnly ← reduceOnly.toBool?
  return { symbol, side, notionalBps, limitPriceMicroUsdc, reduceOnly }

namespace ModelTurn

def toolCallsOf? : Json → Option (List ToolCall)
  | .array values => values.mapM ToolCall.ofJson?
  | _ => none

/-- An optional proposal; it may be missing. -/
def proposalOf? : Option Json → Option (Option Proposal)
  | none | some .null => some none
  | some json => (Proposal.ofJson? json).map some

/-- `serde_json::from_value` of a turn. -/
def ofJson? (json : Json) : Option ModelTurn := do
  let [some toolCalls, proposal, some decisionSummary] ←
    json.structFields? ["tool_calls", "proposal", "decision_summary"] | none
  let toolCalls ← toolCallsOf? toolCalls
  let proposal ← proposalOf? proposal
  let decisionSummary ← decisionSummary.asStr?
  return { toolCalls, proposal, decisionSummary }

end ModelTurn

/-! ## Decision summaries -/

def maxDecisionSummaryChars : Nat := 240

/-- `char::is_control`. -/
def isControl (c : Char) : Bool := c.toNat < 0x20 || (0x7f ≤ c.toNat && c.toNat < 0xa0)

/-- `split_whitespace` and `join` with single spaces. -/
def joinWords (text : List Char) : List Char :=
  List.intercalate [' '] ((text.splitOnP isWhitespace).filter (· ≠ []))

def toAsciiLowercase (text : List Char) : List Char := text.map Char.toLower

/-- `str::trim`. -/
def trimEnd (text : List Char) : List Char := (text.reverse.dropWhile isWhitespace).reverse

def trim (text : List Char) : List Char := trimEnd (text.dropWhile isWhitespace)

/-- `str::contains`. -/
def containsText (text part : List Char) : Bool := decide (part <:+: text)

def privateReferences : List String := [
  "system prompt",
  "strategy instruction",
  "my instruction",
  "prompt says",
  "hidden reasoning",
  "chain of thought"]

/-- A summary that quotes the strategy, or is quoted from it. -/
def quotesStrategy (normalized strategy : List Char) : Bool :=
  24 ≤ normalized.length && 24 ≤ strategy.length &&
    (containsText normalized strategy || containsText strategy normalized)

/-- `validate_decision_summary`. -/
def validateDecisionSummary (summary strategyInstructions : String) :
    Except RuntimeError String :=
  if summary.toList.any fun c => isControl c && !isWhitespace c then .error .decisionSummary
  else
    let words := joinWords summary.toList
    let normalized := toAsciiLowercase words
    let strategy := toAsciiLowercase (trim strategyInstructions.toList)
    if words = [] ∨ privateReferences.any (containsText normalized ·.toList) ∨
        quotesStrategy normalized strategy then .error .decisionSummary
    else .ok (String.ofList (trimEnd (words.take maxDecisionSummaryChars)))

/-! ## Receipts of turns -/

/-- The text of the hash of a value. -/
def jsonSha256 (prims : Primitives) (value : Json) : String :=
  Hex.encode (prims.sha256 (canonicalJson prims value)).val

/-- The receipt is one for the request and for the turn. -/
structure ReceiptBinds (prims : Primitives) (request : ModelTurnRequest) (turn : InferenceTurn) :
    Prop where
  arena : turn.receipt.arenaId = request.arenaId
  run : turn.receipt.runId = request.runId
  cycle : turn.receipt.cycleId = request.cycleId
  model : turn.receipt.modelId = request.modelId
  output : turn.receipt.outputSha256 = jsonSha256 prims turn.output.toJson
  toolCalls : turn.receipt.toolCallsSha256 = jsonSha256 prims turn.output.toolCallsJson

/-- `validate_receipt`. -/
def validateReceipt (prims : Primitives) (request : ModelTurnRequest) (turn : InferenceTurn) :
    Except RuntimeError Unit :=
  let expectedOutput := jsonSha256 prims turn.output.toJson
  let expectedTools := jsonSha256 prims turn.output.toolCallsJson
  let receipt := turn.receipt
  if receipt.arenaId ≠ request.arenaId ∨ receipt.runId ≠ request.runId ∨
      receipt.cycleId ≠ request.cycleId ∨ receipt.modelId ≠ request.modelId ∨
      receipt.outputSha256 ≠ expectedOutput ∨ receipt.toolCallsSha256 ≠ expectedTools then
    .error .receiptBinding
  else .ok ()

theorem validateReceipt_eq_ok {prims : Primitives} {request : ModelTurnRequest}
    {turn : InferenceTurn} :
    validateReceipt prims request turn = .ok () ↔ ReceiptBinds prims request turn := by
  unfold validateReceipt
  dsimp only
  constructor
  · intro valid
    split at valid
    · cases valid
    · rename_i binds
      push Not at binds
      obtain ⟨arena, run, cycle, model, output, toolCalls⟩ := binds
      exact ⟨arena, run, cycle, model, output, toolCalls⟩
  · rintro ⟨arena, run, cycle, model, output, toolCalls⟩
    exact if_neg (by simp [arena, run, cycle, model, output, toolCalls])

theorem validateReceipt_eq_error {prims : Primitives} {request : ModelTurnRequest}
    {turn : InferenceTurn} (other : ¬ReceiptBinds prims request turn) :
    validateReceipt prims request turn = .error .receiptBinding := by
  rw [← validateReceipt_eq_ok] at other
  unfold validateReceipt at other ⊢
  dsimp only at other ⊢
  split
  · rfl
  · rename_i binds
    exact absurd (if_neg binds) other

end CrowAgent
