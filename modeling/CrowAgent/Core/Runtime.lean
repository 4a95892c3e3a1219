import CrowAgent.Core.Hyperliquid
import CrowAgent.Protocol.Manifest

/-!
# Decisions of the model

What a live cycle asks of the agent runtime and what it gets back.  How the runtime comes to a
decision, over turns of the model and calls of its tools, does not matter here.
-/

namespace CrowAgent

inductive AllowedTool : Type
  | marketSnapshot
  | portfolioSnapshot
  | recentCandles
  deriving DecidableEq, Repr

def AllowedTool.toText : AllowedTool → String
  | .marketSnapshot => "market_snapshot"
  | .portfolioSnapshot => "portfolio_snapshot"
  | .recentCandles => "recent_candles"

structure ToolResult : Type where
  callId : String
  tool : AllowedTool
  output : Json

def ToolResult.toJson (result : ToolResult) : Json := .ofFields [
  ("call_id", .string result.callId),
  ("tool", .string result.tool.toText),
  ("output", result.output)]

inductive RuntimeError : Type
  | inference
  | gatewayStatus
  | gatewayTimeout
  | gatewayTransport
  | gatewayReceiptBinding
  | modelTurnInvalid
  | tool
  | toolUnavailable
  | toolRoundLimit
  | ambiguousTurn
  | missingProposal
  | decisionSummary
  | receiptBinding
  | protocol (error : ProtocolError)
  | policy (error : PolicyError)
  deriving DecidableEq, Repr

def RuntimeError.failureClass : RuntimeError → String
  | .inference => "inference_failed"
  | .gatewayStatus => "gateway_http_status"
  | .gatewayTimeout => "gateway_timeout"
  | .gatewayTransport => "gateway_transport"
  | .gatewayReceiptBinding => "gateway_receipt_binding"
  | .modelTurnInvalid => "invalid_model_turn"
  | .tool => "tool_failed"
  | .toolUnavailable => "tool_unavailable"
  | .toolRoundLimit => "tool_round_limit"
  | .ambiguousTurn => "ambiguous_model_turn"
  | .missingProposal => "missing_proposal"
  | .decisionSummary => "invalid_decision_summary"
  | .receiptBinding => "receipt_binding_failed"
  | .protocol _ => "protocol_validation_failed"
  | .policy _ => "policy_rejected"

structure CycleContext : Type where
  manifest : ArenaManifestV1
  runId : Uuid
  cycleId : Uuid
  modelId : String
  strategyInstructions : String
  markets : List (String × MarketState)
  portfolios : List (String × PortfolioState)
  cycleContext : Json
  /-- What the registered tools return. -/
  tools : List (AllowedTool × Json)

structure CycleOutcome : Type where
  /-- `none` is a hold that a receipt backs. -/
  proposal : Option Proposal
  decisionSummary : String
  /-- The ids of the inference receipts. -/
  receipts : List Uuid
  toolResults : List ToolResult

end CrowAgent
