import CrowAgent.Core.ModelTurn
import CrowAgent.Lib.Oracle
import CrowAgent.Policy.Traps

/-!
# The bounded model loop

`executeCycle` asks the model for turns, runs the tools they call, and ends with a proposal that the
local policy has evaluated or with a hold.  The model and the tools may answer anything.
-/

namespace CrowAgent

open Coroutine FixedWidth

def maxToolRounds : Nat := 4

/-- What the runtime calls: the inference provider and the tools. -/
inductive LoopOp : Type
  | infer (request : ModelTurnRequest)
  | execute (tool : AllowedTool) (arguments : Json)

def LoopOp.Res : LoopOp → Type
  | .infer _ => Except RuntimeError InferenceTurn
  | .execute _ _ => Except RuntimeError Json

abbrev loopCalls : Signature where
  Op := LoopOp
  Res := LoopOp.Res
  awaits := fun _ => true

/-- The kinds of the registered tools. -/
structure AgentRuntime : Type where
  tools : List AllowedTool

namespace AgentRuntime

/-- `register_tool`: a second tool of a kind takes the place of the first, and is an error. -/
def registerTool (runtime : AgentRuntime) (kind : AllowedTool) :
    Except RuntimeError Unit × AgentRuntime :=
  if kind ∈ runtime.tools then (.error .toolUnavailable, runtime)
  else (.ok (), { tools := kind :: runtime.tools })

end AgentRuntime

structure LoopOutcome : Type where
  /-- `none` is a hold that a receipt backs. -/
  proposal : Option Proposal
  order : Option (Except PolicyError OrderDecision)
  decisionSummary : String
  receipts : List ArenaInferenceReceiptV1
  toolResults : List ToolResult

/-- What a live cycle is told of it. -/
def LoopOutcome.toCycleOutcome (outcome : LoopOutcome) : CycleOutcome where
  proposal := outcome.proposal
  decisionSummary := outcome.decisionSummary
  receipts := outcome.receipts.map (·.receiptId)
  toolResults := outcome.toolResults

/-! ## The loop -/

abbrev Loop (α : Type) : Type := Act loopCalls Unit (Halt RuntimeError) α

def callLoop (op : LoopOp) : Loop op.Res := @Act.perform loopCalls Unit (Halt RuntimeError) op

/-- Ask the model, and fail with the error it fails with. -/
def infer (request : ModelTurnRequest) : Loop InferenceTurn := do
  let answer ← callLoop (.infer request)
  Act.ofExcept .error answer

def execute (tool : AllowedTool) (arguments : Json) : Loop Json := do
  let answer ← callLoop (.execute tool arguments)
  Act.ofExcept .error answer

namespace CycleContext

/-- The checks before the first turn. -/
def entryChecks (context : CycleContext) : Exec RuntimeError Unit := do
  match context.manifest.validate with
  | .ok () => .ok ()
  | .error (.error error) => raise (.protocol error)
  | .error .trap => .error .trap
  rejectIf (context.modelId ∉ context.manifest.eligibleModels) .receiptBinding
  rejectIf (trim context.strategyInstructions.toList = [] ∨
    8192 < context.strategyInstructions.length) .receiptBinding

def request (context : CycleContext) (priorToolResults : List ToolResult) : ModelTurnRequest where
  arenaId := context.manifest.arenaId
  runId := context.runId
  cycleId := context.cycleId
  modelId := context.modelId
  strategyInstructions := context.strategyInstructions
  cycleContext := context.cycleContext
  priorToolResults

def market? (context : CycleContext) (symbol : String) : Option MarketState :=
  (context.markets.find? (·.1 = symbol)).map (·.2)

def portfolio? (context : CycleContext) (symbol : String) : Option PortfolioState :=
  (context.portfolios.find? (·.1 = symbol)).map (·.2)

/-- What the policy evaluates a proposal in. -/
def policyContext (context : CycleContext) (market : MarketState) (portfolio : PortfolioState) :
    PolicyContext where
  rules := context.manifest.riskRules
  isolatedLeverage := context.manifest.riskRules.isolatedLeverage
  market
  portfolio
  startingCapitalMicroUsdc :=
    if context.manifest.startingCapitalMicroUsdc.toNat < 2 ^ 63 then
      context.manifest.startingCapitalMicroUsdc.toInt64
    else Int64.maxValue
  quantityReferencePriceMicroUsdc := none

end CycleContext

/-- The verdict of the policy, which may refuse. -/
def verdict {ε : Type} : Exec PolicyError OrderDecision →
    Exec ε (Except PolicyError OrderDecision)
  | .ok order => .ok (.ok order)
  | .error (.error error) => .ok (.error error)
  | .error .trap => .error .trap

theorem verdict_eq_ok {ε : Type} {result : Exec PolicyError OrderDecision}
    {order : Except PolicyError OrderDecision} :
    (verdict result : Exec ε _) = .ok order ↔ result = order.mapError .error := by
  cases result with
  | ok value => cases order <;> simp [verdict, Except.mapError]
  | error halt => cases halt <;> cases order <;> simp [verdict, Except.mapError]

section Loop

variable (prims : Primitives) (runtime : AgentRuntime) (context : CycleContext)

/-- One turn of the model with its summary, after the checks of both. -/
def takeTurn (toolResults : List ToolResult) : Loop (InferenceTurn × String) := do
  let request := context.request toolResults
  let turn ← infer request
  Act.ofExcept .error (validateReceipt prims request turn)
  let decisionSummary ← Act.ofExcept .error
    (validateDecisionSummary turn.output.decisionSummary context.strategyInstructions)
  return (turn, decisionSummary)

/-- The tools of a turn one after the other. -/
def runTools : List ToolCall → List ToolResult → Loop (List ToolResult)
  | [], toolResults => pure toolResults
  | call :: calls, toolResults => do
    Act.rejectIf (call.tool ∉ runtime.tools) (.error .toolUnavailable)
    let output ← execute call.tool call.arguments
    runTools calls (toolResults ++ [{ callId := call.callId, tool := call.tool, output }])

/-- A proposal with the verdict of the policy. -/
def propose (proposal : Proposal) (decisionSummary : String)
    (receipts : List ArenaInferenceReceiptV1) (toolResults : List ToolResult) :
    Loop LoopOutcome := do
  let market ← Act.ofOption (.error .toolUnavailable) (context.market? proposal.symbol)
  let portfolio ← Act.ofOption (.error .toolUnavailable) (context.portfolio? proposal.symbol)
  let order ← Act.ofExcept id
    (verdict (evaluateProposal proposal (context.policyContext market portfolio)))
  return { proposal := some proposal, order := some order, decisionSummary, receipts, toolResults }

/-- The rounds of the loop; `left` of them may follow this one. -/
def rounds (left : Nat) (receipts : List ArenaInferenceReceiptV1) (toolResults : List ToolResult) :
    Loop LoopOutcome := do
  let (turn, decisionSummary) ← takeTurn prims context toolResults
  let receipts := receipts ++ [turn.receipt]
  Act.rejectIf (turn.output.toolCalls ≠ [] ∧ turn.output.proposal.isSome) (.error .ambiguousTurn)
  match turn.output.proposal with
  | some proposal => propose context proposal decisionSummary receipts toolResults
  | none =>
    match left with
    | 0 => throw (.error .toolRoundLimit)
    | left + 1 =>
      if turn.output.toolCalls = [] then
        return { proposal := none, order := none, decisionSummary, receipts, toolResults }
      else do
        let toolResults ← runTools runtime turn.output.toolCalls toolResults
        rounds left receipts toolResults

/-- `AgentRuntime::execute_cycle`. -/
def executeCycle : Loop LoopOutcome := do
  Act.ofExcept id context.entryChecks
  rounds prims runtime context maxToolRounds [] []

end Loop

/-! ## What the loop leaves behind -/

/-- The model has answered a request. -/
def modelAnswers (request : ModelTurnRequest) (answer : Except RuntimeError InferenceTurn) :
    Exchange loopCalls := ⟨.infer request, answer⟩

/-- A tool has answered a call. -/
def toolAnswers (tool : AllowedTool) (arguments : Json) (answer : Except RuntimeError Json) :
    Exchange loopCalls := ⟨.execute tool arguments, answer⟩

/-- The answers of the model, in order. -/
def inference? : Exchange loopCalls → Option (Except RuntimeError InferenceTurn)
  | ⟨.infer _, answer⟩ => some answer
  | ⟨.execute _ _, _⟩ => none

def inferences (history : List (Exchange loopCalls)) : List (Except RuntimeError InferenceTurn) :=
  history.filterMap inference?

/-- The calls of tools with their answers, in order. -/
def execution? : Exchange loopCalls → Option (AllowedTool × Json × Except RuntimeError Json)
  | ⟨.infer _, _⟩ => none
  | ⟨.execute tool arguments, answer⟩ => some (tool, arguments, answer)

def executions (history : List (Exchange loopCalls)) :
    List (AllowedTool × Json × Except RuntimeError Json) := history.filterMap execution?

/-- The tool calls that the turns ask for. -/
def requested (turns : List InferenceTurn) : List ToolCall := turns.flatMap (·.output.toolCalls)

/-- A result is one of the call that was made for it. -/
structure ResultOf (call : ToolCall) (result : ToolResult) : Prop where
  callId : result.callId = call.callId
  tool : result.tool = call.tool

/-- A call of a tool as it stands in the history. -/
def executionOf (call : ToolCall) (result : ToolResult) :
    AllowedTool × Json × Except RuntimeError Json := (call.tool, call.arguments, .ok result.output)

/-- The calls of the loop have brought it the turns, a receipt for each, and a result for each tool
call the turns ask for. -/
structure Trail (prims : Primitives) (context : CycleContext) (history : List (Exchange loopCalls))
    (turns : List InferenceTurn) (receipts : List ArenaInferenceReceiptV1)
    (toolResults : List ToolResult) : Prop where
  inferred : inferences history = turns.map .ok
  bound : ∀ turn ∈ turns, ReceiptBinds prims (context.request []) turn
  receipts : receipts = turns.map (·.receipt)
  executed : executions history = List.zipWith executionOf (requested turns) toolResults
  results : List.Forall₂ ResultOf (requested turns) toolResults

/-- An outcome with its trail: what it proposes is what the final turn does, which asks for no
tools, and an order is the verdict of the policy on it, in the market and the portfolio of its own
symbol. -/
structure Backed (prims : Primitives) (context : CycleContext)
    (history : List (Exchange loopCalls)) (outcome : LoopOutcome) (turns : List InferenceTurn)
    (final : InferenceTurn) : Prop where
  trail : Trail prims context history (turns ++ [final]) outcome.receipts outcome.toolResults
  noTools : final.output.toolCalls = []
  proposal : outcome.proposal = final.output.proposal
  order : ∀ order, outcome.order = some order → ∃ proposal market portfolio,
    outcome.proposal = some proposal ∧ context.market? proposal.symbol = some market ∧
      context.portfolio? proposal.symbol = some portfolio ∧
      evaluateProposal proposal (context.policyContext market portfolio) =
        order.mapError .error

/-- The turn passes the checks of its receipt and of its summary. -/
structure ValidTurn (prims : Primitives) (context : CycleContext) (turn : InferenceTurn) :
    Prop where
  binds : ReceiptBinds prims (context.request []) turn
  summary : ∃ decisionSummary, validateDecisionSummary turn.output.decisionSummary
    context.strategyInstructions = .ok decisionSummary

/-- A receipt is one for every request of the cycle. -/
theorem ReceiptBinds.request {prims : Primitives} {context : CycleContext} {turn : InferenceTurn}
    {earlier : List ToolResult} (binds : ReceiptBinds prims (context.request earlier) turn)
    (toolResults : List ToolResult) : ReceiptBinds prims (context.request toolResults) turn := by
  obtain ⟨arena, run, cycle, model, output, toolCalls⟩ := binds
  exact ⟨arena, run, cycle, model, output, toolCalls⟩

section Rules

variable {prims : Primitives} {runtime : AgentRuntime} {context : CycleContext}
  {oracle : Oracle loopCalls} {history : List (Exchange loopCalls)}

theorem inferences_append (history more : List (Exchange loopCalls)) :
    inferences (history ++ more) = inferences history ++ inferences more := List.filterMap_append

theorem executions_append (history more : List (Exchange loopCalls)) :
    executions (history ++ more) = executions history ++ executions more := List.filterMap_append

theorem ends_infer {request : ModelTurnRequest} {ok : InferenceTurn → _ → Prop} {err : _ → _ → Prop}
    (answered : ∀ turn, oracle history (.infer request) = .ok turn →
      ok turn (history ++ [modelAnswers request (.ok turn)]))
    (failed : ∀ error, oracle history (.infer request) = .error error →
      err (.error error) (history ++ [modelAnswers request (.error error)])) :
    (infer request).Ends oracle ok err history := by
  refine (Act.ends_bind oracle).mpr ((Act.ends_perform oracle).mpr ?_)
  cases answer : oracle history (.infer request) with
  | ok turn => exact answered turn answer
  | error error => exact failed error answer

theorem ends_execute {tool : AllowedTool} {arguments : Json} {ok : Json → _ → Prop}
    {err : _ → _ → Prop}
    (answered : ∀ output, oracle history (.execute tool arguments) = .ok output →
      ok output (history ++ [toolAnswers tool arguments (.ok output)]))
    (failed : ∀ error, oracle history (.execute tool arguments) = .error error →
      err (.error error) (history ++ [toolAnswers tool arguments (.error error)])) :
    (execute tool arguments).Ends oracle ok err history := by
  refine (Act.ends_bind oracle).mpr ((Act.ends_perform oracle).mpr ?_)
  cases answer : oracle history (.execute tool arguments) with
  | ok output => exact answered output answer
  | error error => exact failed error answer

/-- A turn that is taken is bound by its receipt. -/
theorem ends_takeTurn {toolResults : List ToolResult} {ok : InferenceTurn × String → _ → Prop}
    {err : _ → _ → Prop}
    (taken : ∀ turn decisionSummary,
      oracle history (.infer (context.request toolResults)) = .ok turn →
      ReceiptBinds prims (context.request toolResults) turn → ok (turn, decisionSummary)
        (history ++ [modelAnswers (context.request toolResults) (.ok turn)]))
    (failed : ∀ error (answer : Except RuntimeError InferenceTurn),
      oracle history (.infer (context.request toolResults)) = answer →
      (∀ turn, answer = .ok turn → ¬ValidTurn prims context turn) →
      err error (history ++ [modelAnswers (context.request toolResults) answer])) :
    (takeTurn prims context toolResults).Ends oracle ok err history := by
  refine (Act.ends_bind oracle).mpr (ends_infer (fun turn answer => ?_) fun error answer => ?_)
  · refine (Act.ends_bind oracle).mpr ((Act.ends_ofExcept oracle).mpr ?_)
    cases receipt : validateReceipt prims (context.request toolResults) turn with
    | error error =>
      refine failed _ _ answer fun other same valid => ?_
      obtain rfl := Except.ok.inj same
      have binds := validateReceipt_eq_ok.mpr (valid.binds.request toolResults)
      rw [receipt] at binds
      cases binds
    | ok done =>
      refine (Act.ends_bind oracle).mpr ((Act.ends_ofExcept oracle).mpr ?_)
      cases summary : validateDecisionSummary turn.output.decisionSummary
          context.strategyInstructions with
      | error error =>
        refine failed _ _ answer fun other same valid => ?_
        obtain rfl := Except.ok.inj same
        obtain ⟨decisionSummary, shown⟩ := valid.summary
        rw [summary] at shown
        cases shown
      | ok decisionSummary =>
        exact taken turn decisionSummary answer (validateReceipt_eq_ok.mp receipt)
  · exact failed _ _ answer nofun

/-- The tools of a turn are executed in their order and leave the model alone. -/
theorem ends_runTools {calls : List ToolCall} {toolResults : List ToolResult}
    {ok : List ToolResult → _ → Prop} {err : _ → _ → Prop}
    (ran : ∀ new more, inferences more = [] → executions more = List.zipWith executionOf calls new →
      List.Forall₂ ResultOf calls new → ok (toolResults ++ new) (history ++ more))
    (failed : ∀ error more, inferences more = [] → err error (history ++ more)) :
    (runTools runtime calls toolResults).Ends oracle ok err history := by
  induction calls generalizing history toolResults with
  | nil =>
    have done := ran [] [] rfl rfl .nil
    rw [List.append_nil, List.append_nil] at done
    exact (Act.ends_pure oracle).mpr done
  | cons call calls ih =>
    refine (Act.ends_bind oracle).mpr ((Act.ends_rejectIf oracle).mpr ?_)
    split
    · have none := failed (.error .toolUnavailable) [] rfl
      rwa [List.append_nil] at none
    · refine (Act.ends_bind oracle).mpr (ends_execute (fun output _ => ih ?_ ?_) fun _ _ => ?_)
      · intro new more quiet run results
        rw [List.append_assoc, List.append_assoc]
        refine ran _ _ ?_ ?_ (.cons ⟨rfl, rfl⟩ results)
        · rw [inferences_append, quiet]
          rfl
        · rw [executions_append, run]
          rfl
      · intro error more quiet
        rw [List.append_assoc]
        refine failed error _ ?_
        rw [inferences_append, quiet]
        rfl
      · exact failed _ _ rfl

namespace Trail

variable {turns : List InferenceTurn} {receipts : List ArenaInferenceReceiptV1}
  {toolResults : List ToolResult}

theorem nil : Trail prims context [] [] [] [] := ⟨rfl, nofun, rfl, rfl, .nil⟩

/-- A turn is taken, which asks for no tools or whose tools are still to run. -/
theorem turn (trail : Trail prims context history turns receipts toolResults)
    {turn : InferenceTurn} (binds : ReceiptBinds prims (context.request toolResults) turn)
    {new : List ToolResult} {more : List (Exchange loopCalls)} (quiet : inferences more = [])
    (run : executions more = List.zipWith executionOf turn.output.toolCalls new)
    (results : List.Forall₂ ResultOf turn.output.toolCalls new) :
    Trail prims context (history ++ [modelAnswers (context.request toolResults) (.ok turn)] ++ more)
      (turns ++ [turn]) (receipts ++ [turn.receipt]) (toolResults ++ new) := by
  have asked : requested (turns ++ [turn]) = requested turns ++ turn.output.toolCalls := by
    simp [requested]
  obtain ⟨inferred, bound, rfl, executed, ofCalls⟩ := trail
  refine ⟨?_, ?_, ?_, ?_, ?_⟩
  · rw [inferences_append, inferences_append, quiet, inferred, List.map_append, List.append_nil]
    rfl
  · intro other mem
    rcases List.mem_append.mp mem with old | new
    · exact bound other old
    · obtain rfl := List.mem_singleton.mp new
      exact binds.request []
  · rw [List.map_append]
    rfl
  · rw [executions_append, executions_append, run, executed, asked,
      List.zipWith_append ofCalls.length_eq]
    simp [executions, execution?, modelAnswers]
  · rw [asked]
    exact List.rel_append ofCalls results

/-- The last turn asks for no tools. -/
theorem final (trail : Trail prims context history turns receipts toolResults)
    {turn : InferenceTurn} (binds : ReceiptBinds prims (context.request toolResults) turn)
    (noTools : turn.output.toolCalls = []) :
    Trail prims context (history ++ [modelAnswers (context.request toolResults) (.ok turn)])
      (turns ++ [turn]) (receipts ++ [turn.receipt]) toolResults := by
  have done := trail.turn binds (show inferences [] = [] from rfl)
    (show executions [] = List.zipWith executionOf turn.output.toolCalls [] by
      rw [noTools]
      rfl)
    (noTools ▸ .nil)
  rwa [List.append_nil, List.append_nil] at done

end Trail

theorem length_inferences {turns : List InferenceTurn} {receipts : List ArenaInferenceReceiptV1}
    {toolResults : List ToolResult}
    (trail : Trail prims context history turns receipts toolResults)
    (within : turns.length ≤ maxToolRounds) (answer : Except RuntimeError InferenceTurn) :
    (inferences (history ++ [modelAnswers (context.request toolResults) answer])).length ≤
      maxToolRounds + 1 := by
  rw [inferences_append, trail.inferred, List.length_append, List.length_map]
  exact Nat.succ_le_succ within

/-- A proposal of a final turn is evaluated where its own symbol trades. -/
theorem ends_propose {turns : List InferenceTurn} {turn : InferenceTurn} {proposal : Proposal}
    {decisionSummary : String} {receipts : List ArenaInferenceReceiptV1}
    {toolResults : List ToolResult} (counted : (inferences history).length ≤ maxToolRounds + 1)
    (trail : Trail prims context history (turns ++ [turn]) receipts toolResults)
    (noTools : turn.output.toolCalls = []) (proposed : turn.output.proposal = some proposal) :
    (propose context proposal decisionSummary receipts toolResults).Ends oracle
      (fun outcome after => (inferences after).length ≤ maxToolRounds + 1 ∧
        ∃ turns final, Backed prims context after outcome turns final)
      (fun _ after => (inferences after).length ≤ maxToolRounds + 1) history := by
  unfold propose
  refine (Act.ends_bind oracle).mpr ((Act.ends_ofOption oracle).mpr ?_)
  cases isMarket : context.market? proposal.symbol with
  | none => exact counted
  | some market =>
    refine (Act.ends_bind oracle).mpr ((Act.ends_ofOption oracle).mpr ?_)
    cases isPortfolio : context.portfolio? proposal.symbol with
    | none => exact counted
    | some portfolio =>
      refine (Act.ends_bind oracle).mpr ((Act.ends_ofExcept oracle).mpr ?_)
      cases evaluated : (verdict (evaluateProposal proposal
          (context.policyContext market portfolio)) : Exec RuntimeError _) with
      | error halt => exact counted
      | ok order =>
        refine (Act.ends_pure oracle).mpr ⟨counted, turns, turn, trail, noTools, proposed.symm, ?_⟩
        intro given same
        obtain rfl := Option.some.inj same
        exact ⟨proposal, market, portfolio, rfl, isMarket, isPortfolio, verdict_eq_ok.mp evaluated⟩

/-- A loop that ends has asked the model at most five times, and an outcome is backed. -/
theorem ends_rounds {left : Nat} {turns : List InferenceTurn}
    {receipts : List ArenaInferenceReceiptV1} {toolResults : List ToolResult}
    (within : turns.length + left = maxToolRounds)
    (trail : Trail prims context history turns receipts toolResults) :
    (rounds prims runtime context left receipts toolResults).Ends oracle
      (fun outcome after => (inferences after).length ≤ maxToolRounds + 1 ∧
        ∃ turns final, Backed prims context after outcome turns final)
      (fun _ after => (inferences after).length ≤ maxToolRounds + 1) history := by
  induction left generalizing turns receipts toolResults history with
  | zero =>
    unfold rounds
    have counted := length_inferences trail (by omega)
    refine (Act.ends_bind oracle).mpr (ends_takeTurn (fun turn decisionSummary _ binds => ?_)
      fun _ answer _ _ => counted answer)
    refine (Act.ends_bind oracle).mpr ((Act.ends_rejectIf oracle).mpr ?_)
    split
    · exact counted _
    · rename_i clear
      cases proposed : turn.output.proposal with
      | some proposal =>
        have noTools : turn.output.toolCalls = [] := by simpa [proposed] using clear
        exact ends_propose (counted _) (trail.final binds noTools) noTools proposed
      | none => exact counted _
  | succ left ih =>
    unfold rounds
    have counted := length_inferences trail (by omega)
    refine (Act.ends_bind oracle).mpr (ends_takeTurn (fun turn decisionSummary _ binds => ?_)
      fun _ answer _ _ => counted answer)
    refine (Act.ends_bind oracle).mpr ((Act.ends_rejectIf oracle).mpr ?_)
    split
    · exact counted _
    · rename_i clear
      cases proposed : turn.output.proposal with
      | some proposal =>
        have noTools : turn.output.toolCalls = [] := by simpa [proposed] using clear
        exact ends_propose (counted _) (trail.final binds noTools) noTools proposed
      | none =>
        dsimp only
        split
        · rename_i noTools
          refine (Act.ends_pure oracle).mpr ⟨counted _, turns, turn, ?_⟩
          exact ⟨trail.final binds noTools, noTools, proposed.symm, nofun⟩
        · refine (Act.ends_bind oracle).mpr (ends_runTools ?_ ?_)
          · intro new more quiet run results
            refine ih ?_ (trail.turn binds quiet run results)
            rw [List.length_append, List.length_singleton]
            omega
          · intro error more quiet
            rw [inferences_append, quiet, List.append_nil]
            exact counted _

end Rules

/-- **The trail of a model cycle.**  Whatever the model and the tools answer: the model is asked at
most five times; an outcome comes with one receipt for each turn, in order, which binds the turn to
the cycle, and with the results of all tool calls of the turns, in order; and an order comes only of
a proposal of a final turn without tool calls, in the market and the portfolio of its symbol. -/
theorem model_cycle_backed (prims : Primitives) (runtime : AgentRuntime) (context : CycleContext)
    (oracle : Oracle loopCalls) :
    (executeCycle prims runtime context).Ends oracle
      (fun outcome history => (inferences history).length ≤ maxToolRounds + 1 ∧
        ∃ turns final, Backed prims context history outcome turns final)
      (fun _ history => (inferences history).length ≤ maxToolRounds + 1) [] := by
  refine (Act.ends_bind oracle).mpr ((Act.ends_ofExcept oracle).mpr ?_)
  cases context.entryChecks with
  | error halt => exact Nat.zero_le _
  | ok done => exact ends_rounds rfl .nil

/-! ## Cycles that end in a turn without tool calls -/

section Script

variable {prims : Primitives} {runtime : AgentRuntime} {context : CycleContext}
  {oracle : Oracle loopCalls} {history : List (Exchange loopCalls)}

end Script

end CrowAgent
