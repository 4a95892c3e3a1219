import CrowAgent.Daemon.LoopRules
import CrowAgent.Lib.Grammar

/-!
# The grammar of a chain

`chainGrammar` says which events can follow one another in the chain of a run.  A cycle has its
events in the order of `execute_live_cycle`, under an id that no event of the chain had before, and
nothing comes between them.  Where a session broke off, whether in a cycle, a reconciliation or the
first events of the chain, only the fills of a reconciliation go on.
-/

namespace CrowAgent

open Coroutine

/-! ## The grammar -/

/-- What a cycle journaled last. -/
inductive CycleStep : Type
  | started
  | books
  | candles
  | portfolio
  /-- Receipts of a decision. -/
  | receipts
  | proposal
  /-- The fresh book of a proposal. -/
  | quote
  /-- The policy approved the order, and the gate let it pass. -/
  | approval
  | order
  | acknowledgement
  | fills
  | funding
  | reconciliation
  deriving DecidableEq, Repr

/-- What a chain holds last. -/
inductive ChainStep : Type
  | empty
  | started
  | handoff
  /-- A session that goes on with the run has to reconcile first. -/
  | closed
  /-- A reconciliation up to its fills, its funding or its positions. -/
  | fills
  | funding
  | reconciliation
  /-- Nothing has to follow. -/
  | ready
  | cycle (cycleId : Uuid) (step : CycleStep)
  deriving DecidableEq, Repr

structure ChainState : Type where
  step : ChainStep
  /-- The ids of the cycles that were started or missed, latest first. -/
  cycles : List Uuid
  deriving DecidableEq, Repr

/-- The event is a policy outcome that allows its order. -/
def RunEventEnvelopeV1.approves (event : RunEventEnvelopeV1) : Bool :=
  match event.payload.get? "allowed" with
  | some (.bool allowed) => allowed
  | _ => false

/-- What an event of its cycle does to a cycle: it goes on, or it is over. -/
def CycleStep.next (cycleId : Uuid) (event : RunEventEnvelopeV1) : CycleStep → Option ChainStep
  | .started => if event.eventType = "book_snapshot" then some (.cycle cycleId .books) else none
  | .books => if event.eventType = "candle_closed" then some (.cycle cycleId .candles) else none
  | .candles =>
    if event.eventType = "portfolio_snapshot" then some (.cycle cycleId .portfolio) else none
  | .portfolio =>
    if event.eventType = "cycle_failed" then some .ready
    else if event.eventType = "inference_receipt" then some (.cycle cycleId .receipts)
    else if event.eventType = "proposal" then some (.cycle cycleId .proposal)
    else none
  | .receipts =>
    if event.eventType = "inference_receipt" then some (.cycle cycleId .receipts)
    else if event.eventType = "proposal" then some (.cycle cycleId .proposal)
    else none
  | .proposal =>
    if event.eventType = "policy_outcome" then some .ready
    else if event.eventType = "book_snapshot" then some (.cycle cycleId .quote)
    else none
  | .quote =>
    if event.eventType = "policy_outcome" then
      some (if event.approves then .cycle cycleId .approval else .ready)
    else none
  | .approval => if event.eventType = "order_submitted" then some (.cycle cycleId .order) else none
  | .order =>
    if event.eventType = "venue_acknowledgement" then some (.cycle cycleId .acknowledgement) else none
  | .acknowledgement => if event.eventType = "fill" then some (.cycle cycleId .fills) else none
  | .fills => if event.eventType = "funding" then some (.cycle cycleId .funding) else none
  | .funding =>
    if event.eventType = "reconciliation" then some (.cycle cycleId .reconciliation) else none
  | .reconciliation => if event.eventType = "portfolio_snapshot" then some .ready else none

/-- What an event outside the cycles does. -/
def ChainStep.next (eventType : String) : ChainStep → Option ChainStep
  | .empty => if eventType = "run_started" then some .started else none
  | .started =>
    if eventType = "handoff_snapshot" then some .handoff
    else if eventType = "run_paused" then some .closed
    else ifFills
  | .handoff => if eventType = "run_paused" then some .closed else ifFills
  | .fills => if eventType = "funding" then some .funding else ifFills
  | .funding => if eventType = "reconciliation" then some .reconciliation else ifFills
  | .reconciliation => if eventType = "portfolio_snapshot" then some .ready else ifFills
  | .ready =>
    if eventType ∈ loopEvents then some .ready
    else if eventType = "run_stopped" then some .closed
    else ifFills
  | .closed | .cycle _ _ => ifFills
where
  /-- A reconciliation can begin after any event. -/
  ifFills : Option ChainStep := if eventType = "fill" then some .fills else none

/-- What an event does to a chain. -/
def ChainState.next (state : ChainState) (event : RunEventEnvelopeV1) : Option ChainState :=
  match event.cycleId, state.step with
  | none, step => (step.next event.eventType).map ({ state with step := · })
  | some cycleId, .cycle current step =>
    if cycleId = current then (step.next cycleId event).map ({ state with step := · }) else none
  | some cycleId, .ready =>
    if cycleId ∈ state.cycles then none
    else if event.eventType = "cycle_started" then
      some ⟨.cycle cycleId .started, cycleId :: state.cycles⟩
    else if event.eventType = "missed_cycle" then some ⟨.ready, cycleId :: state.cycles⟩
    else none
  | some _, _ => none

/-- The grammar of a chain. -/
def chainGrammar : Grammar ChainState RunEventEnvelopeV1 := ⟨⟨.empty, []⟩, ChainState.next⟩

/-- Each cycle of a chain has an event that starts it or that it was missed. -/
def RunEventEnvelopeV1.beginsCycle (event : RunEventEnvelopeV1) : Bool :=
  event.eventType = "cycle_started" || event.eventType = "missed_cycle"

namespace ChainState

variable {state next : ChainState} {event : RunEventEnvelopeV1} {cycleId : Uuid} {step : ChainStep}

theorem next_of_session (outside : event.cycleId = none)
    (steps : state.step.next event.eventType = some step) :
    state.next event = some { state with step } := by
  rw [ChainState.next, outside]
  simp only [steps, Option.map_some]

theorem next_of_cycle {before : CycleStep} (inside : event.cycleId = some cycleId)
    (current : state.step = .cycle cycleId before) (steps : before.next cycleId event = some step) :
    state.next event = some { state with step } := by
  rw [ChainState.next, inside, current]
  simp only [if_true, steps, Option.map_some]

theorem next_of_started (inside : event.cycleId = some cycleId) (ready : state.step = .ready)
    (new : cycleId ∉ state.cycles) (type : event.eventType = "cycle_started") :
    state.next event = some ⟨.cycle cycleId .started, cycleId :: state.cycles⟩ := by
  rw [ChainState.next, inside, ready]
  simp only [if_neg new, if_pos type]

theorem next_of_missed (inside : event.cycleId = some cycleId) (ready : state.step = .ready)
    (new : cycleId ∉ state.cycles) (type : event.eventType = "missed_cycle") :
    state.next event = some ⟨.ready, cycleId :: state.cycles⟩ := by
  have other : event.eventType ≠ "cycle_started" := type ▸ (by decide)
  rw [ChainState.next, inside, ready]
  simp only [if_neg new, if_neg other, if_pos type]

/-- What an event outside the cycles, an event of the current cycle, or the first event of a cycle
does. -/
inductive Steps (state : ChainState) (event : RunEventEnvelopeV1) : ChainState → Prop
  | session {step : ChainStep} (outside : event.cycleId = none)
      (steps : state.step.next event.eventType = some step) : Steps state event { state with step }
  | cycle {cycleId : Uuid} {before : CycleStep} {step : ChainStep}
      (inside : event.cycleId = some cycleId) (current : state.step = .cycle cycleId before)
      (steps : before.next cycleId event = some step) : Steps state event { state with step }
  | started {cycleId : Uuid} (inside : event.cycleId = some cycleId) (ready : state.step = .ready)
      (new : cycleId ∉ state.cycles) (type : event.eventType = "cycle_started") :
      Steps state event ⟨.cycle cycleId .started, cycleId :: state.cycles⟩
  | missed {cycleId : Uuid} (inside : event.cycleId = some cycleId) (ready : state.step = .ready)
      (new : cycleId ∉ state.cycles) (type : event.eventType = "missed_cycle") :
      Steps state event ⟨.ready, cycleId :: state.cycles⟩

/-- Every step of the grammar is one of these. -/
theorem steps_of_next (steps : state.next event = some next) : state.Steps event next := by
  rcases state with ⟨step, cycles⟩
  rw [ChainState.next] at steps
  cases inside : event.cycleId with
  | none =>
    rw [inside] at steps
    cases after : step.next event.eventType with
    | none =>
      simp only [after, Option.map_none] at steps
      cases steps
    | some next =>
      simp only [after, Option.map_some] at steps
      obtain rfl := Option.some.inj steps
      exact .session inside after
  | some cycleId =>
    rw [inside] at steps
    cases step with
    | cycle current before =>
      by_cases same : cycleId = current
      · subst same
        simp only [if_true] at steps
        cases after : before.next cycleId event with
        | none =>
          rw [after] at steps
          cases steps
        | some next =>
          rw [after] at steps
          obtain rfl := Option.some.inj steps
          exact .cycle inside rfl after
      · simp only [if_neg same] at steps
        cases steps
    | ready =>
      by_cases old : cycleId ∈ cycles
      · simp only [if_pos old] at steps
        cases steps
      · by_cases started : event.eventType = "cycle_started"
        · simp only [if_neg old, if_pos started] at steps
          obtain rfl := Option.some.inj steps
          exact .started inside rfl old started
        · by_cases missed : event.eventType = "missed_cycle"
          · simp only [if_neg old, if_neg started, if_pos missed] at steps
            obtain rfl := Option.some.inj steps
            exact .missed inside rfl old missed
          · simp only [if_neg old, if_neg started, if_neg missed] at steps
            cases steps
    | _ => cases steps

end ChainState

/-! ## What the grammar says of a chain -/

attribute [local grind =] CycleStep.next ChainStep.next ChainStep.next.ifFills

theorem CycleStep.next_ne_empty {before : CycleStep} {cycleId : Uuid} {event : RunEventEnvelopeV1}
    {step : ChainStep} (steps : before.next cycleId event = some step) : step ≠ .empty := by
  cases before <;> grind

theorem ChainStep.next_ne_empty {before step : ChainStep} {eventType : String}
    (steps : before.next eventType = some step) : step ≠ .empty := by
  cases before <;> grind

/-- No event of a cycle that has begun begins one. -/
theorem CycleStep.not_beginsCycle {before : CycleStep} {cycleId : Uuid} {event : RunEventEnvelopeV1}
    {step : ChainStep} (steps : before.next cycleId event = some step) :
    event.beginsCycle = false := by
  cases before <;> grind [RunEventEnvelopeV1.beginsCycle]

/-- Nor does an event outside the cycles. -/
theorem ChainStep.not_beginsCycle {before step : ChainStep} {event : RunEventEnvelopeV1}
    (steps : before.next event.eventType = some step) : event.beginsCycle = false := by
  cases before <;> grind [loopEvents, RunEventEnvelopeV1.beginsCycle]

section Chains

variable {chain : List RunEventEnvelopeV1} {state : ChainState}

/-- A chain with an event is not empty to the grammar. -/
theorem chainGrammar_nonempty (read : chainGrammar.after chain = some state) (events : chain ≠ []) :
    state.step ≠ .empty := by
  refine Grammar.after_induction (I := fun chain state => chain ≠ [] → state.step ≠ .empty) ?_ ?_ read
    events
  · exact fun events => absurd rfl events
  · intro _ q event q' _ next _
    have steps := ChainState.steps_of_next next
    cases steps with
    | session outside steps => exact ChainStep.next_ne_empty steps
    | cycle inside current steps => exact CycleStep.next_ne_empty steps
    | started => exact ChainStep.noConfusion
    | missed => exact ChainStep.noConfusion

/-- The ids of the cycles are those of the events that begin one, and none comes twice. -/
theorem chainGrammar_cycles (read : chainGrammar.after chain = some state) :
    state.cycles.Nodup ∧
      (chain.filter (·.beginsCycle)).map (·.cycleId) = (state.cycles.map some).reverse := by
  refine Grammar.after_induction (I := fun chain state => state.cycles.Nodup ∧
    (chain.filter (·.beginsCycle)).map (·.cycleId) = (state.cycles.map some).reverse) ?_ ?_ read
  · exact ⟨.nil, rfl⟩
  · intro log q event q' counted next
    rcases counted with ⟨nodup, ids⟩
    have begun : ∀ {cycleId : Uuid}, event.beginsCycle = true → event.cycleId = some cycleId →
        ((log ++ [event]).filter (·.beginsCycle)).map (·.cycleId) =
          ((cycleId :: q.cycles).map some).reverse := fun begins inside => by
      simp [begins, ids, inside]
    have kept : event.beginsCycle = false → ((log ++ [event]).filter (·.beginsCycle)).map (·.cycleId) =
        (q.cycles.map some).reverse := fun other => by
      simp [other, ids]
    have steps := ChainState.steps_of_next next
    cases steps with
    | session outside steps => exact ⟨nodup, kept (ChainStep.not_beginsCycle steps)⟩
    | cycle inside current steps => exact ⟨nodup, kept (CycleStep.not_beginsCycle steps)⟩
    | started inside ready new type =>
      exact ⟨nodup.cons new, begun (by simp [RunEventEnvelopeV1.beginsCycle, type]) inside⟩
    | missed inside ready new type =>
      exact ⟨nodup.cons new, begun (by simp [RunEventEnvelopeV1.beginsCycle, type]) inside⟩

end Chains

/-! ## Orders -/

/-- The events of a cycle before it asks the model. -/
def evidenceTypes : List String :=
  ["cycle_started", "book_snapshot", "candle_closed", "portfolio_snapshot"]

/-- The types of the events of a cycle so far, with so many receipts. -/
def CycleStep.types (receipts : Nat) : CycleStep → List String
  | .started => evidenceTypes.take 1
  | .books => evidenceTypes.take 2
  | .candles => evidenceTypes.take 3
  | .portfolio => evidenceTypes
  | .receipts => decided
  | .proposal => decided ++ ["proposal"]
  | .quote => decided ++ ["proposal", "book_snapshot"]
  | .approval => approved
  | .order => approved ++ ["order_submitted"]
  | .acknowledgement => approved ++ ["order_submitted", "venue_acknowledgement"]
  | .fills => approved ++ ["order_submitted", "venue_acknowledgement", "fill"]
  | .funding => approved ++ ["order_submitted", "venue_acknowledgement", "fill", "funding"]
  | .reconciliation =>
    approved ++ ["order_submitted", "venue_acknowledgement", "fill", "funding", "reconciliation"]
where
  decided : List String := evidenceTypes ++ List.replicate receipts "inference_receipt"
  approved : List String := decided ++ ["proposal", "book_snapshot", "policy_outcome"]

/-- An event that goes on with a cycle adds its type. -/
theorem CycleStep.types_next {before after : CycleStep} {cycleId current : Uuid}
    {event : RunEventEnvelopeV1} (steps : before.next cycleId event = some (.cycle current after))
    (receipts : Nat) :
    current = cycleId ∧ ∃ more, after.types more = before.types receipts ++ [event.eventType] := by
  cases before with
  | portfolio =>
    by_cases receipt : event.eventType = "inference_receipt"
    · rw [CycleStep.next, receipt] at steps
      cases steps
      exact ⟨rfl, 1, receipt ▸ rfl⟩
    · rw [CycleStep.next, if_neg receipt] at steps
      split at steps
      · cases steps
      · split at steps
        · rename_i proposal
          cases steps
          exact ⟨rfl, 0, proposal ▸ rfl⟩
        · cases steps
  | receipts =>
    by_cases receipt : event.eventType = "inference_receipt"
    · rw [CycleStep.next, receipt] at steps
      cases steps
      refine ⟨rfl, receipts + 1, ?_⟩
      rw [CycleStep.types, types.decided, List.replicate_succ', receipt, ← List.append_assoc]
      rfl
    · rw [CycleStep.next, if_neg receipt] at steps
      split at steps
      · rename_i proposal
        cases steps
        exact ⟨rfl, receipts, proposal ▸ rfl⟩
      · cases steps
  | quote =>
    rw [CycleStep.next] at steps
    split at steps
    · rename_i outcome
      split at steps
      · cases steps
        exact ⟨rfl, receipts, by simp [CycleStep.types, types.approved, outcome]⟩
      · cases steps
    · cases steps
  | proposal =>
    rw [CycleStep.next] at steps
    split at steps
    · cases steps
    · split at steps
      · rename_i book
        cases steps
        exact ⟨rfl, receipts, by simp [CycleStep.types, book]⟩
      · cases steps
  | reconciliation =>
    rw [CycleStep.next] at steps
    split at steps
    · cases steps
    · cases steps
  | _ =>
    rw [CycleStep.next] at steps
    split at steps
    · rename_i type
      cases steps
      exact ⟨rfl, receipts, by simp [CycleStep.types, evidenceTypes, type]⟩
    · cases steps

/-- No event outside the cycles leads into one. -/
theorem ChainStep.next_ne_cycle {before : ChainStep} {eventType : String} {cycleId : Uuid}
    {step : CycleStep} : before.next eventType ≠ some (.cycle cycleId step) := by
  cases before <;> grind

section Orders

variable {chain before rest : List RunEventEnvelopeV1} {order : RunEventEnvelopeV1}
  {state : ChainState} {cycleId : Uuid} {step : CycleStep}

/-- The last events of the chain are the events of the cycle so far, and no other event is one of
it. -/
structure EndsInCycle (chain : List RunEventEnvelopeV1) (cycleId : Uuid) (step : CycleStep) : Prop where
  splits : ∃ earlier block receipts, chain = earlier ++ block ∧
    block.map (·.eventType) = step.types receipts ∧ (∀ event ∈ block, event.cycleId = some cycleId) ∧
    ∀ event ∈ earlier, event.cycleId ≠ some cycleId

/-- The cycles of the events are among those of the state. -/
theorem chainGrammar_mem_cycles (read : chainGrammar.after chain = some state) :
    (∀ event ∈ chain, ∀ cycleId, event.cycleId = some cycleId → cycleId ∈ state.cycles) ∧
      ∀ cycleId step, state.step = .cycle cycleId step → cycleId ∈ state.cycles := by
  refine Grammar.after_induction (I := fun chain state =>
    (∀ event ∈ chain, ∀ cycleId, event.cycleId = some cycleId → cycleId ∈ state.cycles) ∧
      ∀ cycleId step, state.step = .cycle cycleId step → cycleId ∈ state.cycles) ?_ ?_ read
  · refine ⟨fun event mem => absurd mem List.not_mem_nil, fun cycleId step => ?_⟩
    exact ChainStep.noConfusion
  · intro log q event q' known next
    have grows : ∀ {cycles : List Uuid}, q.cycles ⊆ cycles →
        (∀ cycleId, event.cycleId = some cycleId → cycleId ∈ cycles) →
        ∀ other ∈ log ++ [event], ∀ cycleId, other.cycleId = some cycleId → cycleId ∈ cycles := by
      intro cycles more own other mem cycleId inside
      rcases List.mem_append.mp mem with old | new
      · exact more (known.1 other old cycleId inside)
      · obtain rfl := List.mem_singleton.mp new
        exact own cycleId inside
    have steps := ChainState.steps_of_next next
    cases steps with
    | session outside steps =>
      refine ⟨grows (List.Subset.refl _) fun cycleId inside => ?_, fun cycleId step inside => ?_⟩
      · cases outside.symm.trans inside
      · exact absurd (steps.trans (congrArg some inside)) ChainStep.next_ne_cycle
    | cycle inside current steps =>
      have mem := known.2 _ _ current
      refine ⟨grows (List.Subset.refl _) fun cycleId own => ?_, fun cycleId step now => ?_⟩
      · obtain rfl := Option.some.inj (inside.symm.trans own)
        exact mem
      · obtain rfl := (CycleStep.types_next (steps.trans (congrArg some now)) 0).1
        exact mem
    | started inside ready isNew type =>
      refine ⟨grows (List.subset_cons_self _ _) fun cycleId own => ?_, fun cycleId step now => ?_⟩
      · obtain rfl := Option.some.inj (inside.symm.trans own)
        exact List.mem_cons_self
      · cases now
        exact List.mem_cons_self
    | missed inside ready isNew type =>
      refine ⟨grows (List.subset_cons_self _ _) fun cycleId own => ?_, fun cycleId step now => ?_⟩
      · obtain rfl := Option.some.inj (inside.symm.trans own)
        exact List.mem_cons_self
      · cases now

/-- A chain in the middle of a cycle ends with the events of the cycle. -/
theorem chainGrammar_block (read : chainGrammar.after chain = some state)
    (inside : state.step = .cycle cycleId step) : EndsInCycle chain cycleId step := by
  refine (Grammar.after_induction (I := fun chain state => chainGrammar.after chain = some state ∧
    ∀ cycleId step, state.step = .cycle cycleId step → EndsInCycle chain cycleId step) ?_ ?_
    read).2 cycleId step inside
  · exact ⟨rfl, fun cycleId step => ChainStep.noConfusion⟩
  · intro log q event q' held next
    rcases held with ⟨led, blocks⟩
    refine ⟨Grammar.after_snoc_of_next led next, fun cycleId step now => ?_⟩
    have steps := ChainState.steps_of_next next
    cases steps with
    | session outside steps => exact absurd (steps.trans (congrArg some now)) ChainStep.next_ne_cycle
    | @cycle current before _ inside current steps =>
      rcases blocks _ _ current with ⟨earlier, block, receipts, rfl, types, own, others⟩
      rcases CycleStep.types_next (steps.trans (congrArg some now)) receipts with ⟨rfl, more, added⟩
      refine ⟨earlier, block ++ [event], more, List.append_assoc _ _ _, ?_, ?_, others⟩
      · rw [List.map_append, types, added]
        rfl
      · intro other mem
        rcases List.mem_append.mp mem with old | new
        · exact own other old
        · rw [List.mem_singleton.mp new]
          exact inside
    | started inside ready isNew type =>
      cases now
      refine ⟨log, [event], 0, rfl, by rw [List.map_singleton, type]; rfl, ?_, ?_⟩
      · intro other mem
        rw [List.mem_singleton.mp mem]
        exact inside
      · intro other mem own
        exact isNew ((chainGrammar_mem_cycles led).1 other mem _ own)
    | missed inside ready isNew type => cases now

/-- What surrounds an order in its chain: before it stands everything that led to it, after it what
the venue made of it or the next reconciliation, and its cycle has no other order. -/
structure OrderFramed (before : List RunEventEnvelopeV1) (order : RunEventEnvelopeV1)
    (rest : List RunEventEnvelopeV1) : Prop where
  inCycle : order.cycleId.isSome
  evidence : ∃ earlier block receipts, before = earlier ++ block ∧
    block.map (·.eventType) = CycleStep.approval.types receipts ∧
    ∀ event ∈ block, event.cycleId = order.cycleId
  approved : ∃ earlier outcome, before = earlier ++ [outcome] ∧ outcome.eventType = "policy_outcome" ∧
    outcome.approves = true
  single : ∀ other ∈ before ++ rest, other.eventType = "order_submitted" →
    other.cycleId ≠ order.cycleId
  settled : ∀ next later, rest = next :: later →
    (next.eventType = "venue_acknowledgement" ∧ next.cycleId = order.cycleId) ∨
      next.eventType = "fill" ∧ next.cycleId = none

theorem CycleStep.next_of_order {before : CycleStep} {after : ChainStep}
    (type : order.eventType = "order_submitted") (steps : before.next cycleId order = some after) :
    before = .approval ∧ after = .cycle cycleId .order := by
  cases before <;> grind

/-- An order comes right after its approval. -/
theorem ChainState.step_of_order {next : ChainState} (type : order.eventType = "order_submitted")
    (steps : state.next order = some next) : ∃ cycleId, order.cycleId = some cycleId ∧
      state.step = .cycle cycleId .approval ∧ next.step = .cycle cycleId .order := by
  have cases := steps_of_next steps
  cases cases with
  | session outside leads =>
    rw [type] at leads
    have none : state.step.next "order_submitted" = none := by cases state.step <;> rfl
    cases none.symm.trans leads
  | cycle inside current leads =>
    rcases CycleStep.next_of_order type leads with ⟨rfl, rfl⟩
    exact ⟨_, inside, current, rfl⟩
  | started inside ready isNew other => exact absurd (type.symm.trans other) (by decide)
  | missed inside ready isNew other => exact absurd (type.symm.trans other) (by decide)

/-- After an order comes what the venue made of it, or the next reconciliation. -/
theorem ChainState.next_after_order {next : ChainState} {event : RunEventEnvelopeV1}
    (inside : state.step = .cycle cycleId .order) (steps : state.next event = some next) :
    (event.eventType = "venue_acknowledgement" ∧ event.cycleId = some cycleId) ∨
      event.eventType = "fill" ∧ event.cycleId = none := by
  have cases := steps_of_next steps
  cases cases with
  | session outside leads =>
    rw [inside] at leads
    exact .inr ⟨(Option.ite_none_right_eq_some.mp leads).1, outside⟩
  | cycle own current leads =>
    cases inside.symm.trans current
    exact .inl ⟨(Option.ite_none_right_eq_some.mp leads).1, own⟩
  | started own ready => cases inside.symm.trans ready
  | missed own ready => cases inside.symm.trans ready

/-- An approval is the policy outcome that the chain ends with. -/
theorem chainGrammar_approval (read : chainGrammar.after chain = some state)
    (inside : state.step = .cycle cycleId .approval) :
    ∃ earlier outcome, chain = earlier ++ [outcome] ∧ outcome.eventType = "policy_outcome" ∧
      outcome.approves = true := by
  refine Grammar.after_induction (I := fun chain state => state.step = .cycle cycleId .approval →
    ∃ earlier outcome, chain = earlier ++ [outcome] ∧ outcome.eventType = "policy_outcome" ∧
      outcome.approves = true) ?_ ?_ read inside
  · exact ChainStep.noConfusion
  · intro log q event q' _ next now
    have steps := ChainState.steps_of_next next
    cases steps with
    | session outside leads => exact absurd (leads.trans (congrArg some now)) ChainStep.next_ne_cycle
    | @cycle _ before _ own current leads =>
      have approves : event.eventType = "policy_outcome" ∧ event.approves = true := by
        have leads := leads.trans (congrArg some now)
        cases before <;> grind
      exact ⟨log, event, rfl, approves⟩
    | started => cases now
    | missed => cases now

/-- No event before an approval is an order of the same cycle. -/
theorem EndsInCycle.no_order (ends : EndsInCycle chain cycleId .approval) {other : RunEventEnvelopeV1}
    (mem : other ∈ chain) (type : other.eventType = "order_submitted") :
    other.cycleId ≠ some cycleId := by
  rcases ends.splits with ⟨earlier, block, receipts, rfl, types, own, others⟩
  rcases List.mem_append.mp mem with old | inside
  · exact others other old
  · have listed : other.eventType ∈ CycleStep.approval.types receipts :=
      types ▸ List.mem_map_of_mem inside
    rw [type] at listed
    simp [CycleStep.types, CycleStep.types.approved, CycleStep.types.decided, evidenceTypes] at listed

/-- **Orders.**  Every order of an accepted chain has everything that led to it right before it. -/
theorem chainGrammar_order (accepts : chainGrammar.Accepts (before ++ order :: rest))
    (type : order.eventType = "order_submitted") : OrderFramed before order rest := by
  rcases Grammar.exists_next accepts with ⟨q, q', led, steps, led'⟩
  rcases ChainState.step_of_order type steps with ⟨cycleId, own, approval, ordered⟩
  have ends := chainGrammar_block led approval
  refine ⟨Option.isSome_iff_exists.mpr ⟨cycleId, own⟩, ?_, chainGrammar_approval led approval, ?_, ?_⟩
  · rcases ends.splits with ⟨earlier, block, receipts, splits, types, inCycle, -⟩
    exact ⟨earlier, block, receipts, splits, types, fun event mem => (inCycle event mem).trans own.symm⟩
  · intro other mem isOrder same
    rcases List.mem_append.mp mem with old | later
    · exact ends.no_order old isOrder (same.trans own)
    · rcases List.append_of_mem later with ⟨between, after, rfl⟩
      have accepts' : chainGrammar.Accepts ((before ++ order :: between) ++ other :: after) := by
        simpa using accepts
      rcases Grammar.exists_next accepts' with ⟨p, p', reached, next, -⟩
      rcases ChainState.step_of_order isOrder next with ⟨otherId, inside, approved, -⟩
      have mine : order ∈ before ++ order :: between :=
        List.mem_append_right _ List.mem_cons_self
      exact (chainGrammar_block reached approved).no_order mine type (same.symm.trans inside)
  · rintro next later rfl
    have accepts' : chainGrammar.Accepts ((before ++ [order]) ++ next :: later) := by
      simpa using accepts
    rcases Grammar.exists_next accepts' with ⟨p, p', reached, leads, -⟩
    obtain rfl := Option.some.inj (led'.symm.trans reached)
    rcases ChainState.next_after_order ordered leads with ⟨acknowledged, same⟩ | filled
    · exact .inl ⟨acknowledged, same.trans own.symm⟩
    · exact .inr filled

end Orders

end CrowAgent
