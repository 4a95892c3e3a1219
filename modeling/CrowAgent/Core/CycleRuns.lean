import CrowAgent.Core.DeliveryOrder
import CrowAgent.Core.Dispatch
import CrowAgent.Core.LiveRuns
import CrowAgent.Policy.Sizing

/-!
# Runs of live cycles

`cycles` is a process that runs live cycles, reconciliations and event writers one after the other
and can crash at any step.

* `submissions_recorded`: whatever fails, an order that is handed to the venue is recorded, counted
  and the only one of its cycle.
* `submitted_while_running_of_calm`: when the gate is left alone between a cycle's check and its
  order, the gate is running at every order; `submits_after_pause` is a pause that comes in between.
-/

namespace CrowAgent

open Coroutine

variable {prims : Primitives} {env : World → World → Prop}

/-! ## The process -/

/-- What a session does one after the other. -/
inductive CycleCall (prims : Primitives) : Prog calls Unit → Prop
  | cycle (cycle : LiveCycle) (risk : LiveRiskState) :
      CycleCall prims ((executeLiveCycle prims cycle).discard risk)
  | reconcile (session : SessionAccount) (risk : LiveRiskState) :
      CycleCall prims ((reconcileLiveState prims session).discard risk)
  | writer {prog : Prog calls Unit} (call : WriterCall prims prog) : CycleCall prims prog

/-- One call after the other.  The process can crash at any step. -/
def cycles (prims : Primitives) (env : World → World → Prop) : Machine calls World Unit where
  toSystem := World.system prims env
  again := fun _ => CycleCall prims
  crash := fun _ => KeepsRecord

/-- The contract of the cycles: an order is recorded, and with calm others the gate is running. -/
theorem cycles_meet (quiet : ∀ w w', env w w' → KeepsRecord w w')
    (submit : OrderDecision → String → World → Prop)
    (allowed : ∀ order clientOrderId w, w.MayDispatch prims order clientOrderId →
      (Calm env → w.gate = .running) → submit order clientOrderId w) :
    (cycles prims env).Meets (delivery prims env quiet submit) fun _ _ => True where
  system := rfl
  again := by
    intro value prog w inv _ call
    cases call with
    | cycle cycle risk => exact Act.wp_discard.mpr (wp_executeLiveCycle inv allowed)
    | reconcile session risk =>
      have records : Records prims .all (reconcileLiveState prims session) :=
        records_reconcileLiveState trivial trivial fun _ _ => trivial
      exact Act.wp_discard.mpr (records.meets inv)
    | writer call =>
      cases call with
      | append writer cycleId eventType payload privatePayload =>
        exact Act.wp_discard.mpr (Act.wp_mono inv (DurableRunEventWriter.wp_append inv)
          (fun _ _ _ _ _ => trivial) fun _ _ _ _ _ => trivial)
      | flushPending writer =>
        exact Act.wp_discard.mpr (Act.wp_mono inv (DurableRunEventWriter.wp_flushPending inv)
          (fun _ _ _ _ _ => trivial) fun _ _ _ _ _ => trivial)
  crash := fun inv keeps => ⟨Record.Delivered.keeps inv keeps, trivial⟩

/-! ## One order a cycle -/

/-- Every order follows directly on the permission of a cycle. -/
def OrdersPermitted : List Mark → Prop
  | [] => True
  | .submitted _ _ :: older =>
    (∃ runId cycleId day rest, older = .permitted true :: .cycle runId cycleId day :: rest) ∧
      OrdersPermitted older
  | _ :: older => OrdersPermitted older

/-- Of all calls only an order leaves a mark when it is made. -/
theorem World.Begins.marks {op : Op} {w w' : World} (begins : World.Begins op w w') :
    w'.marks = w.marks ∨ ∃ order clientOrderId, op = .venue (.submitIoc order clientOrderId) ∧
      w'.marks = .submitted order clientOrderId :: w.marks := by
  unfold World.Begins at begins
  split at begins
  · obtain ⟨stored, rfl⟩ := begins
    exact .inl rfl
  · rename_i order clientOrderId
    rw [begins]
    exact .inr ⟨order, clientOrderId, rfl, rfl⟩
  · rw [begins]
    exact .inl rfl

/-- No answer leaves the mark of an order. -/
theorem World.Answers.marks {op : Op} {answer : op.Res} {w w' : World}
    (answers : World.Answers prims op w answer w') : w'.marks = w.marks ∨ ∃ mark,
      (∀ order clientOrderId, mark ≠ .submitted order clientOrderId) ∧
        w'.marks = mark :: w.marks := by
  cases op with
  | journal call =>
    rcases answers with ⟨-, rfl⟩ | ⟨error, -, -, rfl⟩
    · exact .inl rfl
    · exact .inl rfl
  | newV4 =>
    rw [answers.2]
    exact .inl rfl
  | appendEvent event =>
    rw [answers.1]
    exact .inl rfl
  | orderPermitted =>
    rw [answers.2]
    exact .inr ⟨.permitted answer, nofun, rfl⟩
  | shared call =>
    rw [answers.2]
    exact .inl rfl
  | applyRemote command =>
    rw [answers.2]
    exact .inl rfl
  | cycleStarts runId cycleId day =>
    rw [show w' = _ from answers]
    exact .inr ⟨.cycle runId cycleId day, nofun, rfl⟩
  | cycleEnds =>
    rw [show w' = _ from answers]
    exact .inr ⟨.ended, nofun, rfl⟩
  | panic => exact answer.elim
  | exit => exact answer.elim
  | _ =>
    rw [show w' = _ from answers]
    exact .inl rfl

theorem OrdersPermitted.cons {mark : Mark} {marks : List Mark} (permitted : OrdersPermitted marks)
    (other : ∀ order clientOrderId, mark ≠ .submitted order clientOrderId) :
    OrdersPermitted (mark :: marks) := by
  cases mark with
  | submitted order clientOrderId => exact absurd rfl (other order clientOrderId)
  | cycle runId cycleId day => exact permitted
  | permitted answer => exact permitted
  | ended => exact permitted

/-- What the owner's commands and the relay's failures do to the gate, and the wait that follows a
failure. -/
inductive GateWrite : World → World → Prop
  | apply (action : RemoteAction) (w : World) :
      GateWrite w { w with gate := (w.gate.apply action).2 }
  | relayFails (w : World) : GateWrite w { w with gate := .paused, relay := .backoff }
  | wakes (w : World) : GateWrite w { w with relay := .session }

theorem GateWrite.quiet {w w' : World} (writes : GateWrite w w') : KeepsRecord w w' := by
  cases writes with
  | apply action w => exact ⟨rfl, rfl, List.Subset.refl _, rfl⟩
  | relayFails w => exact ⟨rfl, rfl, List.Subset.refl _, rfl⟩
  | wakes w => exact ⟨rfl, rfl, List.Subset.refl _, rfl⟩

/-- A write that does not close the gate between a cycle's check and its order. -/
def CalmWrite (w w' : World) : Prop :=
  GateWrite w w' ∧ (w.Open → w.gate = .running → w'.gate = .running)

/-- **Orders under a running gate.**  When nothing closes the gate between a cycle's check and its
order, the gate is running whenever an order is handed to the venue. -/
theorem submitted_while_running_of_calm {w₀ w : World} {order : OrderDecision}
    {clientOrderId : String} {next} (fresh : w₀.Fresh)
    (reached : Reach (cycles prims CalmWrite) (.running (.done ()), w₀)
      (.running (.call (.venue (.submitIoc order clientOrderId)) next), w)) :
    w.gate = .running := by
  have calm : Calm CalmWrite := fun _ _ writes => writes.2
  have meets : (cycles prims CalmWrite).Meets _ _ := cycles_meet (fun _ _ writes => writes.1.quiet)
    (fun _ _ w => w.gate = .running) fun _ _ _ _ running => running calm
  exact (meets.sound_between fresh.delivered trivial reached).pre

/-! ## A cycle that orders -/

def sampleManifest : ArenaManifestV1 where
  arenaId := sampleStarted.arenaId
  manifestVersion := 1
  mode := .hyperliquidTestnet
  startsAt := ⟨1767571200000000000, 0⟩
  endsAt := ⟨1767574800000000000, 0⟩
  eligibleModels := ["crow-qwen3-5-27b"]
  requiredClientVersion := "0.1.30"
  startingCapitalMicroUsdc := 1000000000
  riskRules := .default
  execution := { halfSpreadBps := 2, slippageBps := 3, takerFeeBps := 5 }
  ticket := { enabled := false, asset := "" }

def sampleCycle : LiveCycle where
  signingKey := sampleKey
  manifest := sampleManifest
  runId := sampleStarted.runId
  modelId := "crow-qwen3-5-27b"
  isolatedLeverage := 1
  strategyInstructions := ""
  executionAccount := "0x0000000000000000000000000000000000000042"
  books := []

def sampleRisk : LiveRiskState where
  tradingDay := sampleStarted.occurredAt.date
  tradingDayStartEquityMicroUsdc := 1000000000
  peakEquityMicroUsdc := 1000000000
  ordersToday := 0
  lastReconciliationMs := 1767571200000

def sampleAccount : AccountSnapshot where
  venueTimeMs := 1767571200000
  equityMicroUsdc := 1000000000
  withdrawableMicroUsdc := 1000000000
  positions := []

def sampleMarket : MarketSnapshot where
  market := sampleContext.market
  book := {
    symbol := "BTC"
    venueTimeMs := 1767571200000
    bids := []
    asks := [⟨"60000", "1", 1⟩, ⟨"60900", "1", 1⟩] }

def sampleOutcome : CycleOutcome where
  proposal := some sampleProposal
  decisionSummary := ""
  receipts := []
  toolResults := []

/-- A world in the middle of a run: up to `n` events and ids, and the shared state. -/
structure Rolling (shared : Shared) (n : Nat) (w : World) : Prop where
  tape : ∃ log : List Said, log.length ≤ n ∧ Tape countingPrimitives sampleStarted.runId log w
  drawn : w.drawn.length ≤ n + 2
  shared : w.toShared = shared

section Run

variable {quiet : ∀ w w', env w w' → KeepsRecord w w'} {shared shared' : Shared} {n : Nat}
  {w : World} {risk : LiveRiskState} {σ ε : Type} {locals : σ}

theorem Rolling.polled (rolling : Rolling shared n w) : w.relay = .session := by
  obtain ⟨log, -, tape⟩ := rolling.tape
  exact tape.polled

/-- A call whose answer changes nothing. -/
theorem Rolling.asks (rolling : Rolling shared n w) (op : Op) (answer : op.Res)
    (begins : World.Begins op w w) (polled : w.relay = .session → World.Polled op w)
    (answers : World.Answers countingPrimitives op w answer w) :
    (ask op : Act calls σ ε op.Res).Runs (World.system countingPrimitives env) locals w
      (.ok answer) locals w :=
  runs_ask op answer begins (polled rolling.polled) answers

theorem Rolling.asksVenue {convert : HyperliquidError → ε} (rolling : Rolling shared n w)
    (call : VenueCall) (value : call.Value) (begins : World.Begins (.venue call) w w)
    (unnoted : ∀ events, call.queries events (.ok value) = []) :
    (askVenue convert call : Act calls σ ε call.Value).Runs (World.system countingPrimitives env)
      locals w (.ok value) locals w := by
  refine Act.Runs.bind (rolling.asks (.venue call) (.ok value) begins (fun polled _ => polled) ?_)
    Act.Runs.pure
  change w = { w with queries := call.queries w.journal.rows.length (.ok value) ++ w.queries }
  rw [unnoted]
  rfl

/-- Notes change nothing about it. -/
theorem Rolling.of_notes (rolling : Rolling shared n w) {w' : World}
    (journal : w'.journal = w.journal) (offers : w'.offers = w.offers) (drawn : w'.drawn = w.drawn)
    (same : w'.toShared = w.toShared) : Rolling shared n w' := by
  obtain ⟨⟨log, short, tape⟩, few, shares⟩ := rolling
  have delivered : w'.Delivered countingPrimitives :=
    tape.delivered.of_rows_eq (congrArg _ journal) offers
      (by rw [drawn]; exact List.Subset.refl _)
  refine ⟨⟨log, short, delivered, ?_, ?_, ?_, ?_, ?_⟩, drawn ▸ few, same.trans shares⟩
  · rw [journal]
    exact tape.own
  · rw [journal]
    exact tape.acknowledged
  · rw [journal]
    exact tape.said
  · rw [drawn]
    exact tape.few
  · exact (congrArg Shared.relay same).trans tape.polled

/-- An event is appended while others turn the shared state into `shared'`. -/
theorem Rolling.appendsMeanwhile (quiet : ∀ w w', env w w' → KeepsRecord w w')
    (rolling : Rolling shared n w) (room : n < 15) (cycleId : Uuid) (eventType : String)
    (payload privatePayload : Json)
    (acts : ∀ r : Record, Relation.ReflTransGen env ⟨r, shared⟩ ⟨r, shared'⟩)
    (polled : shared'.relay = .session) :
    ∃ event w', (appendEvent countingPrimitives sampleCycle.writer (some cycleId) eventType payload
        privatePayload : Act calls σ _ _).Runs (World.system countingPrimitives env) locals w
        (.ok event) locals w' ∧ Rolling shared' (n + 1) w' := by
  obtain ⟨⟨log, short, tape⟩, drawn, same⟩ := rolling
  obtain ⟨event, w', runs, after⟩ := tape.runs_append sampleCycle.writer (some cycleId) eventType
    payload privatePayload quiet countingPrimitives_works (by omega) (by omega)
    (by rw [same]; exact acts) polled
  refine ⟨event, w', Act.Runs.mapError runs, ⟨_, ?_, after.tape⟩, ?_, after.shared⟩
  · rw [List.length_append, List.length_singleton]
    omega
  · rw [after.drawn]
    omega

/-- An event is appended. -/
theorem Rolling.appends (quiet : ∀ w w', env w w' → KeepsRecord w w')
    (rolling : Rolling shared n w) (room : n < 15) (cycleId : Uuid) (eventType : String)
    (payload privatePayload : Json) :
    ∃ event w', (appendEvent countingPrimitives sampleCycle.writer (some cycleId) eventType payload
        privatePayload : Act calls σ _ _).Runs (World.system countingPrimitives env) locals w
        (.ok event) locals w' ∧ Rolling shared (n + 1) w' :=
  rolling.appendsMeanwhile quiet room cycleId eventType payload privatePayload (fun _ => .refl)
    (rolling.shared ▸ rolling.polled)

/-- What the sample cycle sees. -/
def sampleEvidence : CycleEvidence where
  now := sampleStarted.occurredAt
  nowMs := 1767571200000
  account := sampleAccount
  snapshots := []
  portfolios := []
  candles := .null

theorem Rolling.refreshes (rolling : Rolling shared n w) :
    ∃ w', (sampleCycle.refreshAccount sampleRisk.tradingDay).Runs
      (World.system countingPrimitives env) sampleRisk w (.ok sampleAccount) sampleRisk w' ∧
        Rolling shared n w' := by
  refine ⟨{ w with observed := ⟨sampleCycle.runId, sampleRisk.tradingDay,
    sampleAccount.equityMicroUsdc⟩ :: w.observed }, ?_, rolling.of_notes rfl rfl rfl rfl⟩
  refine Act.Runs.bind (rolling.asksVenue (.accountSnapshot _) sampleAccount rfl fun _ => rfl) ?_
  refine Act.Runs.bind (Act.Runs.ofExcept (by rfl)) (Act.Runs.bind Prog.Runs.done ?_)
  exact Act.Runs.bind (runs_ask (.observes _ _ _) () rfl nofun rfl) Act.Runs.pure

theorem Rolling.observes (rolling : Rolling shared n w) :
    ∃ w', (sampleCycle.observe sampleEvidence.now).Runs (World.system countingPrimitives env)
      sampleRisk w (.ok sampleEvidence) sampleRisk w' ∧ Rolling shared n w' := by
  obtain ⟨w', refreshes, rolling'⟩ := rolling.refreshes
  refine ⟨w', Act.Runs.bind (Act.Runs.ofExcept (by rfl)) (Act.Runs.bind refreshes ?_), rolling'⟩
  refine Act.Runs.bind (rolling'.asksVenue (.marketSnapshots _ _) [] rfl fun _ => rfl) ?_
  refine Act.Runs.bind Prog.Runs.done (Act.Runs.bind Act.Runs.pure ?_)
  exact Act.Runs.bind (rolling'.asksVenue (.recentCandles _ _) .null rfl fun _ => rfl) Act.Runs.pure

theorem Rolling.recordsEvidence (cycleId : Uuid) (quiet : ∀ w w', env w w' → KeepsRecord w w')
    (rolling : Rolling shared n w) (room : n < 12) :
    ∃ w', (sampleCycle.recordEvidence countingPrimitives cycleId sampleEvidence).Runs
      (World.system countingPrimitives env) sampleRisk w (.ok ()) sampleRisk w' ∧
        Rolling shared (n + 4) w' := by
  obtain ⟨_, _, runs₁, rolling₁⟩ := rolling.appends quiet (by omega) cycleId "cycle_started" _ _
  obtain ⟨_, _, runs₂, rolling₂⟩ := rolling₁.appends quiet (by omega) cycleId "book_snapshot" _ _
  obtain ⟨_, _, runs₃, rolling₃⟩ := rolling₂.appends quiet (by omega) cycleId "candle_closed" _ _
  obtain ⟨_, w₄, runs₄, rolling₄⟩ :=
    rolling₃.appends quiet (by omega) cycleId "portfolio_snapshot" _ _
  exact ⟨w₄, Act.Runs.bind runs₁ (Act.Runs.bind runs₂ (Act.Runs.bind runs₃
    (Act.Runs.bind runs₄ Act.Runs.pure))), rolling₄⟩

theorem Rolling.asksModel (cycleId : Uuid) (quiet : ∀ w w', env w w' → KeepsRecord w w')
    (rolling : Rolling shared n w) (room : n < 15) :
    ∃ w', (sampleCycle.askModel countingPrimitives cycleId sampleEvidence).Runs
      (World.system countingPrimitives env) sampleRisk w (.ok sampleOutcome) sampleRisk w' ∧
        Rolling shared (n + 1) w' := by
  obtain ⟨_, w', runs, rolling'⟩ := rolling.appends quiet room cycleId "proposal" _ _
  refine ⟨w', Act.Runs.bind Prog.Runs.done ?_, rolling'⟩
  refine Act.Runs.bind (rolling.asks (.executeCycle _) (.ok sampleOutcome) rfl
    (fun polled _ => polled) rfl) ?_
  exact Act.Runs.bind Act.Runs.pure (Act.Runs.bind runs Act.Runs.pure)

theorem unixMilliseconds_sample :
    unixMilliseconds sampleStarted.occurredAt = .ok 1767571200000 := by rfl

theorem marketableProposal_sample :
    marketableProposal sampleProposal [("BTC", sampleMarket)] = .ok sampleProposal := by
  decide

theorem opposingTopPrice_sample :
    sampleMarket.book.opposingTopPriceMicroUsdc .buy = .ok 60000000000 := by
  decide

theorem startingCapital_sample : sampleCycle.startingCapital = .ok 1000000000 := by rfl

/-- The policy approves the sample order on fresh evidence. -/
theorem Rolling.evaluates (cycleId : Uuid) (quiet : ∀ w w', env w w' → KeepsRecord w w')
    (rolling : Rolling shared n w) (room : n < 15)
    (clock : shared.clock = sampleStarted.occurredAt) :
    ∃ w', (sampleCycle.evaluate countingPrimitives cycleId sampleEvidence.now sampleProposal).Runs
      (World.system countingPrimitives env) sampleRisk w (.ok (.ok sampleOrder)) sampleRisk w' ∧
        Rolling shared (n + 1) w' := by
  obtain ⟨w₁, refreshes, rolling₁⟩ := rolling.refreshes
  obtain ⟨_, w', runs, rolling'⟩ := rolling₁.appends quiet room cycleId "book_snapshot" _ _
  have reads : unixMilliseconds w₁.clock = .ok 1767571200000 := by
    rw [rolling₁.shared, clock]
    exact unixMilliseconds_sample
  have approved : (ofExec id (evaluateProposal sampleProposal sampleContext) :
      Act calls LiveRiskState PolicyError OrderDecision).Runs (World.system countingPrimitives env)
      sampleRisk w' (.ok sampleOrder) sampleRisk w' := by
    rw [evaluateProposal_sample]
    exact Act.Runs.pure
  refine ⟨w', Act.Runs.bind refreshes ?_, rolling'⟩
  refine Act.Runs.bind (rolling₁.asks .nowUtc w₁.clock rfl nofun rfl) ?_
  refine Act.Runs.bind (Act.Runs.ofExcept reads) ?_
  refine Act.Runs.bind (rolling₁.asksVenue (.freshMarketSnapshot _ _) sampleMarket rfl
    fun _ => rfl) ?_
  refine Act.Runs.bind runs (Act.Runs.bind (Act.Runs.ofExcept marketableProposal_sample) ?_)
  refine Act.Runs.bind Prog.Runs.done (Act.Runs.bind Act.Runs.pure ?_)
  refine Act.Runs.bind (Act.Runs.ofExcept startingCapital_sample) ?_
  refine Act.Runs.bind (Act.Runs.ofExcept opposingTopPrice_sample) ?_
  refine Act.Runs.bind (rolling'.asks (.judges _ _) () rfl nofun rfl) ?_
  exact Act.Runs.attempt approved

theorem Rolling.notes (rolling : Rolling shared n w) (mark : Mark) :
    Rolling shared n (w.note mark) := rolling.of_notes rfl rfl rfl rfl

/-- An id is drawn. -/
theorem Rolling.draws (rolling : Rolling shared n w) (room : n < 15) :
    ∃ id w', (ask .newV4 : Act calls σ ε Uuid).Runs (World.system countingPrimitives env) locals w
      (.ok id) locals w' ∧ Rolling shared (n + 1) w' := by
  obtain ⟨⟨log, short, tape⟩, drawn, same⟩ := rolling
  obtain ⟨id, new⟩ : ∃ id : Uuid, id ∉ w.drawn := exists_fresh_id (by omega)
  have delivered : { w with drawn := id :: w.drawn }.Delivered countingPrimitives :=
    tape.delivered.of_rows_eq rfl rfl (List.subset_cons_self ..)
  refine ⟨id, { w with drawn := id :: w.drawn }, runs_ask .newV4 id rfl nofun ⟨new, rfl⟩,
    ⟨log, by omega, delivered, tape.own, tape.acknowledged, tape.said, ?_, tape.polled⟩, ?_, same⟩
  · have few := tape.few
    simp only [List.length_cons]
    omega
  · simp only [List.length_cons]
    omega

theorem liveRiskStateKey_ne_empty (runId : Uuid) : liveRiskStateKey runId ≠ "" := by
  intro empty
  have length := congrArg String.length empty
  rw [liveRiskStateKey, String.length_append] at length
  have prefixLength : "live-risk-state-".length = 16 := by decide
  have none : "".length = 0 := by decide
  omega

/-- The order is recorded and about to be handed to the venue, others having turned the shared state
into `shared'` as the sink was waited for. -/
theorem Rolling.dispatches (cycleId : Uuid) (quiet : ∀ w w', env w w' → KeepsRecord w w')
    (rolling : Rolling shared n w) (room : n < 12)
    (acts : ∀ r : Record, Relation.ReflTransGen env ⟨r, shared⟩ ⟨r, shared'⟩)
    (polled : shared'.relay = .session) :
    ∃ clientOrderId w', (sampleCycle.dispatch countingPrimitives cycleId sampleOrder).LeadsTo
      (World.system countingPrimitives env) sampleRisk w
      (.venue (.submitIoc sampleOrder clientOrderId)) w' ∧ w'.toShared = shared' := by
  obtain ⟨_, w₁, runs₁, rolling₁⟩ := rolling.appends quiet (by omega) cycleId "policy_outcome" _ _
  obtain ⟨id, w₂, runs₂, rolling₂⟩ := rolling₁.draws (by omega)
  obtain ⟨_, w₃, runs₃, rolling₃⟩ := rolling₂.appendsMeanwhile quiet (by omega) cycleId
    "order_submitted" _ _ acts polled
  obtain ⟨w₄, stored, same⟩ : ∃ w₄, (storeRisk countingPrimitives sampleCycle.runId).Runs
      (World.system countingPrimitives env) sampleRisk.countOrder w₃ (.ok ()) sampleRisk.countOrder
      w₄ ∧ w₄.toShared = w₃.toShared :=
    ⟨_, Act.Runs.bind Prog.Runs.done
      (Act.Runs.mapError (runs_putSecret (liveRiskStateKey_ne_empty _))), rfl⟩
  refine ⟨id.simple, w₄, ?_, same.trans rolling₃.shared⟩
  refine Act.Runs.leadsTo runs₁ (Act.Runs.leadsTo runs₂ (Act.Runs.leadsTo runs₃ ?_))
  exact Act.Runs.leadsTo Prog.Runs.done (Act.Runs.leadsTo stored
    (Act.LeadsTo.bind Act.LeadsTo.perform))

/-- **A cycle that orders.**  The sample cycle can hand its order to the venue, others having turned
the shared state into `shared'` as the sink was waited for. -/
theorem Rolling.orders (quiet : ∀ w w', env w w' → KeepsRecord w w')
    (rolling : Rolling shared 0 w) (clock : shared.clock = sampleStarted.occurredAt)
    (running : shared.gate = .running)
    (acts : ∀ r : Record, Relation.ReflTransGen env ⟨r, shared⟩ ⟨r, shared'⟩)
    (polled : shared'.relay = .session) :
    ∃ clientOrderId w', ((executeLiveCycle countingPrimitives sampleCycle).discard
      sampleRisk).LeadsTo (World.system countingPrimitives env) w
      (.venue (.submitIoc sampleOrder clientOrderId)) w' ∧ w'.toShared = shared' := by
  obtain ⟨cycleId, w₁, runs₁, rolling₁⟩ := rolling.draws (by omega)
  have reads : w₁.clock = sampleEvidence.now := by
    rw [rolling₁.shared, clock]
    rfl
  have rolling₂ := rolling₁.notes (.cycle sampleCycle.runId cycleId sampleEvidence.now.date)
  obtain ⟨w₀, observes, rolling₀⟩ := rolling₂.observes
  obtain ⟨w₃, runs₃, rolling₃⟩ := rolling₀.recordsEvidence cycleId quiet (by omega)
  obtain ⟨w₄, runs₄, rolling₄⟩ := rolling₃.asksModel cycleId quiet (by omega)
  obtain ⟨w₅, runs₅, rolling₅⟩ := rolling₄.evaluates cycleId quiet (by omega) clock
  have rolling₆ := rolling₅.notes (.permitted true)
  have isOpen : w₅.gate = .running := by rw [rolling₅.shared, running]
  obtain ⟨clientOrderId, w', leads, same⟩ := rolling₆.dispatches cycleId quiet
    (by omega) acts polled
  have permitted : (ask .orderPermitted : Act calls LiveRiskState LiveCycleError Bool).Runs
      (World.system countingPrimitives env) sampleRisk w₅ (.ok true) sampleRisk
      (w₅.note (.permitted true)) :=
    runs_ask .orderPermitted true rfl nofun ⟨(decide_eq_true isOpen).symm, rfl⟩
  refine ⟨clientOrderId, w', Prog.LeadsTo.bind (Act.Runs.leadsTo runs₁ ?_), same⟩
  refine Act.Runs.leadsTo (rolling₁.asks .nowUtc w₁.clock rfl nofun rfl) ?_
  rw [reads]
  refine Act.Runs.leadsTo (runs_ask (.cycleStarts _ _ _) () rfl nofun rfl) ?_
  refine Act.LeadsTo.bind (Act.LeadsTo.attempt (Act.Runs.leadsTo observes ?_))
  refine Act.Runs.leadsTo runs₃ (Act.Runs.leadsTo runs₄ (Act.Runs.leadsTo runs₅ ?_))
  exact Act.Runs.leadsTo permitted (Act.LeadsTo.bind leads)

end Run

/-- The world before a cycle, with a running gate. -/
def openWorld : World := { sampleWorld with gate := .running }

theorem openWorld_fresh : openWorld.Fresh := ⟨rfl, rfl⟩

theorem rolling_openWorld : Rolling openWorld.toShared 0 openWorld :=
  ⟨⟨[], Nat.le_refl 0, openWorld_fresh.delivered, nofun, nofun, rfl, Nat.le_refl 0, rfl⟩,
    by decide, rfl⟩

/-- The machine can take the sample cycle up to its order. -/
theorem reach_order (env : World → World → Prop) {shared : Shared}
    (quiet : ∀ w w', env w w' → KeepsRecord w w')
    (acts : ∀ r : Record, Relation.ReflTransGen env ⟨r, openWorld.toShared⟩ ⟨r, shared⟩)
    (polled : shared.relay = .session) :
    ∃ clientOrderId next w, Reach (cycles countingPrimitives env) (.running (.done ()), openWorld)
      (.running (.call (.venue (.submitIoc sampleOrder clientOrderId)) next), w) ∧
        w.toShared = shared := by
  obtain ⟨clientOrderId, w, leads, same⟩ := rolling_openWorld.orders quiet rfl rfl acts polled
  obtain ⟨next, reached⟩ := leads.reach (cycles countingPrimitives env)
  have first : Step (cycles countingPrimitives env) (.running (.done ()), openWorld) _ :=
    .again (.cycle sampleCycle sampleRisk)
  exact ⟨clientOrderId, next, w, (Relation.ReflTransGen.single first).trans reached, same⟩

/-- The sample order is handed to the venue under a running gate when nobody touches it. -/
theorem sample_submitted_while_running :
    ∃ clientOrderId next w, Reach (cycles countingPrimitives CalmWrite)
      (.running (.done ()), openWorld)
      (.running (.call (.venue (.submitIoc sampleOrder clientOrderId)) next), w) ∧
        w.gate = .running := by
  obtain ⟨clientOrderId, next, w, reached, -⟩ :=
    reach_order CalmWrite (fun _ _ writes => writes.1.quiet) (fun _ => .refl) rfl
  exact ⟨clientOrderId, next, w, reached,
    submitted_while_running_of_calm openWorld_fresh reached⟩

/-- **A pause that comes too late.**  It is accepted while the event of the order is on its way to
the sink, and the order is handed to the venue under a paused gate. -/
theorem submits_after_pause :
    ∃ clientOrderId next w, Reach (cycles countingPrimitives GateWrite)
      (.running (.done ()), openWorld)
      (.running (.call (.venue (.submitIoc sampleOrder clientOrderId)) next), w) ∧
        w.gate = .paused := by
  have pause : ∀ r : Record, Relation.ReflTransGen GateWrite ⟨r, openWorld.toShared⟩
      ⟨r, { openWorld.toShared with gate := .paused }⟩ := fun r =>
    .single (.apply .pause ⟨r, openWorld.toShared⟩)
  obtain ⟨clientOrderId, next, w, reached, same⟩ :=
    reach_order GateWrite (fun _ _ writes => writes.quiet) pause rfl
  exact ⟨clientOrderId, next, w, reached, by rw [same]⟩

end CrowAgent
