import CrowAgent.Daemon.Charting
import CrowAgent.Daemon.SessionRuns

/-!
# The chains keep to their grammar

The programs of a session keep to the grammar of a chain as a cycle does, so the grammar accepts every
chain whatever fails and wherever a process ends (`chains_accepted`), the loop of a session counts the
cycles of its chain (`completedCycles_eq`), and an order stands between its approval and what the venue
made of it (`orders_framed`).
-/

namespace CrowAgent

open Coroutine

variable {prims : Primitives} {config : DaemonConfig} {w : World} {runId : Uuid} {state : ChainState}

/-! ## A session -/

section Sessions

variable {cycles : List Uuid} {n : Nat}

/-- The events of a type in a chain. -/
theorem World.eventCount_eq {eventType : String} :
    w.journal.eventCount runId eventType =
      ((w.chainOf runId).filter (·.eventType = eventType)).length := by
  change w.journal.eventCount runId eventType = ((envelopes (w.journal.rows.filter
    (·.runId = runId.hyphenated))).filter (·.eventType = eventType)).length
  unfold EncryptedJournal.eventCount
  induction w.journal.rows with
  | nil => rfl
  | cons row rows ih =>
    by_cases own : row.runId = runId.hyphenated
    · cases envelope : row.publicEnvelope with
      | none => simp [envelopes, own, envelope, ih]
      | some event =>
        by_cases type : event.eventType = eventType
        · simp [envelopes, own, envelope, type, ih]
        · simp [envelopes, own, envelope, type, ih]
    · simp [own, ih]

/-- The events that begin a cycle are the started and the missed ones. -/
theorem length_beginsCycle {chain : List RunEventEnvelopeV1} :
    (chain.filter (·.beginsCycle)).length =
      (chain.filter (·.eventType = "cycle_started")).length +
        (chain.filter (·.eventType = "missed_cycle")).length := by
  unfold RunEventEnvelopeV1.beginsCycle
  induction chain with
  | nil => rfl
  | cons event chain ih =>
    by_cases started : event.eventType = "cycle_started"
    · simp [started, ih]
      omega
    · by_cases missed : event.eventType = "missed_cycle"
      · simp [missed, ih]
        omega
      · simp [started, missed, ih]

/-- The tables count the cycles of a chain. -/
theorem World.At.count (there : w.At runId state) :
    w.journal.eventCount runId "cycle_started" + w.journal.eventCount runId "missed_cycle" =
      state.cycles.length := by
  have ids := congrArg List.length (chainGrammar_cycles there.read).2
  rw [List.length_map, List.length_reverse, List.length_map, length_beginsCycle] at ids
  rw [World.eventCount_eq, World.eventCount_eq]
  exact ids

/-- The chain has begun, and has so many cycles. -/
def World.Begun (runId : Uuid) (w : World) : Prop :=
  ∃ state, w.At runId state ∧ state.step ≠ .empty

/-- An event of a session. -/
theorem wp_sessionAppend {eventType : String} {payload : Json} {step : ChainStep}
    (charted : w.Charted) (there : w.At runId state) (steps : state.step.next eventType = some step) :
    (appendSessionEvent prims config runId eventType payload).wp (charting prims config)
      (fun _ _ w => w.At runId { state with step }) (fun _ _ _ => True) () w := by
  have append : ((config.writer runId).append prims none eventType payload .null :
      Act calls Unit _ _).wp (charting prims config)
      (fun _ _ w => w.At runId { state with step }) (fun _ _ _ => True) () w := by
    refine wp_appendTo charted there (fun event writes => ?_) there.drawn
    exact ChainState.next_of_session writes.cycleId (writes.eventType ▸ steps)
  refine Act.wp_bind.mpr (Act.wp_mapError.mpr (Act.wp_mono charted append ?_ fun _ _ _ _ => id))
  exact fun _ _ _ _ there => Act.wp_pure.mpr there

/-- A chain without a head is empty, and one with a head is not. -/
theorem World.Charted.begun_of_latest (charted : w.Charted) {latest : Option (UInt64 × String)}
    (head : w.journal.latestEventState runId = .ok latest) :
    (latest = none ∧ w.At runId ⟨.empty, []⟩) ∨ latest ≠ none ∧ w.Begun runId := by
  unfold EncryptedJournal.latestEventState EncryptedJournal.latestRow EncryptedJournal.runRows at head
  rcases charted.chains runId with ⟨state, there⟩
  have chain : w.chainOf runId = (w.journal.rows.filter (·.runId = runId.hyphenated)).filterMap
    (·.publicEnvelope) := rfl
  split at head
  · rename_i empty
    have none : w.journal.rows.filter (·.runId = runId.hyphenated) = [] := by
      have length := congrArg List.length (List.getLast?_eq_none_iff.mp empty)
      rw [List.length_insertionSort] at length
      exact List.eq_nil_of_length_eq_zero length
    have read := there.read
    rw [chain, none] at read
    obtain rfl := Option.some.inj read
    exact .inl ⟨(Except.ok.inj head).symm, there⟩
  · rename_i row last
    refine .inr ⟨?_, state, there, chainGrammar_nonempty there.read ?_⟩
    · rintro rfl
      cases stored : EncryptedJournal.storedSequence row.sequence with
      | ok sequence =>
        rw [stored] at head
        cases head
      | error error =>
        rw [stored] at head
        cases head
    · intro empty
      have mem := (List.mem_insertionSort _).mp (List.mem_of_getLast? last)
      have some := charted.legible row (List.mem_filter.mp mem).1
      rcases Option.isSome_iff_exists.mp some with ⟨event, isEvent⟩
      have inChain : event ∈ w.chainOf runId := chain ▸ List.mem_filterMap.mpr ⟨row, mem, isEvent⟩
      rw [empty] at inChain
      cases inChain

/-- The first events of a chain. -/
theorem charts_initializeEventChain (charted : w.Charted) :
    (initializeEventChain prims config runId).wp (charting prims config)
      (fun _ _ => World.Begun runId) (fun _ _ _ => True) () w := by
  have allowed : World.Fits (.journal (.latestEventState runId)) w := by
    intro event privatePayload same
    cases same
  refine Act.wp_bind.mpr (charting_ofWorld.wp_readJournal (fun _ => rfl) allowed charted ?_
    fun _ => trivial)
  intro latest head
  rcases charted.begun_of_latest head with ⟨rfl, there⟩ | ⟨some, begun⟩
  · refine Act.wp_bind.mpr (Act.wp_mono charted (wp_sessionAppend charted there rfl) ?_
      fun _ _ _ _ => id)
    intro _ _ w₁ charted₁ there₁
    have paused : ∀ {w : World} {step : ChainStep}, w.Charted → w.At runId ⟨step, []⟩ →
        step.next "run_paused" = Option.some .closed →
        (appendSessionEvent prims config runId "run_paused"
          (.ofFields [("reason", .string "awaiting_explicit_resume")])).wp (charting prims config)
          (fun _ _ => World.Begun runId) (fun _ _ _ => True) () w := by
      intro w step charted there steps
      refine Act.wp_mono charted (wp_sessionAppend charted there steps) ?_ fun _ _ _ _ => id
      exact fun _ _ _ _ there => ⟨_, there, ChainStep.noConfusion⟩
    unfold appendHandoff
    cases config.liveArena.handoffSnapshot with
    | none => exact Act.wp_bind.mpr (Act.wp_pure.mpr (paused charted₁ there₁ rfl))
    | some snapshot =>
      refine Act.wp_bind.mpr (Act.wp_mono charted₁ (wp_sessionAppend charted₁ there₁ rfl) ?_
        fun _ _ _ _ => id)
      exact fun _ _ w₂ charted₂ there₂ => paused charted₂ there₂ rfl
  · cases latest with
    | none => exact absurd rfl some
    | some head =>
      have flushes : ((config.writer runId).flushPending : Act calls Unit _ _).Only
          (Op.Within silentEffects) :=
        DurableRunEventWriter.only_flushPending.mono fun _ => Op.IsPlain.within
      rcases begun with ⟨state, there, notEmpty⟩
      refine Act.wp_bind.mpr (Act.wp_mapError.mpr (Act.wp_mono charted
        (wp_rest flushes charted there) ?_ fun _ _ _ _ _ => trivial))
      exact fun _ _ _ _ there => Act.wp_pure.mpr ⟨state, there, notEmpty⟩

/-- The cycles that the chain already has are counted. -/
theorem charts_countCycles {expectedCycles : Nat} (charted : w.Charted) (begun : w.Begun runId) :
    (countCycles runId expectedCycles).wp (charting prims config)
      (fun completed _ w => ∃ state, w.At runId state ∧ state.step ≠ .empty ∧
        state.cycles.length = completed) (fun _ _ _ => True) () w := by
  rcases begun with ⟨state, there, notEmpty⟩
  have allowed : ∀ eventType, World.Fits (.journal (.eventCount runId eventType)) w := by
    intro eventType event privatePayload same
    cases same
  refine Act.wp_bind.mpr (charting_ofWorld.wp_readJournal (fun _ => rfl) (allowed _) charted ?_
    fun _ => trivial)
  intro started countStarted
  refine Act.wp_bind.mpr (charting_ofWorld.wp_readJournal (fun _ => rfl) (allowed _) charted ?_
    fun _ => trivial)
  intro missed countMissed
  obtain rfl := Except.ok.inj countStarted
  obtain rfl := Except.ok.inj countMissed
  refine Act.wp_bind.mpr (Act.wp_rejectIf.mpr ?_)
  split
  · trivial
  refine Act.wp_bind.mpr (Act.wp_rejectIf.mpr ?_)
  split
  · trivial
  exact Act.wp_pure.mpr ⟨state, there, notEmpty, there.count.symm⟩

/-- A reconciliation can begin after any event. -/
theorem ChainStep.next_fill {step : ChainStep} (notEmpty : step ≠ .empty) :
    step.next "fill" = some .fills := by
  cases step with
  | empty => exact absurd rfl notEmpty
  | _ => rfl

/-- A reconciliation makes its chain ready. -/
theorem charts_reconcileLiveState {session : SessionAccount} {risk : LiveRiskState}
    (charted : w.Charted) (there : w.At session.runId state) (notEmpty : state.step ≠ .empty) :
    (reconcileLiveState prims session).wp (charting prims config)
      (fun _ _ w => w.At session.runId { state with step := .ready }) (fun _ _ _ => True) risk w := by
  have rests : ∀ {α : Type} {x : Act calls LiveRiskState LiveCycleError α} {risk : LiveRiskState}
      {w : World}, x.Only (Op.Within silentEffects) → w.Charted → w.At session.runId state →
        x.wp (charting prims config) (fun _ _ w => w.At session.runId state) (fun _ _ _ => True) risk
          w := fun only charted there => Act.wp_mono charted (wp_rest only charted there)
    (fun _ _ _ _ => id) fun _ _ _ _ _ => trivial
  have appends : ∀ {eventType payload risk w} {before after : ChainStep}, w.Charted →
      w.At session.runId { state with step := before } → before.next eventType = some after →
        (appendEvent prims session.writer none eventType payload .null :
          Act calls LiveRiskState LiveCycleError _).wp (charting prims config)
          (fun _ _ w => w.At session.runId { state with step := after }) (fun _ _ _ => True) risk
          w := by
    intro eventType payload risk w before after charted there steps
    have append : (appendEvent prims session.writer none eventType payload .null :
        Act calls LiveRiskState LiveCycleError _).wp (charting prims config)
        (fun _ _ w => w.At session.runId { state with step := after }) Fatal risk w := by
      refine wp_appendEventTo charted there (fun event writes => ?_) there.drawn
      exact ChainState.next_of_session writes.cycleId (writes.eventType ▸ steps)
    exact Act.wp_mono charted append (fun _ _ _ _ => id) fun _ _ _ _ _ => trivial
  refine Act.wp_bind.mpr (Act.wp_mono charted (rests (only_ask (by trivial)) charted there) ?_
    fun _ _ _ _ => id)
  intro readAt _ w₁ charted₁ there₁
  refine Act.wp_bind.mpr (Act.wp_mono charted₁ (rests .ofExcept charted₁ there₁) ?_ fun _ _ _ _ => id)
  intro reconcileAt _ w₂ charted₂ there₂
  refine Act.wp_bind.mpr (Act.wp_get.mpr (Act.wp_bind.mpr (Act.wp_mono charted₂ (rests
    (only_askVenue (by exact ⟨session.runId, trivial⟩)) charted₂ there₂) ?_ fun _ _ _ _ => id)))
  intro fills _ w₃ charted₃ there₃
  refine Act.wp_bind.mpr (Act.wp_mono charted₃ (rests
    (only_askVenue (by exact ⟨session.runId, trivial⟩)) charted₃ there₃) ?_ fun _ _ _ _ => id)
  intro funding _ w₄ charted₄ there₄
  refine Act.wp_bind.mpr (Act.wp_mono charted₄ (rests (only_askVenue (by trivial)) charted₄ there₄) ?_
    fun _ _ _ _ => id)
  intro account _ w₅ charted₅ there₅
  refine Act.wp_bind.mpr (Act.wp_mono charted₅ (rests .ofExcept charted₅ there₅) ?_ fun _ _ _ _ => id)
  intro _ _ w₆ charted₆ there₆
  refine Act.wp_bind.mpr (Act.wp_modify.mpr (Act.wp_bind.mpr (Act.wp_mono charted₆ (rests
    (only_ask (by trivial)) charted₆ there₆) ?_ fun _ _ _ _ => id)))
  intro today _ w₇ charted₇ there₇
  refine Act.wp_bind.mpr (Act.wp_modify.mpr (Act.wp_bind.mpr (Act.wp_mono charted₇ (rests
    (only_ask (by trivial)) charted₇ there₇) ?_ fun _ _ _ _ => id)))
  intro _ _ w₈ charted₈ there₈
  refine Act.wp_bind.mpr (Act.wp_mono charted₈ (appends charted₈ there₈
    (ChainStep.next_fill notEmpty)) ?_ fun _ _ _ _ => id)
  intro _ _ w₉ charted₉ there₉
  refine Act.wp_bind.mpr (Act.wp_mono charted₉ (appends charted₉ there₉ rfl) ?_ fun _ _ _ _ => id)
  intro _ _ w₁₀ charted₁₀ there₁₀
  refine Act.wp_bind.mpr (Act.wp_mono charted₁₀ (appends charted₁₀ there₁₀ rfl) ?_ fun _ _ _ _ => id)
  intro _ _ w₁₁ charted₁₁ there₁₁
  refine Act.wp_bind.mpr (Act.wp_mono charted₁₁ (appends charted₁₁ there₁₁ rfl) ?_ fun _ _ _ _ => id)
  intro _ _ w₁₂ charted₁₂ there₁₂
  refine Act.wp_bind.mpr (Act.wp_mono charted₁₂ (wp_rest only_storeRisk charted₁₂ there₁₂) ?_
    fun _ _ _ _ _ => trivial)
  exact fun _ _ _ _ there₁₃ => Act.wp_pure.mpr there₁₃

/-- A missed cycle is one more. -/
theorem charts_appendMissedCycle {scheduledAt : OffsetDateTime} {reason : String}
    (charted : w.Charted) (completed : w.Completed runId n) :
    (appendMissedCycle prims config runId scheduledAt reason).wp (charting prims config)
      (fun _ _ => World.Completed runId (n + 1)) (fun _ _ _ => True) () w := by
  rcases completed with ⟨cycles, there, rfl⟩
  refine Act.wp_bind.mpr (Act.wp_mono charted (wp_draw charted there) ?_ fun _ _ _ _ => False.elim)
  intro cycleId _ w₁ charted₁ drew₁
  have append : ∀ payload, ((config.writer runId).append prims (some cycleId) "missed_cycle" payload
      .null : Act calls Unit _ _).wp (charting prims config)
      (fun _ _ w => w.At runId ⟨.ready, cycleId :: cycles⟩) (fun _ _ _ => True) () w₁ := by
    intro payload
    refine wp_appendTo charted₁ drew₁.toAt (fun event writes => ?_) ?_
    · exact ChainState.next_of_missed writes.cycleId rfl drew₁.isNew writes.eventType
    · exact List.cons_subset.mpr ⟨drew₁.mem, drew₁.drawn⟩
  refine Act.wp_bind.mpr (Act.wp_mapError.mpr (Act.wp_mono charted₁ (append _) ?_ fun _ _ _ _ => id))
  exact fun _ _ _ _ there => Act.wp_pure.mpr ⟨_, there, rfl⟩

theorem charts_appendMissedCycles {decisionCooldownSeconds : UInt32} {count completedCycles : Nat}
    (charted : w.Charted) (completed : w.Completed runId n) :
    (appendMissedCycles prims config runId decisionCooldownSeconds count completedCycles).wp
      (charting prims config) (fun _ _ => World.Completed runId (n + count)) (fun _ _ _ => True) ()
      w := by
  induction count generalizing n w completedCycles with
  | zero => exact Act.wp_pure.mpr completed
  | succ count ih =>
    refine Act.wp_bind.mpr (Act.wp_ofExcept.mpr ?_)
    split
    · refine Act.wp_bind.mpr (Act.wp_mono charted (charts_appendMissedCycle charted completed) ?_
        fun _ _ _ _ => id)
      intro _ _ w₁ charted₁ completed₁
      refine Act.wp_mono charted₁ (ih charted₁ completed₁) ?_ fun _ _ _ _ => id
      intro _ _ w₂ _ completed₂
      rw [Nat.add_assoc, Nat.add_comm 1] at completed₂
      exact completed₂
    · trivial

/-- A session goes on with as many cycles as its chain has. -/
theorem charts_reconcileSession {now : OffsetDateTime} {terms : SessionTerms} (charted : w.Charted)
    (begun : w.Begun runId) :
    (reconcileSession prims config now runId terms).wp (charting prims config)
      (fun result _ => World.Completed runId result.1) (fun _ _ _ => True) () w := by
  refine Act.wp_bind.mpr (Act.wp_mono charted (charts_countCycles charted begun) ?_
    fun _ _ _ _ => id)
  intro completedCycles _ w₁ charted₁ counted
  rcases counted with ⟨state, there₁, notEmpty, rfl⟩
  refine Act.wp_bind.mpr (Act.wp_mono charted₁ (wp_rest (only_sessionRisk trivial trivial) charted₁
    there₁) ?_ fun _ _ _ _ _ => trivial)
  intro risk _ w₂ charted₂ there₂
  have reconciles : (Act.within risk ((reconcileLiveState prims {
      signingKey := config.signingKey
      arenaId := config.arenaId
      runId
      executionAccount := config.liveArena.executionAccount
      isolatedLeverage := terms.isolatedLeverage }).mapError reconciliationError) :
        Act calls Unit LiveRunError _).wp (charting prims config)
          (fun _ _ w => w.At runId { state with step := .ready }) (fun _ _ _ => True) () w₂ :=
    Act.wp_within.mpr (Act.wp_mapError.mpr (charts_reconcileLiveState charted₂ there₂ notEmpty))
  refine Act.wp_bind.mpr (Act.wp_mono charted₂ reconciles ?_ fun _ _ _ _ => id)
  intro reconciled _ w₃ charted₃ there₃
  have completed₃ : w₃.Completed runId state.cycles.length := ⟨_, there₃, rfl⟩
  refine Act.wp_bind.mpr (Act.wp_mono charted₃ (wp_askRest (by trivial)
    (fun rests => rests.completed) charted₃ completed₃) ?_ fun _ _ _ _ => False.elim)
  intro reconciledAt _ w₄ charted₄ completed₄
  refine Act.wp_bind.mpr (Act.wp_ofExcept.mpr ?_)
  split
  · rename_i dueCycles _
    refine Act.wp_bind.mpr (Act.wp_mono charted₄ (charts_appendMissedCycles charted₄ completed₄) ?_
      fun _ _ _ _ => id)
    intro _ _ w₅ _ completed₅
    have total : state.cycles.length + (dueCycles - state.cycles.length) =
        max state.cycles.length dueCycles := by omega
    rw [total] at completed₅
    exact Act.wp_pure.mpr completed₅
  · trivial

/-- The programs of a session keep to the grammar. -/
theorem charting_rule :
    LoopRule prims config (charting prims config) World.Begun World.Completed where
  idles := charting_preserves fun _ => id
  keeps := charting_preserves fun rests => rests.completed
  begins := charts_initializeEventChain
  reconciles := charts_reconcileSession
  records := by
    intro runId n eventType payload w mem charted completed
    rcases completed with ⟨cycles, there, count⟩
    have steps : ChainStep.ready.next eventType = some .ready := if_pos mem
    refine Act.wp_mono charted (wp_sessionAppend charted there steps) ?_ fun _ _ _ _ => id
    exact fun _ _ _ _ there => ⟨cycles, there, count⟩
  misses := charts_appendMissedCycle
  cycles := charts_executeLiveCycle
  stops := by
    intro runId n source w charted completed
    rcases completed with ⟨cycles, there, -⟩
    refine Act.wp_mono charted (wp_sessionAppend charted there rfl) ?_ fun _ _ _ _ => id
    exact fun _ _ _ _ _ => trivial

theorem charting_meets :
    (daemon prims config anything).Meets (charting prims config)
      (LoopRule.Between World.Completed) where
  system := rfl
  again := fun charted between next => charting_rule.again charting_ofWorld charted between next
  crash := by
    rintro stage w w' charted ⟨rfl, -, last, dies, rfl⟩
    have kept := dies.beside.rests.charted charted
    exact ⟨⟨fun runId => (kept.chains runId).imp fun _ there => ⟨there.read, there.drawn⟩,
      kept.legible⟩, trivial⟩

end Sessions

/-! ## Runs -/

variable {a : Config calls World Stage} {w₀ : World}

theorem charted_of_reaches (start : w₀.Charted) (reached : DaemonReaches prims config anything w₀ a) :
    a.2.Charted := by
  have between : LoopRule.Between World.Completed .start w₀ := trivial
  exact (charting_meets.sound_between start between reached).inv

/-- **Chains.**  Whatever fails, whatever the owner does in between and however often a process
restarts: the grammar accepts the chain of every run. -/
theorem chains_accepted (start : w₀.Charted) (reached : DaemonReaches prims config anything w₀ a)
    (runId : Uuid) : chainGrammar.Accepts (a.2.chainOf runId) := by
  rcases (charted_of_reaches start reached).chains runId with ⟨state, there⟩
  exact Option.isSome_iff_exists.mpr ⟨state, there.read⟩

theorem sessionWorld_charted : sessionWorld.Charted :=
  ⟨fun _ => ⟨⟨.empty, []⟩, rfl, List.Subset.refl _⟩, List.forall_mem_nil _⟩

/-- The theorem at a session that came to its loop. -/
theorem sample_chain_accepted : ∃ state w',
    DaemonReaches sessionPrimitives sessionConfig anything sessionWorld
      (.running (.done (.loop state)), w') ∧
    chainGrammar.Accepts (w'.chainOf sampleStarted.runId) := by
  rcases exists_sample_loop with ⟨state, w', reached, -⟩
  exact ⟨state, w', reached, chains_accepted sessionWorld_charted reached sampleStarted.runId⟩

/-- **Orders.**  In every chain the daemon comes to, each order has everything that led to it right
before it, what the venue made of it or the next reconciliation right after it, and a cycle to
itself. -/
theorem orders_framed (start : w₀.Charted) (reached : DaemonReaches prims config anything w₀ a)
    {before rest : List RunEventEnvelopeV1} {order : RunEventEnvelopeV1}
    (chain : a.2.chainOf runId = before ++ order :: rest)
    (type : order.eventType = "order_submitted") : OrderFramed before order rest := by
  rcases (charted_of_reaches start reached).chains runId with ⟨state, there⟩
  have accepts : chainGrammar.Accepts (before ++ order :: rest) :=
    chain ▸ Option.isSome_iff_exists.mpr ⟨state, there.read⟩
  exact chainGrammar_order accepts type

/-- An event of a sample chain. -/
def chartedEvent (cycleId : Option Uuid) (eventType : String) : RunEventEnvelopeV1 :=
  { sampleStarted with cycleId, eventType, payload := .ofFields [("allowed", .bool true)] }

def sampleCycleId : Uuid := ⟨.ofNat 16 7⟩

/-- A chain up to the approval of an order. -/
def approvedChain : List RunEventEnvelopeV1 :=
  ["run_started", "run_paused", "fill", "funding", "reconciliation", "portfolio_snapshot"].map
      (chartedEvent none) ++
    ["cycle_started", "book_snapshot", "candle_closed", "portfolio_snapshot", "proposal",
      "book_snapshot", "policy_outcome"].map (chartedEvent (some sampleCycleId))

def orderedWorld : World :=
  { startingWorld with
    journal := {
      rows := (approvedChain ++ [chartedEvent (some sampleCycleId) "order_submitted"]).map fun event =>
        EventRow.ofEvent event .null
      secrets := [] }
    drawn := [sampleCycleId] }

theorem chainOf_ofEvents {w : World} {events : List RunEventEnvelopeV1} {runId : Uuid}
    (rows : w.journal.rows = events.map fun event => EventRow.ofEvent event .null) :
    w.chainOf runId = events.filter (·.runId = runId) := by
  rw [Record.chainOf, Record.rowsOf, rows]
  clear rows
  induction events with
  | nil => rfl
  | cons event events ih =>
    rw [List.map_cons, List.filter_cons, List.filter_cons, ← ih]
    by_cases own : event.runId = runId
    · simp [EventRow.ofEvent, own, envelopes]
    · have other : event.runId.hyphenated ≠ runId.hyphenated := fun same =>
        own (Uuid.hyphenated_injective same)
      simp [EventRow.ofEvent, own, other]

theorem chainOf_orderedWorld : orderedWorld.chainOf sampleStarted.runId =
    approvedChain ++ chartedEvent (some sampleCycleId) "order_submitted" :: [] := by
  rw [chainOf_ofEvents rfl, List.filter_eq_self]
  simp [approvedChain, chartedEvent]

theorem orderedWorld_charted : orderedWorld.Charted := by
  refine ⟨fun runId => ?_, ?_⟩
  · by_cases own : sampleStarted.runId = runId
    · subst own
      refine ⟨⟨.cycle sampleCycleId .order, [sampleCycleId]⟩, ?_, List.Subset.refl _⟩
      rw [chainOf_orderedWorld]
      decide
    · refine ⟨⟨.empty, []⟩, ?_, List.nil_subset _⟩
      rw [chainOf_ofEvents rfl, List.filter_eq_nil_iff.mpr]
      · rfl
      · simp [approvedChain, chartedEvent, own]
  · intro row mem
    rcases List.mem_map.mp mem with ⟨event, -, rfl⟩
    rfl

/-- The theorem at a process that starts after an order was submitted. -/
theorem sample_order_framed :
    OrderFramed approvedChain (chartedEvent (some sampleCycleId) "order_submitted") [] :=
  orders_framed orderedWorld_charted (.single (.again .start) : DaemonReaches sessionPrimitives
    sessionConfig anything orderedWorld _) chainOf_orderedWorld rfl

/-- **Cycles.**  Between two turns of the loop, the session counts exactly the cycles that its chain
says were started or missed. -/
theorem completedCycles_eq {state : LiveRunState} {w : World} (start : w₀.Charted)
    (reached : DaemonReaches prims config anything w₀ (.running (.done (.loop state)), w)) :
    ((w.chainOf state.runId).filter (·.beginsCycle)).length = state.completedCycles := by
  have between : LoopRule.Between World.Completed .start w₀ := trivial
  have safe := charting_meets.sound_between start between reached
  rcases (safe.2 : World.Completed state.runId state.completedCycles w) with ⟨cycles, there, count⟩
  have ids := congrArg List.length (chainGrammar_cycles there.read).2
  rw [List.length_map, List.length_reverse, List.length_map] at ids
  exact ids.trans count

/-- The theorem at a session whose first cycle was missed. -/
theorem sample_completedCycles : ∃ w' : World,
    ((w'.chainOf sampleStarted.runId).filter (·.beginsCycle)).length = 1 := by
  rcases exists_sample_loop with ⟨state, w', reached, isRun, isDue, -⟩
  refine ⟨w', ?_⟩
  rw [← isDue, ← isRun]
  exact completedCycles_eq sessionWorld_charted reached

end CrowAgent
