import CrowAgent.Daemon.CycleRules
import CrowAgent.Daemon.SessionRules

/-!
# Sessions and the cycles they count

`LoopRule` is what has to be shown of the programs of a session that append events: the first events
of a chain, a reconciliation, an event of the loop, a missed cycle, a cycle, and the stop.  Between
them a session appends nothing, and `LoopRule.again` says that the loop then always goes on with as
many completed cycles as were shown.
-/

namespace CrowAgent

open Coroutine

variable {prims : Primitives} {config : DaemonConfig} {w : World}

/-- Everything but appends. -/
def silentEffects : Effects where
  events := fun _ _ => False
  keys := fun _ => True
  weighs := fun _ => True
  shared := fun _ => True
  cycles := fun _ => True
  selects := True

/-- The events with which a session goes on in its loop. -/
def loopEvents : List String :=
  ["run_paused", "run_resumed", "run_settings_changed", "strategy_changed"]

/-- What is shown of the programs of a session that append events: `B` holds once the chain of the run
has begun, and `H` between two turns of the loop, of the number of completed cycles. -/
structure LoopRule (prims : Primitives) (config : DaemonConfig) (c : Contract calls World)
    (B : Uuid → World → Prop) (H : Uuid → Nat → World → Prop) : Prop where
  idles : c.Preserves (Op.Within silentEffects) fun _ => True
  keeps : ∀ {runId n}, c.Preserves (Op.Within silentEffects) (H runId n)
  begins : ∀ {runId w}, c.inv w → (initializeEventChain prims config runId).wp c
    (fun _ _ => B runId) (fun _ _ _ => True) () w
  reconciles : ∀ {runId now terms w}, c.inv w → B runId w →
    (reconcileSession prims config now runId terms).wp c (fun result _ => H runId result.1)
      (fun _ _ _ => True) () w
  records : ∀ {runId n eventType payload w}, eventType ∈ loopEvents → c.inv w → H runId n w →
    (appendSessionEvent prims config runId eventType payload).wp c (fun _ _ => H runId n)
      (fun _ _ _ => True) () w
  misses : ∀ {runId n scheduledAt reason w}, c.inv w → H runId n w →
    (appendMissedCycle prims config runId scheduledAt reason).wp c (fun _ _ => H runId (n + 1))
      (fun _ _ _ => True) () w
  cycles : ∀ {cycle : LiveCycle} {n risk w}, c.inv w → H cycle.runId n w →
    (executeLiveCycle prims cycle).wp c (fun _ _ => H cycle.runId (n + 1))
      (AfterError fun _ => H cycle.runId (n + 1)) risk w
  stops : ∀ {runId n source w}, c.inv w → H runId n w →
    (appendLifecycle prims config runId "run_stopped" source).wp c (fun _ _ _ => True)
      (fun _ _ _ => True) () w

namespace LoopRule

variable {c : Contract calls World} {B : Uuid → World → Prop} {H : Uuid → Nat → World → Prop}
  {runId : Uuid} {n : Nat} {state : LiveRunState} {α : Type}

/-- What holds when the loop goes on. -/
def Holds (H : Uuid → Nat → World → Prop) (state : LiveRunState) (w : World) : Prop :=
  H state.runId state.completedCycles w

/-- How a turn, or the part before the loop, ends. -/
def Ends (H : Uuid → Nat → World → Prop) : Turn → Unit → World → Prop
  | .goesOn state, _, w => Holds H state w
  | .stopped _, _, _ => True

theorem Holds.of_keeps {next : LiveRunState} (keeps : state.Keeps next) (holds : Holds H state w) :
    Holds H next w := by
  unfold Holds
  rw [keeps.runId, keeps.completedCycles]
  exact holds

/-- A part of a session before its chain has begun, or after its stop. -/
theorem wp_idles (rule : LoopRule prims config c B H) {x : Act calls Unit LiveRunError α}
    (only : x.Only (Op.Within silentEffects)) (inv : c.inv w) :
    x.wp c (fun _ _ _ => True) (fun _ _ _ => True) () w :=
  Act.wp_preserves rule.idles only inv trivial

/-- A part of a session that appends nothing. -/
theorem wp_keeps (rule : LoopRule prims config c B H) {x : Act calls Unit LiveRunError α}
    (only : x.Only (Op.Within silentEffects)) (inv : c.inv w) (holds : H runId n w) :
    x.wp c (fun _ _ => H runId n) (fun _ _ _ => True) () w :=
  Act.wp_mono inv (Act.wp_preserves rule.keeps only inv holds) (fun _ _ _ _ => id)
    fun _ _ _ _ _ => trivial

theorem wp_finishRun (rule : LoopRule prims config c B H) (inv : c.inv w) :
    (finishRun config runId).wp c (fun _ _ _ => True) (fun _ _ _ => True) () w :=
  rule.wp_idles (only_finishRun ⟨trivial, trivial, trivial, trivial⟩) inv

theorem wp_stopScheduled (rule : LoopRule prims config c B H) (inv : c.inv w)
    (holds : H runId n w) :
    (stopScheduled prims config runId).wp c (fun _ _ _ => True) (fun _ _ _ => True) () w := by
  refine Act.wp_bind.mpr (Act.wp_mono inv (rule.stops inv holds) ?_ fun _ _ _ _ => id)
  exact fun _ _ w' inv' _ => rule.wp_finishRun inv'

theorem wp_resumeSession (rule : LoopRule prims config c B H) (inv : c.inv w)
    (holds : H runId n w) :
    (resumeSession prims config runId).wp c (fun _ _ => H runId n) (fun _ _ _ => True) () w := by
  have looks : (shouldRunAfterReconciliation runId).Only (Op.Within silentEffects) :=
    (only_askJournal (by trivial)).bind fun _ => .pure
  refine Act.wp_bind.mpr (Act.wp_mono inv (rule.wp_keeps looks inv holds) ?_ fun _ _ _ _ => id)
  intro resume _ w₁ inv₁ holds₁
  cases resume with
  | false => exact Act.wp_pure.mpr holds₁
  | true =>
    have opens : openGate.Only (Op.Within silentEffects) := by
      apply (only_ask (by trivial)).bind
      intro applied
      split
      · exact .pure
      · exact (only_ask (by trivial)).bind fun _ => .rejectIf
    refine Act.wp_bind.mpr (Act.wp_mono inv₁ (rule.wp_keeps opens inv₁ holds₁) ?_ fun _ _ _ _ => id)
    intro _ _ w₂ inv₂ holds₂
    refine Act.wp_bind.mpr (Act.wp_mono inv₂ (rule.records (by decide) inv₂ holds₂) ?_
      fun _ _ _ _ => id)
    exact fun _ _ _ _ holds₃ => Act.wp_pure.mpr holds₃

/-- **The part before the loop.** -/
theorem wp_startSession (rule : LoopRule prims config c B H) (inv : c.inv w) :
    (startSession prims config).wp c (Ends H) (fun _ _ _ => True) () w := by
  refine Act.wp_bind.mpr (Act.wp_mono inv (rule.wp_idles (only_ask (by trivial)) inv) ?_
    fun _ _ _ _ => id)
  intro now _ w₁ inv₁ _
  refine Act.wp_bind.mpr (Act.wp_mono inv₁ (rule.wp_idles .rejectIf inv₁) ?_ fun _ _ _ _ => id)
  intro _ _ w₂ inv₂ _
  refine Act.wp_bind.mpr (Act.wp_mono inv₂ (rule.wp_idles (only_askJournal (by trivial)) inv₂) ?_
    fun _ _ _ _ => id)
  intro _ _ w₃ inv₃ _
  refine Act.wp_bind.mpr (Act.wp_mono inv₃ (rule.wp_idles only_askApi inv₃) ?_ fun _ _ _ _ => id)
  intro _ _ w₄ inv₄ _
  refine Act.wp_bind.mpr (Act.wp_mono inv₄ (rule.wp_idles (only_acquireRun trivial trivial) inv₄) ?_
    fun _ _ _ _ => id)
  intro runId _ w₅ inv₅ _
  refine Act.wp_bind.mpr (Act.wp_mono inv₅ (rule.wp_idles only_prepareTerms inv₅) ?_
    fun _ _ _ _ => id)
  intro terms _ w₆ inv₆ _
  refine Act.wp_bind.mpr (Act.wp_mono inv₆ (rule.begins inv₆) ?_ fun _ _ _ _ => id)
  intro _ _ w₇ inv₇ begun
  refine Act.wp_bind.mpr (Act.wp_mono inv₇ (rule.reconciles inv₇ begun) ?_ fun _ _ _ _ => id)
  intro reconciled _ w₈ inv₈ holds₈
  rcases reconciled with ⟨completedCycles, risk⟩
  dsimp only
  split
  · refine Act.wp_bind.mpr (Act.wp_mono inv₈ (rule.wp_stopScheduled inv₈ holds₈) ?_
      fun _ _ _ _ => id)
    exact fun _ _ _ _ _ => Act.wp_pure.mpr trivial
  · refine Act.wp_bind.mpr (Act.wp_mono inv₈ (rule.wp_keeps only_connectStream inv₈ holds₈) ?_
      fun _ _ _ _ => id)
    intro _ _ w₉ inv₉ holds₉
    refine Act.wp_bind.mpr (Act.wp_mono inv₉ (rule.wp_keeps (only_askVenue (by trivial)) inv₉ holds₉)
      ?_ fun _ _ _ _ => id)
    intro books _ w₁₀ inv₁₀ holds₁₀
    refine Act.wp_bind.mpr (Act.wp_mono inv₁₀ (rule.wp_resumeSession inv₁₀ holds₁₀) ?_
      fun _ _ _ _ => id)
    intro recordedGate _ w₁₁ inv₁₁ holds₁₁
    refine Act.wp_bind.mpr (Act.wp_mono inv₁₁ (rule.wp_keeps (only_ask (by trivial)) inv₁₁ holds₁₁)
      ?_ fun _ _ _ _ => id)
    intro _ _ w₁₂ inv₁₂ holds₁₂
    refine Act.wp_bind.mpr (Act.wp_mono inv₁₂ (rule.wp_keeps only_durationUntilCycle inv₁₂ holds₁₂)
      ?_ fun _ _ _ _ => id)
    exact fun _ _ _ _ holds => Act.wp_pure.mpr holds

/-! ## The loop -/

/-- The gate is recorded, and a stop of the owner stops the run. -/
theorem wp_recordGate (rule : LoopRule prims config c B H) (inv : c.inv w) (holds : Holds H state w) :
    (recordGate prims config state).wp c (Ends H) (fun _ _ _ => True) () w := by
  refine Act.wp_bind.mpr (Act.wp_mono inv (rule.wp_keeps (only_ask (by trivial)) inv holds) ?_
    fun _ _ _ _ => id)
  intro current _ w₁ inv₁ holds₁
  split
  · exact Act.wp_pure.mpr holds₁
  · cases current with
    | running =>
      refine Act.wp_bind.mpr (Act.wp_mono inv₁ (rule.records (by decide) inv₁ holds₁) ?_
        fun _ _ _ _ => id)
      exact fun _ _ _ _ holds => Act.wp_pure.mpr holds
    | paused =>
      refine Act.wp_bind.mpr (Act.wp_mono inv₁ (rule.records (by decide) inv₁ holds₁) ?_
        fun _ _ _ _ => id)
      exact fun _ _ _ _ holds => Act.wp_pure.mpr holds
    | stopped =>
      refine Act.wp_bind.mpr (Act.wp_mono inv₁ (rule.stops inv₁ holds₁) ?_ fun _ _ _ _ => id)
      intro _ _ w₂ inv₂ _
      refine Act.wp_bind.mpr (Act.wp_mono inv₂ (rule.wp_finishRun inv₂) ?_ fun _ _ _ _ => id)
      exact fun _ _ _ _ _ => Act.wp_pure.mpr trivial

/-- Settings are taken over, and that is recorded. -/
theorem wp_changeSettings (rule : LoopRule prims config c B H) (inv : c.inv w)
    (holds : Holds H state w) :
    (changeSettings prims config state).wp c (fun next _ => Holds H next) (fun _ _ _ => True) ()
      w := by
  refine Act.wp_bind.mpr (Act.wp_mono inv (rule.wp_keeps (only_ask (by trivial)) inv holds) ?_
    fun _ _ _ _ => id)
  intro requested _ w₁ inv₁ holds₁
  split
  · exact Act.wp_pure.mpr holds₁
  · refine Act.wp_bind.mpr (Act.wp_mono inv₁ (rule.wp_keeps .ofExcept inv₁ holds₁) ?_
      fun _ _ _ _ => id)
    intro _ _ w₂ inv₂ holds₂
    refine Act.wp_bind.mpr (Act.wp_mono inv₂ (rule.wp_keeps (only_askVenue (by trivial)) inv₂ holds₂)
      ?_ fun _ _ _ _ => id)
    intro _ _ w₃ inv₃ holds₃
    refine Act.wp_bind.mpr (Act.wp_mono inv₃ (rule.records (by decide) inv₃ holds₃) ?_
      fun _ _ _ _ => id)
    intro _ _ w₄ inv₄ holds₄
    refine Act.wp_bind.mpr (Act.wp_mono inv₄ (rule.wp_keeps (only_askJournal (by trivial)) inv₄
      holds₄) ?_ fun _ _ _ _ => id)
    intro _ _ w₅ inv₅ holds₅
    refine Act.wp_bind.mpr (Act.wp_mono inv₅ (rule.wp_keeps (only_ask (by trivial)) inv₅ holds₅) ?_
      fun _ _ _ _ => id)
    intro _ _ w₆ inv₆ holds₆
    refine Act.wp_bind.mpr (Act.wp_mono inv₆ (rule.wp_keeps .ofExcept inv₆ holds₆) ?_
      fun _ _ _ _ => id)
    exact fun _ _ _ _ holds₇ => Act.wp_pure.mpr holds₇

/-- A strategy is taken over, and that is recorded. -/
theorem wp_changeStrategy (rule : LoopRule prims config c B H) (inv : c.inv w)
    (holds : Holds H state w) :
    (changeStrategy prims config state).wp c (fun next _ => Holds H next) (fun _ _ _ => True) ()
      w := by
  refine Act.wp_bind.mpr (Act.wp_mono inv (rule.wp_keeps (only_ask (by trivial)) inv holds) ?_
    fun _ _ _ _ => id)
  intro queued _ w₁ inv₁ holds₁
  split
  · exact Act.wp_pure.mpr holds₁
  · refine Act.wp_bind.mpr (Act.wp_mono inv₁ (rule.wp_keeps .rejectIf inv₁ holds₁) ?_
      fun _ _ _ _ => id)
    intro _ _ w₂ inv₂ holds₂
    refine Act.wp_bind.mpr (Act.wp_mono inv₂ (rule.wp_keeps only_askApi inv₂ holds₂) ?_
      fun _ _ _ _ => id)
    intro _ _ w₃ inv₃ holds₃
    refine Act.wp_bind.mpr (Act.wp_mono inv₃ (rule.wp_keeps (only_askJournal (by trivial)) inv₃
      holds₃) ?_ fun _ _ _ _ => id)
    intro _ _ w₄ inv₄ holds₄
    refine Act.wp_bind.mpr (Act.wp_mono inv₄ (rule.records (by decide) inv₄ holds₄) ?_
      fun _ _ _ _ => id)
    intro _ _ w₅ inv₅ holds₅
    refine Act.wp_bind.mpr (Act.wp_mono inv₅ (rule.wp_keeps (only_ask (by trivial)) inv₅ holds₅) ?_
      fun _ _ _ _ => id)
    intro _ _ w₆ inv₆ holds₆
    refine Act.wp_bind.mpr (Act.wp_mono inv₆ (rule.wp_keeps (only_ask (by trivial)) inv₆ holds₆) ?_
      fun _ _ _ _ => id)
    intro _ _ w₇ inv₇ holds₇
    refine Act.wp_bind.mpr (Act.wp_mono inv₇ (rule.wp_keeps .rejectIf inv₇ holds₇) ?_
      fun _ _ _ _ => id)
    exact fun _ _ _ _ holds₈ => Act.wp_pure.mpr holds₈

theorem wp_lifecycleTick (rule : LoopRule prims config c B H) (inv : c.inv w)
    (holds : Holds H state w) :
    (lifecycleTick prims config state).wp c (Ends H) (fun _ _ _ => True) () w := by
  refine Act.wp_bind.mpr (Act.wp_mono inv (rule.wp_recordGate inv holds) ?_ fun _ _ _ _ => id)
  intro turn _ w₁ inv₁ ends
  cases turn with
  | stopped runId => exact Act.wp_pure.mpr trivial
  | goesOn recorded =>
    refine Act.wp_bind.mpr (Act.wp_bind.mpr (Act.wp_mono inv₁ (rule.wp_keeps (only_ask (by trivial))
      inv₁ ends) ?_ fun _ _ _ _ => id))
    intro current _ w₂ inv₂ holds₂
    split
    · refine Act.wp_bind.mpr (Act.wp_mono inv₂ (rule.wp_changeSettings inv₂ holds₂) ?_
        fun _ _ _ _ => id)
      intro changed _ w₃ inv₃ holds₃
      refine Act.wp_mono inv₃ (rule.wp_changeStrategy inv₃ holds₃) ?_ fun _ _ _ _ => id
      exact fun _ _ _ _ holds => Act.wp_pure.mpr holds
    · exact Act.wp_pure.mpr (Act.wp_pure.mpr holds₂)

/-- A cycle was decided or missed. -/
theorem wp_completeCycle (rule : LoopRule prims config c B H) (inv : c.inv w)
    (holds : H state.runId (state.completedCycles + 1) w) :
    (completeCycle state).wp c (fun next _ => Holds H next) (fun _ _ _ => True) () w := by
  refine Act.wp_bind.mpr (Act.wp_mono inv (rule.wp_keeps .rejectIf inv holds) ?_ fun _ _ _ _ => id)
  exact fun _ _ _ _ holds => Act.wp_pure.mpr holds

/-- A cycle that the model fails is completed, too. -/
theorem wp_decideCycle (rule : LoopRule prims config c B H) (inv : c.inv w)
    (holds : Holds H state w) :
    (decideCycle prims config state).wp c (fun next _ => Holds H next) (fun _ _ _ => True) () w := by
  refine Act.wp_bind.mpr (Act.wp_mono inv (rule.wp_keeps (only_ask (by trivial)) inv holds) ?_
    fun _ _ _ _ => id)
  intro gateway _ w₁ inv₁ holds₁
  refine Act.wp_bind.mpr (Act.wp_mono inv₁ (rule.wp_keeps .ofExcept inv₁ holds₁) ?_ fun _ _ _ _ => id)
  intro _ _ w₂ inv₂ holds₂
  refine Act.wp_bind.mpr (Act.wp_mono inv₂ (rule.wp_keeps (only_ask (by trivial)) inv₂ holds₂) ?_
    fun _ _ _ _ => id)
  intro _ _ w₃ inv₃ holds₃
  have cycle := @LoopRule.cycles _ _ _ _ _ rule (state.cycle config) _ state.risk _ inv₃ holds₃
  refine Act.wp_bind.mpr (Act.wp_within.mpr (Act.wp_attempt.mpr (Act.wp_mono inv₃ cycle ?_ ?_)))
  · intro result risk w₄ inv₄ holds₄
    exact @wp_completeCycle prims config w₄ c B H { state with risk } rule inv₄ holds₄
  · intro error risk w₄ inv₄ after
    cases error with
    | runtime failure =>
      exact @wp_completeCycle prims config w₄ c B H { state with risk } rule inv₄ (after failure rfl)
    | _ => exact Act.wp_throw.mpr trivial

theorem wp_cycleTick (rule : LoopRule prims config c B H) (inv : c.inv w)
    (holds : Holds H state w) :
    (cycleTick prims config state).wp c (Ends H) (fun _ _ _ => True) () w := by
  refine Act.wp_bind.mpr (Act.wp_mono inv (rule.wp_keeps only_scheduleOver inv holds) ?_
    fun _ _ _ _ => id)
  intro scheduled _ w₁ inv₁ holds₁
  split
  · refine Act.wp_bind.mpr (Act.wp_mono inv₁ (rule.wp_stopScheduled inv₁ holds₁) ?_
      fun _ _ _ _ => id)
    exact fun _ _ _ _ _ => Act.wp_pure.mpr trivial
  · refine Act.wp_bind.mpr (Act.wp_bind.mpr (Act.wp_mono inv₁ (rule.wp_keeps
      (only_ask (by trivial)) inv₁ holds₁) ?_ fun _ _ _ _ => id))
    intro running _ w₂ inv₂ holds₂
    split
    · refine Act.wp_mono inv₂ (rule.wp_decideCycle inv₂ holds₂) ?_ fun _ _ _ _ => id
      exact fun _ _ _ _ holds => Act.wp_pure.mpr holds
    · refine Act.wp_bind.mpr (Act.wp_mono inv₂ (rule.wp_keeps .ofExcept inv₂ holds₂) ?_
        fun _ _ _ _ => id)
      intro scheduledAt _ w₃ inv₃ holds₃
      refine Act.wp_bind.mpr (Act.wp_mono inv₃ (rule.misses inv₃ holds₃) ?_ fun _ _ _ _ => id)
      intro _ _ w₄ inv₄ holds₄
      refine Act.wp_mono inv₄ (rule.wp_completeCycle inv₄ holds₄) ?_ fun _ _ _ _ => id
      exact fun _ _ _ _ holds => Act.wp_pure.mpr holds

/-- **A turn of the loop.** -/
theorem wp_tick (rule : LoopRule prims config c B H) (inv : c.inv w) (holds : Holds H state w) :
    (tick prims config state).wp c (Ends H) (fun _ _ _ => True) () w := by
  refine Act.wp_bind.mpr (Act.wp_mono inv (rule.wp_keeps (only_ask (by trivial)) inv holds) ?_
    fun _ _ _ _ => id)
  intro woken _ w₁ inv₁ holds₁
  cases woken with
  | lease =>
    refine Act.wp_bind.mpr (Act.wp_mono inv₁ (rule.wp_keeps only_leaseTick inv₁ holds₁) ?_
      fun _ _ _ _ => id)
    exact fun _ _ _ _ holds => Act.wp_pure.mpr holds
  | lifecycle => exact rule.wp_lifecycleTick inv₁ holds₁
  | cycle => exact rule.wp_cycleTick inv₁ holds₁
  | snapshot next =>
    refine Act.wp_bind.mpr (Act.wp_mono inv₁ (Act.wp_yields yields_snapshotTick
      (rule.wp_keeps only_snapshotTick inv₁ holds₁)) ?_ fun _ _ _ _ => id)
    exact fun _ _ _ _ done => Act.wp_pure.mpr (Holds.of_keeps done.1 done.2)

/-- What holds between two programs of the daemon. -/
def Between (H : Uuid → Nat → World → Prop) : Stage → World → Prop
  | .loop state, w => Holds H state w
  | _, _ => True

theorem wp_afterTurn (rule : LoopRule prims config c B H) {x : Act calls Unit LiveRunError Turn}
    (inv : c.inv w) (wp : x.wp c (Ends H) (fun _ _ _ => True) () w) :
    ((x.start ()).bind fun ended => afterTurn ended.1).wp c (Between H) w := by
  have drops : ∀ {call : SharedCall} {w : World}, c.inv w →
      (request (.shared call)).wp c (fun _ _ => True) w := fun inv =>
    Coroutine.wp_preserves rule.idles (only_request (by trivial)) inv trivial
  unfold Act.wp at wp
  refine Coroutine.wp_bind.mpr (Coroutine.wp_mono inv wp ?_)
  intro ended w₁ inv₁ ends
  rcases ended with ⟨result, ⟨⟩⟩
  cases result with
  | ok turn =>
    cases turn with
    | goesOn next => exact ends
    | stopped runId =>
      refine Coroutine.wp_bind.mpr (Coroutine.wp_mono inv₁ (drops inv₁) ?_)
      exact fun _ _ _ _ => trivial
  | error error =>
    refine Coroutine.wp_bind.mpr (Coroutine.wp_mono inv₁ (drops inv₁) ?_)
    intro _ w₂ inv₂ _
    refine Coroutine.wp_bind.mpr (Coroutine.wp_mono inv₂ (drops inv₂) ?_)
    intro _ w₃ inv₃ _
    refine Coroutine.wp_bind.mpr (Coroutine.wp_mono inv₃ (drops inv₃) ?_)
    exact fun _ _ _ _ => trivial

/-- **Sessions.**  Every program of the daemon goes on with the completed cycles that were shown. -/
theorem again (rule : LoopRule prims config c B H) (ofWorld : OfWorld prims c) {stage : Stage}
    {prog : Prog calls Stage} (inv : c.inv w) (between : Between H stage w)
    (next : NextProgram prims config stage prog) : prog.wp c (Between H) w := by
  have drops : ∀ {call : SharedCall} {w : World}, c.inv w →
      c.Calls (.shared call) (fun _ _ => True) w := fun inv =>
    rule.idles.calls (by trivial) inv trivial
  cases next with
  | start =>
    have starts : c.Preserves (Op.Within startEffects) fun _ => True :=
      rule.idles.mono fun _ => Op.Within.mono {
        events := False.elim
        keys := fun _ => trivial
        weighs := False.elim
        shared := fun _ => trivial
        cycles := False.elim
        selects := False.elim }
    refine wp_startUp ofWorld starts inv trivial ?_ ?_
    · exact fun inv _ _ => (drops inv).mono fun _ _ _ _ => trivial
    · intro w₁ inv₁ _ _
      refine (drops inv₁).mono fun _ w₂ inv₂ _ => ?_
      exact Coroutine.wp_bind.mp (rule.wp_afterTurn inv₂ (rule.wp_startSession inv₂))
  | loop state => exact rule.wp_afterTurn inv (rule.wp_tick inv between)
  | «over» stopped =>
    refine Coroutine.wp_bind.mpr (Coroutine.wp_mono inv
      (Coroutine.wp_preserves rule.idles (only_request (by trivial)) inv trivial) ?_)
    exact fun _ _ _ _ => trivial

end LoopRule

end CrowAgent
