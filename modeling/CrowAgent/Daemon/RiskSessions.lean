import CrowAgent.Daemon.CycleRules
import CrowAgent.Daemon.SessionRules

/-!
# Sessions and their risk state

`RiskRule` is what has to be shown of the steps of a session that concern its risk state, and
`RiskRule.again` says that a state that goes on with the loop then always holds what was shown.
`forward_meets` takes it to the runs of the daemon under a clock that goes forward.
-/

namespace CrowAgent

open Coroutine

variable {prims : Primitives} {config : DaemonConfig} {w w' : World}

/-- What is shown of the parts of a session: `T` holds of a time that was read, `H` of the risk state
of a run between two cycles, and `I` of it in a cycle of a day. -/
structure RiskRule (prims : Primitives) (config : DaemonConfig) (c : Contract calls World)
    (effects : Effects) (T : OffsetDateTime → World → Prop)
    (H : Uuid → LiveRiskState → World → Prop)
    (I : Uuid → Date → LiveRiskState → World → Prop) : Prop where
  manages : effects.Manages config
  selects : effects.selects
  tokens : effects.keys refreshTokenKey
  idles : c.Preserves (Op.Within effects) fun _ => True
  read : ∀ {w}, c.inv w → T w.clock w
  timed : ∀ {now}, c.Preserves (Op.Within effects) (T now)
  keeps : ∀ {runId risk}, c.Preserves (Op.Within effects) (H runId risk)
  drops : ∀ {call w}, c.inv w → c.Calls (.shared call) (fun _ _ => True) w
  cycles : ∀ cycle : LiveCycle, cycle.manifest = config.manifest →
    CycleRule prims cycle c effects (H cycle.runId) (I cycle.runId)
  loads : ∀ {runId now w}, c.inv w → T now w → (sessionRisk prims config runId now).wp c
    (fun risk _ => H runId risk) (fun _ _ _ => True) () w
  reconciles : ∀ {session : SessionAccount} {risk w}, c.inv w → H session.runId risk w →
    (reconcileLiveState prims session).wp c (fun _ => H session.runId) (fun _ _ _ => True) risk w
  trades : ∀ {runId settings strategy risk w}, c.inv w → H runId risk w →
    c.Calls (.trades runId settings strategy) (fun _ => H runId risk) w

namespace RiskRule

variable {c : Contract calls World} {effects : Effects} {T : OffsetDateTime → World → Prop}
  {H : Uuid → LiveRiskState → World → Prop} {I : Uuid → Date → LiveRiskState → World → Prop}
  {runId : Uuid} {risk : LiveRiskState} {α : Type}

/-- How a turn, or the part before the loop, ends. -/
def Ends (H : Uuid → LiveRiskState → World → Prop) : Turn → Unit → World → Prop
  | .goesOn state, _, w => H state.runId state.risk w
  | .stopped _, _, _ => True

/-- A part of a session before it has a risk state. -/
theorem wp_idles (rule : RiskRule prims config c effects T H I) {x : Act calls Unit LiveRunError α}
    (only : x.Only (Op.Within effects)) (inv : c.inv w) :
    x.wp c (fun _ _ _ => True) (fun _ _ _ => True) () w :=
  Act.wp_preserves rule.idles only inv trivial

/-- A part of a session that leaves its risk state alone. -/
theorem wp_keeps (rule : RiskRule prims config c effects T H I) {x : Act calls Unit LiveRunError α}
    (only : x.Only (Op.Within effects)) (inv : c.inv w) (holds : H runId risk w) :
    x.wp c (fun _ _ => H runId risk) (fun _ _ _ => True) () w :=
  Act.wp_mono inv (Act.wp_preserves rule.keeps only inv holds) (fun _ _ _ _ => id)
    fun _ _ _ _ _ => trivial

/-- And so does one that goes on with a state that has the same one. -/
theorem wp_follows (rule : RiskRule prims config c effects T H I) {state : LiveRunState}
    {x : Act calls Unit LiveRunError LiveRunState} (only : x.Only (Op.Within effects))
    (keeps : x.Yields state.Keeps) (inv : c.inv w) (holds : H state.runId state.risk w) :
    x.wp c (fun next _ w => H next.runId next.risk w) (fun _ _ _ => True) () w := by
  refine Act.wp_mono inv (Act.wp_yields keeps (rule.wp_keeps only inv holds)) ?_ fun _ _ _ _ => id
  intro next _ w' _ done
  rcases done with ⟨keeps, holds'⟩
  rw [keeps.runId, keeps.risk]
  exact holds'

theorem wp_stopScheduled (rule : RiskRule prims config c effects T H I) (inv : c.inv w) :
    (stopScheduled prims config runId).wp c (fun _ _ _ => True) (fun _ _ _ => True) () w :=
  rule.wp_idles (only_stopScheduled rule.manages.finishes (rule.manages.events _ _ (by decide))) inv

/-- A session brings its run up to date. -/
theorem wp_reconcileSession (rule : RiskRule prims config c effects T H I) {now : OffsetDateTime}
    {terms : SessionTerms} (inv : c.inv w) (read : T now w) :
    (reconcileSession prims config now runId terms).wp c (fun result _ => H runId result.2)
      (fun _ _ _ => True) () w := by
  have counts : (countCycles runId terms.expectedCycles).wp c (fun _ _ => T now) (fun _ _ _ => True)
      () w := Act.wp_mono inv (Act.wp_preserves rule.timed only_countCycles inv read)
    (fun _ _ _ _ => id) fun _ _ _ _ _ => trivial
  refine Act.wp_bind.mpr (Act.wp_mono inv counts ?_ fun _ _ _ _ => id)
  intro completedCycles _ w₁ inv₁ read₁
  refine Act.wp_bind.mpr (Act.wp_mono inv₁ (rule.loads inv₁ read₁) ?_ fun _ _ _ _ => id)
  intro risk _ w₂ inv₂ holds₂
  have reconciles : (Act.within risk ((reconcileLiveState prims {
      signingKey := config.signingKey
      arenaId := config.arenaId
      runId
      executionAccount := config.liveArena.executionAccount
      isolatedLeverage := terms.isolatedLeverage }).mapError reconciliationError) :
        Act calls Unit LiveRunError _).wp c (fun result _ => H runId result.2) (fun _ _ _ => True) ()
          w₂ := Act.wp_within.mpr (Act.wp_mapError.mpr (rule.reconciles inv₂ holds₂))
  refine Act.wp_bind.mpr (Act.wp_mono inv₂ reconciles ?_ fun _ _ _ _ => id)
  intro reconciled _ w₃ inv₃ holds₃
  rcases reconciled with ⟨hash, risk'⟩
  refine Act.wp_bind.mpr (Act.wp_mono inv₃ (rule.wp_keeps (only_ask (by trivial)) inv₃ holds₃) ?_
    fun _ _ _ _ => id)
  intro reconciledAt _ w₄ inv₄ holds₄
  refine Act.wp_bind.mpr (Act.wp_mono inv₄ (rule.wp_keeps Act.Only.ofExcept inv₄ holds₄) ?_
    fun _ _ _ _ => id)
  intro dueCycles _ w₅ inv₅ holds₅
  refine Act.wp_bind.mpr (Act.wp_mono inv₅ (rule.wp_keeps
    (only_appendMissedCycles (rule.manages.events _ _ (by decide))) inv₅ holds₅) ?_ fun _ _ _ _ => id)
  exact fun _ _ _ _ holds₆ => Act.wp_pure.mpr holds₆

/-- **The part before the loop.** -/
theorem wp_startSession (rule : RiskRule prims config c effects T H I) (ofWorld : OfWorld prims c)
    (inv : c.inv w) :
    (startSession prims config).wp c (Ends H) (fun _ _ _ => True) () w := by
  have timed : ∀ {α : Type} {x : Act calls Unit LiveRunError α} {now : OffsetDateTime} {w : World},
      x.Only (Op.Within effects) → c.inv w → T now w →
        x.wp c (fun _ _ => T now) (fun _ _ _ => True) () w := fun only inv read =>
    Act.wp_mono inv (Act.wp_preserves rule.timed only inv read) (fun _ _ _ _ => id)
      fun _ _ _ _ _ => trivial
  refine Act.wp_bind.mpr (Act.wp_mono inv (wp_nowUtc (I := fun _ _ => True) ofWorld rule.idles inv trivial) ?_
    fun _ _ _ _ => False.elim)
  intro now locals w₁ inv₁ done
  rcases done with ⟨-, -, rfl⟩
  refine Act.wp_bind.mpr (Act.wp_mono inv₁ (timed .rejectIf inv₁ (rule.read inv₁)) ?_
    fun _ _ _ _ => id)
  intro _ _ w₂ inv₂ read₂
  refine Act.wp_bind.mpr (Act.wp_mono inv₂ (timed (only_askJournal (by trivial)) inv₂ read₂) ?_
    fun _ _ _ _ => id)
  intro _ _ w₃ inv₃ read₃
  refine Act.wp_bind.mpr (Act.wp_mono inv₃ (timed only_askApi inv₃ read₃) ?_ fun _ _ _ _ => id)
  intro _ _ w₄ inv₄ read₄
  refine Act.wp_bind.mpr (Act.wp_mono inv₄ (timed
    (only_acquireRun rule.manages.id rule.manages.lease) inv₄ read₄) ?_ fun _ _ _ _ => id)
  intro runId _ w₅ inv₅ read₅
  refine Act.wp_bind.mpr (Act.wp_mono inv₅ (timed only_prepareTerms inv₅ read₅) ?_ fun _ _ _ _ => id)
  intro terms _ w₆ inv₆ read₆
  refine Act.wp_bind.mpr (Act.wp_mono inv₆ (timed
    (only_initializeEventChain rule.manages.initial) inv₆ read₆) ?_ fun _ _ _ _ => id)
  intro _ _ w₇ inv₇ read₇
  refine Act.wp_bind.mpr (Act.wp_mono inv₇ (rule.wp_reconcileSession inv₇ read₇) ?_
    fun _ _ _ _ => id)
  intro reconciled _ w₈ inv₈ holds₈
  rcases reconciled with ⟨completedCycles, risk⟩
  dsimp only
  split
  · refine Act.wp_bind.mpr (Act.wp_mono inv₈ (rule.wp_stopScheduled inv₈) ?_ fun _ _ _ _ => id)
    exact fun _ _ _ _ _ => Act.wp_pure.mpr trivial
  · refine Act.wp_bind.mpr (Act.wp_mono inv₈ (rule.wp_keeps only_connectStream inv₈ holds₈) ?_
      fun _ _ _ _ => id)
    intro _ _ w₉ inv₉ holds₉
    refine Act.wp_bind.mpr (Act.wp_mono inv₉ (rule.wp_keeps (only_askVenue (by trivial)) inv₉ holds₉)
      ?_ fun _ _ _ _ => id)
    intro books _ w₁₀ inv₁₀ holds₁₀
    refine Act.wp_bind.mpr (Act.wp_mono inv₁₀
      (rule.wp_keeps (only_resumeSession rule.manages.resumes) inv₁₀ holds₁₀) ?_ fun _ _ _ _ => id)
    intro recordedGate _ w₁₁ inv₁₁ holds₁₁
    refine Act.wp_bind.mpr (Act.wp_mono inv₁₁
      (rule.wp_keeps (only_ask (by exact rule.manages.shared trivial)) inv₁₁ holds₁₁) ?_
      fun _ _ _ _ => id)
    intro _ _ w₁₂ inv₁₂ holds₁₂
    refine Act.wp_bind.mpr (Act.wp_mono inv₁₂ (rule.wp_keeps only_durationUntilCycle inv₁₂ holds₁₂)
      ?_ fun _ _ _ _ => id)
    exact fun _ _ _ _ holds => Act.wp_pure.mpr holds

variable {state : LiveRunState}

/-- What was recorded of the gate concerns no risk state. -/
theorem wp_lifecycleTick (rule : RiskRule prims config c effects T H I) (inv : c.inv w)
    (holds : H state.runId state.risk w) :
    (lifecycleTick prims config state).wp c (Ends H) (fun _ _ _ => True) () w := by
  refine Act.wp_mono inv (Act.wp_yields yields_lifecycleTick
    (rule.wp_keeps (only_lifecycleTick rule.manages) inv holds)) ?_ fun _ _ _ _ => id
  intro turn _ w' _ done
  rcases done with ⟨keeps, holds'⟩
  cases turn with
  | stopped runId => trivial
  | goesOn next =>
    have same := LiveRunState.Keeps.risk keeps
    have run := LiveRunState.Follows.runId (LiveRunState.Keeps.toFollows keeps)
    change H next.runId next.risk w'
    rw [run, same]
    exact holds'

theorem wp_completeCycle (rule : RiskRule prims config c effects T H I) (inv : c.inv w)
    (holds : H state.runId state.risk w) :
    (completeCycle state).wp c (fun next _ w => H next.runId next.risk w) (fun _ _ _ => True) ()
      w := by
  refine Act.wp_bind.mpr (Act.wp_mono inv (rule.wp_keeps .rejectIf inv holds) ?_ fun _ _ _ _ => id)
  exact fun _ _ _ _ holds => Act.wp_pure.mpr holds

/-- A cycle under the risk state of the session. -/
theorem wp_decideCycle (rule : RiskRule prims config c effects T H I) (ofWorld : OfWorld prims c)
    (inv : c.inv w) (holds : H state.runId state.risk w) :
    (decideCycle prims config state).wp c (fun next _ w => H next.runId next.risk w)
      (fun _ _ _ => True) () w := by
  refine Act.wp_bind.mpr (Act.wp_mono inv (rule.wp_keeps (only_ask (by trivial)) inv holds) ?_
    fun _ _ _ _ => id)
  intro gateway _ w₁ inv₁ holds₁
  refine Act.wp_bind.mpr (Act.wp_mono inv₁ (rule.wp_keeps .ofExcept inv₁ holds₁) ?_ fun _ _ _ _ => id)
  intro _ _ w₂ inv₂ holds₂
  refine Act.wp_bind.mpr (wp_ask.mpr ((rule.trades inv₂ holds₂).mono ?_))
  intro _ w₃ inv₃ holds₃
  have cycle := (rule.cycles (state.cycle config) rfl).wp_executeLiveCycle ofWorld inv₃ holds₃
  refine Act.wp_bind.mpr (Act.wp_within.mpr (Act.wp_attempt.mpr (Act.wp_mono inv₃ cycle ?_ ?_)))
  · intro result risk w₄ inv₄ holds₄
    exact @wp_completeCycle prims config w₄ c effects T H I { state with risk } rule inv₄ holds₄
  · intro error risk w₄ inv₄ after
    cases error with
    | runtime failure =>
      exact @wp_completeCycle prims config w₄ c effects T H I { state with risk } rule inv₄
        (after failure rfl)
    | _ => exact Act.wp_throw.mpr trivial

theorem wp_cycleTick (rule : RiskRule prims config c effects T H I) (ofWorld : OfWorld prims c)
    (inv : c.inv w) (holds : H state.runId state.risk w) :
    (cycleTick prims config state).wp c (Ends H) (fun _ _ _ => True) () w := by
  refine Act.wp_bind.mpr (Act.wp_mono inv (rule.wp_keeps only_scheduleOver inv holds) ?_
    fun _ _ _ _ => id)
  intro scheduled _ w₁ inv₁ holds₁
  split
  · refine Act.wp_bind.mpr (Act.wp_mono inv₁ (rule.wp_stopScheduled inv₁) ?_ fun _ _ _ _ => id)
    exact fun _ _ _ _ _ => Act.wp_pure.mpr trivial
  · refine Act.wp_bind.mpr (Act.wp_bind.mpr (Act.wp_mono inv₁ (rule.wp_keeps
      (only_ask (by exact rule.manages.shared trivial)) inv₁ holds₁) ?_ fun _ _ _ _ => id))
    intro running _ w₂ inv₂ holds₂
    split
    · refine Act.wp_mono inv₂ (rule.wp_decideCycle ofWorld inv₂ holds₂) ?_ fun _ _ _ _ => id
      exact fun _ _ _ _ holds => Act.wp_pure.mpr holds
    · refine Act.wp_bind.mpr (Act.wp_mono inv₂ (rule.wp_keeps .ofExcept inv₂ holds₂) ?_
        fun _ _ _ _ => id)
      intro scheduledAt _ w₃ inv₃ holds₃
      refine Act.wp_bind.mpr (Act.wp_mono inv₃ (rule.wp_keeps
        (only_appendMissedCycle (rule.manages.events _ _ (by decide))) inv₃ holds₃) ?_
        fun _ _ _ _ => id)
      intro _ _ w₄ inv₄ holds₄
      refine Act.wp_mono inv₄ (rule.wp_completeCycle inv₄ holds₄) ?_ fun _ _ _ _ => id
      exact fun _ _ _ _ holds => Act.wp_pure.mpr holds

/-- **A turn of the loop.** -/
theorem wp_tick (rule : RiskRule prims config c effects T H I) (ofWorld : OfWorld prims c)
    (inv : c.inv w) (holds : H state.runId state.risk w) :
    (tick prims config state).wp c (Ends H) (fun _ _ _ => True) () w := by
  refine Act.wp_bind.mpr (Act.wp_mono inv (rule.wp_keeps (only_ask (by exact rule.selects)) inv holds)
    ?_ fun _ _ _ _ => id)
  intro woken _ w₁ inv₁ holds₁
  cases woken with
  | lease =>
    refine Act.wp_bind.mpr (Act.wp_mono inv₁ (rule.wp_keeps only_leaseTick inv₁ holds₁) ?_
      fun _ _ _ _ => id)
    exact fun _ _ _ _ holds => Act.wp_pure.mpr holds
  | lifecycle => exact rule.wp_lifecycleTick inv₁ holds₁
  | cycle => exact rule.wp_cycleTick ofWorld inv₁ holds₁
  | snapshot next =>
    refine Act.wp_bind.mpr (Act.wp_mono inv₁
      (rule.wp_follows only_snapshotTick yields_snapshotTick inv₁ holds₁) ?_ fun _ _ _ _ => id)
    exact fun _ _ _ _ holds => Act.wp_pure.mpr holds

/-- What holds between two programs of the daemon. -/
def Between (H : Uuid → LiveRiskState → World → Prop) : Stage → World → Prop
  | .loop state, w => H state.runId state.risk w
  | _, _ => True

theorem wp_afterTurn (rule : RiskRule prims config c effects T H I)
    {x : Act calls Unit LiveRunError Turn} (inv : c.inv w)
    (wp : x.wp c (Ends H) (fun _ _ _ => True) () w) :
    ((x.start ()).bind fun ended => afterTurn ended.1).wp c (Between H) w := by
  unfold Act.wp at wp
  refine Coroutine.wp_bind.mpr (Coroutine.wp_mono inv wp ?_)
  intro ended w₁ inv₁ ends
  rcases ended with ⟨result, ⟨⟩⟩
  cases result with
  | ok turn =>
    cases turn with
    | goesOn next => exact ends
    | stopped runId =>
      refine Coroutine.wp_bind.mpr (wp_request.mpr ((rule.drops inv₁).mono ?_))
      exact fun _ _ _ _ => trivial
  | error error =>
    refine Coroutine.wp_bind.mpr (wp_request.mpr ((rule.drops inv₁).mono ?_))
    intro _ w₂ inv₂ _
    refine Coroutine.wp_bind.mpr (wp_request.mpr ((rule.drops inv₂).mono ?_))
    intro _ w₃ inv₃ _
    refine Coroutine.wp_bind.mpr (wp_request.mpr ((rule.drops inv₃).mono ?_))
    exact fun _ _ _ _ => trivial

/-- **Sessions.**  Every program of the daemon goes on with a risk state of which the rule holds. -/
theorem again (rule : RiskRule prims config c effects T H I) (ofWorld : OfWorld prims c)
    {stage : Stage} {prog : Prog calls Stage} (inv : c.inv w) (between : Between H stage w)
    (next : NextProgram prims config stage prog) : prog.wp c (Between H) w := by
  cases next with
  | start =>
    have starts : c.Preserves (Op.Within startEffects) fun _ => True :=
      rule.idles.mono fun _ => Op.Within.mono {
        events := False.elim
        keys := fun name => name ▸ rule.tokens
        weighs := False.elim
        shared := fun label => label ▸ rule.manages.shared trivial
        cycles := False.elim
        selects := False.elim }
    refine wp_startUp ofWorld starts inv trivial ?_ ?_
    · exact fun inv _ _ => (rule.drops inv).mono fun _ _ _ _ => trivial
    · intro w₁ inv₁ _ _
      refine (rule.drops inv₁).mono fun _ w₂ inv₂ _ => ?_
      exact Coroutine.wp_bind.mp (rule.wp_afterTurn inv₂ (rule.wp_startSession ofWorld inv₂))
  | loop state => exact rule.wp_afterTurn inv (rule.wp_tick ofWorld inv between)
  | «over» stopped =>
    refine Coroutine.wp_bind.mpr (Coroutine.wp_mono inv
      (Coroutine.wp_preserves rule.idles (only_request (by trivial)) inv trivial) ?_)
    exact fun _ _ _ _ => trivial

end RiskRule

/-! ## A clock that goes forward -/

/-- The time that was last read is in UTC, and no earlier than before. -/
structure World.Forward (w w' : World) : Prop where
  later : w.clock.unixNanoseconds ≤ w'.clock.unixNanoseconds
  utc : w'.clock.offsetSeconds = 0

theorem World.Forward.day_le (forward : w.Forward w') (utc : w.clock.offsetSeconds = 0) :
    w.clock.date.day ≤ w'.clock.date.day := by
  have later := forward.later
  unfold OffsetDateTime.date
  rw [utc, forward.utc]
  dsimp only
  omega

/-- The clock goes forward in a step of the daemon. -/
def clockForward (a b : Config calls World Stage) : Prop := a.2.Forward b.2

/-- The daemon under a clock that goes forward, in which others do what happens beside a session. -/
def forwardSystem (prims : Primitives) : System calls World where
  begin := fun op w w' => World.Begins op w w' ∧ w.Forward w'
  answer := fun op w answer w' =>
    (World.Polled op w ∧ World.Answers prims op w answer w') ∧ w.Forward w'
  env := fun w w' => Beside w w' ∧ w.Forward w'

section Forward

variable {inv : World → Prop} {pre : Op → World → Prop}
  (stable : ∀ {w w'}, inv w → (forwardSystem prims).env w w' → inv w')

theorem forward_ofWorld : OfWorld prims (.ofSystem (forwardSystem prims) inv pre stable) :=
  ⟨fun begins => begins.1, fun answers => answers.1⟩

/-- What the sessions are shown to do under such a clock, the daemon does under it. -/
theorem forward_meets {effects : Effects} {T : OffsetDateTime → World → Prop}
    {H : Uuid → LiveRiskState → World → Prop} {I : Uuid → Date → LiveRiskState → World → Prop}
    (rule : RiskRule prims config (.ofSystem (forwardSystem prims) inv pre stable) effects T H I)
    (restarts : ∀ {w}, inv w → inv w.restarted) :
    (daemon prims config anything).MeetsWhen clockForward
      (.ofSystem (forwardSystem prims) inv pre stable) (fun _ _ => True) (RiskRule.Between H) where
  begins := fun begins forward => ⟨begins.2, forward⟩
  answers := fun answers forward => ⟨answers, forward⟩
  others := fun acts forward => ⟨acts.choose_spec.2.beside, forward⟩
  waits := fun _ _ _ => trivial
  lasts := fun _ _ _ => trivial
  again := fun inv between next => rule.again (forward_ofWorld stable) inv between next
  crash := by
    intro thread stage w w' safe _ crashes forward
    rcases crashes with ⟨rfl, -, last, dies, rfl⟩
    have forward' : w.Forward last := ⟨forward.later, forward.utc⟩
    exact ⟨restarts (stable safe.inv ⟨dies.beside, forward'⟩), trivial⟩

end Forward

end CrowAgent
