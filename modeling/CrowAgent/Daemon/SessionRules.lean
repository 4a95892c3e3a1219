import CrowAgent.Daemon.Chains

/-!
# Rules for whole sessions

What most results about a session look at is what it does to its run when it acquires it, when it
begins its chain and when it stops it.  `SessionRule` is what has to be shown of these three, and
`DaemonRule.again` says that every program of the daemon then goes from what holds between two
programs (`DaemonRule.Between`) to what holds between the next two.
-/

namespace CrowAgent

open Coroutine

variable {prims : Primitives} {config : DaemonConfig} {state : LiveRunState} {w w' : World}

/-! ## What a turn keeps -/

/-- The turn is one of the same run. -/
def Turn.Follows (turn : Turn) (state : LiveRunState) : Prop :=
  match turn with
  | .goesOn next => state.Follows next
  | .stopped runId => runId = state.runId

/-- It is, and it has the same risk state and the same cycles. -/
def Turn.Keeps (turn : Turn) (state : LiveRunState) : Prop :=
  match turn with
  | .goesOn next => state.Keeps next
  | .stopped runId => runId = state.runId

theorem Turn.Keeps.follows {turn : Turn} (keeps : turn.Keeps state) : turn.Follows state := by
  cases turn with
  | goesOn next => exact LiveRunState.Keeps.toFollows keeps
  | stopped runId => exact keeps

theorem yields_changeStrategy :
    (changeStrategy prims config state).Yields fun changed => state.Keeps changed := by
  apply Act.Yields.after
  intro queued
  split
  · exact .pure .refl
  · apply Act.Yields.after
    intro _
    apply Act.Yields.after
    intro _
    apply Act.Yields.after
    intro _
    apply Act.Yields.after
    intro _
    apply Act.Yields.after
    intro _
    apply Act.Yields.after
    intro _
    exact Act.Yields.after fun _ => .pure ⟨⟨rfl, id⟩, rfl, rfl⟩

theorem yields_changeTerms :
    (changeTerms prims config state).Yields fun changed => state.Keeps changed := by
  apply Act.Yields.after
  intro current
  split
  · refine .bind yields_changeSettings fun changed keeps => ?_
    exact .mono yields_changeStrategy fun _ => keeps.trans
  · exact .pure .refl

theorem yields_recordGate :
    (recordGate prims config state).Yields fun turn => turn.Keeps state := by
  apply Act.Yields.after
  intro current
  split
  · exact .pure .refl
  · apply Act.Yields.after
    intro _
    split
    · exact Act.Yields.after fun _ => .pure rfl
    · rename_i notStopped
      exact .pure ⟨⟨rfl, fun _ => notStopped⟩, rfl, rfl⟩

theorem yields_lifecycleTick :
    (lifecycleTick prims config state).Yields fun turn => turn.Keeps state := by
  refine .bind yields_recordGate fun turn keeps => ?_
  cases turn with
  | stopped runId => exact .pure keeps
  | goesOn recorded =>
    exact .bind yields_changeTerms fun changed after => .pure (keeps.trans after)

theorem yields_completeCycle :
    (completeCycle state).Yields fun next => state.Follows next :=
  Act.Yields.after fun _ => .pure ⟨rfl, id⟩

theorem yields_decideCycle :
    (decideCycle prims config state).Yields fun next => state.Follows next := by
  apply Act.Yields.after
  intro gateway
  apply Act.Yields.after
  intro _
  apply Act.Yields.after
  intro _
  apply Act.Yields.after
  rintro ⟨result, risk⟩
  have decided : state.Follows { state with risk } := ⟨rfl, id⟩
  dsimp only
  split
  · exact (@yields_completeCycle { state with risk }).mono fun _ => decided.trans
  · exact (@yields_completeCycle { state with risk }).mono fun _ => decided.trans
  · exact .throw

theorem yields_takeCycle :
    (takeCycle prims config state).Yields fun next => state.Follows next := by
  apply Act.Yields.after
  intro running
  split
  · exact yields_decideCycle
  · apply Act.Yields.after
    intro _
    exact Act.Yields.after fun _ => yields_completeCycle

theorem yields_cycleTick :
    (cycleTick prims config state).Yields fun turn => turn.Follows state := by
  apply Act.Yields.after
  intro scheduled
  split
  · exact Act.Yields.after fun _ => .pure rfl
  · exact .bind yields_takeCycle fun next follows => .pure follows

theorem yields_snapshotTick {next : Except HyperliquidError BookSnapshot} :
    (snapshotTick config state next).Yields fun changed => state.Keeps changed := by
  unfold snapshotTick
  split
  · exact .pure ⟨⟨rfl, id⟩, rfl, rfl⟩
  · apply Act.Yields.after
    intro books
    apply Act.Yields.after
    intro _
    exact Act.Yields.after fun _ => .pure ⟨⟨rfl, id⟩, rfl, rfl⟩

/-- A turn of the loop is one of the same run. -/
theorem yields_tick : (tick prims config state).Yields fun turn => turn.Follows state := by
  apply Act.Yields.after
  intro woken
  cases woken with
  | lease => exact Act.Yields.after fun _ => .pure .refl
  | lifecycle => exact .mono yields_lifecycleTick fun _ => Turn.Keeps.follows
  | cycle => exact yields_cycleTick
  | snapshot next => exact .bind yields_snapshotTick fun changed keeps => .pure keeps.toFollows

/-! ## The rule -/

/-- What `run_relay` does with the end of a session. -/
def dropEffects : Effects where
  events := fun _ _ => False
  keys := fun _ => False
  weighs := fun _ => False
  shared := fun call => ¬call.IsSession
  cycles := fun _ => False
  selects := False

/-- What is shown of the parts of a session: `J` holds before it has a run, `A` when it has one, `R`
once the chain of the run has begun, `F` when the run is stopped, and `E` after a failure. -/
structure SessionRule (prims : Primitives) (config : DaemonConfig) (c : Contract calls World)
    (effects : Uuid → Effects) (J : World → Prop) (A R F : Uuid → World → Prop)
    (E : World → Prop) : Prop where
  loops : ∀ runId, (effects runId).Loops runId
  selects : ∀ runId, (effects runId).selects
  waits : c.Preserves (Op.Within quietEffects) J
  acquires : ∀ {w}, c.inv w → J w →
    (acquireRun prims config).wp c (fun runId _ => A runId) (fun _ _ => E) () w
  prepares : ∀ runId, c.Preserves (Op.Within quietEffects) (A runId)
  begins : ∀ {runId w}, c.inv w → A runId w →
    (initializeEventChain prims config runId).wp c (fun _ _ => R runId) (fun _ _ => E) () w
  keeps : ∀ runId, c.Preserves (Op.Within (effects runId)) (R runId)
  stops : ∀ {runId source w}, c.inv w → R runId w →
    (appendLifecycle prims config runId "run_stopped" source).wp c
      (fun _ _ => (finishRun config runId).wp c (fun _ _ => F runId) (fun _ _ => E) ())
      (fun _ _ => E) () w
  unacquired : ∀ {w}, c.inv w → J w → E w
  unbegun : ∀ {runId w}, c.inv w → A runId w → E w
  fails : ∀ {runId w}, c.inv w → R runId w → E w

/-- A rule for sessions that `run_relay` can drop. -/
structure DaemonRule (prims : Primitives) (config : DaemonConfig) (c : Contract calls World)
    (effects : Uuid → Effects) (J : World → Prop) (A R : Uuid → World → Prop)
    (E : World → Prop) : Prop extends SessionRule prims config c effects J A R (fun _ => E) E where
  starts : c.Preserves (Op.Within startEffects) J
  lives : c.Preserves (Op.Within dropEffects) J
  drops : c.Preserves (Op.Within dropEffects) E
  idles : c.Preserves (Op.Within quietEffects) E

namespace SessionRule

variable {c : Contract calls World} {effects : Uuid → Effects} {J : World → Prop}
  {A R F : Uuid → World → Prop} {E : World → Prop}

/-- What holds at the end of the part before the loop, or of a turn. -/
def Ends (R F : Uuid → World → Prop) : Turn → Unit → World → Prop
  | .goesOn state, _, w => R state.runId w
  | .stopped runId, _, w => F runId w

theorem ends_of_follows {next : LiveRunState} (follows : state.Follows next)
    (holds : R state.runId w) : Ends R F (.goesOn next) () w := by
  rw [← follows.runId] at holds
  exact holds

/-- A part of a session that keeps what holds with its run. -/
theorem wp_keeps (rule : SessionRule prims config c effects J A R F E) {runId : Uuid} {α : Type}
    {x : Act calls Unit LiveRunError α} (only : x.Only (Op.Within (effects runId))) (inv : c.inv w)
    (holds : R runId w) : x.wp c (fun _ _ => R runId) (fun _ _ => E) () w :=
  Act.wp_mono inv (Act.wp_preserves (rule.keeps runId) only inv holds) (fun _ _ _ _ => id)
    fun _ _ _ inv => rule.fails inv

/-- A part that goes on with the state. -/
theorem wp_follows (rule : SessionRule prims config c effects J A R F E)
    {x : Act calls Unit LiveRunError LiveRunState}
    (only : x.Only (Op.Within (effects state.runId))) (follows : x.Yields state.Follows)
    (inv : c.inv w) (holds : R state.runId w) :
    x.wp c (fun next _ w => Ends R F (.goesOn next) () w) (fun _ _ => E) () w :=
  Act.wp_mono inv (Act.wp_yields follows (rule.wp_keeps only inv holds))
    (fun _ _ _ _ both => ends_of_follows both.1 both.2) fun _ _ _ _ => id

/-- The run is stopped as its schedule says. -/
theorem wp_stopScheduled (rule : SessionRule prims config c effects J A R F E) {runId : Uuid}
    (inv : c.inv w) (holds : R runId w) :
    (stopScheduled prims config runId).wp c (fun _ _ => F runId) (fun _ _ => E) () w :=
  Act.wp_bind.mpr (rule.stops inv holds)

/-- **The part before the loop.** -/
theorem wp_startSession (rule : SessionRule prims config c effects J A R F E) (inv : c.inv w)
    (holds : J w) : (startSession prims config).wp c (Ends R F) (fun _ _ => E) () w := by
  have waits : ∀ {α : Type} {x : Act calls Unit LiveRunError α} {w : World},
      x.Only (Op.Within quietEffects) → c.inv w → J w →
        x.wp c (fun _ _ => J) (fun _ _ => E) () w := fun only inv holds =>
    Act.wp_mono inv (Act.wp_preserves rule.waits only inv holds) (fun _ _ _ _ => id)
      fun _ _ _ inv => rule.unacquired inv
  refine Act.wp_bind.mpr (Act.wp_mono inv (waits (only_ask (by trivial)) inv holds) ?_
    fun _ _ _ _ => id)
  rintro now ⟨⟩ w₁ inv₁ holds₁
  refine Act.wp_bind.mpr (Act.wp_mono inv₁ (waits .rejectIf inv₁ holds₁) ?_ fun _ _ _ _ => id)
  rintro _ ⟨⟩ w₂ inv₂ holds₂
  refine Act.wp_bind.mpr (Act.wp_mono inv₂ (waits (only_askJournal (by trivial)) inv₂ holds₂) ?_
    fun _ _ _ _ => id)
  rintro _ ⟨⟩ w₃ inv₃ holds₃
  refine Act.wp_bind.mpr (Act.wp_mono inv₃ (waits only_askApi inv₃ holds₃) ?_ fun _ _ _ _ => id)
  rintro _ ⟨⟩ w₄ inv₄ holds₄
  refine Act.wp_bind.mpr (Act.wp_mono inv₄ (rule.acquires inv₄ holds₄) ?_ fun _ _ _ _ => id)
  rintro runId ⟨⟩ w₅ inv₅ acquired
  have prepares : (prepareTerms prims config runId).wp c (fun _ _ => A runId) (fun _ _ => E) () w₅ :=
    Act.wp_mono inv₅ (Act.wp_preserves (rule.prepares runId) only_prepareTerms inv₅ acquired)
      (fun _ _ _ _ => id) fun _ _ _ inv => rule.unbegun inv
  refine Act.wp_bind.mpr (Act.wp_mono inv₅ prepares ?_ fun _ _ _ _ => id)
  rintro terms ⟨⟩ w₆ inv₆ acquired₆
  refine Act.wp_bind.mpr (Act.wp_mono inv₆ (rule.begins inv₆ acquired₆) ?_ fun _ _ _ _ => id)
  rintro _ ⟨⟩ w₇ inv₇ begun
  have loops := rule.loops runId
  refine Act.wp_bind.mpr (Act.wp_mono inv₇
    (rule.wp_keeps (only_reconcileSession loops.reconciles) inv₇ begun) ?_ fun _ _ _ _ => id)
  rintro ⟨completedCycles, risk⟩ ⟨⟩ w₈ inv₈ begun₈
  dsimp only
  split
  · refine Act.wp_bind.mpr (Act.wp_mono inv₈ (rule.wp_stopScheduled inv₈ begun₈) ?_
      fun _ _ _ _ => id)
    exact fun _ _ _ _ ended => Act.wp_pure.mpr ended
  · refine Act.wp_bind.mpr (Act.wp_mono inv₈ (rule.wp_keeps only_connectStream inv₈ begun₈) ?_
      fun _ _ _ _ => id)
    rintro _ ⟨⟩ w₉ inv₉ begun₉
    refine Act.wp_bind.mpr (Act.wp_mono inv₉ (rule.wp_keeps (only_askVenue (by trivial)) inv₉ begun₉)
      ?_ fun _ _ _ _ => id)
    rintro books ⟨⟩ w₁₀ inv₁₀ begun₁₀
    refine Act.wp_bind.mpr (Act.wp_mono inv₁₀
      (rule.wp_keeps (only_resumeSession loops.resumes) inv₁₀ begun₁₀) ?_ fun _ _ _ _ => id)
    rintro recordedGate ⟨⟩ w₁₁ inv₁₁ begun₁₁
    refine Act.wp_bind.mpr (Act.wp_mono inv₁₁
      (rule.wp_keeps (only_ask (by exact loops.shared trivial)) inv₁₁ begun₁₁) ?_ fun _ _ _ _ => id)
    rintro _ ⟨⟩ w₁₂ inv₁₂ begun₁₂
    refine Act.wp_bind.mpr (Act.wp_mono inv₁₂ (rule.wp_keeps only_durationUntilCycle inv₁₂ begun₁₂)
      ?_ fun _ _ _ _ => id)
    exact fun _ _ _ _ begun => Act.wp_pure.mpr begun

/-- The gate is recorded, and a stop of the owner stops the run. -/
theorem wp_recordGate (rule : SessionRule prims config c effects J A R F E) (inv : c.inv w)
    (holds : R state.runId w) :
    (recordGate prims config state).wp c (Ends R F) (fun _ _ => E) () w := by
  have loops := rule.loops state.runId
  refine Act.wp_bind.mpr (Act.wp_mono inv
    (rule.wp_keeps (only_ask (by exact loops.shared trivial)) inv holds) ?_ fun _ _ _ _ => id)
  rintro current ⟨⟩ w₁ inv₁ holds₁
  split
  · exact Act.wp_pure.mpr holds₁
  · have records : ∀ type, type ≠ "run_stopped" →
        (appendLifecycle prims config state.runId type "authenticated_control").wp c
          (fun _ _ => R state.runId) (fun _ _ => E) () w₁ := fun type other =>
      rule.wp_keeps (only_appendSessionEvent (loops.events _ other)) inv₁ holds₁
    cases current with
    | running =>
      refine Act.wp_bind.mpr (Act.wp_mono inv₁ (records _ (by decide)) ?_ fun _ _ _ _ => id)
      exact fun _ _ _ _ holds => Act.wp_pure.mpr holds
    | paused =>
      refine Act.wp_bind.mpr (Act.wp_mono inv₁ (records _ (by decide)) ?_ fun _ _ _ _ => id)
      exact fun _ _ _ _ holds => Act.wp_pure.mpr holds
    | stopped =>
      refine Act.wp_bind.mpr (Act.wp_mono inv₁ (rule.stops inv₁ holds₁) ?_ fun _ _ _ _ => id)
      rintro _ ⟨⟩ w₂ inv₂ finishes
      refine Act.wp_bind.mpr (Act.wp_mono inv₂ finishes ?_ fun _ _ _ _ => id)
      exact fun _ _ _ _ ended => Act.wp_pure.mpr ended

theorem wp_lifecycleTick (rule : SessionRule prims config c effects J A R F E) (inv : c.inv w)
    (holds : R state.runId w) :
    (lifecycleTick prims config state).wp c (Ends R F) (fun _ _ => E) () w := by
  refine Act.wp_bind.mpr (Act.wp_mono inv (rule.wp_recordGate inv holds) ?_ fun _ _ _ _ => id)
  rintro turn ⟨⟩ w₁ inv₁ ends
  cases turn with
  | stopped runId => exact Act.wp_pure.mpr ends
  | goesOn recorded =>
    refine Act.wp_bind.mpr (Act.wp_mono inv₁ (rule.wp_follows
      (only_changeTerms (rule.loops recorded.runId).changes)
      (yields_changeTerms.mono fun _ => LiveRunState.Keeps.toFollows) inv₁ ends) ?_
      fun _ _ _ _ => id)
    exact fun _ _ _ _ ends => Act.wp_pure.mpr ends

theorem wp_cycleTick (rule : SessionRule prims config c effects J A R F E) (inv : c.inv w)
    (holds : R state.runId w) :
    (cycleTick prims config state).wp c (Ends R F) (fun _ _ => E) () w := by
  have looks : (scheduleOver config state).Only (Op.Within (effects state.runId)) :=
    only_scheduleOver
  refine Act.wp_bind.mpr (Act.wp_mono inv (rule.wp_keeps looks inv holds) ?_ fun _ _ _ _ => id)
  rintro scheduled ⟨⟩ w₁ inv₁ holds₁
  split
  · refine Act.wp_bind.mpr (Act.wp_mono inv₁ (rule.wp_stopScheduled inv₁ holds₁) ?_
      fun _ _ _ _ => id)
    exact fun _ _ _ _ ended => Act.wp_pure.mpr ended
  · refine Act.wp_bind.mpr (Act.wp_mono inv₁ (rule.wp_follows
      (only_takeCycle (rule.loops state.runId)) yields_takeCycle inv₁ holds₁) ?_ fun _ _ _ _ => id)
    exact fun _ _ _ _ ends => Act.wp_pure.mpr ends

/-- **A turn of the loop.** -/
theorem wp_tick (rule : SessionRule prims config c effects J A R F E) (inv : c.inv w)
    (holds : R state.runId w) :
    (tick prims config state).wp c (Ends R F) (fun _ _ => E) () w := by
  refine Act.wp_bind.mpr (Act.wp_mono inv
    (rule.wp_keeps (only_ask (by exact rule.selects state.runId)) inv holds) ?_ fun _ _ _ _ => id)
  rintro woken ⟨⟩ w₁ inv₁ holds₁
  cases woken with
  | lease =>
    refine Act.wp_bind.mpr (Act.wp_mono inv₁ (rule.wp_keeps only_leaseTick inv₁ holds₁) ?_
      fun _ _ _ _ => id)
    exact fun _ _ _ _ holds => Act.wp_pure.mpr holds
  | lifecycle => exact rule.wp_lifecycleTick inv₁ holds₁
  | cycle => exact rule.wp_cycleTick inv₁ holds₁
  | snapshot next =>
    refine Act.wp_bind.mpr (Act.wp_mono inv₁
      (rule.wp_follows only_snapshotTick
        (yields_snapshotTick.mono fun _ => LiveRunState.Keeps.toFollows) inv₁ holds₁) ?_
      fun _ _ _ _ => id)
    exact fun _ _ _ _ ends => Act.wp_pure.mpr ends

end SessionRule

namespace DaemonRule

variable {c : Contract calls World} {effects : Uuid → Effects} {J : World → Prop}
  {A R : Uuid → World → Prop} {E : World → Prop}

/-- What holds between two programs of the daemon. -/
def Between (J : World → Prop) (R : Uuid → World → Prop) (E : World → Prop) : Stage → World → Prop
  | .start, w => J w
  | .loop state, w => R state.runId w
  | .over _, w => E w

/-- `run_relay` goes on after the part before the loop, or after a turn. -/
theorem wp_afterTurn (rule : DaemonRule prims config c effects J A R E)
    {x : Act calls Unit LiveRunError Turn} (inv : c.inv w)
    (wp : x.wp c (SessionRule.Ends R fun _ => E) (fun _ _ => E) () w) :
    ((x.start ()).bind fun ended => afterTurn ended.1).wp c (Between J R E) w := by
  have drops : ∀ {call : SharedCall} {w : World}, ¬call.IsSession → c.inv w → E w →
      (request (.shared call)).wp c (fun _ => E) w := fun other inv ended =>
    Coroutine.wp_preserves rule.drops (only_request (by exact other)) inv ended
  unfold Act.wp at wp
  refine Coroutine.wp_bind.mpr (Coroutine.wp_mono inv wp ?_)
  rintro ⟨result, ⟨⟩⟩ w₁ inv₁ ends
  cases result with
  | ok turn =>
    cases turn with
    | goesOn next => exact ends
    | stopped runId =>
      refine Coroutine.wp_bind.mpr (Coroutine.wp_mono inv₁ (drops (fun session => session) inv₁ ends)
        ?_)
      exact fun _ _ _ ended => ended
  | error error =>
    refine Coroutine.wp_bind.mpr (Coroutine.wp_mono inv₁ (drops (fun session => session) inv₁ ends) ?_)
    intro _ w₂ inv₂ ended₂
    refine Coroutine.wp_bind.mpr (Coroutine.wp_mono inv₂ (drops (fun session => session) inv₂ ended₂)
      ?_)
    intro _ w₃ inv₃ ended₃
    refine Coroutine.wp_bind.mpr (Coroutine.wp_mono inv₃ (drops (fun session => session) inv₃ ended₃)
      ?_)
    exact fun _ _ _ ended => ended

/-- **Sessions.**  Every program of the daemon goes from what holds between two programs to what
holds between the next two. -/
theorem again (rule : DaemonRule prims config c effects J A R E) (ofWorld : OfWorld prims c)
    {stage : Stage} {prog : Prog calls Stage} (inv : c.inv w) (between : Between J R E stage w)
    (next : NextProgram prims config stage prog) : prog.wp c (Between J R E) w := by
  cases next with
  | start =>
    have lives : ∀ {live w}, c.inv w → J w →
        c.Calls (.shared (.setLive live)) (fun _ => J) w := fun inv holds =>
      wp_request.mp (Coroutine.wp_preserves rule.lives
        (only_request (by exact fun session => session)) inv holds)
    refine wp_startUp ofWorld rule.starts inv between ?_ ?_
    · intro w₁ inv₁ holds₁ _
      exact (lives inv₁ holds₁).mono fun _ _ inv₂ holds₂ => rule.unacquired inv₂ holds₂
    · intro w₁ inv₁ holds₁ _
      refine (lives inv₁ holds₁).mono fun _ w₂ inv₂ holds₂ => ?_
      exact Coroutine.wp_bind.mp (rule.wp_afterTurn inv₂ (rule.wp_startSession inv₂ holds₂))
  | loop state => exact rule.wp_afterTurn inv (rule.wp_tick inv between)
  | «over» stopped =>
    refine Coroutine.wp_bind.mpr (Coroutine.wp_mono inv
      (Coroutine.wp_preserves rule.idles (only_request (by trivial)) inv between) ?_)
    exact fun _ _ _ ended => ended

end DaemonRule

end CrowAgent
