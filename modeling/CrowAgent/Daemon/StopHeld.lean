import CrowAgent.Daemon.SessionRules
import CrowAgent.Daemon.StartRuns

/-!
# A stop holds

A stop of the owner closes the gate for good, and the live session that it finds ends with a
`run_stopped` event.  The paused state that a failure or a later pause writes over the stopped one
undoes this; `stopKept` excludes such writes.
-/

namespace CrowAgent

open Coroutine

variable {prims : Primitives} {config : DaemonConfig} {w w' : World} {op : Op}

/-- One process, in which nothing writes over a stopped gate: no relay session and no rotation fails
then, no pause is accepted, and the live session does not fail. -/
def stopKept (prims : Primitives) (config : DaemonConfig) : Happening → World → Prop
  | .event event, w => w.gate = .stopped →
      ¬event.Fails ∧ ∀ i, ¬w.Delivers prims config event i .pause
  | .call (.shared .storePaused), w => w.gate ≠ .stopped
  | .restart, _ => False
  | _, _ => True

/-! ## What is kept -/

/-- The chain of the run says that it is stopped. -/
def Record.HasStopped (r : Record) (runId : Uuid) : Prop :=
  ∃ event ∈ r.chainOf runId, event.eventType = "run_stopped"

/-- An accepted stop holds, and a session that stopped its run has recorded so. -/
structure World.StopHeld (w : World) : Prop where
  gate : ∀ i, (i, .stop) ∈ w.accepted → w.gate = .stopped
  recorded : ∀ runId, w.live = .over (some runId) → w.HasStopped runId

/-- A lifecycle tick that found the gate stopped was not the last one the session woke up for. -/
def World.TickOpen (w : World) : Prop := ∀ gate, w.lastTick = some (.lifecycle, gate) → gate ≠ .stopped

theorem Beside.hasStopped {runId : Uuid} (beside : Beside w w') (stopped : w.HasStopped runId) :
    w'.HasStopped runId := by
  rcases stopped with ⟨event, mem, type⟩
  exact ⟨event, beside.chainOf runId ▸ mem, type⟩

theorem World.Begins.hasStopped {runId : Uuid} (begins : World.Begins op w w')
    (stopped : w.HasStopped runId) : w'.HasStopped runId := by
  rcases stopped with ⟨event, mem, type⟩
  exact ⟨event, begins.chainOf runId ▸ mem, type⟩

theorem World.Answers.hasStopped {runId : Uuid} {answer : op.Res}
    (answers : World.Answers prims op w answer w') (stopped : w.HasStopped runId) :
    w'.HasStopped runId := by
  rcases stopped with ⟨event, mem, type⟩
  exact ⟨event, World.Answers.chainOf_subset answers runId mem, type⟩

/-- No call of a session opens a stopped gate. -/
theorem World.Answers.gate_stopped {answer : op.Res} (answers : World.Answers prims op w answer w')
    (within : op.Within sessionEffects) (stopped : w.gate = .stopped) : w'.gate = .stopped := by
  by_cases shared : ∃ call, op = .shared call
  · rcases shared with ⟨call, rfl⟩
    rw [answers.2]
    cases call with
    | apply action =>
      obtain rfl : action = .resume := within
      change (w.gate.apply .resume).2 = .stopped
      rw [stopped]
      rfl
    | storePaused => exact within.elim
    | _ => exact stopped
  · have control := World.Answers.control answers (fun call same => shared ⟨call, same⟩)
      fun command same => by
        subst same
        exact within.elim
    rw [congrArg Control.gate control.1]
    exact stopped

namespace World.StopHeld

/-- The events keep an accepted stop. -/
theorem happens (held : w.StopHeld) {event : DaemonEvent}
    (permitted : stopKept prims config (.event event) w)
    (happens : Happens prims config event w w') : w'.StopHeld := by
  have gate : ∀ i, (i, .stop) ∈ w'.accepted → w'.gate = .stopped := by
    intro i stop
    cases happens.gateMoves with
    | kept gate accepted => exact gate.trans (held.gate i (accepted ▸ stop))
    | fails fails gate accepted =>
      exact absurd fails (permitted (held.gate i (accepted ▸ stop))).1
    | @applied j action delivers takes gate accepted =>
      rw [accepted] at stop
      rcases List.mem_cons.mp stop with new | old
      · cases new
        exact gate
      · have stopped := held.gate i old
        cases action with
        | pause => exact absurd delivers ((permitted stopped).2 j)
        | stop => exact gate
        | resume =>
          rw [stopped] at takes
          cases takes
    | queued delivers paused active gate accepted =>
      rw [accepted] at stop
      rcases List.mem_cons.mp stop with new | old
      · cases new
      · exact absurd (paused.symm.trans (held.gate i old)) nofun
  refine ⟨gate, fun runId ended => happens.beside.hasStopped (held.recorded runId ?_)⟩
  exact happens.beside.live.symm.trans ended

/-- So does making a call. -/
theorem begins (held : w.StopHeld) (begins : World.Begins op w w') : w'.StopHeld := by
  have shared := begins.shared
  refine ⟨fun i stop => ?_, fun runId ended => begins.hasStopped (held.recorded runId ?_)⟩
  · rw [congrArg Shared.accepted shared] at stop
    exact (congrArg (fun shared => shared.gate) shared).trans (held.gate i stop)
  · exact (congrArg (fun shared => shared.live) shared).symm.trans ended

/-- And so does an answer to the session. -/
theorem answers (held : w.StopHeld) {answer : op.Res} (within : op.Within sessionEffects)
    (answers : World.Answers prims op w answer w') : w'.StopHeld := by
  refine ⟨fun i stop => ?_, fun runId ended => ?_⟩
  · rw [(World.Answers.commands answers).2.1] at stop
    exact World.Answers.gate_stopped answers within (held.gate i stop)
  · rw [World.Answers.live answers within] at ended
    exact World.Answers.hasStopped answers (held.recorded runId ended)

/-- A call of `run_relay` that leaves the gate alone. -/
theorem shares (held : w.StopHeld) {call : SharedCall} (gate : (w.shares call).gate = w.gate)
    (recorded : ∀ runId, (w.shares call).live = .over (some runId) → w.HasStopped runId) :
    (w.shares call).StopHeld :=
  ⟨fun i stop => gate.trans (held.gate i stop), recorded⟩

end World.StopHeld

/-! ## The contract -/

/-- How `run_relay` may drop its session. -/
def World.MayDrop : Op → World → Prop
  | .shared (.setLive (.over (some runId))), w => w.HasStopped runId
  | .shared (.setLive (.over none)), w => w.gate = .stopped → w.live = .awaited
  | .shared (.setLive .awaited), _ => False
  | _, _ => True

/-- The contract of an accepted stop. -/
def stops (prims : Primitives) (config : DaemonConfig) : Contract calls World :=
  .ofSystem (daemon prims config (stopKept prims config)).toSystem World.StopHeld World.MayDrop
    fun inv ⟨_, permitted, happens⟩ => inv.happens permitted happens

theorem stops_ofWorld : OfWorld prims (stops prims config) :=
  ⟨fun begins => begins.2, fun answers => answers⟩

theorem mayDrop_of_session (within : op.Within sessionEffects) : w.MayDrop op := by
  cases op with
  | shared call =>
    cases call with
    | setLive live => exact within.elim
    | _ => trivial
  | _ => trivial

/-- Others change nothing that every step of theirs leaves alone. -/
theorem stops_rely {I : World → Prop}
    (keeps : ∀ {event w w'}, I w → Happens prims config event w w' → I w') (holds : I w)
    (steps : (stops prims config).rely w w') : I w' := by
  have acts : Relation.ReflTransGen (stops prims config).sys.env w w' := steps
  clear steps
  induction acts with
  | refl => exact holds
  | tail _ acts ih =>
    rcases acts with ⟨event, -, happens⟩
    exact keeps ih happens

/-- A session lives as long as it is polled. -/
theorem stops_session :
    (stops prims config).Preserves (Op.Within sessionEffects) fun w => w.live = .running where
  rely := fun _ live => stops_rely (fun live happens => happens.beside.live.trans live) live
  pre := fun within _ _ => mayDrop_of_session within
  begins := fun _ inv live begins =>
    ⟨inv.begins begins.2, (congrArg (fun shared => shared.live) begins.2.shared).trans live⟩
  answers := fun within inv live answers =>
    ⟨inv.answers within answers.2, (World.Answers.live answers.2 within).trans live⟩

/-- What a chain says stays in it. -/
theorem stops_hasStopped (runId : Uuid) :
    (stops prims config).Preserves (Op.Within sessionEffects) fun w => w.HasStopped runId where
  rely := fun _ stopped => stops_rely (fun stopped happens => happens.beside.hasStopped stopped) stopped
  pre := fun within _ _ => mayDrop_of_session within
  begins := fun _ inv stopped begins => ⟨inv.begins begins.2, begins.2.hasStopped stopped⟩
  answers := fun within inv stopped answers =>
    ⟨inv.answers within answers.2, World.Answers.hasStopped answers.2 stopped⟩

/-- What a session does between two turns of its loop. -/
def turnEffects : Effects := { sessionEffects with selects := False }

theorem turnEffects_serves : turnEffects.Serves config :=
  ⟨fun _ _ => trivial, fun _ => trivial, fun _ => trivial, fun session => session, fun _ => trivial⟩

theorem turnEffects_le : turnEffects.Le sessionEffects where
  events := id
  keys := id
  weighs := id
  shared := id
  cycles := id
  selects := False.elim

theorem quietEffects_le {effects : Effects} : quietEffects.Le effects where
  events := False.elim
  keys := False.elim
  weighs := False.elim
  shared := False.elim
  cycles := False.elim
  selects := False.elim

/-- The session sleeps only between two turns. -/
theorem stops_tickOpen :
    (stops prims config).Preserves (Op.Within turnEffects) World.TickOpen where
  rely := fun _ isOpen => stops_rely
    (fun isOpen happens gate last => isOpen gate (happens.beside.lastTick.symm.trans last)) isOpen
  pre := fun within _ _ => mayDrop_of_session (within.mono turnEffects_le)
  begins := fun _ inv isOpen begins => ⟨inv.begins begins.2, fun gate last =>
    isOpen gate ((congrArg Shared.lastTick begins.2.shared).symm.trans last)⟩
  answers := by
    intro op w w' answer within inv isOpen answers
    have other : op ≠ .select := by
      intro same
      subst same
      exact within.elim
    refine ⟨inv.answers (within.mono turnEffects_le) answers.2, fun gate last => isOpen gate ?_⟩
    rwa [World.Answers.lastTick answers.2 other] at last

/-! ## The programs -/

/-- **A stopped run.**  The run is recorded as stopped before the session ends. -/
theorem stops_rule : SessionRule prims config (stops prims config) (fun _ => sessionEffects)
    (fun w => w.live = .running) (fun _ w => w.live = .running) (fun _ w => w.live = .running)
    (fun runId w => w.live = .running ∧ w.HasStopped runId) (fun w => w.live = .running) where
  loops := fun _ => (show sessionEffects.Session config from sessionEffects_session).loops
  selects := fun _ => trivial
  waits := stops_session.mono fun _ => Op.Within.mono quietEffects_le
  acquires := fun inv live => Act.wp_preserves stops_session
    (only_acquireRun (by trivial) (by trivial)) inv live
  prepares := fun _ => stops_session.mono fun _ => Op.Within.mono quietEffects_le
  begins := fun inv live => Act.wp_preserves stops_session
    (only_initializeEventChain fun _ _ => trivial) inv live
  keeps := fun _ => stops_session
  stops := by
    intro runId source w inv live
    have quiet : ∀ {I : World → Prop}, (stops prims config).Preserves (Op.Within sessionEffects) I →
        (stops prims config).Preserves (Op.Within quietEffects) I := fun preserves =>
      preserves.mono fun _ => Op.Within.mono quietEffects_le
    have both := stops_session.and (@stops_hasStopped prims config runId)
    refine Act.wp_mono inv (stops_ofWorld.wp_appendSessionEvent (quiet stops_session) (quiet both)
      (fun _ _ _ _ _ => trivial) ?_ inv live) ?_ ?_
    · intro w event journal run type _ inv live added
      have answers : World.Answers prims (.journal (.append event .null)) w (.ok ())
          { w with journal } := .inl ⟨(congrArg Prod.fst added).symm, by
            rw [show (JournalCall.append event .null).run prims w.journal = _ from added]⟩
      have chain := EncryptedJournal.chainOf_append (r := w.toRecord) added runId
      rw [if_pos run] at chain
      have within : (Op.journal (.append event .null)).Within sessionEffects := trivial
      refine ⟨inv.answers within answers, live, event, ?_, type⟩
      exact chain ▸ List.mem_append_right _ (List.mem_singleton_self _)
    · intro _ _ w inv stopped
      have finishes : (finishRun config runId : Act calls Unit _ _).Only (Op.Within sessionEffects) :=
        only_finishRun sessionEffects_session.finishes
      exact Act.wp_mono inv (Act.wp_preserves both finishes inv stopped) (fun _ _ _ _ => id)
        fun _ _ _ _ ended => ended.1
    · intro _ _ w _ ended
      rcases ended with live | stopped
      · exact live
      · exact stopped.1
  unacquired := fun _ => id
  unbegun := fun _ => id
  fails := fun _ => id

/-- A part of a session that does not wake up. -/
theorem stops_wp_tickOpen {α : Type} {x : Act calls Unit LiveRunError α}
    (only : x.Only (Op.Within turnEffects)) (inv : w.StopHeld) (isOpen : w.TickOpen) :
    x.wp (stops prims config) (fun _ _ => World.TickOpen) (fun _ _ => World.TickOpen) () w :=
  Act.wp_preserves stops_tickOpen only inv isOpen

/-- A turn of the loop does not go on after a lifecycle tick that found the gate stopped. -/
theorem stops_wp_tick {state : LiveRunState} (inv : w.StopHeld)
    (recorded : state.recordedGate ≠ .stopped) :
    (tick prims config state).wp (stops prims config)
      (fun turn _ w => match turn with
        | .goesOn _ => w.TickOpen
        | .stopped _ => True)
      (fun _ _ _ => True) () w := by
  have woken : (ask .select : Act calls Unit LiveRunError Tick).wp (stops prims config)
      (fun tick _ w' => w'.lastTick = some (tick, w'.gate)) (fun _ _ _ => True) () w := by
    refine wp_ask.mpr (Contract.calls_await rfl trivial (fun begins => inv.begins begins.2) ?_)
    intro w₁ w₂ tick w' _ _ inv₂ answers
    obtain rfl : w' = { w₂ with lastTick := some (tick, w₂.gate) } := answers.2
    exact ⟨⟨inv₂.gate, inv₂.recorded⟩, rfl⟩
  refine Act.wp_bind.mpr (Act.wp_mono inv woken ?_ fun _ _ _ _ => id)
  intro tick _ w₁ inv₁ last
  have goes : ∀ {x : Act calls Unit LiveRunError Turn} {w : World},
      x.Only (Op.Within turnEffects) → w.StopHeld → w.TickOpen →
      x.wp (stops prims config) (fun turn _ w => match turn with
        | .goesOn _ => w.TickOpen
        | .stopped _ => True) (fun _ _ _ => True) () w := fun only inv isOpen =>
    Act.wp_mono inv (stops_wp_tickOpen only inv isOpen)
      (fun turn _ _ _ isOpen => by cases turn <;> trivial) fun _ _ _ _ _ => trivial
  have other : tick ≠ .lifecycle → w₁.TickOpen := by
    intro different gate same
    exact absurd (congrArg Prod.fst (Option.some.inj (last.symm.trans same))) different
  cases tick with
  | lease => exact goes (only_leaseTick.bind fun _ => .pure) inv₁ (other nofun)
  | cycle => exact goes (only_cycleTick turnEffects_serves) inv₁ (other nofun)
  | snapshot next => exact goes (only_snapshotTick.bind fun _ => .pure) inv₁ (other nofun)
  | lifecycle =>
    by_cases stopped : w₁.gate = .stopped
    · have records : (recordGate prims config state).wp (stops prims config)
          (fun turn _ _ => turn = .stopped state.runId) (fun _ _ _ => True) () w₁ := by
        refine Act.wp_bind.mpr (wp_ask.mpr (stops_ofWorld.calls_shared (by trivial) inv₁
          fun _ => ⟨inv₁, ?_⟩))
        change Act.wp _ (if w₁.gate = state.recordedGate then _ else _) _ _ _ _
        rw [stopped, if_neg fun same => recorded same.symm]
        have any : ∀ {α : Type} {x : Act calls Unit LiveRunError α} {w : World},
            x.Only (Op.Within sessionEffects) → w.StopHeld →
              x.wp (stops prims config) (fun _ _ _ => True) (fun _ _ _ => True) () w := by
          intro α x w only inv
          refine Act.wp_preserves ⟨fun _ _ _ => trivial, fun within _ _ => mayDrop_of_session within,
            fun _ inv _ begins => ⟨inv.begins begins.2, trivial⟩,
            fun within inv _ answers => ⟨inv.answers within answers.2, trivial⟩⟩ only inv trivial
        refine Act.wp_bind.mpr (Act.wp_mono inv₁ (any (only_appendSessionEvent trivial) inv₁) ?_
          fun _ _ _ _ => id)
        intro _ _ w₂ inv₂ _
        change Act.wp _ (if w₁.gate = .stopped then _ else _) _ _ _ _
        rw [if_pos stopped]
        refine Act.wp_bind.mpr (Act.wp_mono inv₂ (any
          (only_finishRun sessionEffects_session.finishes) inv₂) ?_ fun _ _ _ _ => id)
        exact fun _ _ _ _ _ => Act.wp_pure.mpr rfl
      refine Act.wp_bind.mpr (Act.wp_mono inv₁ records ?_ fun _ _ _ _ => id)
      intro turn _ w₂ _ ended
      subst ended
      exact Act.wp_pure.mpr trivial
    · have isOpen : w₁.TickOpen := by
        intro gate same
        have seen := congrArg Prod.snd (Option.some.inj (last.symm.trans same))
        exact fun closed => stopped (seen.trans closed)
      exact goes (only_lifecycleTick turnEffects_serves.manages) inv₁ isOpen

/-- The state that a session takes for recorded is never the stopped one. -/
def Turn.Unstopped : Turn → Prop
  | .goesOn state => state.recordedGate ≠ .stopped
  | .stopped _ => True

theorem yields_resumeSession {runId : Uuid} :
    (resumeSession prims config runId).Yields fun gate => gate ≠ .stopped := by
  apply Act.Yields.after
  intro resume
  split
  · apply Act.Yields.after
    intro _
    exact Act.Yields.after fun _ => .pure nofun
  · exact .pure nofun

theorem yields_startSession : (startSession prims config).Yields Turn.Unstopped := by
  apply Act.Yields.after
  intro now
  apply Act.Yields.after
  intro _
  apply Act.Yields.after
  intro _
  apply Act.Yields.after
  intro _
  apply Act.Yields.after
  intro runId
  apply Act.Yields.after
  intro terms
  apply Act.Yields.after
  intro _
  apply Act.Yields.after
  intro reconciled
  rcases reconciled with ⟨completedCycles, risk⟩
  dsimp only
  split
  · exact Act.Yields.after fun _ => .pure trivial
  · apply Act.Yields.after
    intro _
    apply Act.Yields.after
    intro books
    refine yields_resumeSession.bind fun recordedGate notStopped => ?_
    apply Act.Yields.after
    intro _
    exact Act.Yields.after fun _ => .pure notStopped

/-- What holds between two programs. -/
def World.StopStage : Stage → World → Prop
  | .start, w => w.live = .awaited ∧ w.TickOpen
  | .loop state, w => w.live = .running ∧ state.recordedGate ≠ .stopped ∧ w.TickOpen
  | .over _, _ => True

/-- `run_relay` after a turn, or after the part before the loop. -/
theorem stops_wp_afterTurn {ended : Except LiveRunError Turn} (inv : w.StopHeld)
    (live : w.live = .running)
    (goesOn : ∀ state, ended = .ok (.goesOn state) → state.recordedGate ≠ .stopped ∧ w.TickOpen)
    (stopped : ∀ runId, ended = .ok (.stopped runId) → w.HasStopped runId) :
    (afterTurn ended).wp (stops prims config) World.StopStage w := by
  cases ended with
  | ok turn =>
    cases turn with
    | goesOn state => exact ⟨live, goesOn state rfl⟩
    | stopped runId =>
      have recorded := stopped runId rfl
      refine Coroutine.wp_bind.mpr (wp_request.mpr (stops_ofWorld.calls_shared (by exact recorded)
        inv fun _ => ⟨inv.shares rfl fun other same => ?_, trivial⟩))
      obtain rfl : runId = other := Option.some.inj (LiveSession.over.inj same)
      exact recorded
  | error error =>
    have noted : (w.shares (.setLastError error.failureCode)).StopHeld := inv.shares rfl inv.recorded
    refine Coroutine.wp_bind.mpr (wp_request.mpr (stops_ofWorld.calls_shared (by trivial) inv
      fun _ => ⟨noted, ?_⟩))
    refine Coroutine.wp_bind.mpr (wp_request.mpr (stops_ofWorld.calls_shared (by trivial) noted
      fun begins => ?_))
    have notStopped : w.gate ≠ .stopped := begins.1
    have paused : ((w.shares (.setLastError error.failureCode)).shares .storePaused).StopHeld :=
      ⟨fun i stop => absurd (inv.gate i stop) notStopped, inv.recorded⟩
    refine ⟨paused, Coroutine.wp_bind.mpr (wp_request.mpr (stops_ofWorld.calls_shared
      (by exact fun closed => ExecutionState.noConfusion closed) paused fun _ => ⟨?_, trivial⟩))⟩
    exact paused.shares rfl nofun

/-- What the part before the loop, or a turn, leaves for `run_relay`. -/
theorem stops_wp_session {x : Act calls Unit LiveRunError Turn} (inv : w.StopHeld)
    (wp : x.wp (stops prims config)
      (SessionRule.Ends (fun _ w => w.live = .running)
        fun runId w => w.live = .running ∧ w.HasStopped runId)
      (fun _ _ w => w.live = .running) () w)
    (ticks : x.wp (stops prims config)
      (fun turn _ w => match turn with
        | .goesOn _ => w.TickOpen
        | .stopped _ => True) (fun _ _ _ => True) () w)
    (unstopped : x.Yields Turn.Unstopped) :
    ((x.start ()).bind fun ended => afterTurn ended.1).wp (stops prims config) World.StopStage
      w := by
  have all := Act.wp_yields unstopped (Act.wp_and wp ticks)
  unfold Act.wp at all
  refine Coroutine.wp_bind.mpr (Coroutine.wp_mono inv all ?_)
  intro ended w₁ inv₁ ends
  rcases ended with ⟨result, ⟨⟩⟩
  cases result with
  | ok turn =>
    cases turn with
    | goesOn state =>
      refine stops_wp_afterTurn inv₁ ends.2.1 (fun next same => ?_) nofun
      cases same
      exact ⟨ends.1, ends.2.2⟩
    | stopped runId =>
      refine stops_wp_afterTurn inv₁ ends.2.1.1 nofun fun other same => ?_
      cases same
      exact ends.2.1.2
  | error error => exact stops_wp_afterTurn inv₁ ends.1 nofun nofun

/-- Before a process looks at the gate its session is awaited. -/
theorem stops_start :
    (stops prims config).Preserves (Op.Within startEffects)
      fun w => w.live = .awaited ∧ w.TickOpen where
  rely := by
    intro w w' _ holds changed
    have keeps : ∀ {event w w'}, w.live = .awaited ∧ w.TickOpen →
        Happens prims config event w w' → w'.live = .awaited ∧ w'.TickOpen := by
      intro event w w' holds happens
      exact ⟨happens.beside.live.trans holds.1, fun gate last =>
        holds.2 gate (happens.beside.lastTick.symm.trans last)⟩
    exact stops_rely keeps holds changed
  pre := by
    intro op w within _ _
    cases op with
    | shared call =>
      obtain rfl : call = .label := within
      trivial
    | _ => trivial
  begins := fun _ inv holds begins =>
    ⟨inv.begins begins.2, (congrArg (fun shared => shared.live) begins.2.shared).trans holds.1,
      fun gate last => holds.2 gate ((congrArg Shared.lastTick begins.2.shared).symm.trans last)⟩
  answers := by
    intro op w w' answer within inv holds answers
    have control := World.Answers.startControl answers.2 within
    have other : op ≠ .select := by
      intro same
      subst same
      exact within.elim
    have last := World.Answers.lastTick answers.2 other
    refine ⟨⟨fun i stop => ?_, fun runId ended => ?_⟩, ?_, fun gate same => holds.2 gate ?_⟩
    · rw [(World.Answers.commands answers.2).2.1] at stop
      exact (congrArg Control.gate control).trans (inv.gate i stop)
    · exact World.Answers.hasStopped answers.2
        (inv.recorded runId ((congrArg Control.live control).symm.trans ended))
    · exact (congrArg Control.live control).trans holds.1
    · exact last.symm.trans same

/-- The programs of a process keep an accepted stop. -/
theorem stops_meets :
    (daemon prims config (stopKept prims config)).Meets (stops prims config)
      World.StopStage where
  system := rfl
  again := by
    intro stage prog w inv between next
    cases next with
    | start =>
      refine wp_startUp stops_ofWorld stops_start inv between ?_ ?_
      · intro w inv holds _
        exact stops_ofWorld.calls_shared (by exact fun _ => holds.1) inv
          fun _ => ⟨inv.shares rfl nofun, trivial⟩
      · intro w inv holds _
        have inv' : (w.shares (.setLive .running)).StopHeld := inv.shares rfl nofun
        refine stops_ofWorld.calls_shared (by trivial) inv fun _ => ⟨inv', ?_⟩
        refine Coroutine.wp_bind.mp (stops_wp_session inv' (stops_rule.wp_startSession inv' rfl) ?_
          yields_startSession)
        refine Act.wp_mono inv' (stops_wp_tickOpen (only_startSession turnEffects_serves) inv' holds.2)
          (fun turn _ _ _ isOpen => ?_) fun _ _ _ _ _ => trivial
        cases turn with
        | goesOn state => exact isOpen
        | stopped runId => trivial
    | loop state =>
      refine stops_wp_session inv (stops_rule.wp_tick inv between.1) (stops_wp_tick inv between.2.1) ?_
      refine yields_tick.mono fun turn follows => ?_
      cases turn with
      | goesOn next => exact LiveRunState.Follows.recorded follows between.2.1
      | stopped runId => trivial
    | «over» stopped =>
      refine Coroutine.wp_bind.mpr (wp_request.mpr (Contract.calls_await rfl trivial
        (fun begins => inv.begins begins.2) ?_))
      intro w₁ w₂ answer w' _ _ inv₂ answers
      obtain rfl : w' = w₂ := answers.2
      exact ⟨inv₂, trivial⟩
  crash := fun _ crashes => crashes.2.1.elim

/-! ## The session that a stop finds -/

/-- The session lives, or it has stopped its run. -/
def LiveSession.Ends (live : LiveSession) : Prop := live = .running ∨ ∃ runId, live = .over (some runId)

/-- A stop was accepted, and the session it found lives or has stopped its run. -/
structure World.StopFound (w : World) : Prop where
  accepted : ∃ i, (i, .stop) ∈ w.accepted
  live : w.live.Ends

/-- Accepted commands stay accepted. -/
theorem Happens.accepted_subset {event : DaemonEvent} (happens : Happens prims config event w w') :
    w.accepted ⊆ w'.accepted := by
  cases happens.gateMoves with
  | kept gate accepted => exact accepted ▸ List.Subset.refl _
  | fails fails gate accepted => exact accepted ▸ List.Subset.refl _
  | applied delivers takes gate accepted => exact accepted ▸ List.subset_cons_self ..
  | queued delivers paused active gate accepted => exact accepted ▸ List.subset_cons_self ..

/-- Only `run_relay` says how its session is. -/
theorem World.Answers.live_of_other {answer : op.Res} (answers : World.Answers prims op w answer w')
    (other : ∀ live, op ≠ .shared (.setLive live)) : w'.live = w.live := by
  by_cases shared : ∃ call, op = .shared call
  · rcases shared with ⟨call, rfl⟩
    rw [answers.2]
    cases call with
    | setLive live => exact absurd rfl (other live)
    | _ => rfl
  · by_cases remote : ∃ command, op = .applyRemote command
    · rcases remote with ⟨command, rfl⟩
      rw [answers.2]
    · have control := World.Answers.control answers (fun call same => shared ⟨call, same⟩)
        fun command same => remote ⟨command, same⟩
      exact congrArg Control.live control.1

/-- **Step.**  A session that was found by a stop ends in no other way. -/
theorem World.StopFound.step {a b : Config calls World Stage} (found : a.2.StopFound)
    (safe : Config.Safe (stops prims config) World.StopStage a)
    (called : Config.Called (stops prims config) a)
    (step : Step (daemon prims config (stopKept prims config)) a b) : b.2.StopFound := by
  cases step with
  | issue begins =>
    have shared := begins.2.shared
    refine ⟨?_, ?_⟩
    · rw [congrArg Shared.accepted shared]
      exact found.accepted
    · rw [congrArg (fun shared => shared.live) shared]
      exact found.live
  | @resume op next w w' answer answers =>
    refine ⟨?_, ?_⟩
    · rw [(World.Answers.commands answers.2).2.1]
      exact found.accepted
    · by_cases drops : ∃ live, op = .shared (.setLive live)
      · rcases drops with ⟨live, rfl⟩
        rcases called rfl with ⟨w₀, inv, allowed, begins⟩
        have shared : w.toShared = w₀.toShared := begins.2.shared
        rw [answers.2.2]
        change live.Ends
        cases live with
        | awaited => exact allowed.elim
        | running => exact .inl rfl
        | «over» stopped =>
          cases stopped with
          | some runId => exact .inr ⟨runId, rfl⟩
          | none =>
            rcases found.accepted with ⟨i, stop⟩
            have accepted : (i, .stop) ∈ w₀.accepted := by
              rw [← congrArg Shared.accepted shared]
              exact stop
            have live := found.live
            rw [congrArg (fun shared => shared.live) shared, allowed (inv.gate i accepted)] at live
            rcases live with same | ⟨runId, same⟩ <;> cases same
      · rw [World.Answers.live_of_other answers.2 fun live same => drops ⟨live, same⟩]
        exact found.live
  | others awaits acts =>
    rcases acts with ⟨event, -, happens⟩
    rcases found.accepted with ⟨i, stop⟩
    exact ⟨⟨i, happens.accepted_subset stop⟩, happens.beside.live ▸ found.live⟩
  | again follows => exact found
  | crash crashes => exact crashes.2.1.elim

/-- A stop that was accepted stays accepted. -/
theorem stop_stays_accepted {a b : Config calls World Stage}
    (reached : Reach (daemon prims config (stopKept prims config)) a b) :
    a.2.accepted ⊆ b.2.accepted := by
  induction reached with
  | refl => exact List.Subset.refl _
  | tail _ step ih =>
    refine List.Subset.trans ih ?_
    cases step with
    | issue begins => exact congrArg Shared.accepted begins.2.shared ▸ List.Subset.refl _
    | resume answers => exact (World.Answers.commands answers.2).2.1 ▸ List.Subset.refl _
    | others awaits acts =>
      rcases acts with ⟨event, -, happens⟩
      exact happens.accepted_subset
    | again follows => exact List.Subset.refl _
    | crash crashes => exact crashes.2.1.elim

/-- **A stop holds.**  In all runs of one process in which nothing writes over a stopped gate: once a
stop was accepted, the gate is never running again, the session that it found lives until it has
recorded the stop of its run, and a lifecycle tick that finds the gate stopped does not go on with the
loop. -/
theorem accepted_stop_holds {w₀ : World} {config' later : Config calls World Stage}
    (fresh : w₀.toControl = .new) (asleep : w₀.lastTick = none)
    (unstopped : ∀ i, (i, .stop) ∉ w₀.accepted)
    (reached : DaemonReaches prims config (stopKept prims config) w₀ config')
    (accepted : ∃ i, (i, .stop) ∈ config'.2.accepted)
    (goesOn : Reach (daemon prims config (stopKept prims config)) config' later) :
    (SharedCall.isRunning.run later.2.toControl).1 = false ∧
      (config'.2.live = .running → later.2.live = .running ∨
        ∃ runId, later.2.live = .over (some runId) ∧ later.2.HasStopped runId) ∧
      ∀ state gate, later.1 = .running (.done (.loop state)) →
        later.2.lastTick = some (.lifecycle, gate) → gate ≠ .stopped := by
  have start : w₀.StopHeld := by
    refine ⟨fun i stop => absurd stop (unstopped i), fun runId ended => ?_⟩
    rw [fresh] at ended
    cases ended
  have between : World.StopStage .start w₀ := by
    refine ⟨by rw [fresh]; rfl, fun gate last => ?_⟩
    rw [asleep] at last
    cases last
  have safe := stops_meets.sound_between start between reached
  have later' := stops_meets.sound safe goesOn
  refine ⟨?_, fun live => ?_, ?_⟩
  · rcases accepted with ⟨i, stop⟩
    have stopped := later'.inv.gate i (stop_stays_accepted goesOn stop)
    change decide (later.2.gate = .running) = false
    rw [stopped]
    rfl
  · have called : Config.Called (stops prims config) config' := by
      rcases Relation.ReflTransGen.cases_tail reached with same | ⟨before, reaches, last⟩
      · rw [same]
        trivial
      · exact stops_meets.called (stops_meets.sound_between start between reaches) last
    have found : later.2.StopFound ∧ Config.Safe (stops prims config) World.StopStage later ∧
        Config.Called (stops prims config) later := by
      clear later'
      induction goesOn with
      | refl => exact ⟨⟨accepted, .inl live⟩, safe, called⟩
      | tail _ last ih =>
        rcases ih with ⟨found, safe, called⟩
        exact ⟨found.step safe called last, stops_meets.sound safe (.single last),
          stops_meets.called safe last⟩
    rcases found.1.live with running | ⟨runId, ended⟩
    · exact .inl running
    · exact .inr ⟨runId, ended, later'.inv.recorded runId ended⟩
  · intro state gate here last
    rcases later with ⟨thread, w⟩
    subst here
    exact later'.2.2.2 gate last

/-- The theorem at a run in which a stop is accepted before the session starts. -/
theorem sample_stop_holds :
    ∃ config', DaemonReaches countingPrimitives sampleConfig
        (stopKept countingPrimitives sampleConfig) startingWorld config' ∧
      config'.2.accepted = [(0, .stop)] ∧
        (SharedCall.isRunning.run config'.2.toControl).1 = false := by
  obtain ⟨next, reached⟩ := reach_sampleRequest .stop 1
    (stopKept countingPrimitives sampleConfig) trivial
    (fun stopped => absurd stopped (by decide)) fun stopped => absurd stopped (by decide)
  have passes : (sampleRequest .stop 1).Passes countingPrimitives sampleConfig.companionSecret
      startingWorld.toControl := ⟨verify_sampleRequest, by decide⟩
  have taken := World.takeCompanion_of_takes (i := 0)
    (w := { startingWorld with issued := [.companion (sampleRequest .stop 1)] }) passes rfl rfl rfl
  have accepted := congrArg (·.accepted) taken
  refine ⟨_, reached, accepted, ?_⟩
  exact (accepted_stop_holds rfl rfl (fun _ stop => List.not_mem_nil stop) reached
    ⟨0, accepted ▸ List.mem_singleton_self _⟩ .refl).1

/-! ## A stop that is written over -/

/-- The sample daemon asks for its run. -/
theorem reach_startRun {permits : Happening → World → Prop}
    (calls : ∀ op w, permits (.call op) w) :
    ∃ next, DaemonReaches countingPrimitives sampleConfig permits startingWorld
      (.waiting (.api (.startRun sampleConfig.liveArena.startRequest)) next,
        startingWorld.connected "") := by
  have leads : (startSession countingPrimitives sampleConfig).LeadsTo (alone countingPrimitives) ()
      (startingWorld.connected "") (.api (.startRun sampleConfig.liveArena.startRequest))
      (startingWorld.connected "") :=
    leadsTo_startRun startingWorld.clock (by decide) rfl rfl
  obtain ⟨next, reached⟩ := @reach_of_leadsTo _ sampleConfig _ _ _ _ _ (fun op w _ => calls op w)
    Prog.only_true _ (leadsTo_startUp rfl (by decide) leads)
  have start : DaemonReaches countingPrimitives sampleConfig permits startingWorld
      (.running (startUp countingPrimitives sampleConfig), startingWorld) := .single (.again .start)
  exact ⟨next, (start.trans reached).tail (.issue ⟨calls _ _, rfl⟩)⟩

/-- A stop is accepted, the relay session fails, and a resume that comes after it reconnects opens the
gate. -/
theorem stop_undone :
    ∃ config', DaemonReaches countingPrimitives sampleConfig oneProcess startingWorld config' ∧
      (0, .stop) ∈ config'.2.accepted ∧
        (SharedCall.isRunning.run config'.2.toControl).1 = true := by
  obtain ⟨next, waits⟩ := @reach_startRun oneProcess fun _ _ => trivial
  let commands : List Command :=
    [.companion (sampleRequest .stop 1), .companion (sampleRequest .resume 2)]
  let w : World := { startingWorld.connected "" with issued := commands }
  have issued : DaemonReaches countingPrimitives sampleConfig oneProcess startingWorld
      (.waiting _ next, w) :=
    (waits.tail (.others rfl ⟨.issue _, trivial, .issue _ _⟩)).tail
      (.others rfl ⟨.issue _, trivial, .issue _ _⟩)
  have stops := issued.tail (.others rfl ⟨.companion 0, trivial, .companion rfl⟩)
  have stopPasses : (sampleRequest .stop 1).Passes countingPrimitives sampleConfig.companionSecret
      w.toControl := ⟨verify_sampleRequest, by decide⟩
  rw [World.takeCompanion_of_takes stopPasses rfl rfl rfl] at stops
  have reconnects := (stops.tail (.others rfl ⟨.relayFails, trivial, .relayFails rfl⟩)).tail
    (.others rfl ⟨.reconnects, trivial, .reconnects rfl⟩)
  have resumes := reconnects.tail (.others rfl ⟨.companion 1, trivial, .companion rfl⟩)
  have resumePasses : (sampleRequest .resume 2).Passes countingPrimitives
      sampleConfig.companionSecret { w.toControl with
        gate := .paused
        lastError := none
        highestNonce := 1 } := ⟨verify_sampleRequest, by decide⟩
  rw [World.takeCompanion_of_takes (by exact resumePasses) rfl rfl rfl] at resumes
  exact ⟨_, resumes, List.mem_cons_of_mem _ (List.mem_singleton_self _), rfl⟩

end CrowAgent
