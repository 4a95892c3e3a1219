import CrowAgent.Daemon.StartRuns

/-!
# The gate and the live session

A running gate is meant to have a live session behind it.  It loses the session when a session ends
with the gate open, and it is opened without one by a resume that comes before the session has started
or after it has ended; `whileLive` excludes these.
-/

namespace CrowAgent

open Coroutine

variable {prims : Primitives} {config : DaemonConfig} {w w' : World}

/-- One process, in which a resume comes to a paused gate only while the session lives, and in which a
session that stops its run leaves no gate open. -/
def whileLive (prims : Primitives) (config : DaemonConfig) : Happening → World → Prop
  | .event event, w => ∀ i, w.Delivers prims config event i .resume → w.gate = .paused →
      w.live = .running
  | .call (.shared (.setLive (.over (some _)))), w => w.gate ≠ .running
  | .restart, _ => False
  | _, _ => True

/-- A running gate has a live session. -/
def World.Attended (w : World) : Prop := w.gate = .running → w.live = .running

/-- The events keep a running gate attended. -/
theorem World.Attended.happens (attended : w.Attended) {event : DaemonEvent}
    (permitted : whileLive prims config (.event event) w)
    (happens : Happens prims config event w w') : w'.Attended := by
  intro running
  rw [happens.beside.live]
  cases happens.gateMoves with
  | kept gate accepted pending => exact attended (gate ▸ running)
  | fails fails gate => exact absurd running (gate ▸ nofun)
  | @applied i action delivers takes gate =>
    by_cases before : w.gate = .running
    · exact attended before
    · obtain ⟨rfl, -⟩ := ExecutionState.eq_resume_of_apply_running before (gate ▸ running)
      refine permitted i delivers ?_
      cases state : w.gate with
      | paused => rfl
      | running => exact absurd state before
      | stopped =>
        rw [state] at takes
        cases takes
  | queued delivers paused active gate => exact attended (gate ▸ running)

theorem World.Attended.of_control (attended : w.Attended) (same : w'.toControl = w.toControl) :
    w'.Attended := by
  intro running
  have gate := congrArg Control.gate same
  exact (congrArg Control.live same).trans (attended (gate.symm.trans running))

/-- The contract of an attended gate. -/
def attends (prims : Primitives) (config : DaemonConfig) : Contract calls World :=
  .ofSystem (daemon prims config (whileLive prims config)).toSystem World.Attended
    (fun _ _ => True) fun inv ⟨_, permitted, happens⟩ => inv.happens permitted happens

/-- What holds of the session between two programs. -/
def World.HasSession (stage : Stage) (w : World) : Prop :=
  match stage with
  | .loop _ => w.live = .running
  | _ => True

theorem attends_ofWorld : OfWorld prims (attends prims config) :=
  ⟨fun begins => begins.2, fun answers => answers⟩

/-- No event ends a session. -/
theorem attends_rely {live : LiveSession} (same : w.live = live)
    (steps : (attends prims config).rely w w') : w'.live = live := by
  have acts : Relation.ReflTransGen (daemon prims config (whileLive prims config)).env w w' := steps
  clear steps
  induction acts with
  | refl => exact same
  | tail _ acts ih =>
    obtain ⟨event, -, happens⟩ := acts
    exact happens.beside.live.trans ih

/-- A session lives as long as it is polled. -/
theorem attends_session :
    (attends prims config).Preserves (Op.Within sessionEffects) fun w => w.live = .running where
  rely := fun _ live steps => attends_rely live steps
  pre := fun _ _ _ => trivial
  begins := by
    intro op w w' _ inv live begins
    have shared := begins.2.shared
    have live' : w'.live = .running := (congrArg (fun shared => shared.live) shared).trans live
    exact ⟨fun _ => live', live'⟩
  answers := by
    intro op w w' answer within inv live answers
    have live' : w'.live = .running := (answers.2.live within).trans live
    exact ⟨fun _ => live', live'⟩

/-- No gate is left open when a session is dropped. -/
theorem wp_afterTurn_attends {ended : Except LiveRunError Turn} (live : w.live = .running) :
    (afterTurn ended).wp (attends prims config) World.HasSession w := by
  have attended : w.Attended := fun _ => live
  cases ended with
  | ok turn =>
    cases turn with
    | goesOn state => exact live
    | stopped runId =>
      refine Coroutine.wp_bind.mpr (wp_request.mpr
        (attends_ofWorld.calls_shared trivial attended fun begins => ?_))
      exact ⟨fun running => absurd running begins.1, trivial⟩
  | error error =>
    refine Coroutine.wp_bind.mpr (wp_request.mpr (attends_ofWorld.calls_shared trivial attended ?_))
    refine fun _ => ⟨fun _ => live, Coroutine.wp_bind.mpr (wp_request.mpr ?_)⟩
    refine attends_ofWorld.calls_shared trivial ?_ fun _ => ⟨?_, ?_⟩
    · exact fun _ => live
    · exact nofun
    · refine Coroutine.wp_bind.mpr (wp_request.mpr ?_)
      refine attends_ofWorld.calls_shared trivial ?_ fun _ => ⟨?_, trivial⟩
      · exact nofun
      · exact nofun

/-- Before a process looks at the gate it changes nothing about it. -/
theorem attends_start :
    (attends prims config).Preserves (Op.Within startEffects) fun _ => True where
  rely := fun _ _ _ => trivial
  pre := fun _ _ _ => trivial
  begins := by
    intro op w w' _ inv _ begins
    exact ⟨inv.of_control (congrArg Shared.toControl begins.2.shared), trivial⟩
  answers := by
    intro op w w' answer within inv _ answers
    exact ⟨inv.of_control (answers.2.startControl within), trivial⟩

/-- The programs of a process keep a running gate attended. -/
theorem attends_meets :
    (daemon prims config (whileLive prims config)).Meets (attends prims config)
      World.HasSession where
  system := rfl
  again := by
    intro stage prog w inv between next
    cases next with
    | start =>
      refine wp_startUp attends_ofWorld attends_start inv trivial ?_ ?_
      · intro w _ _ isStopped
        refine attends_ofWorld.calls_shared trivial (fun running => ?_) fun _ => ⟨fun running => ?_,
          trivial⟩
        · exact absurd (isStopped.symm.trans running) nofun
        · exact absurd (isStopped.symm.trans running) nofun
      · intro w inv _ _
        refine attends_ofWorld.calls_shared trivial inv fun _ => ⟨fun _ => rfl, ?_⟩
        have session : ((startSession prims config).start ()).Only (Op.Within sessionEffects) :=
          only_startSession sessionEffects_session.toServes ()
        refine Coroutine.wp_mono (fun _ => rfl) (wp_preserves attends_session session
          (fun _ => rfl) rfl) ?_
        exact fun ended w' _ live => wp_afterTurn_attends live
    | loop state =>
      have session : ((tick prims config state).start ()).Only (Op.Within sessionEffects) :=
        only_tick sessionEffects_session ()
      refine Coroutine.wp_bind.mpr (Coroutine.wp_mono inv
        (wp_preserves attends_session session inv between) ?_)
      exact fun ended w' _ live => wp_afterTurn_attends live
    | «over» stopped =>
      refine Coroutine.wp_bind.mpr (Coroutine.wp_mono inv
        (wp_preserves attends_start (only_request (by trivial)) inv trivial) ?_)
      exact fun _ _ _ _ => trivial
  crash := fun _ crashes => crashes.2.1.elim

/-- **The gate and the live session.**  A running gate has a live session in all runs of one process
that meet the condition; once the session is over, the gate never shows as running, and no resume is
accepted. -/
theorem running_gate_has_session {w₀ : World} {config' : Config calls World Stage}
    (start : w₀.gate ≠ .running)
    (reached : DaemonReaches prims config (whileLive prims config) w₀ config') :
    (config'.2.gate = .running → config'.2.live = .running) ∧
      ∀ stopped, config'.2.live = .over stopped → config'.2.gate.label ≠ "running" ∧
        ∀ event w', whileLive prims config (.event event) config'.2 →
          Happens prims config event config'.2 w' →
            w'.gate.label ≠ "running" ∧ ∀ i, w'.accepted ≠ (i, .resume) :: config'.2.accepted := by
  have between : World.HasSession .start w₀ := trivial
  have attended : config'.2.Attended :=
    (attends_meets.sound_between (fun running => absurd running start) between reached).inv
  have closed : ∀ {w : World} {stopped}, w.Attended → w.live = .over stopped →
      w.gate.label ≠ "running" := by
    intro w stopped attended ended shows
    have running : w.gate = .running := by
      cases gate : w.gate with
      | running => rfl
      | paused => rw [gate] at shows; exact absurd shows (by decide)
      | stopped => rw [gate] at shows; exact absurd shows (by decide)
    exact nomatch (attended running).symm.trans ended
  refine ⟨attended, fun stopped ended => ⟨closed attended ended, fun event w' permitted happens => ?_⟩⟩
  refine ⟨closed (attended.happens permitted happens) (happens.beside.live.trans ended), ?_⟩
  intro i noted
  have dead : ∀ j, config'.2.Delivers prims config event j .resume → config'.2.gate ≠ .paused :=
    fun j delivers paused => nomatch (permitted j delivers paused).symm.trans ended
  cases happens.gateMoves with
  | kept gate accepted => exact List.cons_ne_self _ _ (noted.symm.trans accepted)
  | fails fails gate accepted => exact List.cons_ne_self _ _ (noted.symm.trans accepted)
  | @applied j action delivers takes gate accepted =>
    obtain ⟨same, -⟩ := List.cons.inj (accepted.symm.trans noted)
    cases same
    refine dead i delivers ?_
    cases state : config'.2.gate with
    | paused => rfl
    | running =>
      rw [state] at takes
      cases takes
    | stopped =>
      rw [state] at takes
      cases takes
  | queued delivers paused => exact dead _ delivers paused

/-! ## A resume after the session -/

/-- A session whose arena is over fails at once. -/
theorem runs_session_over (late : OffsetDateTime)
    (ended : config.manifest.endsAt.unixNanoseconds ≤ late.unixNanoseconds) :
    (startSession prims config).Runs (alone prims) () w (.error .configuration) ()
      { w with clock := late } :=
  Act.Runs.bind (runs_ask .nowUtc late rfl nofun rfl)
    (Act.Runs.bind_error (Act.Runs.rejectIf_error ended))

/-- `run_relay` drops a session that failed. -/
theorem runs_sessionFailed (error : LiveRunError) :
    (sessionFailed error).Runs (alone prims) w (.over none)
      { w with gate := .paused, lastError := some error.failureCode, live := .over none } :=
  .bind (runs_request (.shared (.setLastError error.failureCode)) () rfl nofun ⟨rfl, rfl⟩)
    (.bind (runs_request (.shared .storePaused) () rfl nofun ⟨rfl, rfl⟩)
      (.bind (runs_request (.shared (.setLive (.over none))) () rfl nofun ⟨rfl, rfl⟩) .done))

/-- The daemon goes on without the sample session, which has failed. -/
theorem reach_withoutSession :
    ∃ next w, DaemonReaches countingPrimitives sampleConfig anything startingWorld
        (.waiting .sleep next, w) ∧
      w.gate = .paused ∧ w.live = .over none ∧ w.highestNonce = 0 ∧ w.issued = [] ∧
        w.accepted = [] := by
  have session : (startSession countingPrimitives sampleConfig).Runs (alone countingPrimitives) ()
      (startingWorld.connected "") (.error .configuration) ()
      { startingWorld.connected "" with clock := sampleManifest.endsAt } :=
    runs_session_over sampleManifest.endsAt (Int.le_refl _)
  have notStopped : startingWorld.gate ≠ .stopped := by decide
  have runs := runs_startUp rfl notStopped session (runs_sessionFailed .configuration)
  have start : DaemonReaches countingPrimitives sampleConfig anything startingWorld
      (.running (startUp countingPrimitives sampleConfig), startingWorld) := .single (.again .start)
  have dropped := start.trans (reach_of_runs (fun _ _ _ => trivial) Prog.only_true runs)
  have waits := (dropped.tail (.again (.over none))).tail (.issue ⟨trivial, rfl⟩)
  exact ⟨_, _, waits, rfl, rfl, rfl, rfl, rfl⟩

/-- The sample session has failed, a resume is accepted, and the gate shows as running. -/
theorem resume_accepted_without_session :
    ∃ config', DaemonReaches countingPrimitives sampleConfig anything startingWorld config' ∧
      config'.2.live = .over none ∧ config'.2.gate.label = "running" ∧
        config'.2.accepted = [(0, .resume)] := by
  obtain ⟨next, w, reached, paused, ended, unused, nothing, fresh⟩ := reach_withoutSession
  have issued := reached.tail (.others rfl
    ⟨.issue (.companion (sampleRequest .resume 1)), trivial, .issue _ _⟩)
  rw [nothing] at issued
  have resumed := issued.tail (.others rfl ⟨.companion 0, trivial, .companion rfl⟩)
  have passes : (sampleRequest .resume 1).Passes countingPrimitives sampleConfig.companionSecret
      w.toControl := ⟨verify_sampleRequest, unused ▸ by decide⟩
  have takes : (w.gate.apply .resume).1 = true := paused ▸ rfl
  have taken := World.takeCompanion_of_takes (i := 0)
    (w := { w with issued := [.companion (sampleRequest .resume 1)] }) passes rfl rfl takes
  refine ⟨_, resumed, ?_, ?_, ?_⟩
  · exact (congrArg (·.live) taken).trans ended
  · refine (congrArg (·.gate.label) taken).trans ?_
    change (w.gate.apply .resume).2.label = "running"
    rw [paused]
    rfl
  · refine (congrArg (·.accepted) taken).trans ?_
    change (0, RemoteAction.resume) :: w.accepted = _
    rw [fresh]

/-- The theorem at a daemon that was stopped before its session started. -/
theorem stopped_daemon_has_no_session :
    ∃ config' : Config calls World Stage, config'.2.live = .over none ∧
      (config'.2.gate = .running → config'.2.live = .running) ∧
        ∀ stopped, config'.2.live = .over stopped → config'.2.gate.label ≠ "running" ∧
          ∀ event w', whileLive countingPrimitives sampleConfig (.event event) config'.2 →
            Happens countingPrimitives sampleConfig event config'.2 w' →
              w'.gate.label ≠ "running" ∧ ∀ i, w'.accepted ≠ (i, .resume) :: config'.2.accepted := by
  let w : World := { startingWorld with gate := .stopped }
  let permits := whileLive countingPrimitives sampleConfig
  have runs : (startUp countingPrimitives sampleConfig).Runs
      (daemon countingPrimitives sampleConfig permits).toSystem w (.over none)
      { w with
        journal := (w.journal.putSecret refreshTokenKey (utf8 "")).2
        relay := .session
        live := .over none } := by
    refine .bind (runs_permitted .rotate "" trivial rfl rfl rfl) ?_
    refine .bind (runs_permitted (.journal (.putSecret refreshTokenKey (utf8 ""))) (.ok ()) trivial
      rfl nofun (.inl ⟨rfl, rfl⟩)) ?_
    refine .bind (runs_permitted (.shared .label) .stopped trivial rfl nofun ⟨rfl, rfl⟩) ?_
    exact .bind (runs_permitted (.shared (.setLive (.over none))) () trivial rfl nofun ⟨rfl, rfl⟩)
      .done
  have start : DaemonReaches countingPrimitives sampleConfig permits w
      (.running (startUp countingPrimitives sampleConfig), w) := .single (.again .start)
  have closed : ExecutionState.stopped ≠ .running := by decide
  exact ⟨_, rfl, running_gate_has_session closed (start.trans runs.reach_done)⟩

end CrowAgent
