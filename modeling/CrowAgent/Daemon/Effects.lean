import CrowAgent.Core.Dispatch
import CrowAgent.Daemon.Relay

/-!
# What a session can do

An invariant of the daemon is often broken by a few calls only: an append of some event, a write of
some secret, a change of the shared state.  `Effects` says which of these a program makes, and each
part of a session has a lemma that says what it needs.
-/

namespace CrowAgent

open Coroutine

/-- What a program may record, which calls of the shared state it may make, the runs it may start
live cycles of, and whether it may start a turn of the loop. -/
structure Effects : Type extends Scope where
  shared : SharedCall → Prop
  cycles : Uuid → Prop
  selects : Prop

/-- The call has no other effects. -/
def Op.Within (effects : Effects) : Op → Prop
  | .journal (.append event _) => effects.events event.runId event.eventType
  | .journal (.putSecret name _) | .journal (.deleteSecret name) => effects.keys name
  | .shared call => effects.shared call
  | .venue (.submitIoc _ _) | .orderPermitted | .cycleEnds => ∃ runId, effects.cycles runId
  | .cycleStarts runId _ _ | .trades runId _ _ => effects.cycles runId
  | .observes runId _ _ | .judges runId _ => effects.weighs runId
  | .venue (.fillsSince _ _ _) | .venue (.fundingSince _ _ _) => ∃ runId, effects.weighs runId
  | .select => effects.selects
  | .applyRemote _ => False
  | _ => True

variable {prims : Primitives} {config : DaemonConfig} {effects : Effects} {σ ε α : Type}
  {runId : Uuid}

/-- What has the first effects has the second ones. -/
structure Effects.Le (effects effects' : Effects) : Prop where
  events : ∀ {runId type}, effects.events runId type → effects'.events runId type
  keys : ∀ {name}, effects.keys name → effects'.keys name
  weighs : ∀ {runId}, effects.weighs runId → effects'.weighs runId
  shared : ∀ {call}, effects.shared call → effects'.shared call
  cycles : ∀ {runId}, effects.cycles runId → effects'.cycles runId
  selects : effects.selects → effects'.selects

theorem Op.Within.mono {effects effects' : Effects} (le : effects.Le effects') {op : Op}
    (within : op.Within effects) : op.Within effects' := by
  cases op with
  | journal call =>
    cases call with
    | append event privatePayload => exact le.events within
    | putSecret name value => exact le.keys within
    | deleteSecret name => exact le.keys within
    | _ => trivial
  | venue call =>
    cases call with
    | submitIoc order clientOrderId => exact within.imp fun _ => le.cycles
    | fillsSince account start stop => exact within.imp fun _ => le.weighs
    | fundingSince account start stop => exact within.imp fun _ => le.weighs
    | _ => trivial
  | shared call => exact le.shared within
  | orderPermitted => exact within.imp fun _ => le.cycles
  | cycleEnds => exact within.imp fun _ => le.cycles
  | cycleStarts runId cycleId day => exact le.cycles within
  | trades runId settings strategy => exact le.cycles within
  | observes runId day equityMicroUsdc => exact le.weighs within
  | judges runId context => exact le.weighs within
  | select => exact le.selects within
  | applyRemote command => exact within.elim
  | _ => trivial

/-- A recording call has the effects of its scope. -/
theorem Op.IsPlain.within {op : Op} (plain : op.IsPlain effects.toScope) : op.Within effects := by
  cases op with
  | journal call => cases call <;> exact plain
  | venue call =>
    cases call with
    | submitIoc order clientOrderId => exact plain.elim
    | fillsSince executionAccount startTimeMs endTimeMs => exact plain
    | fundingSince executionAccount startTimeMs endTimeMs => exact plain
    | _ => trivial
  | observes runId day equityMicroUsdc => exact plain
  | judges runId context => exact plain
  | trades runId settings strategy => exact plain.elim
  | orderPermitted => exact plain.elim
  | shared call => exact plain.elim
  | applyRemote command => exact plain.elim
  | select => exact plain.elim
  | cycleStarts runId cycleId day => exact plain.elim
  | cycleEnds => exact plain.elim
  | _ => trivial

theorem Records.within {x : Act calls σ ε α} (records : Records prims effects.toScope x) :
    x.Only (Op.Within effects) := records.only.mono fun _ => Op.IsPlain.within

theorem only_ask {op : Op} (within : op.Within effects) :
    (ask op : Act calls σ ε op.Res).Only (Op.Within effects) := .perform within

theorem only_askJournal {convert : JournalError → ε} {call : JournalCall}
    (within : (Op.journal call).Within effects) :
    (askJournal convert call : Act calls σ ε call.Value).Only (Op.Within effects) :=
  (only_ask within).bind fun _ => .ofExcept

theorem only_askVenue {convert : HyperliquidError → ε} {call : VenueCall}
    (within : (Op.venue call).Within effects) :
    (askVenue convert call : Act calls σ ε call.Value).Only (Op.Within effects) :=
  (only_ask within).bind fun _ => .ofExcept

theorem only_askApi {convert : HarnessApiError → ε} {call : ApiCall} :
    (askApi convert call : Act calls σ ε call.Value).Only (Op.Within effects) :=
  (only_ask (by trivial)).bind fun _ => .ofExcept

/-! ## Before the loop -/

theorem only_acquireRun (id : effects.keys (runIdKey config.arenaId))
    (lease : effects.keys (leaseKey config.arenaId)) :
    (acquireRun prims config : Act calls Unit _ _).Only (Op.Within effects) := by
  apply (only_askJournal (by trivial)).bind
  intro existingId
  apply (only_askJournal (by trivial)).bind
  intro existingLease
  cases existingId with
  | none =>
    cases existingLease with
    | none =>
      apply only_askApi.bind
      intro started
      apply (only_askJournal (by exact id)).bind
      intro _
      exact (only_askJournal (by exact lease)).bind fun _ => .pure
    | some lease => exact .throw
  | some id =>
    cases existingLease with
    | none => exact .throw
    | some lease =>
      apply Act.Only.ofOption.bind
      intro runId
      exact Act.Only.ofOption.bind fun _ => only_askApi.bind fun _ => .pure

theorem only_append {writer : DurableRunEventWriter} {cycleId : Option Uuid} {eventType : String}
    {payload privatePayload : Json} (appends : effects.events writer.runId eventType) :
    (writer.append prims cycleId eventType payload privatePayload : Act calls σ _ _).Only
      (Op.Within effects) :=
  (DurableRunEventWriter.records_append appends).within

theorem only_appendSessionEvent {eventType : String} {payload : Json}
    (appends : effects.events runId eventType) :
    (appendSessionEvent prims config runId eventType payload : Act calls Unit _ _).Only
      (Op.Within effects) :=
  (only_append (by exact appends)).mapError.bind fun _ => .pure

theorem only_appendMissedCycle {scheduledAt : OffsetDateTime} {reason : String}
    (appends : effects.events runId "missed_cycle") :
    (appendMissedCycle prims config runId scheduledAt reason : Act calls Unit _ _).Only
      (Op.Within effects) :=
  (only_ask (by trivial)).bind fun _ => (only_append (by exact appends)).mapError.bind fun _ => .pure

/-- The events a chain begins with. -/
def initialEvents : List String := ["run_started", "handoff_snapshot", "run_paused"]

theorem only_initializeEventChain (appends : ∀ type ∈ initialEvents, effects.events runId type) :
    (initializeEventChain prims config runId : Act calls Unit _ _).Only (Op.Within effects) := by
  apply (only_askJournal (by trivial)).bind
  intro latest
  cases latest with
  | some _ =>
    apply Act.Only.bind
    · apply Act.Only.mapError
      exact DurableRunEventWriter.only_flushPending.mono fun _ => Op.IsPlain.within
    · exact fun _ => .pure
  | none =>
    apply (only_appendSessionEvent (appends _ (by decide))).bind
    intro _
    apply Act.Only.bind
    · unfold appendHandoff
      split
      · exact .pure
      · exact only_appendSessionEvent (appends _ (by decide))
    · exact fun _ => only_appendSessionEvent (appends _ (by decide))

theorem only_persistedSettings :
    (persistedSettings prims runId : Act calls Unit _ _).Only (Op.Within effects) := by
  apply (only_askJournal (by trivial)).bind
  intro stored
  split
  · exact .pure
  · exact (only_askJournal (by trivial)).attempt.bind fun _ => .pure

theorem only_prepareTerms :
    (prepareTerms prims config runId : Act calls Unit _ _).Only (Op.Within effects) := by
  apply only_persistedSettings.bind
  intro settings
  apply Act.Only.ofExcept.bind
  intro expectedCycles
  apply Act.Only.bind
  · exact (only_askJournal (by trivial)).bind fun _ => .pure
  · intro version
    apply only_askApi.bind
    intro envelope
    apply (only_ask (by trivial)).bind
    intro opened
    apply Act.Only.ofExcept.bind
    intro strategy
    apply Act.Only.rejectIf.bind
    intro _
    apply Act.Only.rejectIf.bind
    intro _
    apply (only_askVenue (by trivial)).bind
    intro _
    exact (only_askVenue (by trivial)).bind fun _ => .pure

theorem only_countCycles {expectedCycles : Nat} :
    (countCycles runId expectedCycles : Act calls Unit _ _).Only (Op.Within effects) :=
  (only_askJournal (by trivial)).bind fun _ => (only_askJournal (by trivial)).bind fun _ =>
    Act.Only.rejectIf.bind fun _ => Act.Only.rejectIf.bind fun _ => .pure

theorem only_sessionRisk {now : OffsetDateTime}
    (stores : effects.keys (liveRiskStateKey runId)) (weighs : effects.weighs runId) :
    (sessionRisk prims config runId now : Act calls Unit _ _).Only (Op.Within effects) := by
  apply Act.Only.bind
  · apply Act.Only.mapError
    apply (only_askJournal (by trivial)).bind
    intro stored
    split
    · exact .pure
    · split
      · exact .throw
      · exact .pure
  · intro stored
    split
    · exact .pure
    · apply (only_askVenue (by trivial)).bind
      intro account
      apply Act.Only.rejectIf.bind
      intro _
      apply Act.Only.ofExcept.bind
      intro lastReconciliationMs
      apply (only_ask (by exact weighs)).bind
      intro _
      exact (only_askJournal (by exact stores)).mapError.bind fun _ => .pure

theorem only_appendMissedCycles {decisionCooldownSeconds : UInt32} {count completedCycles : Nat}
    (appends : effects.events runId "missed_cycle") :
    (appendMissedCycles prims config runId decisionCooldownSeconds count completedCycles :
      Act calls Unit _ _).Only (Op.Within effects) := by
  induction count generalizing completedCycles with
  | zero => exact .pure
  | succ count ih =>
    exact Act.Only.ofExcept.bind fun _ => (only_appendMissedCycle appends).bind fun _ => ih

/-- What a reconciliation at the start of a session needs. -/
structure Effects.Reconciles (effects : Effects) (runId : Uuid) : Prop where
  stores : effects.keys (liveRiskStateKey runId)
  weighs : effects.weighs runId
  appends : ∀ type ∈ reconciliationEvents, effects.events runId type
  misses : effects.events runId "missed_cycle"

theorem only_reconcileLiveState {session : SessionAccount}
    (reconciles : effects.Reconciles session.runId) :
    (reconcileLiveState prims session).Only (Op.Within effects) :=
  (records_reconcileLiveState reconciles.stores reconciles.weighs reconciles.appends).within

theorem only_reconcileSession {now : OffsetDateTime} {terms : SessionTerms}
    (reconciles : effects.Reconciles runId) :
    (reconcileSession prims config now runId terms : Act calls Unit _ _).Only (Op.Within effects) := by
  apply only_countCycles.bind
  intro completedCycles
  apply (only_sessionRisk reconciles.stores reconciles.weighs).bind
  intro risk
  apply Act.Only.bind
  · apply Act.Only.within
    apply Act.Only.mapError
    exact only_reconcileLiveState reconciles
  · intro reconciled
    apply (only_ask (by trivial)).bind
    intro reconciledAt
    apply Act.Only.ofExcept.bind
    intro dueCycles
    exact (only_appendMissedCycles reconciles.misses).bind fun _ => .pure

/-- What the removal of a completed run needs. -/
structure Effects.Finishes (effects : Effects) (config : DaemonConfig) (runId : Uuid) : Prop where
  id : effects.keys (runIdKey config.arenaId)
  lease : effects.keys (leaseKey config.arenaId)
  strategy : effects.keys (strategyKey runId)
  clears : effects.shared (.setActiveRun none)

theorem only_finishRun (finishes : effects.Finishes config runId) :
    (finishRun config runId : Act calls Unit _ _).Only (Op.Within effects) :=
  (only_askJournal (by exact finishes.id)).bind fun _ =>
    (only_askJournal (by exact finishes.lease)).bind fun _ =>
      (only_askJournal (by exact finishes.strategy)).bind fun _ =>
        only_ask (by exact finishes.clears)

theorem only_stopScheduled (finishes : effects.Finishes config runId)
    (stops : effects.events runId "run_stopped") :
    (stopScheduled prims config runId : Act calls Unit _ _).Only (Op.Within effects) :=
  (only_appendSessionEvent stops).bind fun _ => only_finishRun finishes

theorem only_connectStream :
    (connectStream config : Act calls Unit _ _).Only (Op.Within effects) :=
  Act.Only.rejectIf.bind fun _ => only_askVenue (by trivial)

/-- What the automatic resume needs. -/
structure Effects.Resumes (effects : Effects) (runId : Uuid) : Prop where
  applies : effects.shared (.apply .resume)
  looks : effects.shared .isRunning
  appends : effects.events runId "run_resumed"

theorem only_openGate (resumes : effects.Resumes runId) :
    (openGate : Act calls Unit _ _).Only (Op.Within effects) := by
  apply (only_ask (by exact resumes.applies)).bind
  intro applied
  split
  · exact .pure
  · exact (only_ask (by exact resumes.looks)).bind fun _ => .rejectIf

theorem only_resumeSession (resumes : effects.Resumes runId) :
    (resumeSession prims config runId : Act calls Unit _ _).Only (Op.Within effects) := by
  apply Act.Only.bind
  · exact (only_askJournal (by trivial)).bind fun _ => .pure
  · intro resume
    cases resume with
    | false => exact .pure
    | true =>
      apply (only_openGate resumes).bind
      intro _
      exact (only_appendSessionEvent resumes.appends).bind fun _ => .pure

theorem only_durationUntilCycle {manifest : ArenaManifestV1} {decisionCooldownSeconds : UInt32}
    {completedCycles : Nat} :
    (durationUntilCycle manifest decisionCooldownSeconds completedCycles : Act calls Unit _ _).Only
      (Op.Within effects) :=
  (only_ask (by trivial)).bind fun _ => Act.Only.ofExcept.bind fun _ => .pure

/-! ## The loop -/

theorem only_dispatch {cycle : LiveCycle} {cycleId : Uuid} {order : OrderDecision}
    (within : LiveCycle.Within effects.toScope cycle) (cycles : ∃ runId, effects.cycles runId) :
    (cycle.dispatch prims cycleId order).Only (Op.Within effects) := by
  apply (LiveCycle.records_append within (by decide)).within.bind
  intro policyEvent
  apply (only_ask (by trivial)).bind
  intro id
  apply (LiveCycle.records_append within (by decide)).within.bind
  intro _
  apply Act.Only.modify.bind
  intro _
  apply Act.Only.bind
  · exact (records_storeRisk within.stores : Records prims _ _).within
  · exact fun _ => only_askVenue (by exact cycles)

theorem only_run {cycle : LiveCycle} {cycleId : Uuid} {now : OffsetDateTime}
    (within : LiveCycle.Within effects.toScope cycle) (cycles : ∃ runId, effects.cycles runId) :
    (cycle.run prims cycleId now).Only (Op.Within effects) := by
  apply (LiveCycle.records_observe within.weighs : Records prims _ _).within.bind
  intro evidence
  apply (LiveCycle.records_recordEvidence within).within.bind
  intro _
  apply (LiveCycle.records_askModel within).within.bind
  intro outcome
  split
  · exact (LiveCycle.records_conclude within).within
  · apply (LiveCycle.records_evaluate within).within.bind
    intro evaluated
    split
    · exact (LiveCycle.records_conclude within).within
    · apply (only_ask (by exact cycles)).bind
      intro permitted
      split
      · apply Act.Only.bind
        · exact only_dispatch within cycles
        · exact fun _ => (LiveCycle.records_settle within).within
      · exact (LiveCycle.records_conclude within).within

theorem only_executeLiveCycle {cycle : LiveCycle} (within : LiveCycle.Within effects.toScope cycle)
    (cycles : effects.cycles cycle.runId) :
    (executeLiveCycle prims cycle).Only (Op.Within effects) := by
  apply (only_ask (by trivial)).bind
  intro cycleId
  apply (only_ask (by trivial)).bind
  intro now
  apply (only_ask (by exact cycles)).bind
  intro _
  apply (only_run within ⟨_, cycles⟩).attempt.bind
  exact fun _ => (only_ask (by exact ⟨_, cycles⟩)).bind fun _ => .ofExcept

/-- The secrets that a session writes. -/
inductive IsSessionKey (config : DaemonConfig) : String → Prop
  | runId : IsSessionKey config (runIdKey config.arenaId)
  | lease : IsSessionKey config (leaseKey config.arenaId)
  | strategy (runId : Uuid) : IsSessionKey config (strategyKey runId)
  | settings (runId : Uuid) : IsSessionKey config (settingsKey runId)
  | risk (runId : Uuid) : IsSessionKey config (liveRiskStateKey runId)

/-- The calls of the shared state that a session makes. -/
def SharedCall.IsSession : SharedCall → Prop
  | .apply action => action = .resume
  | .storePaused | .setLastError _ | .setLive _ => False
  | _ => True

/-- What a session does for its run is among the effects, but for what ends the run. -/
structure Effects.Loops (effects : Effects) (runId : Uuid) : Prop where
  events : ∀ type, type ≠ "run_stopped" → effects.events runId type
  strategy : effects.keys (strategyKey runId)
  settings : effects.keys (settingsKey runId)
  risk : effects.keys (liveRiskStateKey runId)
  weighs : effects.weighs runId
  shared : ∀ {call : SharedCall}, call.IsSession → effects.shared call
  cycles : effects.cycles runId

/-- What a change of the terms of a session needs. -/
structure Effects.Changes (effects : Effects) (runId : Uuid) : Prop where
  settingsChanged : effects.events runId "run_settings_changed"
  strategyChanged : effects.events runId "strategy_changed"
  strategy : effects.keys (strategyKey runId)
  settings : effects.keys (settingsKey runId)
  shared : ∀ {call : SharedCall}, call.IsSession → effects.shared call

namespace Effects.Loops

theorem changes (loops : effects.Loops runId) : effects.Changes runId :=
  ⟨loops.events _ (by decide), loops.events _ (by decide), loops.strategy, loops.settings,
    loops.shared⟩

theorem reconciles (loops : effects.Loops runId) : effects.Reconciles runId where
  stores := loops.risk
  weighs := loops.weighs
  appends := fun type mem => loops.events type fun stops => absurd (stops ▸ mem) (by decide)
  misses := loops.events _ (by decide)

theorem resumes (loops : effects.Loops runId) : effects.Resumes runId :=
  ⟨loops.shared rfl, loops.shared trivial, loops.events _ (by decide)⟩

theorem initial (loops : effects.Loops runId) : ∀ type ∈ initialEvents, effects.events runId type :=
  fun type mem => loops.events type fun stops => absurd (stops ▸ mem) (by decide)

theorem within {cycle : LiveCycle} (loops : effects.Loops cycle.runId) :
    LiveCycle.Within effects.toScope cycle :=
  ⟨loops.risk, loops.weighs, fun type mem => loops.events type fun stops => absurd (stops ▸ mem) (by decide)⟩

end Effects.Loops

/-- Everything a session does is among the effects, but for its waking up. -/
structure Effects.Serves (effects : Effects) (config : DaemonConfig) : Prop where
  events : ∀ runId type, effects.events runId type
  keys : ∀ {name}, IsSessionKey config name → effects.keys name
  weighs : ∀ runId, effects.weighs runId
  shared : ∀ {call : SharedCall}, call.IsSession → effects.shared call
  cycles : ∀ runId, effects.cycles runId

/-- Everything a session does is among the effects. -/
structure Effects.Session (effects : Effects) (config : DaemonConfig) : Prop
    extends effects.Serves config where
  selects : effects.selects

/-- What a session does. -/
def sessionEffects : Effects where
  events := fun _ _ => True
  keys := fun _ => True
  weighs := fun _ => True
  shared := SharedCall.IsSession
  cycles := fun _ => True
  selects := True

theorem sessionEffects_session : sessionEffects.Session config :=
  ⟨⟨fun _ _ => trivial, fun _ => trivial, fun _ => trivial, fun session => session,
    fun _ => trivial⟩, trivial⟩

/-- The events of a session outside its reconciliations and its cycles. -/
def managedEvents : List String :=
  ["run_started", "handoff_snapshot", "run_paused", "run_resumed", "run_stopped",
    "run_settings_changed", "strategy_changed", "missed_cycle"]

/-- What a session does outside its reconciliations and its cycles is among the effects. -/
structure Effects.Manages (effects : Effects) (config : DaemonConfig) : Prop where
  events : ∀ runId, ∀ type ∈ managedEvents, effects.events runId type
  id : effects.keys (runIdKey config.arenaId)
  lease : effects.keys (leaseKey config.arenaId)
  strategy : ∀ runId, effects.keys (strategyKey runId)
  settings : ∀ runId, effects.keys (settingsKey runId)
  shared : ∀ {call : SharedCall}, call.IsSession → effects.shared call

namespace Effects.Manages

theorem finishes (manages : effects.Manages config) : effects.Finishes config runId :=
  ⟨manages.id, manages.lease, manages.strategy runId, manages.shared trivial⟩

theorem changes (manages : effects.Manages config) : effects.Changes runId :=
  ⟨manages.events _ _ (by decide), manages.events _ _ (by decide), manages.strategy runId,
    manages.settings runId, manages.shared⟩

theorem resumes (manages : effects.Manages config) : effects.Resumes runId :=
  ⟨manages.shared rfl, manages.shared trivial, manages.events _ _ (by decide)⟩

theorem initial (manages : effects.Manages config) :
    ∀ type ∈ initialEvents, effects.events runId type := by
  intro type mem
  refine manages.events _ _ ?_
  simp only [initialEvents, List.mem_cons, List.not_mem_nil, or_false] at mem
  rcases mem with rfl | rfl | rfl <;> decide

end Effects.Manages

namespace Effects.Serves

theorem manages (session : effects.Serves config) : effects.Manages config where
  events := fun runId type _ => session.events runId type
  id := session.keys .runId
  lease := session.keys .lease
  strategy := fun runId => session.keys (.strategy runId)
  settings := fun runId => session.keys (.settings runId)
  shared := session.shared

theorem finishes (session : effects.Serves config) : effects.Finishes config runId :=
  ⟨session.keys .runId, session.keys .lease, session.keys (.strategy runId),
    session.shared trivial⟩

theorem loops (session : effects.Serves config) : effects.Loops runId where
  events := fun type _ => session.events runId type
  strategy := session.keys (.strategy runId)
  settings := session.keys (.settings runId)
  risk := session.keys (.risk runId)
  weighs := session.weighs runId
  shared := session.shared
  cycles := session.cycles runId

end Effects.Serves

theorem only_startSession (session : effects.Serves config) :
    (startSession prims config).Only (Op.Within effects) := by
  apply (only_ask (by trivial)).bind
  intro now
  apply Act.Only.rejectIf.bind
  intro _
  apply (only_askJournal (by trivial)).bind
  intro _
  apply only_askApi.bind
  intro _
  apply (only_acquireRun (session.keys .runId) (session.keys .lease)).bind
  intro runId
  apply only_prepareTerms.bind
  intro terms
  apply (only_initializeEventChain session.loops.initial).bind
  intro _
  apply (only_reconcileSession session.loops.reconciles).bind
  rintro ⟨completedCycles, risk⟩
  dsimp only
  split
  · exact (only_stopScheduled session.finishes (session.events ..)).bind fun _ => .pure
  · apply only_connectStream.bind
    intro _
    apply (only_askVenue (by trivial)).bind
    intro books
    apply (only_resumeSession session.loops.resumes).bind
    intro recordedGate
    apply (only_ask (by exact session.shared trivial)).bind
    intro _
    exact only_durationUntilCycle.bind fun _ => .pure

variable {state : LiveRunState}

theorem only_leaseTick : (leaseTick prims config state).Only (Op.Within effects) := by
  apply Act.Only.bind
  · exact (only_askJournal (by trivial)).bind fun _ => .ofOption
  · exact fun _ => only_askApi

theorem only_recordGate (manages : effects.Manages config) :
    (recordGate prims config state).Only (Op.Within effects) := by
  apply (only_ask (by exact manages.shared trivial)).bind
  intro current
  split
  · exact .pure
  · have records : gateEvent current ∈ managedEvents := by cases current <;> decide
    apply (only_appendSessionEvent (manages.events _ _ records)).bind
    intro _
    split
    · exact (only_finishRun manages.finishes).bind fun _ => .pure
    · exact .pure

theorem only_changeSettings (changes : effects.Changes state.runId) :
    (changeSettings prims config state).Only (Op.Within effects) := by
  apply (only_ask (by exact changes.shared trivial)).bind
  intro requested
  split
  · exact .pure
  · apply Act.Only.ofExcept.bind
    intro _
    apply (only_askVenue (by trivial)).bind
    intro _
    apply (only_appendSessionEvent (changes.settingsChanged)).bind
    intro _
    apply (only_askJournal (by exact changes.settings)).bind
    intro _
    apply (only_ask (by exact changes.shared trivial)).bind
    intro _
    exact Act.Only.ofExcept.bind fun _ => .pure

/-- The state is one of the same run, and the gate that is recorded in it is not stopped. -/
structure LiveRunState.Follows (state next : LiveRunState) : Prop where
  runId : next.runId = state.runId
  recorded : state.recordedGate ≠ .stopped → next.recordedGate ≠ .stopped

namespace LiveRunState.Follows

variable {next later : LiveRunState}

theorem refl : state.Follows state := ⟨rfl, id⟩

theorem trans (first : state.Follows next) (second : next.Follows later) : state.Follows later :=
  ⟨second.runId.trans first.runId, second.recorded ∘ first.recorded⟩

end LiveRunState.Follows

/-- It also has the same risk state and the same cycles. -/
structure LiveRunState.Keeps (state next : LiveRunState) : Prop extends state.Follows next where
  risk : next.risk = state.risk
  completedCycles : next.completedCycles = state.completedCycles

namespace LiveRunState.Keeps

variable {next later : LiveRunState}

theorem refl : state.Keeps state := ⟨.refl, rfl, rfl⟩

theorem trans (first : state.Keeps next) (second : next.Keeps later) : state.Keeps later :=
  ⟨first.toFollows.trans second.toFollows, second.risk.trans first.risk,
    second.completedCycles.trans first.completedCycles⟩

end LiveRunState.Keeps

theorem yields_changeSettings :
    (changeSettings prims config state).Yields fun changed => state.Keeps changed := by
  apply Act.Yields.after
  intro requested
  split
  · exact .pure .refl
  · apply Act.Yields.after
    intro _
    apply Act.Yields.after
    intro _
    apply Act.Yields.after
    intro _
    apply Act.Yields.after
    intro _
    apply Act.Yields.after
    intro _
    exact Act.Yields.after fun _ => .pure ⟨⟨rfl, id⟩, rfl, rfl⟩

theorem only_changeStrategy (changes : effects.Changes state.runId) :
    (changeStrategy prims config state).Only (Op.Within effects) := by
  apply (only_ask (by exact changes.shared trivial)).bind
  intro queued
  split
  · exact .pure
  · apply Act.Only.rejectIf.bind
    intro _
    apply only_askApi.bind
    intro _
    apply (only_askJournal (by exact changes.strategy)).bind
    intro _
    apply (only_appendSessionEvent (changes.strategyChanged)).bind
    intro _
    apply (only_ask (by exact changes.shared trivial)).bind
    intro _
    apply (only_ask (by exact changes.shared rfl)).bind
    intro _
    exact Act.Only.rejectIf.bind fun _ => .pure

theorem only_changeTerms (changes : effects.Changes state.runId) :
    (changeTerms prims config state).Only (Op.Within effects) := by
  apply (only_ask (by exact changes.shared trivial)).bind
  intro current
  split
  · refine (only_changeSettings changes).bind_yields yields_changeSettings fun changed follows => ?_
    exact only_changeStrategy (follows.runId ▸ changes)
  · exact .pure

theorem only_lifecycleTick (manages : effects.Manages config) :
    (lifecycleTick prims config state).Only (Op.Within effects) := by
  apply (only_recordGate manages).bind
  intro turn
  split
  · exact .pure
  · exact (only_changeTerms manages.changes).bind fun _ => .pure

theorem only_completeCycle : (completeCycle state).Only (Op.Within effects) :=
  Act.Only.rejectIf.bind fun _ => .pure

theorem only_decideCycle (loops : effects.Loops state.runId) :
    (decideCycle prims config state).Only (Op.Within effects) := by
  apply (only_ask (by trivial)).bind
  intro gateway
  apply Act.Only.ofExcept.bind
  intro _
  apply (only_ask (by exact loops.cycles)).bind
  intro _
  apply Act.Only.bind
  · apply Act.Only.within
    exact (only_executeLiveCycle (Effects.Loops.within loops) loops.cycles).attempt
  · rintro ⟨result, risk⟩
    dsimp only
    split
    · exact only_completeCycle
    · exact only_completeCycle
    · exact .throw

theorem only_takeCycle (loops : effects.Loops state.runId) :
    (takeCycle prims config state).Only (Op.Within effects) := by
  apply (only_ask (by exact loops.shared trivial)).bind
  intro running
  split
  · exact only_decideCycle loops
  · apply Act.Only.ofExcept.bind
    intro _
    exact (only_appendMissedCycle (loops.events _ (by decide))).bind fun _ => only_completeCycle

theorem only_scheduleOver : (scheduleOver config state).Only (Op.Within effects) := by
  unfold scheduleOver
  split
  · exact .pure
  · exact (only_ask (by trivial)).bind fun _ => .pure

theorem only_cycleTick (session : effects.Serves config) :
    (cycleTick prims config state).Only (Op.Within effects) := by
  apply only_scheduleOver.bind
  intro scheduled
  split
  · exact (only_stopScheduled session.finishes (session.events ..)).bind fun _ => .pure
  · exact (only_takeCycle session.loops).bind fun _ => .pure

theorem only_snapshotTick {next : Except HyperliquidError BookSnapshot} :
    (snapshotTick config state next).Only (Op.Within effects) := by
  unfold snapshotTick
  split
  · exact .pure
  · apply (only_askVenue (by trivial)).bind
    intro books
    apply (only_ask (by trivial)).bind
    intro _
    exact only_connectStream.bind fun _ => .pure

theorem only_tick (session : effects.Session config) :
    (tick prims config state).Only (Op.Within effects) := by
  apply (only_ask (by exact session.selects)).bind
  intro woken
  split
  · exact only_leaseTick.bind fun _ => .pure
  · exact only_lifecycleTick session.toServes.manages
  · exact only_cycleTick session.toServes
  · exact only_snapshotTick.bind fun _ => .pure

/-! ## A process -/

/-- What a process does before it looks at the gate. -/
def startEffects : Effects where
  events := fun _ _ => False
  keys := fun name => name = refreshTokenKey
  weighs := fun _ => False
  shared := fun call => call = .label
  cycles := fun _ => False
  selects := False

/-- Everything the programs of a process do is among the effects. -/
structure Effects.Process (effects : Effects) (config : DaemonConfig) : Prop
    extends effects.Session config where
  tokens : effects.keys refreshTokenKey
  drops : ∀ call, effects.shared call

theorem only_request {op : Op} (within : op.Within effects) :
    (request op).Only (Op.Within effects) := ⟨within, fun _ => trivial⟩

theorem only_afterTurn (process : effects.Process config) {ended : Except LiveRunError Turn} :
    (afterTurn ended).Only (Op.Within effects) := by
  unfold afterTurn
  split
  · trivial
  · exact (only_request (by exact process.drops _)).bind fun _ => trivial
  · apply (only_request (by exact process.drops _)).bind
    intro _
    apply (only_request (by exact process.drops _)).bind
    intro _
    exact (only_request (by exact process.drops _)).bind fun _ => trivial

/-- The programs of the daemon have the effects of a process. -/
theorem NextProgram.only (process : effects.Process config) {stage : Stage} {prog : Prog calls Stage}
    (next : NextProgram prims config stage prog) : prog.Only (Op.Within effects) := by
  cases next with
  | start =>
    apply (only_request (by trivial)).bind
    intro refreshToken
    apply (only_request (by exact process.tokens)).bind
    intro stored
    split
    · exact (only_request (by trivial)).bind fun never => never.elim
    · apply (only_request (by exact process.drops _)).bind
      intro current
      split
      · exact (only_request (by exact process.drops _)).bind fun _ => trivial
      · apply (only_request (by exact process.drops _)).bind
        intro _
        exact (only_startSession process.toServes ()).bind fun _ => only_afterTurn process
  | loop state => exact (only_tick process.toSession ()).bind fun _ => only_afterTurn process
  | «over» stopped => exact (only_request (by trivial)).bind fun _ => trivial

end CrowAgent
