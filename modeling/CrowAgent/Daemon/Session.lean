import CrowAgent.Core.LiveCycle

/-!
# Live sessions

A live session acquires a run, brings its event chain and its risk state up to date, and then follows
its schedule until the run is stopped.  `startSession` is the part of `run_session` before its loop,
and `tick` is one turn of the loop.

The intervals of the loop are not kept: a tick of any kind can come at any time.
-/

namespace CrowAgent

open Coroutine

inductive LiveRunError : Type
  | configuration
  | manifest
  | controlPlane (error : HarnessApiError)
  | venue (error : HyperliquidError)
  | journal (error : JournalError)
  | event (error : DurableRunEventError)
  | cycle (error : LiveCycleError)
  | gateway
  | state
  deriving DecidableEq, Repr

def LiveRunError.failureCode : LiveRunError → String
  | .configuration => "live_arena_configuration_invalid"
  | .manifest => "live_arena_manifest_invalid"
  | .controlPlane _ => "live_arena_control_plane_unavailable"
  | .venue _ => "live_arena_venue_unavailable"
  | .journal _ | .event _ => "live_arena_journal_unavailable"
  | .cycle _ => "live_arena_cycle_failed"
  | .gateway => "live_arena_inference_unavailable"
  | .state => "live_arena_reconciliation_failed"

structure PreparedLiveArena : Type where
  signed : SignedArenaManifestV1
  handoffSnapshot : Option Json
  agentVersionId : Uuid
  executionAccount : String
  modelId : String
  clientRelease : String
  decisionCooldownSeconds : UInt32
  isolatedLeverage : UInt8

/-- What a daemon with a live arena is started with. -/
structure DaemonConfig : Type where
  deviceId : Uuid
  /-- The signing key of the device. -/
  signingKey : FixedBytes 32
  companionSecret : FixedBytes 32
  liveArena : PreparedLiveArena

namespace DaemonConfig

def manifest (config : DaemonConfig) : ArenaManifestV1 := config.liveArena.signed.manifest

def arenaId (config : DaemonConfig) : Uuid := config.manifest.arenaId

def writer (config : DaemonConfig) (runId : Uuid) : DurableRunEventWriter :=
  ⟨config.signingKey, config.arenaId, runId⟩

end DaemonConfig

def askApi {σ ε : Type} (convert : HarnessApiError → ε) (call : ApiCall) :
    Act calls σ ε call.Value := do
  Act.ofExcept convert (← ask (.api call))

/-! ## Keys -/

def runIdKey (arenaId : Uuid) : String := "live-run-id-" ++ arenaId.hyphenated

def leaseKey (arenaId : Uuid) : String := "live-run-lease-" ++ arenaId.hyphenated

def strategyKey (runId : Uuid) : String := "active-strategy-version-" ++ runId.hyphenated

def settingsKey (runId : Uuid) : String := "live-run-settings-" ++ runId.hyphenated

/-! ## The schedule -/

def expectedCycleCount (manifest : ArenaManifestV1) (decisionCooldownSeconds : UInt32) :
    Except LiveRunError Nat :=
  let interval : Int := decisionCooldownSeconds.toNat
  let duration := wholeSeconds manifest.startsAt manifest.endsAt
  if interval ≤ 0 ∨ duration < interval then .error .configuration
  else .ok (duration.tdiv interval).toNat

def dueCycleCount (manifest : ArenaManifestV1) (decisionCooldownSeconds : UInt32)
    (now : OffsetDateTime) : Except LiveRunError Nat := do
  let expected ← expectedCycleCount manifest decisionCooldownSeconds
  if now.unixNanoseconds < manifest.startsAt.unixNanoseconds then return 0
  let stop := if now.unixNanoseconds ≤ manifest.endsAt.unixNanoseconds then now else manifest.endsAt
  let due := wholeSeconds manifest.startsAt stop / decisionCooldownSeconds.toNat + 1
  if due < 0 then throw .state
  return min due.toNat expected

def scheduledCycleAt (manifest : ArenaManifestV1) (decisionCooldownSeconds : UInt32)
    (cycleIndex : Nat) : Except LiveRunError OffsetDateTime :=
  if 2 ^ 63 ≤ cycleIndex ∨ 2 ^ 63 ≤ decisionCooldownSeconds.toNat * cycleIndex then .error .state
  else .ok { manifest.startsAt with
    unixNanoseconds := manifest.startsAt.unixNanoseconds +
      decisionCooldownSeconds.toNat * cycleIndex * 10 ^ 9 }

/-- How long to wait for the next cycle, in nanoseconds. -/
def durationUntilCycle (manifest : ArenaManifestV1) (decisionCooldownSeconds : UInt32)
    (completedCycles : Nat) : Act calls Unit LiveRunError Int := do
  let now ← ask .nowUtc
  let next ← Act.ofExcept id (scheduledCycleAt manifest decisionCooldownSeconds completedCycles)
  return max 0 (next.unixNanoseconds - now.unixNanoseconds)

/-! ## Acquiring a run -/

/-- `load_secret_string`. -/
def loadSecretString (prims : Primitives) (name : String) : Act calls Unit LiveRunError String := do
  let stored ← askJournal .journal (.secret name)
  Act.ofOption .state (stored.bind prims.parseUtf8)

def PreparedLiveArena.startRequest (arena : PreparedLiveArena) : StartHarnessRunV1 where
  arenaId := arena.signed.manifest.arenaId
  agentVersionId := arena.agentVersionId
  executionAccount := arena.executionAccount
  clientRelease := arena.clientRelease
  decisionCooldownSeconds := arena.decisionCooldownSeconds
  isolatedLeverage := arena.isolatedLeverage
  handoffSnapshot := arena.handoffSnapshot

/-- `acquire_run`: the stored run with its lease renewed, or a new one. -/
def acquireRun (prims : Primitives) (config : DaemonConfig) : Act calls Unit LiveRunError Uuid := do
  let existingId ← askJournal .journal (.secret (runIdKey config.arenaId))
  let existingLease ← askJournal .journal (.secret (leaseKey config.arenaId))
  match existingId, existingLease with
  | some id, some lease => do
    let runId ← Act.ofOption .state ((prims.parseUtf8 id).bind prims.parseUuid)
    let lease ← Act.ofOption .state (prims.parseUtf8 lease)
    askApi .controlPlane (.renewLease runId lease)
    return runId
  | none, none => do
    let started ← askApi .controlPlane (.startRun config.liveArena.startRequest)
    askJournal .journal (.putSecret (runIdKey config.arenaId) (utf8 started.runId.hyphenated))
    askJournal .journal (.putSecret (leaseKey config.arenaId) (utf8 started.leaseToken))
    return started.runId
  | _, _ => throw .state

/-! ## The event chain -/

/-- `append_lifecycle`, and every other event of a session outside a cycle. -/
def appendSessionEvent (prims : Primitives) (config : DaemonConfig) (runId : Uuid)
    (eventType : String) (payload : Json) : Act calls Unit LiveRunError Unit := do
  let _ ← ((config.writer runId).append prims none eventType payload .null).mapError .event

def appendLifecycle (prims : Primitives) (config : DaemonConfig) (runId : Uuid)
    (eventType source : String) : Act calls Unit LiveRunError Unit :=
  appendSessionEvent prims config runId eventType (.ofFields [("source", .string source)])

def appendMissedCycle (prims : Primitives) (config : DaemonConfig) (runId : Uuid)
    (scheduledAt : OffsetDateTime) (reason : String) : Act calls Unit LiveRunError Unit := do
  let cycleId ← ask .newV4
  let _ ← ((config.writer runId).append prims (some cycleId) "missed_cycle"
    (.ofFields [
      ("scheduled_at", prims.timeJson scheduledAt),
      ("reason", .string reason),
      ("order_submitted", .bool false)]) .null).mapError .event

def venueMode : ArenaMode → String
  | .hyperliquidMainnet => "hyperliquid_mainnet"
  | .hyperliquidTestnet => "hyperliquid_testnet"
  | .historicalBacktest => "historical_backtest"

def PreparedLiveArena.startedPayload (arena : PreparedLiveArena) : Json := .ofFields [
  ("client_release", .string arena.clientRelease),
  ("manifest_sha256", .string arena.signed.manifestSha256),
  ("mode", .string (venueMode arena.signed.manifest.mode)),
  ("decision_cooldown_seconds", .number (.unsigned arena.decisionCooldownSeconds.toUInt64)),
  ("isolated_leverage", .number (.unsigned arena.isolatedLeverage.toUInt64))]

/-- The snapshot of a hosted run, if the arena has one. -/
def appendHandoff (prims : Primitives) (config : DaemonConfig) (runId : Uuid) :
    Act calls Unit LiveRunError Unit :=
  match config.liveArena.handoffSnapshot with
  | none => pure ()
  | some snapshot => appendSessionEvent prims config runId "handoff_snapshot" snapshot

/-- `initialize_event_chain`: flush a chain that has begun, or begin it. -/
def initializeEventChain (prims : Primitives) (config : DaemonConfig) (runId : Uuid) :
    Act calls Unit LiveRunError Unit := do
  match ← askJournal .journal (.latestEventState runId) with
  | some _ => do
    let _ ← (config.writer runId).flushPending.mapError .event
  | none => do
    appendSessionEvent prims config runId "run_started" config.liveArena.startedPayload
    appendHandoff prims config runId
    appendSessionEvent prims config runId "run_paused"
      (.ofFields [("reason", .string "awaiting_explicit_resume")])

/-- `max_by_key` of the sequence: the last of the events with the largest one. -/
def maxBySequence (events : List RunEventEnvelopeV1) : Option RunEventEnvelopeV1 :=
  events.foldl (fun best event =>
    match best with
    | none => some event
    | some other => if other.sequence ≤ event.sequence then some event else some other) none

/-- The events that start, pause, resume and stop a run. -/
def isLifecycle (eventType : String) : Bool :=
  eventType ∈ ["run_started", "run_paused", "run_resumed", "run_stopped"]

/-- Whether a run whose last lifecycle event this is runs on after reconciliation. -/
def resumesAfter : Option RunEventEnvelopeV1 → Bool
  | none => false
  | some event =>
    event.eventType = "run_started" || event.eventType = "run_resumed" ||
      (event.eventType = "run_paused" &&
        (event.payload.get? "reason").bind Json.asStr? = some "awaiting_explicit_resume")

def shouldRunAfterReconciliation (runId : Uuid) : Act calls Unit LiveRunError Bool := do
  let events : List RunEventEnvelopeV1 ← askJournal .journal .publicEvents
  return resumesAfter (maxBySequence
    (events.filter fun event => event.runId = runId && isLifecycle event.eventType))

/-! ## Before the loop -/

/-- The settings of the run that were changed: the stored ones, or those of the last event. -/
def persistedSettings (prims : Primitives) (runId : Uuid) :
    Act calls Unit LiveRunError (Option RunSettingsV1) := do
  let stored ← askJournal .journal (.secret (settingsKey runId))
  match stored.bind fun value => (prims.parseJson value).bind RunSettingsV1.ofJson? with
  | some settings => return some settings
  | none =>
    let events ← (askJournal id .publicEvents : Act calls Unit JournalError _).attempt
    return events.toOption.bind fun events =>
      (maxBySequence (events.filter fun (event : RunEventEnvelopeV1) =>
        event.runId = runId && event.eventType = "run_settings_changed")).bind fun event =>
          RunSettingsV1.ofJson? event.payload

/-- The version of the strategy that the run trades with. -/
def activeStrategyVersion (prims : Primitives) (config : DaemonConfig) (runId : Uuid) :
    Act calls Unit LiveRunError Uuid := do
  let stored ← askJournal .journal (.secret (strategyKey runId))
  return (stored.bind fun value => (prims.parseUtf8 value).bind prims.parseUuid).getD
    config.liveArena.agentVersionId

/-- What a session trades with. -/
structure SessionTerms : Type where
  decisionCooldownSeconds : UInt32
  isolatedLeverage : UInt8
  expectedCycles : Nat
  strategy : StrategyBundleV1

/-- The settings, the strategy and the venue of a session. -/
def prepareTerms (prims : Primitives) (config : DaemonConfig) (runId : Uuid) :
    Act calls Unit LiveRunError SessionTerms := do
  let settings ← persistedSettings prims runId
  let decisionCooldownSeconds := (settings.map (·.decisionCooldownSeconds)).getD
    config.liveArena.decisionCooldownSeconds
  let isolatedLeverage := (settings.map (·.isolatedLeverage)).getD config.liveArena.isolatedLeverage
  let expectedCycles ← Act.ofExcept id (expectedCycleCount config.manifest decisionCooldownSeconds)
  let version ← activeStrategyVersion prims config runId
  let envelope ← askApi .controlPlane (.agentVersion version)
  let opened ← ask (.openAgentVersion envelope)
  let strategy : StrategyBundleV1 ← Act.ofExcept (fun _ : Unit => .configuration) opened
  Act.rejectIf (strategy.modelId ≠ config.liveArena.modelId) .configuration
  Act.rejectIf (config.manifest.mode = .historicalBacktest) .configuration
  askVenue .venue (.connect config.manifest.mode)
  askVenue .venue (.configureIsolatedLeverage config.liveArena.executionAccount isolatedLeverage)
  return { decisionCooldownSeconds, isolatedLeverage, expectedCycles, strategy }

/-- The cycles that the chain already has. -/
def countCycles (runId : Uuid) (expectedCycles : Nat) : Act calls Unit LiveRunError Nat := do
  let started : Nat ← askJournal .journal (.eventCount runId "cycle_started")
  let missed : Nat ← askJournal .journal (.eventCount runId "missed_cycle")
  Act.rejectIf (2 ^ 64 ≤ started + missed) .state
  Act.rejectIf (expectedCycles < started + missed) .state
  return started + missed

def validInitialVenueAccount (manifest : ArenaManifestV1) (account : AccountSnapshot) : Bool :=
  if manifest.mode = .hyperliquidMainnet ∧ manifest.ticket.enabled ∧ manifest.ticket.asset = "CC"
  then
    if manifest.startingCapitalMicroUsdc.toNat < 2 ^ 63 then
      account.equityMicroUsdc = manifest.startingCapitalMicroUsdc.toInt64
        && account.withdrawableMicroUsdc = manifest.startingCapitalMicroUsdc.toInt64
        && account.positions.isEmpty
    else false
  else 0 < account.equityMicroUsdc

/-- The risk state of a run at its first session. -/
def initialRisk (prims : Primitives) (config : DaemonConfig) (runId : Uuid) (now : OffsetDateTime) :
    Act calls Unit LiveRunError LiveRiskState := do
  let account ← askVenue .venue (.accountSnapshot config.liveArena.executionAccount)
  Act.rejectIf (!validInitialVenueAccount config.manifest account) .state
  let lastReconciliationMs ← Act.ofExcept (fun _ : LiveCycleError => .state) (unixMilliseconds now)
  let state : LiveRiskState := {
    tradingDay := now.date
    tradingDayStartEquityMicroUsdc := account.equityMicroUsdc
    peakEquityMicroUsdc := account.equityMicroUsdc
    ordersToday := 0
    lastReconciliationMs }
  ask (.observes runId now.date account.equityMicroUsdc)
  (storeLiveRiskState prims runId state).mapError .cycle
  return state

/-- The stored risk state of a run, or its first one. -/
def sessionRisk (prims : Primitives) (config : DaemonConfig) (runId : Uuid) (now : OffsetDateTime) :
    Act calls Unit LiveRunError LiveRiskState := do
  match ← (loadLiveRiskState prims runId).mapError .cycle with
  | some state => return state
  | none => initialRisk prims config runId now

/-- How a failed reconciliation fails the session. -/
def reconciliationError : LiveCycleError → LiveRunError
  | .accountPolicy => .state
  | .venue error => .venue error
  | .event error => .event error
  | .journal error => .journal error
  | other => .cycle other

/-- Journal the cycles that are due and were missed, `count` of them. -/
def appendMissedCycles (prims : Primitives) (config : DaemonConfig) (runId : Uuid)
    (decisionCooldownSeconds : UInt32) : (count completedCycles : Nat) →
    Act calls Unit LiveRunError Unit
  | 0, _ => pure ()
  | count + 1, completedCycles => do
    let scheduledAt ← Act.ofExcept id
      (scheduledCycleAt config.manifest decisionCooldownSeconds completedCycles)
    appendMissedCycle prims config runId scheduledAt "companion_unavailable_at_boundary"
    appendMissedCycles prims config runId decisionCooldownSeconds count (completedCycles + 1)

/-- The local records of a completed run are removed. -/
def finishRun (config : DaemonConfig) (runId : Uuid) : Act calls Unit LiveRunError Unit := do
  askJournal .journal (.deleteSecret (runIdKey config.arenaId))
  askJournal .journal (.deleteSecret (leaseKey config.arenaId))
  askJournal .journal (.deleteSecret (strategyKey runId))
  ask (.shared (.setActiveRun none))

/-- `connect_testnet` or `connect_mainnet` of the stream of books. -/
def connectStream (config : DaemonConfig) : Act calls Unit LiveRunError Unit := do
  Act.rejectIf (config.manifest.mode = .historicalBacktest) .configuration
  askVenue .venue (.connectStream config.manifest.mode)

/-- A book takes its place in the map of books, which is ordered by symbol. -/
def insertBook (book : BookSnapshot) : List BookSnapshot → List BookSnapshot
  | [] => [book]
  | other :: rest =>
    if book.symbol < other.symbol then book :: other :: rest
    else if book.symbol = other.symbol then book :: rest
    else other :: insertBook book rest

/-- The map of a list of books. -/
def collectBooks (books : List BookSnapshot) : List BookSnapshot :=
  books.foldl (fun map book => insertBook book map) []

/-- Open the gate, unless the owner has done so. -/
def openGate : Act calls Unit LiveRunError Unit := do
  let applied : Bool ← ask (.shared (.apply .resume))
  if applied then pure ()
  else
    let running : Bool ← ask (.shared .isRunning)
    Act.rejectIf (!running) .state

/-- The automatic resume after reconciliation, and what the session then takes for recorded. -/
def resumeSession (prims : Primitives) (config : DaemonConfig) (runId : Uuid) :
    Act calls Unit LiveRunError ExecutionState := do
  let resume ← shouldRunAfterReconciliation runId
  if resume then
    openGate
    appendLifecycle prims config runId "run_resumed" "automatic_after_reconciliation"
    return .running
  else return .paused

/-- The local variables of the loop. -/
structure LiveRunState : Type where
  runId : Uuid
  terms : SessionTerms
  completedCycles : Nat
  risk : LiveRiskState
  books : List BookSnapshot
  recordedGate : ExecutionState

/-- How the part before the loop, or a turn of the loop, ends when it does not fail. -/
inductive Turn : Type
  | goesOn (state : LiveRunState)
  /-- The run is stopped. -/
  | stopped (runId : Uuid)

/-- A session with a run: its chain, its terms and its risk state are up to date, and the cycles it
missed are journaled. -/
def reconcileSession (prims : Primitives) (config : DaemonConfig) (now : OffsetDateTime)
    (runId : Uuid) (terms : SessionTerms) : Act calls Unit LiveRunError (Nat × LiveRiskState) := do
  let completedCycles ← countCycles runId terms.expectedCycles
  let risk ← sessionRisk prims config runId now
  let (_, risk) ← Act.within risk ((reconcileLiveState prims {
    signingKey := config.signingKey
    arenaId := config.arenaId
    runId
    executionAccount := config.liveArena.executionAccount
    isolatedLeverage := terms.isolatedLeverage }).mapError reconciliationError)
  let reconciledAt ← ask .nowUtc
  let dueCycles ← Act.ofExcept id
    (dueCycleCount config.manifest terms.decisionCooldownSeconds reconciledAt)
  appendMissedCycles prims config runId terms.decisionCooldownSeconds (dueCycles - completedCycles)
    completedCycles
  return (max completedCycles dueCycles, risk)

/-- Stop the run as its schedule says. -/
def stopScheduled (prims : Primitives) (config : DaemonConfig) (runId : Uuid) :
    Act calls Unit LiveRunError Unit := do
  appendLifecycle prims config runId "run_stopped" "arena_schedule"
  finishRun config runId

/-- `run_session` before its loop. -/
def startSession (prims : Primitives) (config : DaemonConfig) :
    Act calls Unit LiveRunError Turn := do
  let now ← ask .nowUtc
  Act.rejectIf (config.manifest.endsAt.unixNanoseconds ≤ now.unixNanoseconds) .configuration
  askJournal .journal .openJournal
  askApi .controlPlane .withAccessToken
  let runId ← acquireRun prims config
  let terms ← prepareTerms prims config runId
  initializeEventChain prims config runId
  let (completedCycles, risk) ← reconcileSession prims config now runId terms
  if terms.expectedCycles ≤ completedCycles then
    stopScheduled prims config runId
    return .stopped runId
  else
    connectStream config
    let books : List BookSnapshot ← askVenue .venue .reconcileStream
    let recordedGate ← resumeSession prims config runId
    ask (.shared (.setActiveRun (some runId)))
    let _ ← durationUntilCycle config.manifest terms.decisionCooldownSeconds completedCycles
    return .goesOn {
      runId
      terms
      completedCycles
      risk
      books := collectBooks books
      recordedGate }

/-! ## The loop -/

section Loop

variable (prims : Primitives) (config : DaemonConfig) (state : LiveRunState)

def leaseTick : Act calls Unit LiveRunError Unit := do
  let lease ← loadSecretString prims (leaseKey config.arenaId)
  askApi .controlPlane (.renewLease state.runId lease)

/-- The event that records a state of the gate. -/
def gateEvent : ExecutionState → String
  | .running => "run_resumed"
  | .paused => "run_paused"
  | .stopped => "run_stopped"

/-- Record what the gate was changed to, and end when the run is stopped. -/
def recordGate : Act calls Unit LiveRunError Turn := do
  let current : ExecutionState ← ask (.shared .label)
  if current = state.recordedGate then return .goesOn state
  else
    appendLifecycle prims config state.runId (gateEvent current) "authenticated_control"
    if current = .stopped then
      finishRun config state.runId
      return .stopped state.runId
    else return .goesOn { state with recordedGate := current }

def settingsChangedPayload (previous : SessionTerms) (settings : RunSettingsV1) : Json := .ofFields [
  ("previous_decision_cooldown_seconds",
    .number (.unsigned previous.decisionCooldownSeconds.toUInt64)),
  ("previous_isolated_leverage", .number (.unsigned previous.isolatedLeverage.toUInt64)),
  ("decision_cooldown_seconds", .number (.unsigned settings.decisionCooldownSeconds.toUInt64)),
  ("isolated_leverage", .number (.unsigned settings.isolatedLeverage.toUInt64))]

/-- `serde_json::to_vec` of settings. -/
def RunSettingsV1.encoded (settings : RunSettingsV1) : Bytes :=
  prims.jsonBytes (.object settings.fields)

/-- Take over the settings that were queued, if there are any. -/
def changeSettings : Act calls Unit LiveRunError LiveRunState := do
  let requested : Option RunSettingsV1 ← ask (.shared .pendingSettings)
  match requested with
  | none => return state
  | some settings => do
    Act.ofExcept (fun _ => .configuration) settings.validate
    askVenue .venue (.configureIsolatedLeverage config.liveArena.executionAccount
      settings.isolatedLeverage)
    appendSessionEvent prims config state.runId "run_settings_changed"
      (settingsChangedPayload state.terms settings)
    askJournal .journal (.putSecret (settingsKey state.runId) (settings.encoded prims))
    ask (.shared .clearPendingSettings)
    let expectedCycles ← Act.ofExcept id
      (expectedCycleCount config.manifest settings.decisionCooldownSeconds)
    return { state with terms := { state.terms with
      decisionCooldownSeconds := settings.decisionCooldownSeconds
      isolatedLeverage := settings.isolatedLeverage
      expectedCycles } }

def strategyChangedPayload (previous candidate : StrategyBundleV1) : Json := .ofFields [
  ("previous_agent_version_id", .string previous.versionId.hyphenated),
  ("agent_version_id", .string candidate.versionId.hyphenated)]

/-- Switch to the strategy that was queued, if there is one, and resume. -/
def changeStrategy : Act calls Unit LiveRunError LiveRunState := do
  let queued : Option StrategyBundleV1 ← ask (.shared .pendingStrategy)
  match queued with
  | none => return state
  | some candidate => do
    Act.rejectIf (candidate.modelId ≠ config.liveArena.modelId ∨ !candidate.isValid ∨
      candidate.modelId ∉ config.manifest.eligibleModels) .configuration
    askApi .controlPlane (.switchRunStrategy state.runId candidate.versionId)
    askJournal .journal (.putSecret (strategyKey state.runId) (utf8 candidate.versionId.hyphenated))
    appendSessionEvent prims config state.runId "strategy_changed"
      (strategyChangedPayload state.terms.strategy candidate)
    ask (.shared .clearPendingStrategy)
    let resumed : Bool ← ask (.shared (.apply .resume))
    Act.rejectIf (!resumed) .state
    return { state with terms := { state.terms with strategy := candidate } }

/-- What was queued is taken over while the gate is paused. -/
def changeTerms : Act calls Unit LiveRunError LiveRunState := do
  let current : ExecutionState ← ask (.shared .label)
  if current = .paused then
    let state ← changeSettings prims config state
    changeStrategy prims config state
  else return state

def lifecycleTick : Act calls Unit LiveRunError Turn := do
  match ← recordGate prims config state with
  | .stopped runId => return .stopped runId
  | .goesOn state => return .goesOn (← changeTerms prims config state)

/-- Whether the schedule of the run is over. -/
def scheduleOver : Act calls Unit LiveRunError Bool := do
  if state.terms.expectedCycles ≤ state.completedCycles then return true
  else
    let now ← ask .nowUtc
    return decide (config.manifest.endsAt.unixNanoseconds ≤ now.unixNanoseconds)

def completeCycle : Act calls Unit LiveRunError LiveRunState := do
  Act.rejectIf (2 ^ 64 ≤ state.completedCycles + 1) .state
  return { state with completedCycles := state.completedCycles + 1 }

/-- What a cycle of the session is called with. -/
def LiveRunState.cycle : LiveCycle where
  signingKey := config.signingKey
  manifest := config.manifest
  runId := state.runId
  modelId := config.liveArena.modelId
  isolatedLeverage := state.terms.isolatedLeverage
  strategyInstructions := state.terms.strategy.systemInstructions
  executionAccount := config.liveArena.executionAccount
  books := state.books

/-- A cycle under the session's risk state.  A failed decision of the model is no failure. -/
def decideCycle : Act calls Unit LiveRunError LiveRunState := do
  Act.ofExcept (fun _ : Unit => .gateway) (← ask .gatewayClient)
  ask (.trades state.runId ⟨state.terms.decisionCooldownSeconds, state.terms.isolatedLeverage⟩
    state.terms.strategy)
  let (result, risk) ← Act.within state.risk
    (executeLiveCycle prims (state.cycle config)).attempt
  match result with
  | .ok _ => completeCycle { state with risk }
  | .error (.runtime _) => completeCycle { state with risk }
  | .error error => throw (.cycle error)

/-- A cycle is due, and decided only while the gate is running. -/
def takeCycle : Act calls Unit LiveRunError LiveRunState := do
  let running : Bool ← ask (.shared .isRunning)
  if running then decideCycle prims config state
  else
    let scheduledAt ← Act.ofExcept id (scheduledCycleAt config.manifest
      state.terms.decisionCooldownSeconds state.completedCycles)
    appendMissedCycle prims config state.runId scheduledAt "execution_paused_at_boundary"
    completeCycle state

def cycleTick : Act calls Unit LiveRunError Turn := do
  let scheduled ← scheduleOver config state
  if scheduled then
    stopScheduled prims config state.runId
    return .stopped state.runId
  else return .goesOn (← takeCycle prims config state)

/-- A book came, or the stream was interrupted and is connected again. -/
def snapshotTick (next : Except HyperliquidError BookSnapshot) :
    Act calls Unit LiveRunError LiveRunState := do
  match next with
  | .ok book => return { state with books := insertBook book state.books }
  | .error _ => do
    let books : List BookSnapshot ← askVenue .venue .reconcileStream
    ask .sleep
    connectStream config
    return { state with books := collectBooks books }

/-- One turn of the loop of `run_session`. -/
def tick : Act calls Unit LiveRunError Turn := do
  let woken : Tick ← ask .select
  match woken with
  | .lease => do
    leaseTick prims config state
    return .goesOn state
  | .lifecycle => lifecycleTick prims config state
  | .cycle => cycleTick prims config state
  | .snapshot next => return .goesOn (← snapshotTick config state next)

end Loop

end CrowAgent
