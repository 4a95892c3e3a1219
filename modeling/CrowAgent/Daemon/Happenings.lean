import CrowAgent.Daemon.Frames

/-!
# What happens beside a session

`Taken` follows a message of the relay through its checks, the storing of its nonce and the gate, and
`taken_of_runs` and `taken_of_leadsTo` say that no message does anything else, also when the process
ends in the middle of it.  `Happens.frame` and `Dies.frame` are what the events of a daemon and its end
leave alone.
-/

namespace CrowAgent

open Coroutine

variable {prims : Primitives} {config : DaemonConfig} {w w' : World} {envelope : WireEnvelope}
  {op : Op}

/-! ## Messages of the relay -/

/-- What a delivered command has passed when its nonce is stored. -/
structure World.Checks (prims : Primitives) (deviceId : Uuid) (envelope : WireEnvelope) (w : World)
    (delivery : RemoteCommandDelivery) (clock : OffsetDateTime) : Prop where
  payload : envelope.payload = some delivery
  target : delivery.command.targetDeviceId = deviceId
  run : w.activeRun = some delivery.command.runId
  valid : delivery.command.verify prims delivery.controllerPublicKey clock = .ok ()
  fresh : ∀ nonce, (w.journal.secret (remoteControllerNonceKey
    delivery.command.controllerDeviceId)).bind fromBeBytes? = some nonce →
      nonce < delivery.command.nonce

/-- The nonce of a command is stored. -/
def World.storesNonce (w : World) (command : RemoteCommandV1) (clock : OffsetDateTime) : World :=
  { w with
    clock
    journal := (w.journal.putSecret (remoteControllerNonceKey command.controllerDeviceId)
      (toBeBytes command.nonce)).2 }

/-- A command comes to the gate. -/
def World.applies (w : World) (command : RemoteCommandV1) : World :=
  { w with
    gate := (w.gate.apply command.action).2
    reached := ⟨command, w.activeRun, w.clock⟩ :: w.reached
    moves := noteMove w.gate (w.gate.apply command.action).2 w.moves }

/-- How far a message of the relay has come from a world. -/
inductive Taken (prims : Primitives) (deviceId : Uuid) (envelope : WireEnvelope) (w : World) :
    World → Prop
  | looked (clock : OffsetDateTime) : Taken prims deviceId envelope w { w with clock }
  | stored {delivery : RemoteCommandDelivery} {clock : OffsetDateTime}
      (checks : w.Checks prims deviceId envelope delivery clock) :
      Taken prims deviceId envelope w (w.storesNonce delivery.command clock)
  | applied {delivery : RemoteCommandDelivery} {clock : OffsetDateTime} (later : OffsetDateTime)
      (checks : w.Checks prims deviceId envelope delivery clock) :
      Taken prims deviceId envelope w
        { (w.storesNonce delivery.command clock).applies delivery.command with clock := later }

/-- What an answer says about the gate: an acknowledged command has passed and was accepted. -/
def World.Outcome (prims : Primitives) (deviceId : Uuid) (envelope : WireEnvelope) (w : World)
    (answer : Option OutboundEnvelope) (w' : World) : Prop :=
  match answer with
  | none => w'.gate = w.gate
  | some _ => ∃ delivery clock, w.Checks prims deviceId envelope delivery clock ∧
      (w.gate.apply delivery.command.action).1 = true ∧
      w'.gate = (w.gate.apply delivery.command.action).2

/-- The contract under which one message of the relay is taken. -/
def takes (prims : Primitives) (P : World → Prop) : Contract calls World :=
  .ofSystem (alone prims) P (fun _ _ => True) fun _ never => never.elim

theorem takes_ofWorld {P : World → Prop} : OfWorld prims (takes prims P) :=
  ⟨fun begins => begins, fun answers => answers⟩

/-- **A delivered command.**  It is taken in the order of its checks, the storing of its nonce and the
gate, and an error leaves the gate as it was. -/
theorem wp_applyRemoteCommand {delivery : RemoteCommandDelivery} {deviceId : Uuid}
    (payload : envelope.payload = some delivery) :
    (applyRemoteCommand prims delivery envelope.id deviceId w.activeRun).wp
      (takes prims (Taken prims deviceId envelope w))
      (fun _ _ w' => ∃ clock, w.Checks prims deviceId envelope delivery clock ∧
        (w.gate.apply delivery.command.action).1 = true ∧
        w'.gate = (w.gate.apply delivery.command.action).2)
      (fun _ _ w' => w'.gate = w.gate) () w := by
  have start : Taken prims deviceId envelope w w := .looked w.clock
  refine Act.wp_bind.mpr (takes_ofWorld.wp_readJournal (fun _ => rfl) trivial start ?_ fun _ => rfl)
  intro stored read
  refine Act.wp_bind.mpr (Act.wp_rejectIf.mpr ?_)
  split
  · rfl
  rename_i accepted
  obtain ⟨-, target, run, -⟩ : _ ∧ delivery.command.targetDeviceId = deviceId ∧
      w.activeRun = some delivery.command.runId ∧ _ := by
    simpa only [not_or, not_not] using accepted
  refine Act.wp_bind.mpr (wp_ask.mpr (takes_ofWorld.calls_sync rfl trivial start ?_))
  rintro now w₁ rfl
  refine ⟨.looked now, Act.wp_bind.mpr (Act.wp_rejectIf.mpr ?_)⟩
  split
  · rfl
  rename_i verified
  obtain ⟨valid, new⟩ : delivery.command.verify prims delivery.controllerPublicKey now = .ok () ∧
      (stored.bind fromBeBytes?).any (delivery.command.nonce ≤ ·) = false := by
    simpa only [not_or, not_not, Bool.not_eq_true] using verified
  have fresh : ∀ nonce, (w.journal.secret (remoteControllerNonceKey
      delivery.command.controllerDeviceId)).bind fromBeBytes? = some nonce →
        nonce < delivery.command.nonce := by
    intro nonce previous
    have same : w.journal.secret (remoteControllerNonceKey
        delivery.command.controllerDeviceId) = stored := Except.ok.inj read
    rw [← same, previous] at new
    simpa using new
  have checks : w.Checks prims deviceId envelope delivery now := ⟨payload, target, run, valid, fresh⟩
  refine Act.wp_bind.mpr (takes_ofWorld.wp_askJournal trivial (.looked now) ?_ ?_)
  · intro _ journal put
    obtain rfl : journal = (w.storesNonce delivery.command now).journal :=
      (congrArg Prod.snd put).symm
    refine ⟨.stored checks, Act.wp_bind.mpr (wp_ask.mpr (takes_ofWorld.calls_sync rfl trivial
      (.stored checks) ?_))⟩
    rintro applied w₂ ⟨answer, rfl⟩
    refine ⟨.applied now checks, Act.wp_bind.mpr (Act.wp_rejectIf.mpr ?_)⟩
    subst answer
    split
    · rename_i refused
      exact ExecutionState.apply_refused (by simpa using refused)
    · rename_i taken
      refine Act.wp_bind.mpr (wp_ask.mpr (takes_ofWorld.calls_sync rfl trivial
        (.applied now checks) ?_))
      rintro timestamp w₃ rfl
      refine ⟨.applied timestamp checks, Act.wp_bind.mpr (wp_ask.mpr
        (takes_ofWorld.calls_sync rfl trivial (.applied timestamp checks) ?_))⟩
      rintro state w₄ ⟨-, rfl⟩
      exact ⟨.applied timestamp checks, Act.wp_pure.mpr ⟨now, checks, by simpa using taken, rfl⟩⟩
  · intro error journal failed
    obtain rfl : journal = w.journal := by
      rcases failed with same | ran
      · exact same
      · exact EncryptedJournal.putSecret_error ran
    exact ⟨.looked now, rfl⟩

theorem wp_applyRelayMessage {deviceId : Uuid} :
    (applyRelayMessage prims envelope deviceId w.activeRun).wp
      (takes prims (Taken prims deviceId envelope w))
      (fun answer _ w' => w.Outcome prims deviceId envelope answer w')
      (fun _ _ w' => w'.gate = w.gate) () w := by
  unfold applyRelayMessage
  split
  · exact Act.wp_throw.mpr rfl
  split
  · exact Act.wp_pure.mpr rfl
  split
  · exact Act.wp_throw.mpr rfl
  split
  · exact Act.wp_throw.mpr rfl
  · rename_i delivery payload
    refine Act.wp_bind.mpr (Act.wp_mono (.looked w.clock) (wp_applyRemoteCommand payload) ?_ ?_)
    · intro answer _ w' _ outcome
      exact Act.wp_pure.mpr ⟨delivery, outcome⟩
    · intro _ _ _ _ same
      exact same

/-- **Messages.**  A message that is answered was taken, and the gate is where the answer says. -/
theorem taken_of_runs {deviceId : Uuid} {answer : Option OutboundEnvelope}
    (runs : (applyRelayMessage prims envelope deviceId w.activeRun).Runs (alone prims) () w
      (.ok answer) () w') :
    Taken prims deviceId envelope w w' ∧ w.Outcome prims deviceId envelope answer w' := by
  have taken : (applyRelayMessage prims envelope deviceId w.activeRun).Runs
    (takes prims (Taken prims deviceId envelope w)).sys () w (.ok answer) () w' := runs
  exact taken.wp_ok (.looked w.clock) wp_applyRelayMessage

/-- A message that fails leaves the gate alone. -/
theorem taken_of_fails {deviceId : Uuid} {error : DaemonError}
    (runs : (applyRelayMessage prims envelope deviceId w.activeRun).Runs (alone prims) () w
      (.error error) () w') : Taken prims deviceId envelope w w' ∧ w'.gate = w.gate := by
  have taken : (applyRelayMessage prims envelope deviceId w.activeRun).Runs
    (takes prims (Taken prims deviceId envelope w)).sys () w (.error error) () w' := runs
  exact taken.wp_error (.looked w.clock) wp_applyRelayMessage

/-- A message is taken as far as it has come. -/
theorem taken_of_leadsTo {deviceId : Uuid}
    (leads : (applyRelayMessage prims envelope deviceId w.activeRun).LeadsTo (alone prims) () w op
      w') : Taken prims deviceId envelope w w' := by
  have taken : (applyRelayMessage prims envelope deviceId w.activeRun).LeadsTo
    (takes prims (Taken prims deviceId envelope w)).sys () w op w' := leads
  exact (taken.wp (.looked w.clock) wp_applyRelayMessage).1

/-- What a message has to be for the daemon to look at the command in it. -/
structure WireEnvelope.Carries (envelope : WireEnvelope) (delivery : RemoteCommandDelivery) :
    Prop where
  protocol : envelope.protocol = harnessProtocolV1
  kind : envelope.kind = "remote_command"
  payload : envelope.payload = some delivery
  id : delivery.command.commandId.hyphenated = envelope.id
  receipt : delivery.command.relayReceipt.isSome

/-- The acknowledgement of a command. -/
def RemoteCommandV1.acknowledgement (command : RemoteCommandV1) (timestamp : OffsetDateTime)
    (state : ExecutionState) : OutboundEnvelope where
  protocol := harnessProtocolV1
  kind := "remote_command.ack"
  id := command.commandId.hyphenated
  timestamp
  payload := .ofFields [("execution_state", .string state.label)]

/-- A command that passes the checks and that the gate accepts is acknowledged. -/
theorem runs_applyRemoteCommand {delivery : RemoteCommandDelivery} {deviceId : Uuid}
    {clock : OffsetDateTime} (carries : envelope.Carries delivery)
    (checks : w.Checks prims deviceId envelope delivery clock)
    (accepted : (w.gate.apply delivery.command.action).1 = true) :
    (applyRemoteCommand prims delivery envelope.id deviceId w.activeRun).Runs (alone prims) () w
      (.ok (delivery.command.acknowledgement clock (w.gate.apply delivery.command.action).2)) ()
      ((w.storesNonce delivery.command clock).applies delivery.command) := by
  have fits : ¬(delivery.command.commandId.hyphenated ≠ envelope.id ∨
      delivery.command.targetDeviceId ≠ deviceId ∨
        w.activeRun ≠ some delivery.command.runId ∨ delivery.command.relayReceipt.isNone) := by
    have receipt := carries.receipt
    simp [carries.id, checks.target, checks.run, Option.isNone_eq_false_iff.mpr receipt]
  have fresh : ¬(delivery.command.verify prims delivery.controllerPublicKey clock ≠ .ok () ∨
      ((w.journal.secret (remoteControllerNonceKey delivery.command.controllerDeviceId)).bind
        fromBeBytes?).any (delivery.command.nonce ≤ ·)) := by
    simp only [checks.valid, ne_eq, not_true_eq_false, false_or]
    have fresh := checks.fresh
    cases stored : (w.journal.secret (remoteControllerNonceKey
        delivery.command.controllerDeviceId)).bind fromBeBytes? with
    | none => simp
    | some nonce => simpa using fresh nonce stored
  have read : (JournalCall.secret (remoteControllerNonceKey
      delivery.command.controllerDeviceId)).run prims w.journal =
        (.ok (w.journal.secret (remoteControllerNonceKey delivery.command.controllerDeviceId)),
          w.journal) := rfl
  refine Act.Runs.bind (runs_askJournal read) (Act.Runs.bind (Act.Runs.rejectIf fits) ?_)
  refine Act.Runs.bind (runs_ask .nowUtc clock rfl nofun rfl) ?_
  refine Act.Runs.bind (Act.Runs.rejectIf fresh) ?_
  refine Act.Runs.bind (runs_putSecret (append_ne_empty (by decide))) ?_
  refine Act.Runs.bind (runs_ask (.applyRemote delivery.command) _ rfl nofun ⟨rfl, rfl⟩) ?_
  refine Act.Runs.bind (Act.Runs.rejectIf (by simp [accepted])) ?_
  refine Act.Runs.bind (runs_ask .nowUtc clock rfl nofun rfl) ?_
  exact Act.Runs.bind (runs_ask (.shared .label) _ rfl nofun ⟨rfl, rfl⟩) Act.Runs.pure

theorem runs_applyRelayMessage {delivery : RemoteCommandDelivery} {deviceId : Uuid}
    {clock : OffsetDateTime} (carries : envelope.Carries delivery)
    (checks : w.Checks prims deviceId envelope delivery clock)
    (accepted : (w.gate.apply delivery.command.action).1 = true) :
    (applyRelayMessage prims envelope deviceId w.activeRun).Runs (alone prims) () w
      (.ok (some (delivery.command.acknowledgement clock
        (w.gate.apply delivery.command.action).2))) ()
      ((w.storesNonce delivery.command clock).applies delivery.command) := by
  have protocol : ¬envelope.protocol ≠ harnessProtocolV1 := not_not.mpr carries.protocol
  have kind : ¬envelope.kind ≠ "remote_command" := not_not.mpr carries.kind
  have other : envelope.kind ≠ "auth.ok" := by
    rw [carries.kind]
    decide
  unfold applyRelayMessage
  rw [if_neg protocol, if_neg other, if_neg kind, carries.payload]
  exact Act.Runs.bind (runs_applyRemoteCommand carries checks accepted) Act.Runs.pure

/-! ## What they leave alone -/

namespace Taken

variable {deviceId : Uuid}

/-- A message leaves the shared state alone but for the gate and the notes about it. -/
theorem shared (taken : Taken prims deviceId envelope w w') :
    w'.toShared =
      { w.toShared with
        gate := w'.gate
        clock := w'.clock
        reached := w'.reached
        moves := w'.moves } := by
  cases taken <;> rfl

theorem passed (taken : Taken prims deviceId envelope w w') :
    w'.passed = w.passed ∧ w'.highestNonce = w.highestNonce := by
  cases taken <;> exact ⟨rfl, rfl⟩

/-- It records nothing, but stores a nonce. -/
theorem record (taken : Taken prims deviceId envelope w w') :
    w'.toRecord = { w.toRecord with journal := w'.journal } ∧
      (w'.journal = w.journal ∨ ∃ controllerDeviceId value, w'.journal =
        (w.journal.putSecret (remoteControllerNonceKey controllerDeviceId) value).2) := by
  cases taken with
  | looked clock => exact ⟨rfl, .inl rfl⟩
  | stored checks => exact ⟨rfl, .inr ⟨_, _, rfl⟩⟩
  | applied later checks => exact ⟨rfl, .inr ⟨_, _, rfl⟩⟩

end Taken

/-- What neither an event beside a session nor the end of the process changes. -/
structure Beside (w w' : World) : Prop where
  record : w'.toRecord = { w.toRecord with journal := w'.journal }
  journal : w'.journal = w.journal ∨
    ∃ name value, IsCommandKey name ∧ w'.journal = (w.journal.putSecret name value).2
  activeRun : w'.activeRun = w.activeRun
  live : w'.live = w.live
  lastTick : w'.lastTick = w.lastTick

namespace Beside

theorem taken {deviceId : Uuid} (taken : Taken prims deviceId envelope w w') : Beside w w' := by
  obtain ⟨record, journal⟩ := taken.record
  have shared := taken.shared
  refine ⟨record, ?_, by rw [shared], by rw [shared], by rw [shared]⟩
  rcases journal with same | ⟨controllerDeviceId, value, stored⟩
  · exact .inl same
  · exact .inr ⟨_, value, .nonce controllerDeviceId, stored⟩

theorem rows (beside : Beside w w') : w'.journal.rows = w.journal.rows := by
  rcases beside.journal with same | ⟨name, value, -, stored⟩
  · rw [same]
  · rw [stored]
    unfold EncryptedJournal.putSecret
    split <;> rfl

theorem keeps (beside : Beside w w') : KeepsRecord w w' := by
  refine ⟨beside.rows, ?_, ?_, ?_⟩
  · exact (congrArg Record.offers beside.record :)
  · rw [congrArg Record.drawn beside.record]
    exact List.Subset.refl _
  · exact (congrArg Record.marks beside.record :)

/-- The secrets of the session are as they were. -/
theorem secret (beside : Beside w w') {name : String} (other : ¬IsCommandKey name) :
    w'.journal.secret name = w.journal.secret name := by
  rcases beside.journal with same | ⟨command, value, isCommand, stored⟩
  · rw [same]
  · rw [stored]
    exact EncryptedJournal.secret_putSecret_of_ne fun same => other (same ▸ isCommand)

end Beside

/-- No request changes the active run or the session. -/
theorem applyCompanionRequest_beside (secret : FixedBytes 32) (request : CompanionRequestV1)
    (control : Control) :
    (applyCompanionRequest prims secret request control).2.activeRun = control.activeRun ∧
      (applyCompanionRequest prims secret request control).2.live = control.live := by
  by_cases passes : request.Passes prims secret control
  · obtain ⟨response, applied, -⟩ := applyCompanionRequest_of_passes passes
    rw [applied, Control.clearError_eq]
    generalize acts : { control with highestNonce := request.nonce }.applyAction request = acted
    have acted' := Control.acted { control with highestNonce := request.nonce } request
    rw [acts] at acted'
    cases acted' <;> exact ⟨rfl, rfl⟩
  · obtain ⟨error, same⟩ := applyCompanionRequest_of_not_passes passes
    rw [same]
    exact ⟨rfl, rfl⟩

theorem Happens.beside {event : DaemonEvent} (happens : Happens prims config event w w') :
    Beside w w' := by
  cases happens with
  | issue command => exact ⟨rfl, .inl rfl, rfl, rfl, rfl⟩
  | companion sent =>
    obtain ⟨activeRun, live⟩ := applyCompanionRequest_beside _ _ _
    exact ⟨rfl, .inl rfl, activeRun, live, rfl⟩
  | relay receives taken =>
    have beside := Beside.taken (taken_of_runs taken).1
    unfold World.noteAcknowledged
    split
    · exact ⟨beside.record, beside.journal, beside.activeRun, beside.live, beside.lastTick⟩
    · exact beside
  | relayRefused receives refused =>
    have beside := Beside.taken (taken_of_fails refused).1
    exact ⟨beside.record, beside.journal, beside.activeRun, beside.live, beside.lastTick⟩
  | relayFails connected => exact ⟨rfl, .inl rfl, rfl, rfl, rfl⟩
  | reconnects waited => exact ⟨rfl, .inl rfl, rfl, rfl, rfl⟩
  | expires connected => exact ⟨rfl, .inl rfl, rfl, rfl, rfl⟩
  | rotationFails rotating => exact ⟨rfl, .inl rfl, rfl, rfl, rfl⟩
  | rotates rotating => exact ⟨rfl, .inr ⟨_, _, .tokens, rfl⟩, rfl, rfl, rfl⟩

theorem Dies.beside (dies : Dies prims config w w') : Beside w w' := by
  cases dies with
  | between => exact ⟨rfl, .inl rfl, rfl, rfl, rfl⟩
  | amid receives taken => exact .taken (taken_of_leadsTo taken)

/-! ## The gate -/

/-- An event brings the `i`-th command, which asks for the action and passes its checks. -/
inductive World.Delivers (prims : Primitives) (config : DaemonConfig) (w : World) :
    DaemonEvent → Nat → RemoteAction → Prop
  | companion {i : Nat} {request : CompanionRequestV1} {action : RemoteAction}
      (sent : w.issued[i]? = some (.companion request))
      (passes : request.Passes prims config.companionSecret w.toControl)
      (asks : request.action.remote? = some action) : Delivers prims config w (.companion i) i action
  | relay {i : Nat} {envelope : WireEnvelope} {delivery : RemoteCommandDelivery}
      {clock : OffsetDateTime} (sent : w.issued[i]? = some (.relay envelope))
      (checks : w.Checks prims config.deviceId envelope delivery clock) :
      Delivers prims config w (.relay i) i delivery.command.action

/-- What an event does to the gate, to the queued strategy and to the accepted commands. -/
inductive GateMoves (prims : Primitives) (config : DaemonConfig) (event : DaemonEvent)
    (w w' : World) : Prop
  | kept (gate : w'.gate = w.gate) (accepted : w'.accepted = w.accepted)
      (pendingStrategy : w'.pendingStrategy = w.pendingStrategy)
  | fails (fails : event.Fails) (gate : w'.gate = .paused)
      (accepted : w'.accepted = w.accepted)
      (pendingStrategy : w'.pendingStrategy = w.pendingStrategy)
  | applied {i : Nat} {action : RemoteAction} (delivers : w.Delivers prims config event i action)
      (takes : (w.gate.apply action).1 = true) (gate : w'.gate = (w.gate.apply action).2)
      (accepted : w'.accepted = (i, action) :: w.accepted)
      (pendingStrategy : w'.pendingStrategy = w.pendingStrategy)
  | queued {i : Nat} {strategy : StrategyBundleV1}
      (delivers : w.Delivers prims config event i .resume) (paused : w.gate = .paused)
      (active : w.activeRun.isSome) (gate : w'.gate = w.gate)
      (accepted : w'.accepted = (i, .resume) :: w.accepted)
      (empty : w.pendingStrategy = none) (pendingStrategy : w'.pendingStrategy = some strategy)

/-- A request that does not pass is as good as none. -/
theorem World.takeCompanion_of_not_passes {i : Nat} {request : CompanionRequestV1}
    (refused : ¬request.Passes prims config.companionSecret w.toControl) :
    w.takeCompanion prims config i request = w := by
  obtain ⟨error, same⟩ := applyCompanionRequest_of_not_passes refused
  simp only [World.takeCompanion, same, if_neg refused, noteMove_self]
  rfl

/-- What a request that passes leaves in the notes, for the action it came to. -/
theorem World.accepted_takeCompanion {i : Nat} {request : CompanionRequestV1}
    (passes : request.Passes prims config.companionSecret w.toControl) :
    (w.takeCompanion prims config i request).accepted =
      match request.action.remote? with
      | some action =>
        if ({ w.toControl with highestNonce := request.nonce }.applyAction request).1 then
          (i, action) :: w.accepted
        else w.accepted
      | none => w.accepted := by
  obtain ⟨response, applied, accepted, -⟩ := applyCompanionRequest_of_passes passes
  simp only [World.takeCompanion, applied, Except.toOption]
  cases request.action.remote? with
  | none => rfl
  | some action => simp only [accepted]

/-- A request that passes, sends no strategy and asks the gate for what it can do. -/
theorem World.takeCompanion_of_takes {i : Nat} {request : CompanionRequestV1} {action : RemoteAction}
    (passes : request.Passes prims config.companionSecret w.toControl)
    (asks : request.action.remote? = some action) (alone : request.strategy = none)
    (takes : (w.gate.apply action).1 = true) :
    w.takeCompanion prims config i request =
      { w with
        gate := (w.gate.apply action).2
        lastError := none
        highestNonce := request.nonce
        passed := request :: w.passed
        accepted := (i, action) :: w.accepted
        moves := noteMove w.gate (w.gate.apply action).2 w.moves } := by
  obtain ⟨response, applied, accepted, -⟩ := applyCompanionRequest_of_passes passes
  have acts : { w.toControl with highestNonce := request.nonce }.applyAction request =
      { w.toControl with highestNonce := request.nonce }.applyGate action := by
    unfold Control.applyAction
    cases asked : request.action with
    | status | updateSettings =>
      rw [asked] at asks
      cases asks
    | pause | stop =>
      rw [asked] at asks
      cases asks
      rfl
    | resume =>
      rw [asked] at asks
      cases asks
      rw [alone]
  have counts : request.action ≠ .status := by
    intro status
    rw [status] at asks
    cases asks
  have unchanged : ¬request.AsksChange := by
    rintro (settings | ⟨-, sends⟩)
    · rw [settings] at asks
      cases asks
    · rw [alone] at sends
      cases sends
  have takes' : ({ w.toControl with highestNonce := request.nonce }.applyGate action).1 = true :=
    takes
  rw [acts] at applied accepted
  simp only [World.takeCompanion, applied, asks, if_pos passes, accepted, takes', if_true,
    Except.toOption, Control.clearError, true_and, unchanged, if_false]
  rw [if_pos counts]
  rfl

/-- A request moves the gate only by an action that is accepted, and queues a strategy only while the
gate is paused. -/
theorem World.takeCompanion_gateMoves {i : Nat} {request : CompanionRequestV1}
    (sent : w.issued[i]? = some (.companion request)) :
    GateMoves prims config (.companion i) w (w.takeCompanion prims config i request) := by
  by_cases passes : request.Passes prims config.companionSecret w.toControl
  case neg =>
    rw [World.takeCompanion_of_not_passes passes]
    exact .kept rfl rfl rfl
  have noted := World.accepted_takeCompanion (i := i) passes
  obtain ⟨response, applied, -⟩ := applyCompanionRequest_of_passes passes
  have control : (w.takeCompanion prims config i request).toControl =
      ({ w.toControl with highestNonce := request.nonce }.applyAction request).2.clearError request
        ({ w.toControl with highestNonce := request.nonce }.applyAction request).1 :=
    congrArg Prod.snd applied
  rw [Control.clearError_eq] at control
  have acted := Control.acted { w.toControl with highestNonce := request.nonce } request
  generalize { w.toControl with highestNonce := request.nonce }.applyAction request = after
    at acted control noted
  have gate := congrArg Control.gate control
  have pending := congrArg Control.pendingStrategy control
  cases acted with
  | status asks =>
    rw [asks] at noted
    exact .kept gate noted pending
  | @gate action asks alone =>
    rw [asks] at noted
    dsimp only at noted
    split at noted
    · rename_i takes
      exact .applied (.companion sent passes asks) takes gate noted pending
    · rename_i refused
      exact .kept (gate.trans (ExecutionState.apply_refused (Bool.eq_false_iff.mpr refused))) noted
        pending
  | queued asks sends paused active empty =>
    rw [asks] at noted
    have remote : request.action.remote? = some .resume := by rw [asks]; rfl
    exact .queued (.companion sent passes remote) paused active gate noted empty pending
  | settings asks sends paused active empty =>
    rw [asks] at noted
    exact .kept gate noted pending
  | refused =>
    refine .kept gate (noted.trans ?_) pending
    split <;> rfl

/-- **The gate.**  What the events beside a session do to it. -/
theorem Happens.gateMoves {event : DaemonEvent} (happens : Happens prims config event w w') :
    GateMoves prims config event w w' := by
  cases happens with
  | companion sent => exact World.takeCompanion_gateMoves sent
  | @relay i envelope answer _ w₁ receives ran =>
    obtain ⟨taken, outcome⟩ := taken_of_runs ran
    have shared := taken.shared
    have accepted : w₁.accepted = w.accepted := by rw [shared]
    have pending : w₁.pendingStrategy = w.pendingStrategy := by rw [shared]
    cases answer with
    | none => exact .kept outcome accepted pending
    | some acknowledgement =>
      obtain ⟨delivery, clock, checks, takes, gate⟩ := outcome
      have noted : w₁.noteAcknowledged i envelope (some acknowledgement) =
          { w₁ with accepted := (i, delivery.command.action) :: w₁.accepted } := by
        simp only [World.noteAcknowledged, checks.payload]
      rw [noted]
      refine .applied (.relay receives.2.1 checks) takes gate ?_ pending
      rw [accepted]
  | @relayRefused i envelope error _ w₁ receives refused =>
    have shared := (taken_of_fails refused).1.shared
    have accepted : w₁.accepted = w.accepted := by rw [shared]
    have pending : w₁.pendingStrategy = w.pendingStrategy := by rw [shared]
    exact .fails trivial rfl accepted pending
  | relayFails connected => exact .fails trivial rfl rfl rfl
  | rotationFails rotating => exact .fails trivial rfl rfl rfl
  | _ => exact .kept rfl rfl rfl

end CrowAgent
