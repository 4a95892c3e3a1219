import CrowAgent.Core.Live

/-!
# Commands of the owner

A daemon takes commands on two ways: requests of the desktop companion over the local socket
(`applyCompanionRequest`) and remote commands over the relay (`applyRelayMessage`).  The first works
on the shared state alone and the second also keeps the nonces of the controllers in the journal.
Neither gives way to others.
-/

namespace CrowAgent

open Coroutine

variable {prims : Primitives}

inductive DaemonError : Type
  | json
  | challenge
  | remoteCommand
  | companion (error : CompanionIpcError)
  | journal (error : JournalError)
  deriving DecidableEq, Repr

/-! ## Companion requests -/

namespace Control

/-- The gate takes an action. -/
def applyGate (control : Control) (action : RemoteAction) : Bool × Control :=
  ((control.gate.apply action).1, { control with gate := (control.gate.apply action).2 })

/-- Whether the action of a request is accepted, and the state after it. -/
def applyAction (control : Control) (request : CompanionRequestV1) : Bool × Control :=
  match request.action with
  | .status => (true, control)
  | .pause => control.applyGate .pause
  | .resume =>
    match request.strategy with
    | none => control.applyGate .resume
    | some strategy =>
      if control.gate ≠ .paused ∨ control.activeRun.isNone then (false, control)
      else if control.pendingStrategy.isSome then (false, control)
      else (true, { control with pendingStrategy := some strategy })
  | .stop => control.applyGate .stop
  | .updateSettings =>
    if control.gate ≠ .paused ∨ control.activeRun.isNone ∨ request.settings.isNone then
      (false, control)
    else if control.pendingSettings.isSome then (false, control)
    else (true, { control with pendingSettings := request.settings })

/-- The error a response carries. -/
def responseError (control : Control) (request : CompanionRequestV1) (accepted : Bool) :
    Option String :=
  if request.action = .status then control.lastError
  else if accepted then none else some "invalid_transition"

/-- An accepted action other than a status request clears the last failure. -/
def clearError (control : Control) (request : CompanionRequestV1) (accepted : Bool) : Control :=
  if accepted ∧ request.action ≠ .status then { control with lastError := none } else control

end Control

/-- The request is authentic and its nonce is new. -/
def CompanionRequestV1.Passes (prims : Primitives) (secret : FixedBytes 32)
    (request : CompanionRequestV1) (control : Control) : Prop :=
  request.verify prims secret = .ok () ∧ control.highestNonce < request.nonce

instance {secret : FixedBytes 32} {request : CompanionRequestV1} {control : Control} :
    Decidable (request.Passes prims secret control) := instDecidableAnd

/-- `apply_companion_request`. -/
def applyCompanionRequest (prims : Primitives) (secret : FixedBytes 32)
    (request : CompanionRequestV1) (control : Control) :
    Except DaemonError CompanionResponseV1 × Control :=
  match request.verify prims secret with
  | .error error => (.error (.companion error), control)
  | .ok () =>
    if request.nonce ≤ control.highestNonce then (.error .remoteCommand, control)
    else
      let (accepted, after) :=
        { control with highestNonce := request.nonce }.applyAction request
      let error := after.responseError request accepted
      let after := after.clearError request accepted
      ((CompanionResponseV1.sign prims secret request.requestId request.nonce accepted
        after.gate.label after.activeRun error).mapError .companion, after)

/-- What the gate is asked for by a companion action. -/
def CompanionActionV1.remote? : CompanionActionV1 → Option RemoteAction
  | .pause => some .pause
  | .resume => some .resume
  | .stop => some .stop
  | .status | .updateSettings => none

/-- What an action can come to: whether it is accepted, and the state after it. -/
inductive Control.Acted (control : Control) (request : CompanionRequestV1) : Bool × Control → Prop
  | status (asks : request.action = .status) : Acted control request (true, control)
  | gate {action : RemoteAction} (asks : request.action.remote? = some action)
      (alone : action = .resume → request.strategy = none) :
      Acted control request (control.applyGate action)
  | queued {strategy : StrategyBundleV1} (asks : request.action = .resume)
      (sends : request.strategy = some strategy) (paused : control.gate = .paused)
      (active : control.activeRun.isSome) (empty : control.pendingStrategy = none) :
      Acted control request (true, { control with pendingStrategy := some strategy })
  | settings {settings : RunSettingsV1} (asks : request.action = .updateSettings)
      (sends : request.settings = some settings) (paused : control.gate = .paused)
      (active : control.activeRun.isSome) (empty : control.pendingSettings = none) :
      Acted control request (true, { control with pendingSettings := some settings })
  | refused : Acted control request (false, control)

theorem Control.acted (control : Control) (request : CompanionRequestV1) :
    control.Acted request (control.applyAction request) := by
  unfold Control.applyAction
  cases asks : request.action with
  | status => exact .status asks
  | pause =>
    have remote : request.action.remote? = some .pause := by rw [asks]; rfl
    exact .gate remote nofun
  | stop =>
    have remote : request.action.remote? = some .stop := by rw [asks]; rfl
    exact .gate remote nofun
  | resume =>
    cases sends : request.strategy with
    | none =>
      have remote : request.action.remote? = some .resume := by rw [asks]; rfl
      exact .gate remote fun _ => sends
    | some strategy =>
      dsimp only
      split
      · exact .refused
      · rename_i ready
        obtain ⟨paused, active⟩ : control.gate = .paused ∧ control.activeRun.isSome := by
          simpa [not_or, Option.isSome_iff_ne_none] using ready
        split
        · exact .refused
        · rename_i empty
          exact .queued asks sends paused active (by simpa using empty)
  | updateSettings =>
    dsimp only
    split
    · exact .refused
    · rename_i ready
      obtain ⟨paused, active, sends⟩ : control.gate = .paused ∧ control.activeRun.isSome ∧
          request.settings.isSome := by
        simpa [not_or, Option.isSome_iff_ne_none] using ready
      obtain ⟨settings, sends⟩ := Option.isSome_iff_exists.mp sends
      split
      · exact .refused
      · rename_i empty
        rw [sends]
        exact .settings asks sends paused active (by simpa using empty)

/-- Nothing but the last failure is cleared. -/
theorem Control.clearError_eq (control : Control) (request : CompanionRequestV1) (accepted : Bool) :
    control.clearError request accepted =
      { control with lastError := (control.clearError request accepted).lastError } := by
  unfold Control.clearError
  split <;> rfl

section Companion

variable {secret : FixedBytes 32} {request : CompanionRequestV1} {control : Control}

/-- A request that does not pass changes nothing. -/
theorem applyCompanionRequest_of_not_passes (refused : ¬request.Passes prims secret control) :
    ∃ error, applyCompanionRequest prims secret request control = (.error error, control) := by
  unfold applyCompanionRequest
  cases verified : request.verify prims secret with
  | error error => exact ⟨_, rfl⟩
  | ok done =>
    have stale : request.nonce ≤ control.highestNonce :=
      UInt64.not_lt.mp fun new => refused ⟨verified, new⟩
    exact ⟨.remoteCommand, if_pos stale⟩

/-- What a request that passes does, and what the response says. -/
theorem applyCompanionRequest_of_passes (passes : request.Passes prims secret control) :
    let applied := { control with highestNonce := request.nonce }.applyAction request
    ∃ response, applyCompanionRequest prims secret request control =
        (.ok response, applied.2.clearError request applied.1) ∧
      response.accepted = applied.1 ∧ response.executionState = applied.2.gate.label := by
  obtain ⟨verified, new⟩ := passes
  intro applied
  simp only [applyCompanionRequest, verified, if_neg (UInt64.not_le.mpr new)]
  refine ⟨_, rfl, rfl, ?_⟩
  change (applied.2.clearError request applied.1).gate.label = _
  unfold Control.clearError
  split <;> rfl

end Companion

/-! ## Relay messages -/

/-- The text of the key a controller's last nonce is kept under. -/
def remoteControllerNonceKey (controllerDeviceId : Uuid) : String :=
  "remote-controller-nonce-" ++ controllerDeviceId.hyphenated

/-- `u64::to_be_bytes`. -/
def toBeBytes (value : UInt64) : Bytes := (FixedBytes.ofNat 8 value.toNat).val

/-- `u64::from_be_bytes` of a slice, if it has eight bytes. -/
def fromBeBytes? (bytes : Bytes) : Option UInt64 :=
  if bytes.length = 8 then some (UInt64.ofNat (bytes.foldl (fun n byte => 256 * n + byte.toNat) 0))
  else none

theorem fromBeBytes?_toBeBytes (value : UInt64) : fromBeBytes? (toBeBytes value) = some value := by
  have bound := value.toNat_lt
  have folded : (toBeBytes value).foldl (fun n byte => 256 * n + byte.toNat) 0 = value.toNat := by
    have range : List.range 8 = [0, 1, 2, 3, 4, 5, 6, 7] := rfl
    simp only [toBeBytes, FixedBytes.ofNat, range, List.map_cons, List.map_nil, List.foldl_cons,
      List.foldl_nil, UInt8.toNat_ofNat']
    omega
  have length : (toBeBytes value).length = 8 := (FixedBytes.ofNat 8 value.toNat).2
  rw [fromBeBytes?, if_pos length, folded, UInt64.ofNat_toNat]

structure OutboundEnvelope : Type where
  protocol : String
  kind : String
  id : String
  timestamp : OffsetDateTime
  payload : Json

/-- What `apply_relay_message` does with a delivered command. -/
def applyRemoteCommand (prims : Primitives) (delivery : RemoteCommandDelivery)
    (envelopeId : String) (deviceId : Uuid) (activeRun : Option Uuid) :
    Act calls Unit DaemonError OutboundEnvelope := do
  let command := delivery.command
  let nonceKey := remoteControllerNonceKey command.controllerDeviceId
  let stored ← askJournal .journal (.secret nonceKey)
  let previousNonce := stored.bind fromBeBytes?
  Act.rejectIf (command.commandId.hyphenated ≠ envelopeId ∨ command.targetDeviceId ≠ deviceId ∨
    activeRun ≠ some command.runId ∨ command.relayReceipt.isNone) .remoteCommand
  let now ← ask .nowUtc
  Act.rejectIf (command.verify prims delivery.controllerPublicKey now ≠ .ok () ∨
    previousNonce.any (command.nonce ≤ ·)) .remoteCommand
  askJournal .journal (.putSecret nonceKey (toBeBytes command.nonce))
  let applied : Bool ← ask (.applyRemote command)
  Act.rejectIf (!applied) .remoteCommand
  let timestamp ← ask .nowUtc
  let state : ExecutionState ← ask (.shared .label)
  return {
    protocol := harnessProtocolV1
    kind := "remote_command.ack"
    id := command.commandId.hyphenated
    timestamp
    payload := .ofFields [("execution_state", .string state.label)] }

/-- `apply_relay_message`. -/
def applyRelayMessage (prims : Primitives) (envelope : WireEnvelope) (deviceId : Uuid)
    (activeRun : Option Uuid) : Act calls Unit DaemonError (Option OutboundEnvelope) :=
  if envelope.protocol ≠ harnessProtocolV1 then throw .challenge
  else if envelope.kind = "auth.ok" then pure none
  else if envelope.kind ≠ "remote_command" then throw .challenge
  else
    match envelope.payload with
    | none => throw .json
    | some delivery => do
      return some (← applyRemoteCommand prims delivery envelope.id deviceId activeRun)

end CrowAgent
