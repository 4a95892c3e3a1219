import CrowAgent.Protocol.CanonicalJson
import CrowAgent.Protocol.RunEvent

/-!
# Remote commands

A controller's order to pause, resume or stop a run, signed over its canonical JSON and valid for a
span of time.
-/

namespace CrowAgent

inductive RemoteAction : Type
  | pause
  | resume
  | stop
  deriving DecidableEq, Repr

def RemoteAction.toText : RemoteAction → String
  | .pause => "pause"
  | .resume => "resume"
  | .stop => "stop"

structure RemoteCommandV1 : Type where
  protocol : String
  commandId : Uuid
  targetDeviceId : Uuid
  runId : Uuid
  action : RemoteAction
  nonce : UInt64
  issuedAt : OffsetDateTime
  expiresAt : OffsetDateTime
  controllerDeviceId : Uuid
  controllerSignature : String
  relayReceipt : Option String
  deriving DecidableEq, Repr

namespace RemoteCommandV1

/-- The fields the controller signs, as `UnsignedRemoteCommand` serialises them. -/
def unsignedRemoteCommand (prims : Primitives) (command : RemoteCommandV1) : Option Json := do
  let issuedAt ← prims.rfc3339 command.issuedAt
  let expiresAt ← prims.rfc3339 command.expiresAt
  return Json.ofFields [
    ("protocol", .string command.protocol),
    ("command_id", .string command.commandId.hyphenated),
    ("target_device_id", .string command.targetDeviceId.hyphenated),
    ("run_id", .string command.runId.hyphenated),
    ("action", .string command.action.toText),
    ("nonce", .number (.unsigned command.nonce)),
    ("issued_at", .string issuedAt),
    ("expires_at", .string expiresAt),
    ("controller_device_id", .string command.controllerDeviceId.hyphenated)]

/-- `sign` of a command with the drawn id. -/
def sign (prims : Primitives) (signingKey : FixedBytes 32) (commandId targetDeviceId runId : Uuid)
    (action : RemoteAction) (nonce : UInt64) (issuedAt expiresAt : OffsetDateTime)
    (controllerDeviceId : Uuid) : Except ProtocolError RemoteCommandV1 :=
  if expiresAt.unixNanoseconds ≤ issuedAt.unixNanoseconds then .error .invalidRemoteCommand
  else
    let unsigned : RemoteCommandV1 := {
      protocol := harnessProtocolV1
      commandId
      targetDeviceId
      runId
      action
      nonce
      issuedAt
      expiresAt
      controllerDeviceId
      controllerSignature := ""
      relayReceipt := none }
    match unsigned.unsignedRemoteCommand prims with
    | none => .error .canonicalJson
    | some value => .ok { unsigned with
        controllerSignature := prims.base64Encode
          (prims.sign signingKey (prims.sha256 (canonicalJson prims value)).val).val }

def verify (prims : Primitives) (command : RemoteCommandV1) (controllerPublicKey : String)
    (now : OffsetDateTime) : Except ProtocolError Unit :=
  if command.protocol ≠ harnessProtocolV1 ∨
      command.expiresAt.unixNanoseconds ≤ command.issuedAt.unixNanoseconds ∨
      now.unixNanoseconds < command.issuedAt.unixNanoseconds ∨
      command.expiresAt.unixNanoseconds < now.unixNanoseconds then
    .error .invalidRemoteCommand
  else
    match command.unsignedRemoteCommand prims with
    | none => .error .canonicalJson
    | some unsigned =>
      verifySignature prims controllerPublicKey command.controllerSignature
        (prims.sha256 (canonicalJson prims unsigned)).val

/-- A signed command has the nonce and the controller it was signed with. -/
theorem fields_of_sign {prims : Primitives} {signingKey : FixedBytes 32}
    {commandId targetDeviceId runId : Uuid} {action : RemoteAction} {nonce : UInt64}
    {issuedAt expiresAt : OffsetDateTime} {controllerDeviceId : Uuid} {command : RemoteCommandV1}
    (signed : sign prims signingKey commandId targetDeviceId runId action nonce issuedAt expiresAt
      controllerDeviceId = .ok command) :
    command.nonce = nonce ∧ command.controllerDeviceId = controllerDeviceId := by
  unfold sign at signed
  split at signed
  · cases signed
  · dsimp only at signed
    split at signed
    · cases signed
    · cases signed
      exact ⟨rfl, rfl⟩

/-- A command that verifies is in its time. -/
theorem valid_of_verify {prims : Primitives} {command : RemoteCommandV1}
    {controllerPublicKey : String} {now : OffsetDateTime}
    (verified : command.verify prims controllerPublicKey now = .ok ()) :
    command.issuedAt.unixNanoseconds ≤ now.unixNanoseconds ∧
      now.unixNanoseconds ≤ command.expiresAt.unixNanoseconds := by
  unfold verify at verified
  split at verified
  · cases verified
  · rename_i valid
    omega

end RemoteCommandV1

end CrowAgent
