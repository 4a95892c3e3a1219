import CrowAgent.Core.AgentVersion
import CrowAgent.Protocol.CanonicalJson
import CrowAgent.Protocol.Manifest

/-!
# Requests of the desktop companion

The desktop controls its background companion with requests that are authenticated by an HMAC over
their canonical JSON.
-/

namespace CrowAgent

inductive CompanionActionV1 : Type
  | status
  | pause
  | resume
  | stop
  | updateSettings
  deriving DecidableEq, Repr

def CompanionActionV1.toText : CompanionActionV1 → String
  | .status => "status"
  | .pause => "pause"
  | .resume => "resume"
  | .stop => "stop"
  | .updateSettings => "update_settings"

inductive CompanionIpcError : Type
  | serialization
  | authentication
  | protocol
  deriving DecidableEq, Repr

def maxClientDecisionCooldownSeconds : UInt32 := 3600

def minClientIsolatedLeverage : UInt8 := 1

def maxClientIsolatedLeverage : UInt8 := 10

structure RunSettingsV1 : Type where
  decisionCooldownSeconds : UInt32
  isolatedLeverage : UInt8
  deriving DecidableEq, Repr

namespace RunSettingsV1

def validate (settings : RunSettingsV1) : Except CompanionIpcError Unit :=
  if settings.decisionCooldownSeconds < minLiveDecisionIntervalSeconds ∨
      maxClientDecisionCooldownSeconds < settings.decisionCooldownSeconds ∨
      settings.decisionCooldownSeconds % 60 ≠ 0 ∨
      settings.isolatedLeverage < minClientIsolatedLeverage ∨
      maxClientIsolatedLeverage < settings.isolatedLeverage then .error .protocol
  else .ok ()

/-- The fields in the order of their declaration. -/
def fields (settings : RunSettingsV1) : List (String × Json) := [
  ("decision_cooldown_seconds", .number (.unsigned settings.decisionCooldownSeconds.toUInt64)),
  ("isolated_leverage", .number (.unsigned settings.isolatedLeverage.toUInt64))]

/-- `serde_json::from_value` of settings: both fields, as unsigned numbers in range. -/
def ofJson? (json : Json) : Option RunSettingsV1 :=
  match json.get? "decision_cooldown_seconds", json.get? "isolated_leverage" with
  | some (.number (.unsigned cooldown)), some (.number (.unsigned leverage)) =>
    if cooldown.toNat < 2 ^ 32 ∧ leverage.toNat < 2 ^ 8 then
      some ⟨cooldown.toUInt32, leverage.toUInt8⟩
    else none
  | _, _ => none

end RunSettingsV1

structure CompanionRequestV1 : Type where
  protocol : String
  requestId : Uuid
  nonce : UInt64
  action : CompanionActionV1
  strategy : Option StrategyBundleV1
  settings : Option RunSettingsV1
  mac : String
  deriving DecidableEq, Repr

/-- `verify_value`: the signature is the hexadecimal HMAC of the canonical JSON. -/
def verifyValue (prims : Primitives) (key : FixedBytes 32) (value : Option Json)
    (signature : String) : Except CompanionIpcError Unit :=
  match value with
  | none => .error .serialization
  | some value =>
    match Hex.decode? signature.toList with
    | none => .error .authentication
    | some signature =>
      if (prims.hmacSha256 key (canonicalJson prims value)).val = signature then .ok ()
      else .error .authentication

/-- `sign_value`. -/
def signValue (prims : Primitives) (key : FixedBytes 32) (value : Option Json) :
    Except CompanionIpcError String :=
  match value with
  | none => .error .serialization
  | some value => .ok (Hex.encode (prims.hmacSha256 key (canonicalJson prims value)).val)

/-- A signed value verifies. -/
theorem verifyValue_of_signValue {prims : Primitives} {key : FixedBytes 32} {value : Option Json}
    {signature : String} (signed : signValue prims key value = .ok signature) :
    verifyValue prims key value signature = .ok () := by
  cases value with
  | none => cases signed
  | some value =>
    cases signed
    simp [verifyValue, Hex.decode?_encode]

namespace CompanionRequestV1

/-- The fields the HMAC covers, as `UnsignedRequest` serialises them. -/
def unsignedRequest (prims : Primitives) (request : CompanionRequestV1) : Option Json := do
  let strategy ← match request.strategy with
    | none => some Json.null
    | some bundle => bundle.toJson prims
  return Json.ofFields [
    ("protocol", .string request.protocol),
    ("request_id", .string request.requestId.hyphenated),
    ("nonce", .number (.unsigned request.nonce)),
    ("action", .string request.action.toText),
    ("strategy", strategy),
    ("settings", (request.settings.map fun settings => Json.ofFields settings.fields).getD .null)]

def verify (prims : Primitives) (request : CompanionRequestV1) (key : FixedBytes 32) :
    Except CompanionIpcError Unit :=
  if request.protocol ≠ harnessProtocolV1 ∨
      (request.strategy.isSome ∧ request.action ≠ .resume) ∨
      (request.settings.isSome ∧ request.action ≠ .updateSettings) ∨
      (request.strategy.any fun bundle => !bundle.isValid) then .error .protocol
  else verifyValue prims key (request.unsignedRequest prims) request.mac

/-- `sign_with_options` of a request with the drawn id. -/
def signWithOptions (prims : Primitives) (key : FixedBytes 32) (requestId : Uuid) (nonce : UInt64)
    (action : CompanionActionV1) (strategy : Option StrategyBundleV1)
    (settings : Option RunSettingsV1) : Except CompanionIpcError CompanionRequestV1 :=
  if strategy.isSome ∧ action ≠ .resume then .error .protocol
  else if strategy.any fun bundle => !bundle.isValid then .error .protocol
  else if settings.isSome ∧ action ≠ .updateSettings then .error .protocol
  else
    match settings.map RunSettingsV1.validate with
    | some (.error error) => .error error
    | _ =>
      let unsigned : CompanionRequestV1 := {
        protocol := harnessProtocolV1
        requestId
        nonce
        action
        strategy
        settings
        mac := "" }
      (signValue prims key (unsigned.unsignedRequest prims)).map fun mac => { unsigned with mac }

/-- A signed request carries its nonce and verifies. -/
theorem verify_of_signWithOptions {prims : Primitives} {key : FixedBytes 32} {requestId : Uuid}
    {nonce : UInt64} {action : CompanionActionV1} {strategy : Option StrategyBundleV1}
    {settings : Option RunSettingsV1} {request : CompanionRequestV1}
    (signed : signWithOptions prims key requestId nonce action strategy settings = .ok request) :
    request.nonce = nonce ∧ request.verify prims key = .ok () := by
  unfold signWithOptions at signed
  split at signed
  · cases signed
  · rename_i strategyFits
    split at signed
    · cases signed
    · rename_i strategyValid
      split at signed
      · cases signed
      · rename_i settingsFit
        split at signed
        · cases signed
        · dsimp only at signed
          cases macs : signValue prims key (CompanionRequestV1.unsignedRequest prims
              ⟨harnessProtocolV1, requestId, nonce, action, strategy, settings, ""⟩) with
          | error error =>
            rw [macs] at signed
            cases signed
          | ok mac =>
            rw [macs] at signed
            cases signed
            refine ⟨rfl, ?_⟩
            unfold verify
            rw [if_neg (by simp [strategyFits, settingsFit, strategyValid])]
            exact verifyValue_of_signValue macs

end CompanionRequestV1

structure CompanionResponseV1 : Type where
  protocol : String
  requestId : Uuid
  nonce : UInt64
  accepted : Bool
  executionState : String
  activeRun : Option Uuid
  error : Option String
  mac : String
  deriving DecidableEq, Repr

namespace CompanionResponseV1

/-- The fields the HMAC covers, as `UnsignedResponse` serialises them. -/
def unsignedResponse (response : CompanionResponseV1) : Json := .ofFields [
  ("protocol", .string response.protocol),
  ("request_id", .string response.requestId.hyphenated),
  ("nonce", .number (.unsigned response.nonce)),
  ("accepted", .bool response.accepted),
  ("execution_state", .string response.executionState),
  ("active_run", (response.activeRun.map fun run => Json.string run.hyphenated).getD .null),
  ("error", (response.error.map Json.string).getD .null)]

def sign (prims : Primitives) (key : FixedBytes 32) (requestId : Uuid) (nonce : UInt64)
    (accepted : Bool) (executionState : String) (activeRun : Option Uuid) (error : Option String) :
    Except CompanionIpcError CompanionResponseV1 := do
  let unsigned : CompanionResponseV1 := {
    protocol := harnessProtocolV1
    requestId
    nonce
    accepted
    executionState
    activeRun
    error
    mac := "" }
  let mac ← signValue prims key (some unsigned.unsignedResponse)
  return { unsigned with mac }

end CompanionResponseV1

end CrowAgent
