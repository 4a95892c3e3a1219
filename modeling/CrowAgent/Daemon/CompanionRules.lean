import CrowAgent.Daemon.Commands
import CrowAgent.Daemon.Session

/-!
# The rules of companion requests

The rules of a request are checked by the companion that signs it, by the daemon that verifies it,
and, for its settings, by the live session that takes them over, which ends when they are not valid.

* `verify_signable_iff`: the requests for which the three agree.
-/

namespace CrowAgent

variable {prims : Primitives} {key : FixedBytes 32}

/-- The companion would sign a request with the contents of this one. -/
def CompanionRequestV1.Signable (prims : Primitives) (key : FixedBytes 32)
    (request : CompanionRequestV1) : Prop :=
  ∃ signed, CompanionRequestV1.signWithOptions prims key request.requestId request.nonce
    request.action request.strategy request.settings = .ok signed

/-- A live session that takes the settings over fails in their validation. -/
def RunSettingsV1.FailsSession (prims : Primitives) (config : DaemonConfig) (state : LiveRunState)
    (settings : RunSettingsV1) : Prop :=
  ∃ next, (changeSettings prims config state).start () =
      .call (.shared .pendingSettings) next ∧
    next (some settings) = .done (.error .configuration, ())

/-- The request puts settings into the slot that the session takes them from. -/
def CompanionRequestV1.Puts (prims : Primitives) (key : FixedBytes 32)
    (request : CompanionRequestV1) (settings : RunSettingsV1) : Prop :=
  ∃ control : Control, control.pendingSettings = none ∧
    (applyCompanionRequest prims key request control).2.pendingSettings = some settings

/-- Validation as the session does it. -/
theorem validate_eq_error {settings : RunSettingsV1} (invalid : settings.validate ≠ .ok ()) :
    settings.validate = .error .protocol := by
  unfold RunSettingsV1.validate at invalid ⊢
  split_ifs at invalid ⊢ with outside
  · rfl
  · exact absurd rfl invalid

/-- The session fails with exactly the settings that are not valid. -/
theorem failsSession_iff {config : DaemonConfig} {state : LiveRunState}
    {settings : RunSettingsV1} :
    settings.FailsSession prims config state ↔ settings.validate ≠ .ok () := by
  constructor
  · rintro ⟨next, called, failed⟩ valid
    obtain rfl := eq_of_heq (Coroutine.Prog.call.inj called).2
    simp only [Coroutine.Prog.bind, ExceptT.bindCont, valid] at failed
    cases failed
  · intro invalid
    refine ⟨_, rfl, ?_⟩
    simp only [Coroutine.Prog.bind, ExceptT.bindCont, validate_eq_error invalid]
    rfl

/-- Only the settings of the request get into the slot. -/
theorem CompanionRequestV1.Puts.settings {request : CompanionRequestV1} {settings : RunSettingsV1}
    (puts : request.Puts prims key settings) : request.settings = some settings := by
  obtain ⟨control, empty, put⟩ := puts
  unfold applyCompanionRequest at put
  split at put
  · rw [empty] at put
    cases put
  · split at put
    · rw [empty] at put
      cases put
    · have kept : ∀ (control : Control) (accepted : Bool),
          (control.clearError request accepted).pendingSettings = control.pendingSettings := by
        intro control accepted
        unfold Control.clearError
        split <;> rfl
      dsimp only at put
      rw [kept] at put
      have acted := Control.acted { control with highestNonce := request.nonce } request
      generalize Control.applyAction { control with highestNonce := request.nonce } request = result
        at put acted
      cases acted with
      | settings _ sends =>
        obtain rfl := Option.some.inj put
        exact sends
      | status | gate | queued | refused =>
        have empty : control.pendingSettings = some settings := put
        simp_all

/-- Signing checks the settings. -/
theorem CompanionRequestV1.Signable.settings {request : CompanionRequestV1}
    (signable : request.Signable prims key) {settings : RunSettingsV1}
    (carries : request.settings = some settings) : settings.validate = .ok () := by
  obtain ⟨signed, isSigned⟩ := signable
  unfold CompanionRequestV1.signWithOptions at isSigned
  split_ifs at isSigned
  rw [carries, Option.map_some] at isSigned
  cases valid : settings.validate with
  | ok => rfl
  | error error =>
    rw [valid] at isSigned
    cases isSigned

/-- A request that verifies is signable when its settings are valid. -/
theorem signable_of_verify {request : CompanionRequestV1}
    (verified : request.verify prims key = .ok ())
    (valid : ∀ settings, request.settings = some settings → settings.validate = .ok ()) :
    request.Signable prims key := by
  unfold CompanionRequestV1.verify at verified
  split_ifs at verified with broken
  simp only [not_or, not_and, ne_eq, not_not] at broken
  obtain ⟨isProtocol, strategyAction, settingsAction, strategyValid⟩ := broken
  have settingsValid : ∀ error,
      request.settings.map RunSettingsV1.validate ≠ some (.error error) := by
    intro error isError
    obtain ⟨settings, carries, failed⟩ := Option.map_eq_some_iff.mp isError
    rw [valid settings carries] at failed
    cases failed
  obtain ⟨value, isValue⟩ : ∃ value, request.unsignedRequest prims = some value := by
    cases isValue : request.unsignedRequest prims with
    | some value => exact ⟨value, rfl⟩
    | none =>
      rw [isValue] at verified
      cases verified
  have sameValue : CompanionRequestV1.unsignedRequest prims ⟨harnessProtocolV1, request.requestId,
      request.nonce, request.action, request.strategy, request.settings, ""⟩ = some value := by
    rw [← isProtocol]
    exact isValue
  unfold CompanionRequestV1.Signable CompanionRequestV1.signWithOptions
  rw [if_neg (by simpa using strategyAction), if_neg (by simpa using strategyValid),
    if_neg (by simpa using settingsAction)]
  split
  · rename_i error isError
    exact absurd isError (settingsValid error)
  · dsimp only
    rw [sameValue]
    exact ⟨_, rfl⟩

/-- **Rules of a request.**  A request that verifies satisfies the rules it is signed under, and
puts no settings into the slot that fail the session, exactly when its settings, if it carries any,
are valid. -/
theorem verify_signable_iff {request : CompanionRequestV1}
    (verified : request.verify prims key = .ok ()) :
    (request.Signable prims key ∧ ∀ (config : DaemonConfig) (state : LiveRunState)
        (settings : RunSettingsV1), request.Puts prims key settings →
          ¬settings.FailsSession prims config state) ↔
      ∀ settings, request.settings = some settings → settings.validate = .ok () := by
  constructor
  · rintro ⟨signable, -⟩ settings carries
    exact signable.settings carries
  · intro valid
    refine ⟨signable_of_verify verified valid, fun config state settings puts fails => ?_⟩
    exact failsSession_iff.mp fails (valid settings puts.settings)

/-- A request to update the settings, with the HMAC that verifies. -/
def settingsRequest (decisionCooldownSeconds : UInt32) (isolatedLeverage : UInt8) :
    CompanionRequestV1 where
  protocol := harnessProtocolV1
  requestId := ⟨.ofNat 16 0x99999999999999999999999999999999⟩
  nonce := 1
  action := .updateSettings
  strategy := none
  settings := some { decisionCooldownSeconds, isolatedLeverage }
  mac := Hex.encode sampleDigest.val

theorem verify_settingsRequest (decisionCooldownSeconds : UInt32) (isolatedLeverage : UInt8) :
    (settingsRequest decisionCooldownSeconds isolatedLeverage).verify samplePrimitives sampleKey =
      .ok () := by
  unfold CompanionRequestV1.verify
  rw [if_neg (by simp [settingsRequest])]
  exact verifyValue_of_signValue rfl

/-- Settings of five minutes at twice the leverage are signed and fail no session. -/
theorem signable_settingsRequest :
    (settingsRequest 300 2).Signable samplePrimitives sampleKey :=
  ((verify_signable_iff (verify_settingsRequest 300 2)).mpr fun settings carries => by
    obtain rfl := Option.some.inj carries
    decide).1

/-- Settings of 301 seconds verify, though they would not be signed. -/
theorem verify_invalid_settings :
    ¬∀ (prims : Primitives) (key : FixedBytes 32) (request : CompanionRequestV1),
      request.verify prims key = .ok () →
      request.Signable prims key ∧ ∀ (config : DaemonConfig) (state : LiveRunState)
        (settings : RunSettingsV1), request.Puts prims key settings →
          ¬settings.FailsSession prims config state := by
  intro rules
  have signable := (rules _ _ _ (verify_settingsRequest 301 2)).1
  exact absurd (signable.settings rfl) (by decide)

end CrowAgent
