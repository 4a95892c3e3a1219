import CrowAgent.Core.CycleRuns
import CrowAgent.Daemon.Invariants

/-!
# Nonces of remote commands

A remote command reaches the gate only after its nonce was stored in the journal, and only with a
nonce above the stored one.  `NoncesKept` is the invariant behind this; it survives restarts, since
the journal does.
-/

namespace CrowAgent

open Coroutine

variable {prims : Primitives} {config : DaemonConfig} {w w' : World}

/-- The command was meant for this device and for the active run, and came in time. -/
structure Reached.Admitted (entry : Reached) (deviceId : Uuid) : Prop where
  target : entry.command.targetDeviceId = deviceId
  run : entry.activeRun = some entry.command.runId
  issued : entry.command.issuedAt.unixNanoseconds ≤ entry.now.unixNanoseconds
  expires : entry.now.unixNanoseconds ≤ entry.command.expiresAt.unixNanoseconds

/-- The nonce that is stored for a controller. -/
def World.storedNonce (w : World) (controllerDeviceId : Uuid) : Option UInt64 :=
  (w.journal.secret (remoteControllerNonceKey controllerDeviceId)).bind fromBeBytes?

/-- The stored nonce is the one of the command. -/
theorem World.storedNonce_storesNonce (command : RemoteCommandV1) (clock : OffsetDateTime)
    (controllerDeviceId : Uuid) :
    (w.storesNonce command clock).storedNonce controllerDeviceId =
      if controllerDeviceId = command.controllerDeviceId then some command.nonce
      else w.storedNonce controllerDeviceId := by
  unfold World.storedNonce World.storesNonce
  split
  · rename_i same
    subst same
    have named : remoteControllerNonceKey command.controllerDeviceId ≠ "" :=
      append_ne_empty (by decide)
    rw [EncryptedJournal.secret_putSecret_self named, Option.bind_some, fromBeBytes?_toBeBytes]
  · rename_i different
    rw [EncryptedJournal.secret_putSecret_of_ne
      fun same => different (remoteControllerNonceKey_injective same)]

/-- A stored nonce is the one of the message's command. -/
theorem World.Checks.storedNonce {deviceId : Uuid} {envelope : WireEnvelope}
    {delivery : RemoteCommandDelivery} {clock : OffsetDateTime}
    (checks : w.Checks prims deviceId envelope delivery clock) (controllerDeviceId : Uuid) :
    (w.storesNonce delivery.command clock).storedNonce controllerDeviceId =
        w.storedNonce controllerDeviceId ∨
      ∃ delivery', envelope.payload = some delivery' ∧
        delivery'.command.controllerDeviceId = controllerDeviceId ∧
          (w.storesNonce delivery.command clock).storedNonce controllerDeviceId =
            some delivery'.command.nonce := by
  by_cases own : controllerDeviceId = delivery.command.controllerDeviceId
  · refine .inr ⟨delivery, checks.payload, own.symm, ?_⟩
    rw [World.storedNonce_storesNonce, if_pos own]
  · refine .inl ?_
    rw [World.storedNonce_storesNonce, if_neg own]

/-- A message stores at most the nonce of its command. -/
theorem Taken.storedNonce {deviceId : Uuid} {envelope : WireEnvelope}
    (taken : Taken prims deviceId envelope w w') (controllerDeviceId : Uuid) :
    w'.storedNonce controllerDeviceId = w.storedNonce controllerDeviceId ∨
      ∃ delivery, envelope.payload = some delivery ∧
        delivery.command.controllerDeviceId = controllerDeviceId ∧
          w'.storedNonce controllerDeviceId = some delivery.command.nonce := by
  cases taken with
  | looked clock => exact .inl rfl
  | stored checks => exact checks.storedNonce controllerDeviceId
  | applied later checks => exact checks.storedNonce controllerDeviceId

/-- Every controller's commands came with growing nonces, none of them above the stored one. -/
structure World.NoncesKept (deviceId : Uuid) (w : World) : Prop where
  growing : w.reached.Pairwise fun later earlier =>
    later.command.controllerDeviceId = earlier.command.controllerDeviceId →
      earlier.command.nonce < later.command.nonce
  stored : ∀ entry ∈ w.reached, ∃ nonce,
    w.storedNonce entry.command.controllerDeviceId = some nonce ∧ entry.command.nonce ≤ nonce
  admitted : ∀ entry ∈ w.reached, entry.Admitted deviceId

namespace World.NoncesKept

variable {deviceId : Uuid}

/-- The invariant looks at the commands that came and at the stored nonces. -/
theorem of_eq (kept : w.NoncesKept deviceId) (reached : w'.reached = w.reached)
    (nonces : ∀ controllerDeviceId,
      w'.journal.secret (remoteControllerNonceKey controllerDeviceId) =
        w.journal.secret (remoteControllerNonceKey controllerDeviceId)) : w'.NoncesKept deviceId := by
  have storedNonce : ∀ controllerDeviceId,
      w'.storedNonce controllerDeviceId = w.storedNonce controllerDeviceId := by
    intro controllerDeviceId
    rw [World.storedNonce, nonces, World.storedNonce]
  refine ⟨reached ▸ kept.growing, ?_, reached ▸ kept.admitted⟩
  intro entry mem
  rw [storedNonce]
  exact kept.stored entry (reached ▸ mem)

variable {envelope : WireEnvelope} {delivery : RemoteCommandDelivery} {clock : OffsetDateTime}

/-- Storing a nonce above the stored one keeps the invariant. -/
theorem storesNonce (kept : w.NoncesKept deviceId)
    (checks : w.Checks prims deviceId envelope delivery clock) :
    (w.storesNonce delivery.command clock).NoncesKept deviceId := by
  refine ⟨kept.growing, ?_, kept.admitted⟩
  intro entry mem
  obtain ⟨nonce, stored, below⟩ := kept.stored entry mem
  rw [storedNonce_storesNonce]
  split
  · rename_i same
    rw [same] at stored
    have above := checks.fresh nonce stored
    exact ⟨_, rfl, UInt64.le_of_lt (UInt64.lt_of_le_of_lt below above)⟩
  · exact ⟨nonce, stored, below⟩

/-- So does the command that then comes to the gate. -/
theorem applies (kept : w.NoncesKept deviceId)
    (checks : w.Checks prims deviceId envelope delivery clock) :
    ((w.storesNonce delivery.command clock).applies delivery.command).NoncesKept deviceId := by
  have after := kept.storesNonce checks
  obtain ⟨issued, expires⟩ := RemoteCommandV1.valid_of_verify checks.valid
  refine ⟨List.pairwise_cons.mpr ⟨?_, kept.growing⟩, ?_, ?_⟩
  · intro earlier mem same
    obtain ⟨nonce, stored, below⟩ := kept.stored earlier mem
    rw [← same] at stored
    exact UInt64.lt_of_le_of_lt below (checks.fresh nonce stored)
  · intro entry mem
    rcases List.mem_cons.mp mem with rfl | older
    · exact ⟨_, (storedNonce_storesNonce delivery.command clock _).trans (if_pos rfl), UInt64.le_refl _⟩
    · exact after.stored entry older
  · intro entry mem
    rcases List.mem_cons.mp mem with rfl | older
    · exact ⟨checks.target, checks.run, issued, expires⟩
    · exact kept.admitted entry older

/-- A message of the relay keeps the invariant, however far it comes. -/
theorem taken (kept : w.NoncesKept deviceId) (taken : Taken prims deviceId envelope w w') :
    w'.NoncesKept deviceId := by
  cases taken with
  | looked clock => exact kept.of_eq rfl fun _ => rfl
  | stored checks => exact kept.storesNonce checks
  | applied later checks => exact (kept.applies checks).of_eq rfl fun _ => rfl

end World.NoncesKept

/-- An event stores at most the nonce of a command that is delivered. -/
theorem Happens.storedNonce {event : DaemonEvent} (happens : Happens prims config event w w')
    (controllerDeviceId : Uuid) :
    w'.storedNonce controllerDeviceId = w.storedNonce controllerDeviceId ∨
      ∃ i envelope delivery, event.Relays i ∧ w.issued[i]? = some (.relay envelope) ∧
        envelope.payload = some delivery ∧
          delivery.command.controllerDeviceId = controllerDeviceId ∧
            w'.storedNonce controllerDeviceId = some delivery.command.nonce := by
  cases happens with
  | @relay i envelope answer _ w₁ receives ran =>
    have same : (w₁.noteAcknowledged i envelope answer).storedNonce controllerDeviceId =
        w₁.storedNonce controllerDeviceId := by
      unfold World.noteAcknowledged
      split <;> rfl
    rw [same]
    rcases (taken_of_runs ran).1.storedNonce controllerDeviceId with old | stored
    · exact .inl old
    · obtain ⟨delivery, payload, own, new⟩ := stored
      exact .inr ⟨i, envelope, delivery, .inl rfl, receives.2.1, payload, own, new⟩
  | @relayRefused i envelope error _ w₁ receives refused =>
    rcases (taken_of_fails refused).1.storedNonce controllerDeviceId with old | stored
    · exact .inl old
    · obtain ⟨delivery, payload, own, new⟩ := stored
      exact .inr ⟨i, envelope, delivery, .inr rfl, receives.2.1, payload, own, new⟩
  | rotates rotating =>
    refine .inl ?_
    unfold World.storedNonce
    rw [EncryptedJournal.secret_putSecret_of_ne remoteControllerNonceKey_ne_tokens]
  | _ => exact .inl rfl

/-- Everything but the writes of a controller's nonce. -/
def nonceEffects : Effects where
  events := fun _ _ => True
  keys := fun name => ∀ controllerDeviceId, name ≠ remoteControllerNonceKey controllerDeviceId
  weighs := fun _ => True
  shared := fun _ => True
  cycles := fun _ => True
  selects := True

theorem nonceEffects_process : nonceEffects.Process config where
  events := fun _ _ => trivial
  keys := fun session controllerDeviceId same =>
    session.not_command (same ▸ .nonce controllerDeviceId)
  weighs := fun _ => trivial
  shared := fun _ => trivial
  cycles := fun _ => trivial
  selects := trivial
  tokens := fun _ same => remoteControllerNonceKey_ne_tokens same.symm
  drops := fun _ => trivial

/-- The invariant of the nonces is kept in all runs. -/
theorem noncesKept_kept :
    Kept prims config anything nonceEffects (World.NoncesKept config.deviceId) where
  process := nonceEffects_process
  begins := by
    intro op w w' _ kept begins
    refine kept.of_eq (congrArg Shared.reached begins.shared) fun _ => ?_
    rw [World.Begins.journal begins]
  answers := by
    intro op w w' answer within kept answers
    refine kept.of_eq (answers.reached ?_) fun controllerDeviceId => ?_
    · rintro command rfl
      exact within
    · exact answers.secret_of_within within fun keeps => keeps controllerDeviceId rfl
  happens := by
    intro event w w' _ kept happens
    cases happens with
    | relay receives ran =>
      have after := kept.taken (taken_of_runs ran).1
      unfold World.noteAcknowledged
      split
      · exact after.of_eq rfl fun _ => rfl
      · exact after
    | relayRefused receives refused =>
      exact (kept.taken (taken_of_fails refused).1).of_eq rfl fun _ => rfl
    | rotates rotating =>
      exact kept.of_eq rfl fun _ =>
        EncryptedJournal.secret_putSecret_of_ne remoteControllerNonceKey_ne_tokens
    | _ => exact kept.of_eq rfl fun _ => rfl
  dies := by
    intro w w' _ kept dies
    cases dies with
    | between => exact kept.of_eq rfl fun _ => rfl
    | amid receives taken => exact (kept.taken (taken_of_leadsTo taken)).of_eq rfl fun _ => rfl

/-- **Replay of remote commands.**  Over any run of the daemon with any restarts, the commands of a
controller that come to the gate have strictly increasing nonces, no command comes twice, and each
was for this device and the active run, and in time. -/
theorem remote_commands_reach_gate_once {w₀ : World} {config' : Config calls World Stage}
    (start : w₀.reached = []) (reached : DaemonReaches prims config anything w₀ config') :
    (∀ controllerDeviceId, ((config'.2.reached.reverse.map (·.command)).filter
        (·.controllerDeviceId = controllerDeviceId)).Pairwise fun earlier later =>
          earlier.nonce < later.nonce) ∧
      (config'.2.reached.map (·.command)).Nodup ∧
      ∀ entry ∈ config'.2.reached, entry.Admitted config.deviceId := by
  have kept : config'.2.NoncesKept config.deviceId := by
    refine noncesKept_kept.reaches ⟨?_, ?_, ?_⟩ reached
    · rw [start]
      exact .nil
    · simp [start]
    · simp [start]
  refine ⟨?_, ?_, kept.admitted⟩
  · intro controllerDeviceId
    rw [List.map_reverse, List.filter_reverse, List.pairwise_reverse, List.pairwise_filter,
      List.pairwise_map]
    refine kept.growing.imp fun growing mem mem' => growing ?_
    rw [of_decide_eq_true mem, of_decide_eq_true mem']
  · refine List.pairwise_map.mpr (kept.growing.imp ?_)
    intro later earlier growing same
    have below := growing (by rw [same])
    rw [same] at below
    exact UInt64.lt_irrefl _ below

/-! ## A command that comes -/

/-- What the sample daemon is started with. -/
def sampleConfig : DaemonConfig where
  deviceId := ⟨.ofNat 16 0x55555555555555555555555555555555⟩
  signingKey := sampleKey
  companionSecret := sampleKey
  liveArena := {
    signed := {
      manifest := sampleManifest
      manifestSha256 := ""
      signerPublicKey := ""
      signature := "" }
    handoffSnapshot := none
    agentVersionId := ⟨.ofNat 16 0x66666666666666666666666666666666⟩
    executionAccount := "0x0000000000000000000000000000000000000042"
    modelId := "crow-qwen3-5-27b"
    clientRelease := "0.1.30"
    decisionCooldownSeconds := 3600
    isolatedLeverage := 1 }

/-- A command of the sample controller, with the signature that verifies. -/
def sampleCommand (action : RemoteAction) (nonce : UInt64) : RemoteCommandV1 where
  protocol := harnessProtocolV1
  commandId := ⟨.ofNat 16 nonce.toNat⟩
  targetDeviceId := sampleConfig.deviceId
  runId := sampleStarted.runId
  action
  nonce
  issuedAt := ⟨1767571200000000000, 0⟩
  expiresAt := ⟨1767571205000000000, 0⟩
  controllerDeviceId := ⟨.ofNat 16 0x88888888888888888888888888888888⟩
  controllerSignature := Hex.encode (List.replicate 64 0)
  relayReceipt := some ""

/-- The message in which it is delivered. -/
def sampleEnvelope (action : RemoteAction) (nonce : UInt64) : WireEnvelope where
  protocol := harnessProtocolV1
  kind := "remote_command"
  id := (sampleCommand action nonce).commandId.hyphenated
  payload := some ⟨sampleCommand action nonce, Hex.encode (List.replicate 32 0)⟩

variable {action : RemoteAction} {nonce : UInt64}

theorem sampleEnvelope_carries : (sampleEnvelope action nonce).Carries
    ⟨sampleCommand action nonce, Hex.encode (List.replicate 32 0)⟩ := ⟨rfl, rfl, rfl, rfl, rfl⟩

theorem verify_sampleCommand :
    (sampleCommand action nonce).verify countingPrimitives (Hex.encode (List.replicate 32 0))
      sampleStarted.occurredAt = .ok () := by
  have signed := verifySignature_counting ⟨List.replicate 32 0, rfl⟩ ⟨List.replicate 64 0, rfl⟩
  unfold RemoteCommandV1.verify
  rw [if_neg (by simp [sampleCommand, sampleStarted])]
  exact signed _

theorem sampleEnvelope_checks (action : RemoteAction) (nonce : UInt64) {w : World}
    (active : w.activeRun = some sampleStarted.runId)
    (fresh : ∀ stored, w.storedNonce (sampleCommand action nonce).controllerDeviceId = some stored →
      stored < nonce) :
    w.Checks countingPrimitives sampleConfig.deviceId (sampleEnvelope action nonce)
      ⟨sampleCommand action nonce, Hex.encode (List.replicate 32 0)⟩ sampleStarted.occurredAt :=
  ⟨rfl, rfl, active, verify_sampleCommand, fresh⟩

/-- A daemon with an active run and a connected relay. -/
def activeWorld : World := { sampleWorld with activeRun := some sampleStarted.runId }

/-- The theorem at a run in which a pause comes over the relay as the process starts. -/
theorem sample_command_reaches_gate_once :
    ∃ config', DaemonReaches countingPrimitives sampleConfig anything activeWorld config' ∧
      config'.2.reached.length = 1 ∧ (config'.2.reached.map (·.command)).Nodup := by
  have start : DaemonReaches countingPrimitives sampleConfig anything activeWorld
      (.waiting .rotate _, activeWorld) :=
    .tail (.single (.again .start)) (.issue ⟨trivial, rfl⟩)
  have issued := start.tail (.others rfl ⟨.issue (.relay (sampleEnvelope .pause 1)), trivial,
    .issue _ _⟩)
  have taken := issued.tail (.others rfl ⟨.relay 0, trivial,
    .relay ⟨rfl, rfl, fun shutdown => nomatch shutdown.2⟩
      (runs_applyRelayMessage sampleEnvelope_carries (sampleEnvelope_checks .pause 1 rfl nofun)
        rfl)⟩)
  obtain ⟨-, once, -⟩ := remote_commands_reach_gate_once rfl taken
  exact ⟨_, taken, rfl, once⟩

end CrowAgent
