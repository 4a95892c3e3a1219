import CrowAgent.Core.AgentVersion
import CrowAgent.Core.Crypto
import CrowAgent.Lib.Base64
import Mathlib.Data.List.Destutter

/-!
# Sealed agent versions

A strategy is sealed for the devices of its owner: its canonical JSON is hashed and encrypted, and
the bundle key is wrapped for every device.  A device opens what was sealed for it.

* `openAgentVersion_sealAgentVersion`: sealing succeeds, every recipient opens the strategy that was
  sealed, and no other device is let in.
* `opened_of_openAgentVersion`: what is opened of any envelope is what the envelope says.
-/

namespace CrowAgent

open FixedWidth Json

structure AgentVersionRecipient : Type where
  deviceId : Uuid
  encryptionPublicKey : FixedBytes 32

structure DeviceKeyWrapV1 : Type where
  deviceId : Uuid
  ephemeralPublicKey : String
  nonce : String
  wrappedKey : String
  deriving DecidableEq, Repr

structure AgentVersionEnvelopeV1 : Type where
  protocol : String
  versionId : Uuid
  agentId : Uuid
  version : UInt32
  modelId : String
  configurationSha256 : String
  ciphertext : String
  nonce : String
  keyWraps : List DeviceKeyWrapV1
  createdAt : OffsetDateTime
  deriving DecidableEq, Repr

inductive AgentVersionError : Type
  | invalid
  | crypto (error : CryptoError)
  | serialization
  | deviceWrap
  deriving DecidableEq, Repr

/-- What `seal_agent_version` draws, for each recipient in its place of the list. -/
structure SealDraws : Type where
  bundleKey : FixedBytes 32
  nonce : FixedBytes 24
  wraps : Nat → WrapDraws

/-- The order of identifiers. -/
def Uuid.le (a b : Uuid) : Bool := a.bytes.val ≤ b.bytes.val

/-- `sort_unstable` and `dedup`, which drops an element that its predecessor equals. -/
def distinctIds (ids : List Uuid) : List Uuid := (ids.mergeSort Uuid.le).destutter (· ≠ ·)

def agentVersionAad (versionId : Uuid) : Bytes :=
  utf8 ("crow-agent-version-v1:" ++ versionId.hyphenated)

/-- The wrapped key of a device. -/
def DeviceKeyWrapV1.wrapped (wrap : DeviceKeyWrapV1) : WrappedBundleKey where
  ephemeralPublicKey := wrap.ephemeralPublicKey
  nonce := wrap.nonce
  wrappedKey := wrap.wrappedKey

def AgentVersionEnvelopeV1.encrypted (envelope : AgentVersionEnvelopeV1) : BundleCiphertext where
  nonce := envelope.nonce
  ciphertext := envelope.ciphertext

/-- `serde_json::from_value` of a bundle. -/
def StrategyBundleV1.ofJson? (prims : WirePrimitives) (json : Json) : Option StrategyBundleV1 := do
  let [some protocol, some versionId, some modelId, some name, some systemInstructions, some tools,
      some createdAt] ←
    json.structFields? ["protocol", "version_id", "model_id", "name", "system_instructions",
      "tools", "created_at"] | none
  let protocol ← protocol.asStr?
  let versionId ← versionId.asStr?.bind prims.parseUuid
  let modelId ← modelId.asStr?
  let name ← name.asStr?
  let systemInstructions ← systemInstructions.asStr?
  let tools ← tools.toStrings?
  let createdAt ← createdAt.asStr?.bind prims.parseRfc3339
  return { protocol, versionId, modelId, name, systemInstructions, tools, createdAt }

section Operations

variable (prims : CryptoPrimitives)

/-- The wrap of the bundle key for a recipient. -/
def keyWrap (draws : WrapDraws) (bundleKey : FixedBytes 32) (aad : Bytes)
    (recipient : AgentVersionRecipient) : Exec CryptoError DeviceKeyWrapV1 := do
  let wrapped ← wrapBundleKey prims draws bundleKey recipient.encryptionPublicKey aad
  return {
    deviceId := recipient.deviceId
    ephemeralPublicKey := wrapped.ephemeralPublicKey
    nonce := wrapped.nonce
    wrappedKey := wrapped.wrappedKey }

def sealAgentVersion (draws : SealDraws) (bundle : StrategyBundleV1) (agentId : Uuid)
    (version : UInt32) (recipients : List AgentVersionRecipient) :
    Exec AgentVersionError AgentVersionEnvelopeV1 := do
  rejectIf (!bundle.isValid) .invalid
  rejectIf (agentId = Uuid.nil ∨ version = 0 ∨ recipients = [] ∨ 32 < recipients.length) .invalid
  let recipientIds := distinctIds (recipients.map (·.deviceId))
  rejectIf (recipientIds.length ≠ recipients.length ∨ Uuid.nil ∈ recipientIds) .invalid
  let aad := agentVersionAad bundle.versionId
  let json ← okOr (bundle.toJson prims.toPrimitives) .serialization
  let plaintext := canonicalJson prims.toPrimitives json
  let configurationSha256 := Hex.encode (prims.sha256 plaintext).val
  let encrypted ← withErrors .crypto
    (encryptBundle prims draws.nonce draws.bundleKey plaintext aad)
  let keyWraps ← withErrors .crypto (recipients.zipIdx.mapM fun (recipient, i) =>
    keyWrap prims (draws.wraps i) draws.bundleKey aad recipient)
  return {
    protocol := harnessProtocolV1
    versionId := bundle.versionId
    agentId, version
    modelId := bundle.modelId
    configurationSha256
    ciphertext := encrypted.ciphertext
    nonce := encrypted.nonce
    keyWraps
    createdAt := bundle.createdAt }

def openAgentVersion (envelope : AgentVersionEnvelopeV1) (deviceId : Uuid)
    (deviceKey : DeviceEncryptionKey) : Exec AgentVersionError StrategyBundleV1 := do
  rejectIf (envelope.protocol ≠ harnessProtocolV1 ∨ envelope.versionId = Uuid.nil ∨
    envelope.agentId = Uuid.nil ∨ envelope.version = 0 ∨ isBlank envelope.modelId) .invalid
  let wrap ← okOr (envelope.keyWraps.find? (·.deviceId = deviceId)) .deviceWrap
  let aad := agentVersionAad envelope.versionId
  let bundleKey ← withErrors .crypto (deviceKey.unwrapBundleKey prims wrap.wrapped aad)
  let plaintext ← withErrors .crypto (decryptBundle prims bundleKey envelope.encrypted aad)
  rejectIf (Hex.encode (prims.sha256 plaintext).val ≠ envelope.configurationSha256) .invalid
  let bundle ← okOr ((prims.parseJson plaintext).bind
    (StrategyBundleV1.ofJson? prims.toWirePrimitives)) .serialization
  rejectIf (!bundle.isValid) .invalid
  rejectIf (bundle.versionId ≠ envelope.versionId ∨ bundle.modelId ≠ envelope.modelId) .invalid
  return bundle

end Operations

variable {prims : CryptoPrimitives}

/-! ## Distinct identifiers -/

theorem distinctIds_eq_dedup (ids : List Uuid) :
    distinctIds ids = (ids.mergeSort Uuid.le).dedup := by
  have antisymm : Std.Antisymm fun a b : Uuid => Uuid.le a b = true := by
    refine ⟨fun a b first second => ?_⟩
    rw [Uuid.le, decide_eq_true_eq] at first second
    obtain ⟨a⟩ := a
    obtain ⟨b⟩ := b
    exact congrArg Uuid.mk (Subtype.ext (List.le_antisymm first second))
  refine List.Pairwise.destutter_eq_dedup (List.pairwise_mergeSort ?_ ?_ ids)
  · intro a b c first second
    rw [Uuid.le, decide_eq_true_eq] at first second ⊢
    exact List.le_trans first second
  · intro a b
    rw [Uuid.le, Uuid.le, Bool.or_eq_true, decide_eq_true_eq, decide_eq_true_eq]
    exact List.le_total _ _

/-- None is dropped when no two are equal. -/
theorem length_distinctIds {ids : List Uuid} :
    (distinctIds ids).length = ids.length ↔ ids.Nodup := by
  have sorted := List.mergeSort_perm ids Uuid.le
  rw [distinctIds_eq_dedup, ← sorted.length_eq, ← sorted.nodup_iff]
  constructor
  · intro same
    exact List.dedup_eq_self.mp ((List.dedup_sublist _).eq_of_length same)
  · intro distinct
    rw [List.dedup_eq_self.mpr distinct]

theorem mem_distinctIds {ids : List Uuid} {id : Uuid} : id ∈ distinctIds ids ↔ id ∈ ids := by
  rw [distinctIds_eq_dedup, List.mem_dedup, (List.mergeSort_perm ids Uuid.le).mem_iff]

/-! ## Wraps for the recipients -/

/-- The wrap has the identifier of the recipient, whose device unwraps the key. -/
structure WrapsFor (prims : CryptoPrimitives) (bundleKey : FixedBytes 32) (aad : Bytes)
    (recipient : AgentVersionRecipient) (wrap : DeviceKeyWrapV1) : Prop where
  deviceId : wrap.deviceId = recipient.deviceId
  unwraps : ∀ device : DeviceEncryptionKey, device.publicKey prims = recipient.encryptionPublicKey →
    device.unwrapBundleKey prims wrap.wrapped aad = .ok bundleKey

theorem wrapsFor_keyWrap (correct : prims.Correct) (draws : WrapDraws) (bundleKey : FixedBytes 32)
    (aad : Bytes) (recipient : AgentVersionRecipient) :
    ∃ wrap, keyWrap prims draws bundleKey aad recipient = .ok wrap ∧
      WrapsFor prims bundleKey aad recipient wrap := by
  obtain ⟨wrapped, isWrapped, unwraps⟩ := unwrapBundleKey_wrapBundleKey correct draws bundleKey
    recipient.encryptionPublicKey aad
  exact ⟨_, bind_eq_ok.mpr ⟨wrapped, isWrapped, rfl⟩, rfl, unwraps⟩

/-- Every recipient gets its wrap. -/
theorem wrapsFor_keyWraps (correct : prims.Correct) (draws : Nat → WrapDraws)
    (bundleKey : FixedBytes 32) (aad : Bytes) (recipients : List AgentVersionRecipient)
    (start : Nat) :
    ∃ keyWraps, (recipients.zipIdx start).mapM (fun (recipient, i) =>
        keyWrap prims (draws i) bundleKey aad recipient) = .ok keyWraps ∧
      List.Forall₂ (WrapsFor prims bundleKey aad) recipients keyWraps := by
  induction recipients generalizing start with
  | nil => exact ⟨[], rfl, .nil⟩
  | cons recipient rest ih =>
    obtain ⟨wrap, first, wraps⟩ := wrapsFor_keyWrap correct (draws start) bundleKey aad recipient
    obtain ⟨keyWraps, others, all⟩ := ih (start + 1)
    refine ⟨wrap :: keyWraps, ?_, .cons wraps all⟩
    rw [List.zipIdx_cons, List.mapM_cons]
    exact bind_eq_ok.mpr ⟨wrap, first, bind_eq_ok.mpr ⟨keyWraps, others, rfl⟩⟩

/-- The wrap under the identifier of a recipient is the one for it. -/
theorem find?_keyWraps {bundleKey : FixedBytes 32} {aad : Bytes}
    {recipients : List AgentVersionRecipient} {keyWraps : List DeviceKeyWrapV1}
    (wraps : List.Forall₂ (WrapsFor prims bundleKey aad) recipients keyWraps)
    (distinct : (recipients.map (·.deviceId)).Nodup) {recipient : AgentVersionRecipient}
    (mem : recipient ∈ recipients) :
    ∃ wrap, keyWraps.find? (·.deviceId = recipient.deviceId) = some wrap ∧
      WrapsFor prims bundleKey aad recipient wrap := by
  induction wraps with
  | nil => cases mem
  | @cons first wrap rest keyWraps wrapsFirst _ ih =>
    rw [List.map_cons, List.nodup_cons] at distinct
    rcases List.mem_cons.mp mem with rfl | mem
    · exact ⟨wrap, List.find?_cons_of_pos (decide_eq_true wrapsFirst.deviceId), wrapsFirst⟩
    · have other : wrap.deviceId ≠ recipient.deviceId := fun same => distinct.1
        (wrapsFirst.deviceId ▸ same ▸ List.mem_map_of_mem mem)
      rw [List.find?_cons_of_neg (by simpa using other)]
      exact ih distinct.2 mem

/-- There is no wrap for another device. -/
theorem find?_keyWraps_eq_none {bundleKey : FixedBytes 32} {aad : Bytes}
    {recipients : List AgentVersionRecipient} {keyWraps : List DeviceKeyWrapV1}
    (wraps : List.Forall₂ (WrapsFor prims bundleKey aad) recipients keyWraps) {deviceId : Uuid}
    (other : deviceId ∉ recipients.map (·.deviceId)) :
    keyWraps.find? (·.deviceId = deviceId) = none := by
  induction wraps with
  | nil => rfl
  | cons wrapsFirst _ ih =>
    rw [List.map_cons, List.mem_cons, not_or] at other
    rw [List.find?_cons_of_neg (by simpa [wrapsFirst.deviceId] using Ne.symm other.1)]
    exact ih other.2

/-! ## Reading a bundle back -/

/-- The fields of a bundle in the order of their declaration. -/
def StrategyBundleV1.fields (bundle : StrategyBundleV1) (createdAt : String) :
    List (String × Json) := [
  ("protocol", .string bundle.protocol),
  ("version_id", .string bundle.versionId.hyphenated),
  ("model_id", .string bundle.modelId),
  ("name", .string bundle.name),
  ("system_instructions", .string bundle.systemInstructions),
  ("tools", ofStrings bundle.tools),
  ("created_at", .string createdAt)]

theorem StrategyBundleV1.toJson_eq (bundle : StrategyBundleV1) :
    bundle.toJson prims.toPrimitives =
      (prims.rfc3339 bundle.createdAt).map fun createdAt =>
        sortJson (.object (bundle.fields createdAt)) := by
  have sorted : ∀ createdAt, sortJson (.object (bundle.fields createdAt)) =
      ofFields (bundle.fields createdAt) := by
    intro createdAt
    rw [sortJson_object, fields]
    simp only [List.map_cons, List.map_nil, sortJson, sortJson_ofStrings]
  rw [toJson]
  simp only [sorted]
  rfl

/-- The crates read back the identifier, the time and the canonical JSON of a bundle, and decipher
it. -/
structure StrategyBundleV1.ReadsBack (prims : CryptoPrimitives) (bundle : StrategyBundleV1) :
    Prop where
  uuid : prims.parseUuid bundle.versionId.hyphenated = some bundle.versionId
  time : ∀ text, prims.rfc3339 bundle.createdAt = some text →
    prims.parseRfc3339 text = some bundle.createdAt
  document : ∀ json, bundle.toJson prims.toPrimitives = some json →
    prims.parseJson (canonicalJson prims.toPrimitives json) = some (sortJson json)
  deciphers : ∀ json, bundle.toJson prims.toPrimitives = some json →
    prims.Deciphers (canonicalJson prims.toPrimitives json)

theorem StrategyBundleV1.ofJson?_sortJson {bundle : StrategyBundleV1}
    (reads : bundle.ReadsBack prims) {json : Json}
    (written : bundle.toJson prims.toPrimitives = some json) :
    ofJson? prims.toWirePrimitives (sortJson json) = some bundle := by
  rw [toJson_eq, Option.map_eq_some_iff] at written
  obtain ⟨createdAt, isTime, rfl⟩ := written
  have tools : toStrings? (sortJson (ofStrings bundle.tools)) = some bundle.tools := by
    rw [sortJson_ofStrings, toStrings?_ofStrings]
  rw [sortJson_of_keySorted (keySorted_sortJson _)]
  refine bind_of_some (structFields?_sortJson rfl (by decide)) ?_
  exact bind_of_some rfl (bind_of_some reads.uuid (bind_of_some rfl (bind_of_some rfl
    (bind_of_some rfl (bind_of_some tools (bind_of_some (reads.time _ isTime) rfl))))))

/-! ## Sealing and opening -/

/-- What an opened bundle has to do with its envelope. -/
structure OpenedFrom (prims : CryptoPrimitives) (envelope : AgentVersionEnvelopeV1)
    (deviceId : Uuid) (device : DeviceEncryptionKey) (bundle : StrategyBundleV1) : Prop where
  valid : bundle.isValid = true
  versionId : bundle.versionId = envelope.versionId
  modelId : bundle.modelId = envelope.modelId
  /-- The hash is that of the decrypted bytes, which the bundle was read from. -/
  hash : ∃ wrap bundleKey plaintext,
    envelope.keyWraps.find? (·.deviceId = deviceId) = some wrap ∧
    device.unwrapBundleKey prims wrap.wrapped (agentVersionAad envelope.versionId) =
      .ok bundleKey ∧
    decryptBundle prims bundleKey envelope.encrypted (agentVersionAad envelope.versionId) =
      .ok plaintext ∧
    envelope.configurationSha256 = Hex.encode (prims.sha256 plaintext).val ∧
    (prims.parseJson plaintext).bind (StrategyBundleV1.ofJson? prims.toWirePrimitives) =
      some bundle

theorem openAgentVersion_eq_ok {envelope : AgentVersionEnvelopeV1} {deviceId : Uuid}
    {device : DeviceEncryptionKey} {bundle : StrategyBundleV1} :
    openAgentVersion prims envelope deviceId device = .ok bundle ↔
      (envelope.protocol = harnessProtocolV1 ∧ envelope.versionId ≠ Uuid.nil ∧
        envelope.agentId ≠ Uuid.nil ∧ envelope.version ≠ 0 ∧ isBlank envelope.modelId = false) ∧
      OpenedFrom prims envelope deviceId device bundle := by
  simp only [openAgentVersion, bind_eq_ok, rejectIf_eq_ok, okOr_eq_ok, withErrors_eq_ok,
    exists_const, not_or, not_not, Bool.not_eq_true, pure, Except.pure, Except.ok.injEq,
    Bool.not_eq_false', ne_eq]
  constructor
  · rintro ⟨header, wrap, found, bundleKey, unwrapped, plaintext, decrypted, hash, opened, read,
      valid, ⟨versionId, modelId⟩, rfl⟩
    exact ⟨header, valid, versionId, modelId, wrap, bundleKey, plaintext, found, unwrapped,
      decrypted, hash.symm, read⟩
  · rintro ⟨header, valid, versionId, modelId, wrap, bundleKey, plaintext, found, unwrapped,
      decrypted, hash, read⟩
    exact ⟨header, wrap, found, bundleKey, unwrapped, plaintext, decrypted, hash.symm, bundle, read,
      valid, ⟨versionId, modelId⟩, rfl⟩

/-- What a valid bundle is sealed as for distinct recipients. -/
theorem exists_sealAgentVersion (correct : prims.Correct) (draws : SealDraws)
    {bundle : StrategyBundleV1} {agentId : Uuid} {version : UInt32}
    {recipients : List AgentVersionRecipient} {json : Json}
    (written : bundle.toJson prims.toPrimitives = some json)
    (deciphers : prims.Deciphers (canonicalJson prims.toPrimitives json))
    (valid : bundle.isValid = true) (agent : agentId ≠ Uuid.nil) (positive : 0 < version)
    (some : recipients ≠ []) (few : recipients.length ≤ 32)
    (distinct : (recipients.map (·.deviceId)).Nodup)
    (named : Uuid.nil ∉ recipients.map (·.deviceId)) :
    ∃ envelope, sealAgentVersion prims draws bundle agentId version recipients = .ok envelope ∧
      envelope.protocol = harnessProtocolV1 ∧ envelope.versionId = bundle.versionId ∧
      envelope.agentId = agentId ∧ envelope.version = version ∧
      envelope.modelId = bundle.modelId ∧
      envelope.configurationSha256 =
        Hex.encode (prims.sha256 (canonicalJson prims.toPrimitives json)).val ∧
      decryptBundle prims draws.bundleKey envelope.encrypted (agentVersionAad bundle.versionId) =
        .ok (canonicalJson prims.toPrimitives json) ∧
      List.Forall₂ (WrapsFor prims draws.bundleKey (agentVersionAad bundle.versionId)) recipients
        envelope.keyWraps := by
  obtain ⟨encrypted, isEncrypted, decrypted⟩ := decryptBundle_encryptBundle correct deciphers
    draws.nonce draws.bundleKey (agentVersionAad bundle.versionId)
  obtain ⟨keyWraps, isWrapped, wraps⟩ := wrapsFor_keyWraps correct draws.wraps draws.bundleKey
    (agentVersionAad bundle.versionId) recipients 0
  have versionSet : version ≠ 0 := (UInt32.ne_of_lt positive).symm
  have count : (distinctIds (recipients.map (·.deviceId))).length = recipients.length := by
    rw [length_distinctIds.mpr distinct, List.length_map]
  refine ⟨_, bind_eq_ok.mpr ⟨(), rejectIf_eq_ok.mpr (by simp [valid]),
    bind_eq_ok.mpr ⟨(), rejectIf_eq_ok.mpr ?_, bind_eq_ok.mpr ⟨(), rejectIf_eq_ok.mpr ?_,
    bind_eq_ok.mpr ⟨json, okOr_eq_ok.mpr written,
    bind_eq_ok.mpr ⟨encrypted, withErrors_eq_ok.mpr isEncrypted,
    bind_eq_ok.mpr ⟨keyWraps, withErrors_eq_ok.mpr isWrapped, rfl⟩⟩⟩⟩⟩⟩,
    rfl, rfl, rfl, rfl, rfl, rfl, decrypted, wraps⟩
  · simp only [not_or]
    exact ⟨agent, versionSet, some, by omega⟩
  · rw [not_or, not_not, mem_distinctIds]
    exact ⟨count, named⟩

/-- **Sealed agent versions.**  A valid strategy whose time has a text is sealed for up to 32
distinct devices; each of them opens the same strategy, and no other device has a wrap.  Whatever is
opened of an envelope is valid, has its identifiers, and was read from the bytes it has the hash
of. -/
theorem openAgentVersion_sealAgentVersion :
    (prims.Correct → ∀ (draws : SealDraws) (bundle : StrategyBundleV1) (agentId : Uuid)
      (version : UInt32) (recipients : List AgentVersionRecipient),
      bundle.ReadsBack prims → bundle.isValid = true →
      (prims.rfc3339 bundle.createdAt).isSome → agentId ≠ Uuid.nil → 0 < version →
      recipients ≠ [] → recipients.length ≤ 32 → (recipients.map (·.deviceId)).Nodup →
      Uuid.nil ∉ recipients.map (·.deviceId) →
      ∃ envelope, sealAgentVersion prims draws bundle agentId version recipients = .ok envelope ∧
        (∀ recipient ∈ recipients, ∀ device : DeviceEncryptionKey,
          device.publicKey prims = recipient.encryptionPublicKey →
            openAgentVersion prims envelope recipient.deviceId device = .ok bundle) ∧
        ∀ deviceId ∉ recipients.map (·.deviceId), ∀ device,
          openAgentVersion prims envelope deviceId device = raise .deviceWrap) ∧
    ∀ (envelope : AgentVersionEnvelopeV1) (deviceId : Uuid) (device : DeviceEncryptionKey)
      (bundle : StrategyBundleV1), openAgentVersion prims envelope deviceId device = .ok bundle →
        OpenedFrom prims envelope deviceId device bundle := by
  refine ⟨?_, fun envelope deviceId device bundle ok => (openAgentVersion_eq_ok.mp ok).2⟩
  intro correct draws bundle agentId version recipients reads valid representable agent positive
    some few distinct named
  obtain ⟨createdAt, isTime⟩ := Option.isSome_iff_exists.mp representable
  obtain ⟨json, written⟩ : ∃ json, bundle.toJson prims.toPrimitives = .some json :=
    ⟨_, Option.map_eq_some_iff.mpr ⟨createdAt, isTime, rfl⟩⟩
  obtain ⟨envelope, isSealed, protocol, versionId, agentIs, versionIs, modelId, hash, decrypted,
    wraps⟩ := exists_sealAgentVersion correct draws written (reads.deciphers json written) valid
      agent positive some few distinct named
  have bundleFields : bundle.versionId ≠ Uuid.nil ∧ isBlank bundle.modelId = false := by
    simp only [StrategyBundleV1.isValid, Bool.and_eq_true, decide_eq_true_eq,
      Bool.not_eq_true'] at valid
    exact ⟨valid.1.1.1.1.1.1.2, valid.1.1.1.1.1.2⟩
  have versionSet : envelope.version ≠ 0 := by
    rw [versionIs]
    exact (UInt32.ne_of_lt positive).symm
  have header : envelope.protocol = harnessProtocolV1 ∧ envelope.versionId ≠ Uuid.nil ∧
      envelope.agentId ≠ Uuid.nil ∧ envelope.version ≠ 0 ∧ isBlank envelope.modelId = false :=
    ⟨protocol, versionId ▸ bundleFields.1, agentIs ▸ agent, versionSet, modelId ▸ bundleFields.2⟩
  refine ⟨envelope, isSealed, fun recipient mem device key => ?_, fun deviceId other device => ?_⟩
  · obtain ⟨wrap, found, wrapsFor⟩ := find?_keyWraps wraps distinct mem
    refine openAgentVersion_eq_ok.mpr ⟨header, valid, versionId.symm, modelId.symm, wrap,
      draws.bundleKey, canonicalJson prims.toPrimitives json, found, ?_, ?_, hash, ?_⟩
    · rw [versionId]
      exact wrapsFor.unwraps device key
    · rw [versionId]
      exact decrypted
    · rw [reads.document json written]
      exact StrategyBundleV1.ofJson?_sortJson reads written
  · rw [openAgentVersion, find?_keyWraps_eq_none wraps other]
    rw [rejectIf, if_neg (by simpa using header)]
    rfl

/-! ## A strategy for one device -/

def holdStrategy : StrategyBundleV1 where
  protocol := harnessProtocolV1
  versionId := ⟨.ofNat 16 1⟩
  modelId := "crow-qwen3-5-27b"
  name := "Long"
  systemInstructions := "Hold."
  tools := requiredStrategyTools
  createdAt := ⟨1767571200000000000, 0⟩

def holdJson : Json := sortJson (.object (holdStrategy.fields "2026-01-05T00:00:00Z"))

def holdPlaintext : Bytes := canonicalJson samplePrimitives holdJson

def holdDraws : SealDraws where
  bundleKey := .ofNat 32 5
  nonce := .ofNat 24 6
  wraps := fun _ => ⟨.ofNat 32 4, .ofNat 24 7⟩

/-- The bundle as it is encrypted under the drawn key. -/
def holdCiphertext : Bytes :=
  [0x2e2acde461740215b47a94befb1579058f962e145c64949559696ccec1f06810,
    0x7418e9e3bc9758e9fd76116c11ee6d3b23de25fff995481ceb2076f261ad372e,
    0x544214421e44d17ff76f8e6bc5609708e98e470c6329641906463659cc041b96,
    0x02e981f5bcfc43ebe4013ef049c99ae32d2403eacb50500eb1cb81b0030bb72c,
    0x6784151629e9a07a37e97ae1a93e841c3d74152439fe6aa8921e069aba3f75ec,
    0x405b1ee75c483882ee25dc75fe3611e7c6713f0f7606b7205e89df6b5fc01c2c,
    0xf64a0ddf2d3b24e16b02b34e9c03b48beb0ff3bfd99d3875168e991008f286ce,
    0x1f69b40ed63f7c6551147959c67db48788632c9af6402db71984e96ca4912e0b].flatMap
      (fun part => (FixedBytes.ofNat 32 part).val) ++
    (FixedBytes.ofNat 18 0xa34f105e5f7181b81e15b86b1594cb4515c1).val

/-- The drawn key as it is wrapped for the device. -/
def holdWrappedKey : Bytes :=
  (FixedBytes.ofNat 32 0x923ca28530c689c53e3ff3675262724e457e63269026354ad31e399ef9505585).val ++
    (FixedBytes.ofNat 16 0x9e891bb8338587efc384e535252b98e3).val

def holdPublicKey : FixedBytes 32 :=
  .ofNat 32 0x9952fb7e5383c522c954de94f2e4620d3e08cd9e7248ad23207f9ef55c904144

/-- The keys, the digest and the ciphertexts of the strategy, as the crates compute them; other
messages are only marked as encrypted. -/
def holdPrimitives : CryptoPrimitives where
  toPrimitives := { samplePrimitives with
    sha256 := fun _ =>
      .ofNat 32 0x76d02ebeb1467a6906054ca17e3a5fc9b04476c2cb7d8fb0b19d94b6ff52c534
    parseJson := fun bytes => if bytes = holdPlaintext then some holdJson else none
    parseUuid := readUuid
    base64Encode := Base64.encode
    base64Decode := Base64.decode? }
  parseRfc3339 := fun text =>
    if text = "2026-01-05T00:00:00Z" then some ⟨1767571200000000000, 0⟩ else none
  x25519PublicKey := fun secret =>
    if secret = .ofNat 32 4 then
      .ofNat 32 0xec13d23a17daf174750df7ad67a86a1d4eabec8f517636605281c1db18c66649
    else holdPublicKey
  diffieHellman := fun _ _ =>
    .ofNat 32 0x76b29557f85ed4f65b1bb2f29d7fd8e3646996ea10d6465d604692b271309c2b
  hkdfSha256 := fun _ _ _ =>
    some (.ofNat 32 0x004542a502413fd34acda6987a0e0ca1d7b3a7023d2cf03e879e2b11e0cc6af4)
  encrypt := fun _ _ message _ => some (
    if message = holdPlaintext then holdCiphertext
    else if message = holdDraws.bundleKey.val then holdWrappedKey
    else message ++ List.replicate 16 0)
  decrypt := fun _ _ ciphertext _ => some (
    if ciphertext = holdCiphertext then holdPlaintext
    else if ciphertext = holdWrappedKey then holdDraws.bundleKey.val
    else ciphertext.take (ciphertext.length - 16))

theorem deciphers_holdPrimitives (message : Bytes) : holdPrimitives.Deciphers message := by
  intro key nonce aad
  refine ⟨_, rfl, ?_⟩
  have bundleEnd : holdCiphertext.getLast? = some 0xc1 := by decide
  have keyEnd : holdWrappedKey.getLast? = some 0xe3 := by decide
  have apart : holdWrappedKey ≠ holdCiphertext := by
    intro same
    rw [same, bundleEnd] at keyEnd
    exact absurd keyEnd (by decide)
  have marked : (message ++ List.replicate 16 (0 : UInt8)).getLast? = some 0 := by
    rw [List.getLast?_append_of_ne_nil _ (by decide)]
    rfl
  simp only [holdPrimitives]
  by_cases isBundle : message = holdPlaintext
  · rw [if_pos isBundle, if_pos rfl, isBundle]
  · by_cases isKey : message = holdDraws.bundleKey.val
    · rw [if_neg isBundle, if_pos isKey, if_neg apart, if_pos rfl, isKey]
    · have otherBundle : message ++ List.replicate 16 0 ≠ holdCiphertext := by
        intro same
        rw [same, bundleEnd] at marked
        exact absurd marked (by decide)
      have otherKey : message ++ List.replicate 16 0 ≠ holdWrappedKey := by
        intro same
        rw [same, keyEnd] at marked
        exact absurd marked (by decide)
      rw [if_neg isBundle, if_neg isKey, if_neg otherBundle, if_neg otherKey, List.length_append,
        List.length_replicate, Nat.add_sub_cancel, List.take_left]

theorem correct_holdPrimitives : holdPrimitives.Correct where
  agreement _ _ := rfl
  derivation _ _ _ := rfl
  keys key := deciphers_holdPrimitives key.val
  base64 := Base64.decode?_encode

theorem toJson_holdStrategy : holdStrategy.toJson holdPrimitives.toPrimitives = some holdJson :=
  holdStrategy.toJson_eq

theorem canonicalJson_holdJson : canonicalJson holdPrimitives.toPrimitives holdJson =
    holdPlaintext := by
  rw [holdPlaintext, canonicalJson, canonicalJson, Primitives.jsonBytes, Primitives.jsonBytes,
    holdPrimitives]

theorem readsBack_holdStrategy : holdStrategy.ReadsBack holdPrimitives where
  uuid := readUuid_hyphenated holdStrategy.versionId
  time text written := by
    have isText : "2026-01-05T00:00:00Z" = text := Option.some.inj written
    rw [← isText]
    simp only [holdPrimitives, if_true]
    rfl
  document json written := by
    rw [toJson_holdStrategy] at written
    have sorted : sortJson holdJson = holdJson := sortJson_of_keySorted (keySorted_sortJson _)
    rw [← Option.some.inj written, sorted, canonicalJson_holdJson]
    simp only [holdPrimitives, if_true]
  deciphers json _ := deciphers_holdPrimitives _

theorem isValid_holdStrategy : holdStrategy.isValid = true := by decide

/-- One device opens the strategy that was sealed for it; another one does not. -/
theorem openAgentVersion_holdStrategy :
    ∃ envelope, sealAgentVersion holdPrimitives holdDraws holdStrategy ⟨.ofNat 16 2⟩ 1
        [⟨⟨.ofNat 16 8⟩, holdPublicKey⟩] = .ok envelope ∧
      openAgentVersion holdPrimitives envelope ⟨.ofNat 16 8⟩ ⟨.ofNat 32 3⟩ = .ok holdStrategy ∧
      openAgentVersion holdPrimitives envelope ⟨.ofNat 16 9⟩ ⟨.ofNat 32 3⟩ =
        raise .deviceWrap := by
  obtain ⟨envelope, isSealed, opens, others⟩ := openAgentVersion_sealAgentVersion.1
    correct_holdPrimitives holdDraws holdStrategy ⟨.ofNat 16 2⟩ 1
    [⟨⟨.ofNat 16 8⟩, holdPublicKey⟩] readsBack_holdStrategy isValid_holdStrategy rfl
    (by decide) (by decide) (by simp) (by simp) (by simp) (by decide)
  have other : FixedBytes.ofNat 32 3 ≠ .ofNat 32 4 := by decide
  have key : DeviceEncryptionKey.publicKey holdPrimitives ⟨.ofNat 32 3⟩ = holdPublicKey := by
    simp only [DeviceEncryptionKey.publicKey, holdPrimitives, if_neg other]
  exact ⟨envelope, isSealed, opens _ (List.mem_singleton_self _) ⟨.ofNat 32 3⟩ key,
    others _ (by decide) _⟩

end CrowAgent
