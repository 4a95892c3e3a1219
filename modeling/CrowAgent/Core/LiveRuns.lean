import CrowAgent.Core.Recording
import CrowAgent.Core.RunJournal
import Mathlib.Data.List.Nodup

/-!
# What a working sink lets through

The runs a settled journal can take: with primitives that work (`Primitives.Works`), every append
can be journaled, stored by the sink and acknowledged, and leaves a settled journal (`Tape`) that is
one event longer.
-/

namespace CrowAgent

open Coroutine HashChain

variable {prims : Primitives} {bound : Nat} {σ : Type}

/-! ## Signing -/

/-- Signatures verify under the key they were made for. -/
def Primitives.VerifiesOwn (prims : Primitives) : Prop :=
  ∀ key digest, verifySignature prims (prims.base64Encode (prims.verifyingKey key).val)
    (prims.base64Encode (prims.sign key digest).val) digest = .ok ()

/-- A signed event verifies. -/
theorem RunEventEnvelopeV1.verify_of_sign (verifies : prims.VerifiesOwn) {signingKey : FixedBytes 32}
    {eventId arenaId runId : Uuid} {cycleId : Option Uuid} {sequence : UInt64}
    {previousEventSha256 eventType : String} {occurredAt : OffsetDateTime} {payload : Json}
    {event : RunEventEnvelopeV1}
    (signed : RunEventEnvelopeV1.sign prims signingKey eventId arenaId runId cycleId sequence
      previousEventSha256 eventType occurredAt payload = .ok event) :
    event.verify prims = .ok () := by
  simp only [RunEventEnvelopeV1.sign, RunEventEnvelopeV1.message] at signed
  split at signed
  · rename_i unsigned hasUnsigned
    cases signed
    have message : RunEventEnvelopeV1.unsignedRunEvent prims _ = some unsigned := hasUnsigned
    simp only [RunEventEnvelopeV1.unsignedRunEvent] at message
    simp only [RunEventEnvelopeV1.verify, RunEventEnvelopeV1.message,
      RunEventEnvelopeV1.unsignedRunEvent, message, bind, Except.bind, ne_eq,
      not_true_eq_false, if_false]
    exact verifies _ _
  · cases signed

/-- An event whose time has a text can be signed. -/
theorem RunEventEnvelopeV1.exists_signed {occurredAt : OffsetDateTime}
    (printed : (prims.rfc3339 occurredAt).isSome) (signingKey : FixedBytes 32)
    (eventId arenaId runId : Uuid) (cycleId : Option Uuid) (sequence : UInt64)
    (previousEventSha256 eventType : String) (payload : Json) :
    ∃ event, RunEventEnvelopeV1.sign prims signingKey eventId arenaId runId cycleId sequence
      previousEventSha256 eventType occurredAt payload = .ok event := by
  obtain ⟨text, hasText⟩ := Option.isSome_iff_exists.mp printed
  simp only [RunEventEnvelopeV1.sign, RunEventEnvelopeV1.message,
    RunEventEnvelopeV1.unsignedRunEvent, hasText, Option.map_some]
  exact ⟨_, rfl⟩

/-- Times have texts, signatures verify, and hashes tell the first events of a run apart. -/
structure Primitives.Works (prims : Primitives) (bound : Nat) : Prop where
  rfc3339 : ∀ time, (prims.rfc3339 time).isSome
  verifies : ∀ key digest, verifySignature prims (prims.base64Encode (prims.verifyingKey key).val)
    (prims.base64Encode (prims.sign key digest).val) digest = .ok ()
  separates : ∀ a b : RunEventEnvelopeV1, a.verify prims = .ok () → b.verify prims = .ok () →
    a.sequence.toNat < bound → b.sequence.toNat < bound → a.eventSha256 = b.eventSha256 →
    a.sequence = b.sequence

/-- A signed event verifies. -/
theorem Primitives.Works.verify_of_sign (works : prims.Works bound) {signingKey : FixedBytes 32}
    {eventId arenaId runId : Uuid} {cycleId : Option Uuid} {sequence : UInt64}
    {previousEventSha256 eventType : String} {occurredAt : OffsetDateTime} {payload : Json}
    {event : RunEventEnvelopeV1}
    (signed : RunEventEnvelopeV1.sign prims signingKey eventId arenaId runId cycleId sequence
      previousEventSha256 eventType occurredAt payload = .ok event) :
    event.verify prims = .ok () :=
  RunEventEnvelopeV1.verify_of_sign works.verifies signed

/-- Every event can be signed. -/
theorem Primitives.Works.exists_signed (works : prims.Works bound) (signingKey : FixedBytes 32)
    (eventId arenaId runId : Uuid) (cycleId : Option Uuid) (sequence : UInt64)
    (previousEventSha256 eventType : String) (occurredAt : OffsetDateTime) (payload : Json) :
    ∃ event, RunEventEnvelopeV1.sign prims signingKey eventId arenaId runId cycleId sequence
      previousEventSha256 eventType occurredAt payload = .ok event :=
  RunEventEnvelopeV1.exists_signed (works.rfc3339 occurredAt) _ _ _ _ _ _ _ _ _

/-! ## Primitives that count -/

/-- The text of an object ends with its last field. -/
theorem compactFields_concat (float : UInt64 → String) (key : String) (value : Json)
    (fields : List (String × Json)) :
    ∃ front, Json.compactFields float (fields ++ [(key, value)]) =
      front ++ (Json.quoted key ++ [':'] ++ Json.compact float value) := by
  induction fields with
  | nil => exact ⟨[], by simp [Json.compactFields]⟩
  | cons field rest ih =>
    obtain ⟨front, same⟩ := ih
    obtain ⟨key', value'⟩ := field
    refine ⟨Json.quoted key' ++ [':'] ++ Json.compact float value' ++ [','] ++ front, ?_⟩
    rw [List.cons_append, Json.compactFields, same]
    · simp
    · simp

/-- The end of a text that closes an object after a number. -/
def lastDigits (message : Bytes) : Bytes := [message.reverse.getD 1 0, message.reverse.getD 2 0]

theorem lastDigits_append {front back : Bytes} (long : 3 ≤ back.length) :
    lastDigits (front ++ back) = lastDigits back := by
  have read : ∀ i < 3, (front ++ back).reverse.getD i 0 = back.reverse.getD i 0 := by
    intro i below
    rw [List.reverse_append, List.getD_eq_getElem?_getD, List.getD_eq_getElem?_getD,
      List.getElem?_append_left (by rw [List.length_reverse]; omega)]
  rw [lastDigits, read 1 (by omega), read 2 (by omega), lastDigits]

/-- The end of the text of an event: a colon, its sequence and the closing brace. -/
def lastField (sequence : Nat) : Bytes :=
  utf8 (String.ofList ([':'] ++ (toString sequence).toList ++ ['}']))

theorem length_lastField : ∀ a < 16, 3 ≤ (lastField a).length := by decide

/-- Up to 15 the last two digits, or the colon and the only one, are the whole sequence. -/
theorem lastField_injective {a b : Nat} (below : a < 16) (below' : b < 16)
    (same : lastDigits (lastField a) = lastDigits (lastField b)) : a = b := by
  have read : ∀ n < 16, ((lastDigits (lastField n)).getD 0 0).toNat - 48 +
      (if (lastDigits (lastField n)).getD 1 0 = 49 then 10 else 0) = n := by decide
  rw [← read a below, ← read b below', same]

/-- Primitives whose hash is the end of the text, which for an event is its sequence, and whose
signatures all verify. -/
def countingPrimitives : Primitives where
  sha256 := fun message => ⟨lastDigits message ++ List.replicate 30 0, rfl⟩
  floatText := fun _ => ""
  rfc3339 := fun _ => some "2026-01-05T00:00:00Z"
  timeJson := fun _ => .null
  dateJson := fun _ => .null
  parseDate := fun _ => none
  parseJson := fun _ => none
  parseUtf8 := fun _ => none
  parseUuid := fun _ => none
  base64Encode := Hex.encode
  base64Decode := fun text => Hex.decode? text.toList
  verifyingKey := fun key => key
  isVerifyingKey := fun _ => true
  sign := fun _ _ => ⟨List.replicate 64 0, rfl⟩
  verifies := fun _ _ _ => true
  hmacSha256 := fun _ _ => ⟨List.replicate 32 0, rfl⟩

/-- The text of an object whose last field is a number. -/
theorem jsonBytes_concat (prims : Primitives) (fields : List (String × Json)) (key : String)
    (sequence : UInt64) :
    ∃ front, prims.jsonBytes (.object (fields ++ [(key, .number (.unsigned sequence))])) =
      front ++ lastField sequence.toNat := by
  obtain ⟨front, text⟩ := compactFields_concat prims.floatText key (.number (.unsigned sequence))
    fields
  refine ⟨utf8 (String.ofList (['{'] ++ front ++ Json.quoted key)), ?_⟩
  rw [Primitives.jsonBytes, Json.compact, text, lastField, ← utf8_append]
  simp [Json.compact, Json.numberText]

/-- The hash of an event is made of its sequence. -/
theorem eventSha256_counting {event : RunEventEnvelopeV1}
    (hashes : prims.sha256 = countingPrimitives.sha256)
    (verified : event.verify prims = .ok ()) (below : event.sequence.toNat < 16) :
    event.eventSha256 =
      Hex.encode (lastDigits (lastField event.sequence.toNat) ++ List.replicate 30 0) := by
  obtain ⟨value, sorted, hash⟩ := RunEventEnvelopeV1.eventSha256_of_verify verified
  obtain ⟨occurredAt, -, rfl⟩ := RunEventEnvelopeV1.sortedUnsigned_eq_some.mp sorted
  obtain ⟨front, text⟩ := jsonBytes_concat prims [
      ("arena_id", .string event.arenaId.hyphenated),
      ("cycle_id", (event.cycleId.map fun id => Json.string id.hyphenated).getD .null),
      ("event_id", .string event.eventId.hyphenated),
      ("event_type", .string event.eventType),
      ("occurred_at", .string occurredAt),
      ("payload", sortJson event.payload),
      ("previous_event_sha256", .string event.previousEventSha256),
      ("protocol", .string event.protocol),
      ("run_id", .string event.runId.hyphenated)] "sequence" event.sequence
  simp only [List.cons_append, List.nil_append] at text
  rw [hash, text, hashes]
  exact congrArg (fun digits => Hex.encode (digits ++ List.replicate 30 0))
    (lastDigits_append (length_lastField _ below))

/-- So it tells the first events of a run apart. -/
theorem sequence_of_eventSha256_counting {a b : RunEventEnvelopeV1}
    (hashes : prims.sha256 = countingPrimitives.sha256) (verified : a.verify prims = .ok ())
    (verified' : b.verify prims = .ok ()) (below : a.sequence.toNat < 16)
    (below' : b.sequence.toNat < 16) (same : a.eventSha256 = b.eventSha256) :
    a.sequence = b.sequence := by
  rw [eventSha256_counting hashes verified below,
    eventSha256_counting hashes verified' below'] at same
  have digits := List.append_cancel_right (Hex.encode_injective same)
  exact UInt64.toNat_inj.mp (lastField_injective below below' digits)

/-- What decides whether a signature verifies. -/
theorem verifySignature_congr {prims' : Primitives}
    (decode : prims.base64Decode = prims'.base64Decode)
    (isKey : prims.isVerifyingKey = prims'.isVerifyingKey)
    (verifies : prims.verifies = prims'.verifies) :
    verifySignature prims = verifySignature prims' := by
  funext publicKey encodedSignature message
  simp only [verifySignature, decode, isKey, verifies]

theorem verifySignature_counting (key : FixedBytes 32) (signature : FixedBytes 64) (digest : Bytes) :
    verifySignature countingPrimitives (Hex.encode key.val) (Hex.encode signature.val) digest =
      .ok () := by
  simp only [verifySignature, countingPrimitives, Hex.decode?_encode, FixedBytes.ofBytes?_val]
  rfl

theorem countingPrimitives_works : countingPrimitives.Works 16 where
  rfc3339 := fun _ => rfl
  verifies := fun key digest => verifySignature_counting key _ digest
  separates := fun _ _ verified verified' below below' same =>
    sequence_of_eventSha256_counting rfl verified verified' below below' same

/-- `str::from_utf8`. -/
def fromUtf8 (bytes : Bytes) : Option String := String.fromUTF8? ⟨bytes.toArray⟩

theorem fromUtf8_utf8 (text : String) : fromUtf8 (utf8 text) = some text := by
  have valid : (⟨(utf8 text).toArray⟩ : ByteArray).IsValidUTF8 := by
    simpa [utf8] using text.isValidUTF8
  rw [fromUtf8, String.fromUTF8?, dif_pos valid]
  exact congrArg some (String.toByteArray_inj.mp (by simp [utf8, String.fromUTF8]))

/-- The primitives that count, with texts and identifiers that are read back. -/
def readingPrimitives : Primitives :=
  { countingPrimitives with parseUtf8 := fromUtf8, parseUuid := readUuid }

theorem readingPrimitives_readsTexts : readingPrimitives.ReadsTexts where
  parseUtf8 := fun text => by
    rw [show readingPrimitives.parseUtf8 = fromUtf8 from rfl, fromUtf8_utf8]
  parseUuid := fun id => by
    rw [show readingPrimitives.parseUuid = readUuid from rfl, readUuid_hyphenated]

/-- How texts are read does not matter for that. -/
theorem Primitives.Works.reading (works : prims.Works bound) (parseUtf8 : Bytes → Option String)
    (parseUuid : String → Option Uuid) : { prims with parseUtf8, parseUuid }.Works bound :=
  ⟨works.rfc3339, works.verifies, works.separates⟩

theorem readingPrimitives_works : readingPrimitives.Works 16 :=
  countingPrimitives_works.reading fromUtf8 readUuid

/-- Some id is still free. -/
theorem exists_fresh_id {drawn : List Uuid} (short : drawn.length < 256) :
    ∃ id : Uuid, id ∉ drawn := by
  by_contra none
  have all : ∀ id : Uuid, id ∈ drawn := fun id => Decidable.by_contra fun free => none ⟨id, free⟩
  have nodup : ((List.range 256).map fun i => (⟨.ofNat 16 i⟩ : Uuid)).Nodup := by
    refine List.Nodup.map_on ?_ List.nodup_range
    intro i below j below' same
    have value := congrArg (fun id : Uuid => (id.bytes.val.getD 15 0).toNat) same
    have last : ∀ k, (FixedBytes.ofNat 16 k).val.getD 15 0 = UInt8.ofNat k := by
      intro k
      simp [FixedBytes.ofNat, List.getD]
    simp only [last, UInt8.toNat_ofNat'] at value
    simp only [List.mem_range] at below below'
    omega
  have short' := (List.subperm_of_subset nodup fun id _ => all id).length_le
  rw [List.length_map, List.length_range] at short'
  omega

/-! ## Appending -/

/-- An append can return, while others act on the shared state as the sink is waited for. -/
theorem runs_append {env : World → World → Prop} {locals : σ} {writer : DurableRunEventWriter}
    {cycleId : Option Uuid} {eventType : String} {payload privatePayload : Json} {w : World}
    {shared : Shared} {latest : Option (UInt64 × String)} {eventId : Uuid}
    {event : RunEventEnvelopeV1} {receipt : String} {journal journal' : EncryptedJournal}
    (acts : ∀ r : Record, Relation.ReflTransGen env ⟨r, w.toShared⟩ ⟨r, shared⟩)
    (polled : shared.relay = .session)
    (flushed : w.journal.pendingEvents prims writer.runId = .ok [])
    (head : w.journal.latestEventState writer.runId = .ok latest) (new : eventId ∉ w.drawn)
    (signed : RunEventEnvelopeV1.sign prims writer.signingKey eventId writer.arenaId writer.runId
      cycleId (DurableRunEventWriter.nextState latest).1 (DurableRunEventWriter.nextState latest).2
      eventType w.clock payload = .ok event)
    (added : w.journal.append prims event privatePayload = (.ok (), journal))
    (acknowledged : journal.acknowledgeEvent event.eventId receipt = (.ok (), journal')) :
    (writer.append prims cycleId eventType payload privatePayload :
      Act calls σ _ _).Runs (World.system prims env) locals w
        (.ok (event.withServerReceipt receipt)) locals
        ⟨⟨journal', w.offers ++ [⟨event, true⟩], eventId :: w.drawn, w.marks, w.queries,
          w.observed⟩, shared⟩ := by
  have pending : (JournalCall.pendingEvents writer.runId).run prims w.journal =
      (.ok [], w.journal) := Prod.ext flushed rfl
  have state : (JournalCall.latestEventState writer.runId).run prims w.journal =
      (.ok latest, w.journal) := Prod.ext head rfl
  refine Act.Runs.bind (Act.Runs.bind (runs_askJournal pending) Act.Runs.pure) ?_
  refine Act.Runs.bind (runs_askJournal state) ?_
  refine Act.Runs.bind (runs_ask .nowUtc w.clock rfl nofun rfl) ?_
  refine Act.Runs.bind (runs_ask .newV4 eventId rfl nofun ⟨new, rfl⟩) ?_
  refine Act.Runs.bind (Act.Runs.ofExcept signed) (Act.Runs.bind (runs_askJournal added) ?_)
  have sent : (ask (.appendEvent event) : Act calls σ DurableRunEventError _).Runs
      (World.system prims env) locals { w with journal, drawn := eventId :: w.drawn }
      (.ok (.ok receipt)) locals
      ⟨⟨journal, w.offers ++ [⟨event, true⟩], eventId :: w.drawn, w.marks, w.queries,
          w.observed⟩, shared⟩ := by
    refine Act.Runs.perform ⟨true, rfl⟩ (acts _) ⟨fun _ => polled, rfl, fun _ => ?_⟩
    exact List.getLast?_concat
  refine Act.Runs.bind (Act.Runs.bind (Act.Runs.bind sent Act.Runs.pure) ?_) Act.Runs.pure
  exact Act.Runs.bind (runs_askJournal acknowledged) Act.Runs.pure

/-! ## Settled journals -/

/-- What an event says, without its place in the run. -/
abbrev Said : Type := Option Uuid × String × Json

def RunEventEnvelopeV1.said (event : RunEventEnvelopeV1) : Said :=
  (event.cycleId, event.eventType, event.payload)

/-- A world whose journal holds a run of acknowledged events and nothing else; `log` is what they
say. -/
structure Tape (prims : Primitives) (runId : Uuid) (log : List Said) (w : World) : Prop where
  delivered : w.Delivered prims
  own : ∀ row ∈ w.journal.rows, row.runId = runId.hyphenated
  acknowledged : ∀ row ∈ w.journal.rows, row.serverReceipt.isSome
  said : w.journal.rows.map (fun row => row.publicEnvelope.map (·.said)) = log.map some
  few : log.length ≤ w.drawn.length
  polled : w.relay = .session

namespace Tape

variable {runId : Uuid} {log : List Said} {w : World}

theorem oneRun (tape : Tape prims runId log w) : OneRun prims runId w.journal :=
  ⟨tape.delivered.chained, tape.own⟩

theorem length (tape : Tape prims runId log w) : w.journal.rows.length = log.length := by
  have same := congrArg List.length tape.said
  rwa [List.length_map, List.length_map] at same

/-- Nothing waits for a receipt. -/
theorem flushed (tape : Tape prims runId log w) :
    w.journal.pendingEvents prims runId = .ok [] := by
  have none : w.journal.rows.filter (·.serverReceipt.isNone) = [] :=
    List.filter_eq_nil_iff.mpr fun row mem => by
      simp [Option.isNone_eq_false_iff.mpr (tape.acknowledged row mem)]
  rw [EncryptedJournal.pendingEvents, tape.oneRun.runRows, none]
  rfl

/-- The head of the run, and what the journal accepts after it. -/
theorem head (tape : Tape prims runId log w) (short : w.drawn.length < 256) :
    ∃ latest, w.journal.latestEventState runId = .ok latest ∧
      (DurableRunEventWriter.nextState latest).1.toNat = log.length + 1 ∧
      ∀ event : RunEventEnvelopeV1, event.verify prims = .ok () → event.runId = runId →
        event.sequence = (DurableRunEventWriter.nextState latest).1 →
        event.previousEventSha256 = (DurableRunEventWriter.nextState latest).2 →
        w.journal.checkAppend prims event = .ok () := by
  have few := tape.few
  have length := tape.length
  have head : ∃ latest, w.journal.latestEventState runId = .ok latest ∧
      (DurableRunEventWriter.nextState latest).1.toNat = log.length + 1 ∧
      (DurableRunEventWriter.nextState latest).2 = w.journal.headHash := by
    by_cases empty : w.journal.rows = []
    · refine ⟨none, tape.oneRun.latestEventState_nil empty, ?_, ?_⟩
      · rw [← length, empty]
        rfl
      · rw [EncryptedJournal.headHash, empty]
        rfl
    · have value : (UInt64.ofNat w.journal.rows.length).toNat = log.length := by
        rw [length, UInt64.toNat_ofNat']
        omega
      refine ⟨_, tape.oneRun.latestEventState empty, ?_⟩
      rw [DurableRunEventWriter.nextState, if_pos (by rw [value]; omega)]
      refine ⟨?_, rfl⟩
      rw [UInt64.toNat_add, value]
      change (log.length + 1) % 2 ^ 64 = log.length + 1
      omega
  obtain ⟨latest, isLatest, sequence, previous⟩ := head
  refine ⟨latest, isLatest, sequence, fun event verified run number hash => ?_⟩
  exact tape.oneRun.checkAppend
    ⟨verified, run, by rw [number, sequence, length], by rw [hash, previous]⟩

/-- The event journaled next does not clash with the rows. -/
theorem conflicts (works : prims.Works bound) (tape : Tape prims runId log w)
    (room : log.length + 1 < bound) {event : RunEventEnvelopeV1} (privatePayload : Json)
    (verified : event.verify prims = .ok ()) (sequence : event.sequence.toNat = log.length + 1) :
    w.journal.conflicts (EventRow.ofEvent event privatePayload) = false := by
  refine tape.oneRun.conflicts (by rw [sequence, tape.length]) fun row mem same => ?_
  obtain ⟨stored, stores⟩ := tape.delivered.chained.stored row mem
  have bounded := (tape.oneRun.sequence_le mem).2
  rw [tape.length, stores.sequence] at bounded
  change stored.sequence.toNat ≤ log.length at bounded
  have equal := works.separates stored event stores.1 verified (by omega) (by omega)
    (by rw [← stores.hash, same])
  rw [equal] at bounded
  omega

/-- The receipt of the event that was journaled last is stored. -/
theorem acknowledge {rows : List EventRow} {secrets : List (String × Bytes)}
    {event : RunEventEnvelopeV1} {privatePayload : Json}
    (others : ∀ row ∈ rows, row.hasEventId event.eventId = false) :
    EncryptedJournal.acknowledgeEvent ⟨rows ++ [EventRow.ofEvent event privatePayload], secrets⟩
      event.eventId "receipt" =
      (.ok (), ⟨rows ++ [{ EventRow.ofEvent event privatePayload with
        serverReceipt := some "receipt" }], secrets⟩) := by
  have own : (EventRow.ofEvent event privatePayload).hasEventId event.eventId = true := by
    simp [EventRow.hasEventId, EventRow.ofEvent]
  have skip : rows.find? (·.hasEventId event.eventId) = none :=
    List.find?_eq_none.mpr fun row mem => by simp [others row mem]
  have none : rows.filter (fun row => row.hasEventId event.eventId && row.serverReceipt.isNone) = [] :=
    List.filter_eq_nil_iff.mpr fun row mem => by simp [others row mem]
  have same : rows.map (·.receive event.eventId "receipt") = rows := by
    refine (List.map_congr_left fun row mem => ?_).trans (List.map_id rows)
    simp [EventRow.receive, others row mem]
  have missing : (EventRow.ofEvent event privatePayload).serverReceipt = Option.none := rfl
  have check : EncryptedJournal.checkAcknowledge
      ⟨rows ++ [EventRow.ofEvent event privatePayload], secrets⟩ event.eventId "receipt" =
      .ok true := by
    have text : isBlank "receipt" = false := by decide
    simp [EncryptedJournal.checkAcknowledge, text, List.find?_append, skip, own, missing]
  have received : (EventRow.ofEvent event privatePayload).receive event.eventId "receipt" =
      { EventRow.ofEvent event privatePayload with serverReceipt := some "receipt" } := by
    simp [EventRow.receive, own, missing]
  rw [EncryptedJournal.acknowledgeEvent, check]
  simp [EncryptedJournal.updateReceipt, List.filter_append, none, own, missing, same, received]

end Tape

/-- The run goes on by what `log` says, and the shared state becomes `shared`. -/
structure Continues (prims : Primitives) (runId : Uuid) (log : List Said) (shared : Shared)
    (w w' : World) : Prop where
  tape : Tape prims runId log w'
  shared : w'.toShared = shared
  marks : w'.marks = w.marks
  secrets : w'.journal.secrets = w.journal.secrets
  drawn : w'.drawn.length = w.drawn.length + 1
  queries : w'.queries = w.queries
  observed : w'.observed = w.observed

/-- **An append goes through**, while others act on the shared state as the sink is waited for. -/
theorem Tape.runs_append {env : World → World → Prop} {locals : σ} {log : List Said} {w : World}
    {shared : Shared} (writer : DurableRunEventWriter) (cycleId : Option Uuid) (eventType : String)
    (payload privatePayload : Json) (quiet : ∀ w w', env w w' → KeepsRecord w w')
    (works : prims.Works bound) (tape : Tape prims writer.runId log w)
    (room : log.length + 1 < bound) (short : w.drawn.length < 256)
    (acts : ∀ r : Record, Relation.ReflTransGen env ⟨r, w.toShared⟩ ⟨r, shared⟩)
    (polled : shared.relay = .session) :
    ∃ event w', (writer.append prims cycleId eventType payload privatePayload :
        Act calls σ _ _).Runs (World.system prims env) locals w (.ok event) locals w' ∧
      Continues prims writer.runId (log ++ [(cycleId, eventType, payload)]) shared w w' := by
  obtain ⟨latest, head, sequence, accepts⟩ := tape.head short
  obtain ⟨eventId, new⟩ := exists_fresh_id short
  obtain ⟨event, signed⟩ := works.exists_signed writer.signingKey eventId writer.arenaId
    writer.runId cycleId (DurableRunEventWriter.nextState latest).1
    (DurableRunEventWriter.nextState latest).2 eventType w.clock payload
  have fields := RunEventEnvelopeV1.signed_of_sign signed
  have verified := works.verify_of_sign signed
  have check := accepts event verified fields.runId fields.sequence fields.previous
  have clash := tape.conflicts works room privatePayload verified
    (by rw [fields.sequence, sequence])
  have added : w.journal.append prims event privatePayload = (.ok (), { w.journal with
      rows := w.journal.rows ++ [EventRow.ofEvent event privatePayload] }) := by
    have few := tape.few
    have small : ¬2 ^ 63 ≤ event.sequence.toNat := by
      rw [fields.sequence, sequence]
      omega
    rw [EncryptedJournal.append, check]
    simp only [EncryptedJournal.insertEvent, if_neg small, clash]
    rfl
  have others : ∀ row ∈ w.journal.rows, row.hasEventId event.eventId = false := by
    intro row mem
    refine Bool.eq_false_iff.mpr fun own => new ?_
    rw [← fields.eventId]
    exact tape.delivered.drawn row mem _ own
  have runs : (writer.append prims cycleId eventType payload privatePayload :
      Act calls σ _ _).Runs (World.system prims env) locals w _ locals _ :=
    CrowAgent.runs_append acts polled tape.flushed head new signed added (Tape.acknowledge others)
  have delivered := (Act.Runs.wp_ok (c := delivery prims env quiet fun _ _ _ => True) runs
    tape.delivered (DurableRunEventWriter.wp_append tape.delivered)).1
  refine ⟨_, _, runs, ⟨delivered, ?_, ?_, ?_, ?_, polled⟩, rfl, rfl, rfl, rfl, rfl, rfl⟩
  · intro row mem
    rcases List.mem_append.mp mem with old | last
    · exact tape.own row old
    · rw [List.mem_singleton.mp last, ← fields.runId]
      rfl
  · intro row mem
    rcases List.mem_append.mp mem with old | last
    · exact tape.acknowledged row old
    · rw [List.mem_singleton.mp last]
      rfl
  · have last : event.said = (cycleId, eventType, payload) := by
      rw [RunEventEnvelopeV1.said, fields.cycleId, fields.eventType, fields.payload]
    rw [List.map_append, tape.said, List.map_append]
    simp [EventRow.ofEvent, last]
  · have few := tape.few
    simp only [List.length_append, List.length_cons, List.length_nil]
    omega

end CrowAgent
