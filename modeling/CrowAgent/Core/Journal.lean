import CrowAgent.Protocol.RunEvent
import Mathlib.Data.List.Sort

/-!
# The encrypted journal

`EncryptedJournal` keeps a device's run events and secrets in two SQLite tables.  The model keeps
the rows in insertion order and the operations as functions on them: a call returns its result and
the tables after it, also when it fails.

* A row's `publicEnvelope` is the envelope its text parses to, and the encrypted columns are kept as
  what they decrypt to.
* `append` and `acknowledgeEvent` are two statements each; `checkAppend` and `checkAcknowledge` are
  the reading halves, `insertEvent` and `updateReceipt` the writing ones, so that two connections
  can interleave them.
* What the database and the cipher can fail with on their own is added where the calls are made.
-/

namespace CrowAgent

inductive JournalError : Type
  | database
  | crypto
  | payload
  | event
  | sequence
  deriving DecidableEq, Repr

structure EventRow : Type where
  runId : String
  sequence : Int
  eventSha256 : String
  previousEventSha256 : String
  /-- The envelope the stored text parses to, if it does. -/
  publicEnvelope : Option RunEventEnvelopeV1
  privatePayload : Json
  serverReceipt : Option String

namespace EventRow

/-- The row an event is stored as. -/
def ofEvent (event : RunEventEnvelopeV1) (privatePayload : Json) : EventRow where
  runId := event.runId.hyphenated
  sequence := event.sequence.toNat
  eventSha256 := event.eventSha256
  previousEventSha256 := event.previousEventSha256
  publicEnvelope := some event
  privatePayload
  serverReceipt := none

/-- `json_extract(public_envelope,'$.event_id')=?1`. -/
def hasEventId (row : EventRow) (eventId : Uuid) : Bool :=
  row.publicEnvelope.any (·.eventId = eventId)

/-- The row after an update of the receipts of an event that are still missing. -/
def receive (row : EventRow) (eventId : Uuid) (serverReceipt : String) : EventRow :=
  if row.hasEventId eventId && row.serverReceipt.isNone then
    { row with serverReceipt := some serverReceipt }
  else row

end EventRow

structure EncryptedJournal : Type where
  /-- `run_events`, in insertion order. -/
  rows : List EventRow
  /-- `local_secrets`. -/
  secrets : List (String × Bytes)

namespace EncryptedJournal

/-! ## Reading -/

/-- `WHERE run_id=?1 ORDER BY sequence`. -/
def runRows (journal : EncryptedJournal) (runId : Uuid) : List EventRow :=
  (journal.rows.filter (·.runId = runId.hyphenated)).insertionSort
    fun a b => a.sequence ≤ b.sequence

/-- The head of a run: the row with the highest sequence. -/
def latestRow (journal : EncryptedJournal) (runId : Uuid) : Option EventRow :=
  (journal.runRows runId).getLast?

/-- `u64::try_from` of a stored sequence. -/
def storedSequence (sequence : Int) : Except JournalError UInt64 :=
  if 0 ≤ sequence then .ok (UInt64.ofNat sequence.toNat) else .error .sequence

def latestEventState (journal : EncryptedJournal) (runId : Uuid) :
    Except JournalError (Option (UInt64 × String)) :=
  match journal.latestRow runId with
  | none => .ok none
  | some row => (storedSequence row.sequence).map fun sequence => some (sequence, row.eventSha256)

def eventCount (journal : EncryptedJournal) (runId : Uuid) (eventType : String) : Nat :=
  (journal.rows.filter fun row =>
    row.runId = runId.hyphenated && row.publicEnvelope.any (·.eventType = eventType)).length

/-- Parse and verify a stored envelope. -/
def readEnvelope (prims : Primitives) (row : EventRow) :
    Except JournalError RunEventEnvelopeV1 :=
  match row.publicEnvelope with
  | none => .error .payload
  | some event =>
    match event.verify prims with
    | .ok () => .ok event
    | .error _ => .error .event

theorem readEnvelope_of_verify {prims : Primitives} {row : EventRow} {event : RunEventEnvelopeV1}
    (envelope : row.publicEnvelope = some event) (verified : event.verify prims = .ok ()) :
    readEnvelope prims row = .ok event := by
  simp only [readEnvelope, envelope, verified]

def pendingEvents (prims : Primitives) (journal : EncryptedJournal) (runId : Uuid) :
    Except JournalError (List RunEventEnvelopeV1) :=
  ((journal.runRows runId).filter (·.serverReceipt.isNone)).mapM (readEnvelope prims)

/-- `ORDER BY run_id,sequence`. -/
def rowLe (a b : EventRow) : Prop :=
  a.runId < b.runId ∨ (a.runId = b.runId ∧ a.sequence ≤ b.sequence)

instance : DecidableRel rowLe := fun _ _ => instDecidableOr

/-- The run, sequence and hash of the event before, which `public_events` carries along. -/
abbrev Previous : Type := Option (Uuid × UInt64 × String)

/-- Whether an event continues the chain of the one before it, or starts a run of its own.  No event
follows the largest `u64`. -/
def continues (previous : Previous) (event : RunEventEnvelopeV1) : Bool :=
  match previous with
  | some (run, sequence, hash) =>
    if run = event.runId then
      event.sequence.toNat = sequence.toNat + 1 && event.previousEventSha256 = hash
    else event.sequence = 1 && event.previousEventSha256 = genesisHash
  | none => event.sequence = 1 && event.previousEventSha256 = genesisHash

/-- The loop of `public_events` over the ordered rows. -/
def scanEvents (prims : Primitives) (previous : Previous) :
    List EventRow → Except JournalError (List RunEventEnvelopeV1)
  | [] => .ok []
  | row :: rows => do
    let event ← readEnvelope prims row
    unless continues previous event do throw .sequence
    let rest ← scanEvents prims (some (event.runId, event.sequence, event.eventSha256)) rows
    return { event with serverReceipt := row.serverReceipt } :: rest

def publicEvents (prims : Primitives) (journal : EncryptedJournal) :
    Except JournalError (List RunEventEnvelopeV1) :=
  scanEvents prims none (journal.rows.insertionSort rowLe)

/-! ## Appending -/

/-- The sequence an event has to have after a stored one.  A negative one stands for the largest
`u64`, which no event follows. -/
def sequenceAfter (sequence : Int) : Nat :=
  (if 0 ≤ sequence then sequence.toNat else 2 ^ 64 - 1) + 1

/-- The reading half of `append`: verify the event and compare it with the head of its run. -/
def checkAppend (prims : Primitives) (journal : EncryptedJournal) (event : RunEventEnvelopeV1) :
    Except JournalError Unit :=
  match event.verify prims with
  | .error _ => .error .event
  | .ok () =>
    match journal.latestRow event.runId with
    | none =>
      if event.sequence ≠ 1 ∨ event.previousEventSha256 ≠ genesisHash then .error .sequence
      else .ok ()
    | some row =>
      if event.sequence.toNat ≠ sequenceAfter row.sequence ∨
          event.previousEventSha256 ≠ row.eventSha256 then .error .sequence
      else .ok ()

/-- The primary key or the unique hash of the table refuses the row. -/
def conflicts (journal : EncryptedJournal) (row : EventRow) : Bool :=
  journal.rows.any fun other =>
    (other.runId = row.runId && other.sequence = row.sequence) ||
      other.eventSha256 = row.eventSha256

/-- The writing half of `append`, a transaction of its own. -/
def insertEvent (journal : EncryptedJournal) (event : RunEventEnvelopeV1)
    (privatePayload : Json) : Except JournalError Unit × EncryptedJournal :=
  if 2 ^ 63 ≤ event.sequence.toNat then (.error .sequence, journal)
  else if journal.conflicts (EventRow.ofEvent event privatePayload) then
    (.error .database, journal)
  else
    (.ok (), { journal with rows := journal.rows ++ [EventRow.ofEvent event privatePayload] })

def append (prims : Primitives) (journal : EncryptedJournal) (event : RunEventEnvelopeV1)
    (privatePayload : Json) : Except JournalError Unit × EncryptedJournal :=
  match journal.checkAppend prims event with
  | .error error => (.error error, journal)
  | .ok () => journal.insertEvent event privatePayload

/-! ## Acknowledging -/

/-- The reading half of `acknowledge_event`: whether a receipt still has to be stored. -/
def checkAcknowledge (journal : EncryptedJournal) (eventId : Uuid) (serverReceipt : String) :
    Except JournalError Bool :=
  if isBlank serverReceipt then .error .sequence
  else
    match (journal.rows.find? (·.hasEventId eventId)).map (·.serverReceipt) with
    | none => .error .sequence
    | some (some receipt) => if receipt ≠ serverReceipt then .error .sequence else .ok false
    | some none => .ok true

/-- The writing half of `acknowledge_event`; the update stays when it changed more than one row. -/
def updateReceipt (journal : EncryptedJournal) (eventId : Uuid) (serverReceipt : String) :
    Except JournalError Unit × EncryptedJournal :=
  let changed := (journal.rows.filter fun row =>
    row.hasEventId eventId && row.serverReceipt.isNone).length
  let updated := { journal with
    rows := journal.rows.map (·.receive eventId serverReceipt) }
  (if changed ≠ 1 then .error .sequence else .ok (), updated)

def acknowledgeEvent (journal : EncryptedJournal) (eventId : Uuid) (serverReceipt : String) :
    Except JournalError Unit × EncryptedJournal :=
  match journal.checkAcknowledge eventId serverReceipt with
  | .error error => (.error error, journal)
  | .ok false => (.ok (), journal)
  | .ok true => journal.updateReceipt eventId serverReceipt

/-! ## Secrets -/

def putSecret (journal : EncryptedJournal) (name : String) (value : Bytes) :
    Except JournalError Unit × EncryptedJournal :=
  if name = "" then (.error .sequence, journal)
  else (.ok (), { journal with
    secrets := (name, value) :: journal.secrets.filter (·.1 ≠ name) })

def secret (journal : EncryptedJournal) (name : String) : Option Bytes :=
  (journal.secrets.find? (·.1 = name)).map (·.2)

def deleteSecret (journal : EncryptedJournal) (name : String) :
    Except JournalError Unit × EncryptedJournal :=
  if name = "" then (.error .sequence, journal)
  else (.ok (), { journal with secrets := journal.secrets.filter (·.1 ≠ name) })

end EncryptedJournal

end CrowAgent
