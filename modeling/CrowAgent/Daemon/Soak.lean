import CrowAgent.Core.Journal
import CrowAgent.Daemon.Gate
import CrowAgent.Daemon.Schedule
import CrowAgent.Lib.Act
import CrowAgent.Lib.FixedWidth
import Mathlib.Data.List.Infix

/-!
# The soak run

`SoakRun.run` appends an event to an encrypted journal in every cycle, tries to make the journal take
events it must refuse, and keeps its counts in a report file that a later run resumes from.

* `SoakDisk` is what survives a crash.  Writing the report and appending an event are one call each.
* A call of the file system or of the database that fails on its own ends the run where it stands,
  so a crash stands for it.  A crash can come before and after every call.
* An arithmetic operation that panics is a `trap`.
-/

namespace CrowAgent

open Coroutine FixedWidth

inductive SoakError : Type
  | invalidSchedule
  | journal (error : JournalError)
  | protocol (error : ProtocolError)
  | json
  | faultAccepted
  | plaintextLeak
  | recovery
  | remoteControl
  | checkpoint
  | alreadyComplete
  deriving DecidableEq, Repr

structure SoakReport : Type where
  protocol : String
  mode : String
  status : String
  startedAt : String
  expectedEndAt : String
  updatedAt : String
  durationSeconds : UInt64
  intervalSeconds : UInt64
  cyclesCompleted : UInt64
  eventsAppended : UInt64
  journalReopens : UInt64
  duplicateEventsRejected : UInt64
  sequenceGapsRejected : UInt64
  remoteControlsApplied : UInt64
  encryptedRecoveries : UInt64
  plaintextLeakScans : UInt64
  lastEventSha256 : String
  deriving DecidableEq, Repr

/-- `std::time::Duration`. -/
structure StdDuration : Type where
  seconds : UInt64
  nanoseconds : UInt32
  deriving DecidableEq, Repr

namespace StdDuration

def toNanoseconds (duration : StdDuration) : Nat :=
  duration.seconds.toNat * 10 ^ 9 + duration.nanoseconds.toNat

end StdDuration

/-- What is left when the process is gone. -/
structure SoakDisk : Type where
  /-- The file at the report's path, and the report it parses to. -/
  report : Option (Option SoakReport)
  /-- The tables of `journal.db`, which are empty before the first connection. -/
  journal : EncryptedJournal

/-- What the run is given and what the crates and the operating system do. -/
structure SoakHost : Type where
  prims : Primitives
  /-- `OffsetDateTime::parse` of an RFC 3339 text. -/
  parseTime : String → Option OffsetDateTime
  /-- The bytes that the files of the state directory can hold. -/
  files : SoakDisk → List Bytes → Prop
  duration : StdDuration
  interval : StdDuration

/-! ## Calls -/

inductive SoakCall : Type
  /-- `OffsetDateTime::now_utc`. -/
  | now
  /-- `Uuid::new_v4`. -/
  | newId
  | sleep
  | reportExists
  | readReport
  /-- `write_report`: a temporary file takes the place of the report. -/
  | writeReport (report : SoakReport)
  | append (event : RunEventEnvelopeV1) (privatePayload : Json)
  | privatePayload (eventSha256 : String)
  | putSecret (name : String) (value : Bytes)
  | secret (name : String)
  | latestEventState (runId : Uuid)
  /-- The files of the state directory are read. -/
  | readFiles

namespace SoakCall

@[reducible] def Answer : SoakCall → Type
  | now => OffsetDateTime
  | newId => Uuid
  | sleep => Unit
  | reportExists => Bool
  | readReport => Option SoakReport
  | writeReport _ => Unit
  | append _ _ => Except JournalError Unit
  | privatePayload _ => Option Json
  | putSecret _ _ => Except JournalError Unit
  | secret _ => Option Bytes
  | latestEventState _ => Except JournalError (Option (UInt64 × String))
  | readFiles => List Bytes

end SoakCall

@[reducible] def soakSignature : Signature where
  Op := SoakCall
  Res := SoakCall.Answer
  awaits := fun _ => false

/-- The time some seconds later. -/
def OffsetDateTime.plusSeconds (time : OffsetDateTime) (seconds : UInt64) : OffsetDateTime :=
  { time with unixNanoseconds := time.unixNanoseconds + seconds.toNat * 10 ^ 9 }

namespace SoakHost

/-- The times of the clock, in UTC, which have a text up to the year 9999. -/
structure Shows (host : SoakHost) (time : OffsetDateTime) : Prop where
  utc : time.offsetSeconds = 0
  printed : (host.prims.rfc3339 time).isSome
  inRange : time.InRange

/-- A time that the schedule can start at: its end has a text too. -/
structure Starts (host : SoakHost) (time : OffsetDateTime) : Prop extends host.Shows time where
  endPrinted : (host.prims.rfc3339 (time.plusSeconds host.duration.seconds)).isSome
  endInRange : (time.plusSeconds host.duration.seconds).InRange

/-- How the calls are answered, and the disk after the answer.  The first run starts at a time that
the schedule can start at. -/
inductive Answers (host : SoakHost) : (call : SoakCall) → SoakDisk → call.Answer → SoakDisk → Prop
  | now {disk : SoakDisk} {time : OffsetDateTime} (shows : host.Shows time)
      (first : disk.report = none → host.Starts time) : host.Answers .now disk time disk
  | newId {disk : SoakDisk} (id : Uuid) : host.Answers .newId disk id disk
  | sleep {disk : SoakDisk} : host.Answers .sleep disk () disk
  | reportExists {disk : SoakDisk} : host.Answers .reportExists disk disk.report.isSome disk
  | readReport {disk : SoakDisk} : host.Answers .readReport disk disk.report.join disk
  | writeReport {disk : SoakDisk} {report : SoakReport} :
    host.Answers (.writeReport report) disk () { disk with report := some (some report) }
  | append {disk : SoakDisk} {event : RunEventEnvelopeV1} {privatePayload : Json} :
    host.Answers (.append event privatePayload) disk
      (disk.journal.append host.prims event privatePayload).1
      { disk with journal := (disk.journal.append host.prims event privatePayload).2 }
  | privatePayload {disk : SoakDisk} {eventSha256 : String} :
    host.Answers (.privatePayload eventSha256) disk
      ((disk.journal.rows.find? (·.eventSha256 = eventSha256)).map (·.privatePayload)) disk
  | putSecret {disk : SoakDisk} {name : String} {value : Bytes} :
    host.Answers (.putSecret name value) disk (disk.journal.putSecret name value).1
      { disk with journal := (disk.journal.putSecret name value).2 }
  | secret {disk : SoakDisk} {name : String} :
    host.Answers (.secret name) disk (disk.journal.secret name) disk
  | latestEventState {disk : SoakDisk} {runId : Uuid} :
    host.Answers (.latestEventState runId) disk (disk.journal.latestEventState runId) disk
  | readFiles {disk : SoakDisk} {files : List Bytes} (holds : host.files disk files) :
    host.Answers .readFiles disk files disk

end SoakHost

/-! ## The program -/

/-- A part of the run. -/
abbrev Soak (α : Type) : Type := Act soakSignature Unit (Halt SoakError) α

namespace SoakRun

def syntheticPrivateSentinel : String := "crow-soak-private-payload-sentinel"

def syntheticTokenSentinel : String := "crow_soak_refresh_token_sentinel"

def deviceSeed : FixedBytes 32 := ⟨List.replicate 32 0x33, rfl⟩

def arenaId : Uuid := ⟨.ofNat 16 1⟩

def runId : Uuid := ⟨.ofNat 16 2⟩

def soakMode : String := "local_headless_component_soak"

def call (op : SoakCall) : Soak op.Answer := @Act.perform soakSignature _ _ op

def fail {α : Type} (error : SoakError) : Soak α := throw (.error error)

def failIf (condition : Prop) [Decidable condition] (error : SoakError) : Soak Unit :=
  Act.rejectIf condition (.error error)

/-- `format_time`. -/
def formatTime (prims : Primitives) (time : OffsetDateTime) : String :=
  (prims.rfc3339 time).getD "invalid-time"

/-- `time + Duration::seconds(i64::try_from(seconds)?)`, which panics outside the range of times. -/
def addSeconds (time : OffsetDateTime) (seconds : UInt64) : Soak OffsetDateTime := do
  failIf (2 ^ 63 ≤ seconds.toNat) .invalidSchedule
  Act.rejectIf (¬(time.plusSeconds seconds).InRange) .trap
  return time.plusSeconds seconds

def sleepUntil (target : OffsetDateTime) : Soak Unit := do
  let now ← call .now
  if now.unixNanoseconds < target.unixNanoseconds then
    call .sleep

/-- `exercise_remote_controls`. -/
def exerciseRemoteControls : Soak Unit := do
  let gate := Control.new.gate
  let (resumed, gate) := gate.apply .resume
  failIf (¬resumed ∨ gate.label ≠ "running") .remoteControl
  let (paused, gate) := gate.apply .pause
  failIf (¬paused ∨ gate.label ≠ "paused") .remoteControl
  let (stopped, gate) := gate.apply .stop
  failIf (¬stopped ∨ gate.label ≠ "stopped") .remoteControl

/-- A file holds one of the synthetic texts. -/
def leaks (file : Bytes) : Bool :=
  decide (utf8 syntheticPrivateSentinel <:+: file) || decide (utf8 syntheticTokenSentinel <:+: file)

def scanForPlaintext : Soak Unit := do
  let files ← call .readFiles
  failIf (files.any leaks) .plaintextLeak

def newReport (host : SoakHost) : Soak (SoakReport × OffsetDateTime × OffsetDateTime) := do
  let startedAt ← call .now
  let expectedEndAt ← addSeconds startedAt host.duration.seconds
  let report : SoakReport := {
    protocol := harnessProtocolV1
    mode := soakMode
    status := "running"
    startedAt := formatTime host.prims startedAt
    expectedEndAt := formatTime host.prims expectedEndAt
    updatedAt := formatTime host.prims startedAt
    durationSeconds := host.duration.seconds
    intervalSeconds := host.interval.seconds
    cyclesCompleted := 0
    eventsAppended := 0
    journalReopens := 0
    duplicateEventsRejected := 0
    sequenceGapsRejected := 0
    remoteControlsApplied := 0
    encryptedRecoveries := 0
    plaintextLeakScans := 0
    lastEventSha256 := genesisHash }
  call (.writeReport report)
  return (report, startedAt, expectedEndAt)

/-- The counts of a report that can be resumed agree with each other and with the arguments. -/
def Balanced (host : SoakHost) (report : SoakReport) : Prop :=
  report.protocol = harnessProtocolV1 ∧ report.mode = soakMode ∧ report.status = "running" ∧
    report.durationSeconds = host.duration.seconds ∧
    report.intervalSeconds = host.interval.seconds ∧
    report.eventsAppended = report.cyclesCompleted ∧
    report.journalReopens = report.cyclesCompleted ∧
    report.duplicateEventsRejected = report.cyclesCompleted ∧
    report.sequenceGapsRejected = report.cyclesCompleted ∧
    report.remoteControlsApplied = saturatingMulU64 report.cyclesCompleted 3 ∧
    report.encryptedRecoveries = saturatingMulU64 report.cyclesCompleted 2 ∧
    report.plaintextLeakScans = report.cyclesCompleted

instance (host : SoakHost) (report : SoakReport) : Decidable (Balanced host report) :=
  inferInstanceAs (Decidable (_ ∧ _))

/-- `parse_time`. -/
def readTime (host : SoakHost) (text : String) : Soak OffsetDateTime :=
  Act.ofOption (.error .checkpoint) (host.parseTime text)

def resumeReport (host : SoakHost) : Soak (SoakReport × OffsetDateTime × OffsetDateTime) := do
  let parsed ← call .readReport
  let report ← Act.ofOption (.error .json) parsed
  failIf (report.status = "complete") .alreadyComplete
  failIf (¬Balanced host report) .checkpoint
  let startedAt ← readTime host report.startedAt
  let expectedEndAt ← readTime host report.expectedEndAt
  let calculatedEnd ← addSeconds startedAt host.duration.seconds
  failIf (expectedEndAt.unixNanoseconds ≠ calculatedEnd.unixNanoseconds) .checkpoint
  let expectedState :=
    if report.eventsAppended = 0 then none
    else some (report.eventsAppended, report.lastEventSha256)
  let latest ← call (.latestEventState runId)
  let state ← Act.ofExcept (fun error => .error (.journal error)) latest
  failIf (state ≠ expectedState) .checkpoint
  return (report, startedAt, expectedEndAt)

/-- Sign an event of the run. -/
def signEvent (host : SoakHost) (cycleId : Uuid) (sequence : UInt64) (previous : String)
    (payload : Json) : Soak RunEventEnvelopeV1 := do
  let occurredAt ← call .now
  let eventId ← call .newId
  Act.ofExcept (fun error => .error (.protocol error)) <|
    RunEventEnvelopeV1.sign host.prims deviceSeed eventId arenaId runId (some cycleId) sequence
      previous "portfolio_snapshot" occurredAt payload

def sentinelPayload : Json := .ofFields [("raw_prompt", .string syntheticPrivateSentinel)]

/-- `!= Some(json!({"raw_prompt": SYNTHETIC_PRIVATE_SENTINEL}))`. -/
def isSentinelPayload : Option Json → Bool
  | some (.object [("raw_prompt", .string text)]) => text = syntheticPrivateSentinel
  | _ => false

/-- The part of a cycle that has the journal open: the event is stored and read back, a secret too,
and the event a second time and one that leaves a gap are refused. -/
def exerciseJournal (host : SoakHost) (cycleId : Uuid) (sequence : UInt64)
    (event : RunEventEnvelopeV1) : Soak Unit := do
  let appended ← call (.append event sentinelPayload)
  Act.ofExcept (fun error => .error (.journal error)) appended
  let payload ← call (.privatePayload event.eventSha256)
  failIf (¬isSentinelPayload payload) .recovery
  let put ← call (.putSecret "device-refresh-token" (utf8 syntheticTokenSentinel))
  Act.ofExcept (fun error => .error (.journal error)) put
  let recovered : Option Bytes ← call (.secret "device-refresh-token")
  failIf (recovered ≠ some (utf8 syntheticTokenSentinel)) .recovery
  let duplicate ← call (.append event sentinelPayload)
  failIf duplicate.isOk .faultAccepted
  let gap ← signEvent host cycleId (saturatingAddU64 sequence 2) event.eventSha256
    (.ofFields [("equity_micro_usdc", .number (.unsigned 1000000))])
  let refused ← call (.append gap (.ofFields []))
  failIf refused.isOk .faultAccepted

/-- The counts after a cycle. -/
def counted (report : SoakReport) (sequence : UInt64) (lastEventSha256 updatedAt : String) :
    SoakReport :=
  { report with
    journalReopens := saturatingAddU64 report.journalReopens 1
    encryptedRecoveries := saturatingAddU64 (saturatingAddU64 report.encryptedRecoveries 1) 1
    duplicateEventsRejected := saturatingAddU64 report.duplicateEventsRejected 1
    sequenceGapsRejected := saturatingAddU64 report.sequenceGapsRejected 1
    remoteControlsApplied := saturatingAddU64 report.remoteControlsApplied 3
    plaintextLeakScans := saturatingAddU64 report.plaintextLeakScans 1
    cyclesCompleted := saturatingAddU64 report.cyclesCompleted 1
    eventsAppended := sequence
    lastEventSha256
    updatedAt }

/-- The body of the loop of `run`. -/
def cycle (host : SoakHost) (startedAt : OffsetDateTime) (report : SoakReport) :
    Soak SoakReport := do
  let cycleOffset ← Act.ofOption (.error .invalidSchedule)
    (checkedMulU64 host.interval.seconds report.cyclesCompleted)
  let target ← addSeconds startedAt cycleOffset
  sleepUntil target
  let sequence ← Act.ofOption (.error .recovery) (checkedAddU64 report.eventsAppended 1)
  let cycleId ← call .newId
  let number ← Act.ofOption .trap (checkedAddU64 report.cyclesCompleted 1)
  let event ← signEvent host cycleId sequence report.lastEventSha256
    (.ofFields [("cycle", .number (.unsigned number)),
      ("equity_micro_usdc", .number (.unsigned 1000000))])
  exerciseJournal host cycleId sequence event
  exerciseRemoteControls
  scanForPlaintext
  let updatedAt ← call .now
  let report := counted report sequence event.eventSha256 (formatTime host.prims updatedAt)
  call (.writeReport report)
  return report

/-- The cycles of a run. -/
def expectedCycles (host : SoakHost) : UInt64 := host.duration.seconds / host.interval.seconds

/-- The loop of `run`.  It traps when it is not over after its fuel. -/
def cycles (host : SoakHost) (startedAt : OffsetDateTime) : Nat → SoakReport → Soak SoakReport
  | 0, report => do
    Act.rejectIf (report.cyclesCompleted < expectedCycles host) .trap
    return report
  | fuel + 1, report =>
    if report.cyclesCompleted < expectedCycles host then do
      let report ← cycle host startedAt report
      cycles host startedAt fuel report
    else return report

def InvalidSchedule (duration interval : StdDuration) : Prop :=
  duration.toNanoseconds < interval.toNanoseconds ∨ interval.toNanoseconds = 0 ∨
    duration.nanoseconds ≠ 0 ∨ interval.nanoseconds ≠ 0 ∨
    duration.seconds.toNat % interval.seconds.toNat ≠ 0

instance (duration interval : StdDuration) : Decidable (InvalidSchedule duration interval) :=
  inferInstanceAs (Decidable (_ ∨ _))

/-- The report a run starts from, with the times of its start and end. -/
def openReport (host : SoakHost) : Soak (SoakReport × OffsetDateTime × OffsetDateTime) := do
  let resumes : Bool ← call .reportExists
  if resumes then resumeReport host else newReport host

/-- What `run` does from the report on. -/
def finish (host : SoakHost) (startedAt expectedEndAt : OffsetDateTime) (report : SoakReport) :
    Soak SoakReport := do
  let report ← cycles host startedAt (expectedCycles host).toNat report
  sleepUntil expectedEndAt
  let updatedAt ← call .now
  let report := { report with
    status := "complete"
    updatedAt := formatTime host.prims updatedAt }
  call (.writeReport report)
  return report

/-- `soak::run`. -/
def run (host : SoakHost) : Soak SoakReport := do
  failIf (InvalidSchedule host.duration host.interval) .invalidSchedule
  let (report, startedAt, expectedEndAt) ← openReport host
  finish host startedAt expectedEndAt report

end SoakRun

/-! ## Crashes -/

/-- How a run ended. -/
abbrev SoakEnd : Type := Except (Halt SoakError) SoakReport

/-- The run as a task. -/
def SoakHost.task (host : SoakHost) : Prog soakSignature (Option SoakEnd) :=
  ((SoakRun.run host).start ()).bind fun result => .done (some result.1)

def SoakHost.system (host : SoakHost) : System soakSignature SoakDisk where
  begin := fun _ disk disk' => disk' = disk
  answer := host.Answers
  env := fun _ _ => False

/-- A host that runs the soak, and runs it again with the same arguments after every crash.  It can
crash at any time that the disk is as given. -/
def SoakHost.machine (host : SoakHost) (crashes : SoakDisk → Prop) :
    Machine soakSignature SoakDisk (Option SoakEnd) where
  toSystem := host.system
  again := fun value prog => value = none ∧ prog = host.task
  crash := fun value disk disk' => value = none ∧ disk' = disk ∧ crashes disk

/-- The disk before the first run. -/
def SoakDisk.fresh : SoakDisk := ⟨none, ⟨[], []⟩⟩

end CrowAgent
