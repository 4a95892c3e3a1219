import CrowAgent.Core.LiveRuns
import CrowAgent.Core.RunJournal
import CrowAgent.Daemon.Soak
import CrowAgent.Lib.Inevitable

/-!
# Soak runs that are interrupted

The report counts an event only when it is written at the end of the event's cycle, so between the
two the journal is ahead of it, and `resumeReport` refuses the pair.

* `wp_cycle` and `wp_run`: a run that finds the report and the journal in agreement ends well.
* `soak_completes`: so does every run when the crashes before it came while the two agreed.
* `soak_not_completes`: after a crash between the two writes the run cannot be resumed.
-/

namespace CrowAgent

open Coroutine FixedWidth

namespace SoakRun

variable {host : SoakHost}

/-! ## Agreement of the report and the journal -/

def total (host : SoakHost) : Nat := (expectedCycles host).toNat

/-- The report of a run that has completed some cycles. -/
def checkpointAt (host : SoakHost) (startedAt : OffsetDateTime) (n : Nat)
    (updatedAt lastEventSha256 : String) : SoakReport where
  protocol := harnessProtocolV1
  mode := soakMode
  status := "running"
  startedAt := formatTime host.prims startedAt
  expectedEndAt := formatTime host.prims (startedAt.plusSeconds host.duration.seconds)
  updatedAt
  durationSeconds := host.duration.seconds
  intervalSeconds := host.interval.seconds
  cyclesCompleted := .ofNat n
  eventsAppended := .ofNat n
  journalReopens := .ofNat n
  duplicateEventsRejected := .ofNat n
  sequenceGapsRejected := .ofNat n
  remoteControlsApplied := .ofNat (n * 3)
  encryptedRecoveries := .ofNat (n * 2)
  plaintextLeakScans := .ofNat n
  lastEventSha256

/-- The report counts the events of the journal. -/
structure Stands (host : SoakHost) (startedAt : OffsetDateTime) (n : Nat) (report : SoakReport)
    (disk : SoakDisk) : Prop where
  starts : host.Starts startedAt
  inside : n ≤ total host
  counts : ∃ updatedAt, report = checkpointAt host startedAt n updatedAt disk.journal.headHash
  stored : disk.report = some (some report)
  run : OneRun host.prims runId disk.journal
  length : disk.journal.rows.length = n

/-- The journal has one event more than the report counts. -/
structure Ahead (host : SoakHost) (startedAt : OffsetDateTime) (n : Nat) (report : SoakReport)
    (disk : SoakDisk) : Prop where
  inside : n + 1 ≤ total host
  counts : ∃ updatedAt lastEventSha256,
    report = checkpointAt host startedAt n updatedAt lastEventSha256
  stored : disk.report = some (some report)
  run : OneRun host.prims runId disk.journal
  length : disk.journal.rows.length = n + 1

/-- A disk that a run can resume from or start on. -/
def Resumable (host : SoakHost) (disk : SoakDisk) : Prop :=
  (disk.report = none ∧ disk.journal.rows = []) ∨
    ∃ startedAt n report, Stands host startedAt n report disk

/-- The report is complete, and counts the cycles of the schedule and the events of the journal. -/
structure Completed (host : SoakHost) (report : SoakReport) (disk : SoakDisk) : Prop where
  status : report.status = "complete"
  stored : disk.report = some (some report)
  cycles : report.cyclesCompleted = host.duration.seconds / host.interval.seconds
  events : report.eventsAppended = host.duration.seconds / host.interval.seconds
  journal : (disk.journal.runRows runId).length =
    (host.duration.seconds / host.interval.seconds).toNat

/-- What the disk is like at any time. -/
def Sound (host : SoakHost) (disk : SoakDisk) : Prop :=
  Resumable host disk ∨ (∃ startedAt n report, Ahead host startedAt n report disk) ∨
    ∃ report, Completed host report disk

/-- The report counts the events of the journal and is not complete. -/
def Settled (disk : SoakDisk) : Prop :=
  match disk.report with
  | none => disk.journal.runRows runId = []
  | some none => False
  | some (some report) =>
    report.status ≠ "complete" ∧
      report.eventsAppended.toNat = (disk.journal.runRows runId).length

/-- The report is not complete. -/
def Unfinished (disk : SoakDisk) : Prop :=
  ∀ report, disk.report = some (some report) → report.status ≠ "complete"

/-- What the crates and the file system do: texts of times are read back, signatures verify, hashes
tell the events of the run apart, and the files are encrypted. -/
structure HostWorks (host : SoakHost) : Prop where
  readsTimes : ∀ time text, host.prims.rfc3339 time = some text → host.parseTime text = some time
  verifies : host.prims.VerifiesOwn
  separates : ∀ a b : RunEventEnvelopeV1, a.verify host.prims = .ok () →
    b.verify host.prims = .ok () → a.sequence.toNat ≤ total host → b.sequence.toNat ≤ total host →
    a.eventSha256 = b.eventSha256 → a.sequence = b.sequence
  hasFiles : ∀ disk, ∃ files, host.files disk files
  encrypted : ∀ disk files, host.files disk files → files.any leaks = false

/-- The code accepts the schedule, and the clock can show a time that it can start at. -/
structure ValidSchedule (host : SoakHost) : Prop where
  valid : ¬InvalidSchedule host.duration host.interval
  startable : ∃ time, host.Starts time

/-! ## Numbers -/

theorem duration_lt {startedAt : OffsetDateTime} (starts : host.Starts startedAt) :
    host.duration.seconds.toNat < 2 ^ 61 := by
  have start := starts.inRange
  have finish := starts.endInRange
  unfold OffsetDateTime.InRange at start finish
  change (startedAt.unixNanoseconds + host.duration.seconds.toNat * 10 ^ 9).natAbs < _ at finish
  omega

theorem total_eq : total host = host.duration.seconds.toNat / host.interval.seconds.toNat :=
  UInt64.toNat_div _ _

theorem total_lt {startedAt : OffsetDateTime} (starts : host.Starts startedAt) :
    total host < 2 ^ 61 := by
  have bound := duration_lt starts
  rw [total_eq]
  exact (Nat.div_le_self _ _).trans_lt bound

/-- A boundary of a cycle lies within the schedule. -/
theorem offset_le {n : Nat} (inside : n ≤ total host) :
    host.interval.seconds.toNat * n ≤ host.duration.seconds.toNat := by
  rw [total_eq] at inside
  exact (Nat.mul_le_mul_left _ inside).trans (Nat.mul_div_le _ _)

theorem inRange_plusSeconds {startedAt : OffsetDateTime} (starts : host.Starts startedAt)
    {seconds : UInt64} (inside : seconds.toNat ≤ host.duration.seconds.toNat) :
    (startedAt.plusSeconds seconds).InRange := by
  have start := starts.inRange
  have finish := starts.endInRange
  unfold OffsetDateTime.InRange OffsetDateTime.plusSeconds at *
  dsimp only at *
  omega

/-- The counts after one more cycle. -/
theorem counted_checkpointAt {startedAt : OffsetDateTime} {n : Nat} {updatedAt hash : String}
    (small : n < 2 ^ 61) (hash' updatedAt' : String) :
    counted (checkpointAt host startedAt n updatedAt hash) (.ofNat (n + 1)) hash' updatedAt' =
      checkpointAt host startedAt (n + 1) updatedAt' hash' := by
  have one : saturatingAddU64 (UInt64.ofNat n) 1 = UInt64.ofNat (n + 1) :=
    saturatingAddU64_ofNat (show n + 1 < 2 ^ 64 by omega)
  have three : saturatingAddU64 (UInt64.ofNat (n * 3)) 3 = UInt64.ofNat ((n + 1) * 3) := by
    rw [saturatingAddU64_ofNat (show n * 3 + 3 < 2 ^ 64 by omega), Nat.succ_mul]
    rfl
  have two : saturatingAddU64 (saturatingAddU64 (UInt64.ofNat (n * 2)) 1) 1 =
      UInt64.ofNat ((n + 1) * 2) := by
    rw [saturatingAddU64_ofNat (show n * 2 + 1 < 2 ^ 64 by omega),
      saturatingAddU64_ofNat (show n * 2 + 1 + 1 < 2 ^ 64 by omega), Nat.succ_mul]
    rfl
  simp only [counted, checkpointAt, one, two, three]

/-- The report of a run can be resumed. -/
theorem balanced_checkpointAt {startedAt : OffsetDateTime} {n : Nat} {updatedAt hash : String}
    (small : n < 2 ^ 61) : Balanced host (checkpointAt host startedAt n updatedAt hash) := by
  have three : saturatingMulU64 (UInt64.ofNat n) 3 = UInt64.ofNat (n * 3) :=
    saturatingMulU64_ofNat (by omega) (show n * 3 < 2 ^ 64 by omega)
  have two : saturatingMulU64 (UInt64.ofNat n) 2 = UInt64.ofNat (n * 2) :=
    saturatingMulU64_ofNat (by omega) (show n * 2 < 2 ^ 64 by omega)
  refine ⟨rfl, rfl, rfl, rfl, rfl, rfl, rfl, rfl, rfl, ?_, ?_, rfl⟩
  · exact three.symm
  · exact two.symm

/-! ## Disks -/

theorem Stands.sound {startedAt : OffsetDateTime} {n : Nat} {report : SoakReport} {disk : SoakDisk}
    (stands : Stands host startedAt n report disk) : Sound host disk :=
  .inl (.inr ⟨startedAt, n, report, stands⟩)

theorem Ahead.sound {startedAt : OffsetDateTime} {n : Nat} {report : SoakReport} {disk : SoakDisk}
    (ahead : Ahead host startedAt n report disk) : Sound host disk :=
  .inr (.inl ⟨startedAt, n, report, ahead⟩)

/-- A disk whose report counts the events can be resumed from. -/
theorem Sound.resumable {disk : SoakDisk} (valid : ValidSchedule host) (sound : Sound host disk)
    (settled : Settled disk) : Resumable host disk := by
  rcases sound with resumable | ⟨startedAt, n, report, ahead⟩ | ⟨report, completed⟩
  · exact resumable
  · obtain ⟨updatedAt, hash, isReport⟩ := ahead.counts
    obtain ⟨time, starts⟩ := valid.startable
    have bound := total_lt starts
    have inside := ahead.inside
    have appended : report.eventsAppended.toNat = n := by
      rw [isReport]
      exact toNat_ofNat_of_lt (by omega)
    unfold Settled at settled
    rw [ahead.stored] at settled
    have events := settled.2
    rw [ahead.run.runRows, ahead.length, appended] at events
    omega
  · unfold Settled at settled
    rw [completed.stored] at settled
    exact absurd completed.status settled.1

/-! ## Calls -/

/-- What the proofs about the run agree on: at any time the disk is sound. -/
def contract (host : SoakHost) : Contract soakSignature SoakDisk :=
  Contract.ofSystem host.system (Sound host) (fun _ _ => True) fun _ never => never.elim

section

variable {disk : SoakDisk} {err : Halt SoakError → Unit → SoakDisk → Prop}

theorem wp_call {op : SoakCall} {ok : op.Answer → Unit → SoakDisk → Prop} (sound : Sound host disk)
    (answered : ∀ answer disk', host.Answers op disk answer disk' →
      Sound host disk' ∧ ok answer () disk') :
    (call op).wp (contract host) ok err () disk := by
  refine Act.wp_perform.mpr (Contract.calls_sync rfl trivial (fun begun => begun ▸ sound) ?_)
  intro disk₁ answer disk' begun answers
  obtain rfl : disk₁ = disk := begun
  exact answered answer disk' answers

theorem wp_now {ok : OffsetDateTime → Unit → SoakDisk → Prop} (sound : Sound host disk)
    (shown : ∀ time, host.Shows time → ok time () disk) :
    (call .now).wp (contract host) ok err () disk := by
  refine wp_call sound fun answer disk' answers => ?_
  cases answers with
  | now shows => exact ⟨sound, shown _ shows⟩

/-- The first run starts at a time that the schedule can start at. -/
theorem wp_now_first {ok : OffsetDateTime → Unit → SoakDisk → Prop} (sound : Sound host disk)
    (absent : disk.report = none) (shown : ∀ time, host.Starts time → ok time () disk) :
    (call .now).wp (contract host) ok err () disk := by
  refine wp_call sound fun answer disk' answers => ?_
  cases answers with
  | now shows first => exact ⟨sound, shown _ (first absent)⟩

theorem wp_newId {ok : Uuid → Unit → SoakDisk → Prop} (sound : Sound host disk)
    (drawn : ∀ id, ok id () disk) : (call .newId).wp (contract host) ok err () disk := by
  refine wp_call sound fun answer disk' answers => ?_
  cases answers with
  | newId => exact ⟨sound, drawn _⟩

theorem wp_writeReport {report : SoakReport} {ok : Unit → Unit → SoakDisk → Prop}
    (sound : Sound host disk) (written : Sound host { disk with report := some (some report) })
    (ends : ok () () { disk with report := some (some report) }) :
    (call (.writeReport report)).wp (contract host) ok err () disk := by
  refine wp_call sound fun answer disk' answers => ?_
  cases answers with
  | writeReport => exact ⟨written, ends⟩

theorem wp_failIf {condition : Prop} [Decidable condition] {error : SoakError}
    {ok : Unit → Unit → SoakDisk → Prop} (holds : ¬condition) (ends : ok () () disk) :
    (failIf condition error).wp (contract host) ok err () disk := by
  rw [failIf, Act.wp_rejectIf, if_neg holds]
  exact ends

theorem wp_addSeconds {time : OffsetDateTime} {seconds : UInt64}
    {ok : OffsetDateTime → Unit → SoakDisk → Prop} (small : seconds.toNat < 2 ^ 63)
    (inRange : (time.plusSeconds seconds).InRange) (ends : ok (time.plusSeconds seconds) () disk) :
    (addSeconds time seconds).wp (contract host) ok err () disk := by
  rw [addSeconds, Act.wp_bind]
  refine wp_failIf (by omega) ?_
  rw [Act.wp_bind, Act.wp_rejectIf, if_neg (not_not.mpr inRange), Act.wp_pure]
  exact ends

theorem wp_sleepUntil {target : OffsetDateTime} {ok : Unit → Unit → SoakDisk → Prop}
    (sound : Sound host disk) (ends : ok () () disk) :
    (sleepUntil target).wp (contract host) ok err () disk := by
  rw [sleepUntil, Act.wp_bind]
  refine wp_now sound fun time _ => ?_
  by_cases early : time.unixNanoseconds < target.unixNanoseconds
  · rw [if_pos early]
    refine wp_call sound fun answer disk' answers => ?_
    cases answers with
    | sleep => exact ⟨sound, ends⟩
  · rw [if_neg early, Act.wp_pure]
    exact ends

theorem wp_exerciseRemoteControls {ok : Unit → Unit → SoakDisk → Prop} (ends : ok () () disk) :
    exerciseRemoteControls.wp (contract host) ok err () disk := by
  rw [exerciseRemoteControls, Act.wp_bind]
  refine wp_failIf (by decide) ?_
  rw [Act.wp_bind]
  refine wp_failIf (by decide) ?_
  exact wp_failIf (by decide) ends

theorem wp_scanForPlaintext {ok : Unit → Unit → SoakDisk → Prop} (works : HostWorks host)
    (sound : Sound host disk) (ends : ok () () disk) :
    scanForPlaintext.wp (contract host) ok err () disk := by
  rw [scanForPlaintext, Act.wp_bind]
  refine wp_call sound fun answer disk' answers => ⟨?_, ?_⟩
  · cases answers with
    | readFiles holds => exact sound
  · cases answers with
    | readFiles holds =>
      refine wp_failIf ?_ ends
      rw [works.encrypted _ _ holds]
      decide

/-- A signed event verifies and is what was asked for. -/
theorem wp_signEvent {cycleId : Uuid} {sequence : UInt64} {previous : String} {payload : Json}
    {ok : RunEventEnvelopeV1 → Unit → SoakDisk → Prop} (works : HostWorks host)
    (sound : Sound host disk)
    (signed : ∀ event : RunEventEnvelopeV1, event.verify host.prims = .ok () →
      event.runId = runId → event.sequence = sequence → event.previousEventSha256 = previous →
      ok event () disk) :
    (signEvent host cycleId sequence previous payload).wp (contract host) ok err () disk := by
  rw [signEvent, Act.wp_bind]
  refine wp_now sound fun time shows => ?_
  rw [Act.wp_bind]
  refine wp_newId sound fun id => ?_
  obtain ⟨event, isEvent⟩ := RunEventEnvelopeV1.exists_signed shows.printed deviceSeed id arenaId
    runId (some cycleId) sequence previous "portfolio_snapshot" payload
  have fields := RunEventEnvelopeV1.signed_of_sign isEvent
  rw [Act.wp_ofExcept, isEvent]
  exact signed event (RunEventEnvelopeV1.verify_of_sign works.verifies isEvent) fields.runId
    fields.sequence fields.previous

/-! ## A cycle -/

/-- The disk with an event stored, and some secrets. -/
def withEvent (disk : SoakDisk) (event : RunEventEnvelopeV1) (secrets : List (String × Bytes)) :
    SoakDisk :=
  { disk with journal := { disk.journal.push event sentinelPayload with secrets } }

/-- A stored event puts the journal ahead of the report. -/
theorem Stands.ahead {startedAt : OffsetDateTime} {n : Nat} {report : SoakReport}
    {event : RunEventEnvelopeV1} (stands : Stands host startedAt n report disk)
    (less : n < total host) (next : ComesNext host.prims runId disk.journal event)
    (secrets : List (String × Bytes)) :
    Ahead host startedAt n report (withEvent disk event secrets) where
  inside := less
  counts := by
    obtain ⟨updatedAt, isReport⟩ := stands.counts
    exact ⟨updatedAt, _, isReport⟩
  stored := stands.stored
  run := (stands.run.push next).withSecrets secrets
  length := by
    change (disk.journal.push event sentinelPayload).rows.length = n + 1
    rw [EncryptedJournal.length_push, stands.length]

section

variable {startedAt : OffsetDateTime} {n : Nat} {report : SoakReport} {event : RunEventEnvelopeV1}
  {secrets : List (String × Bytes)}

/-- The event that comes next is stored. -/
theorem wp_append_next {ok : Except JournalError Unit → Unit → SoakDisk → Prop}
    (stands : Stands host startedAt n report disk) (less : n < total host)
    (next : ComesNext host.prims runId disk.journal event) (fresh : FreshHash disk.journal event)
    (ends : ok (.ok ()) () (withEvent disk event disk.journal.secrets)) :
    (call (.append event sentinelPayload)).wp (contract host) ok err () disk := by
  have bound := total_lt stands.starts
  have length := stands.length
  refine wp_call stands.sound fun answer disk' answers => ?_
  cases answers with | append => ?_
  rw [stands.run.append next fresh (by omega)]
  exact ⟨(stands.ahead less next disk.journal.secrets).sound, ends⟩

/-- Its payload is found under its hash. -/
theorem wp_privatePayload {ok : Option Json → Unit → SoakDisk → Prop}
    (sound : Sound host (withEvent disk event secrets))
    (fresh : FreshHash disk.journal event)
    (ends : ok (some sentinelPayload) () (withEvent disk event secrets)) :
    (call (.privatePayload event.eventSha256)).wp (contract host) ok err ()
      (withEvent disk event secrets) := by
  refine wp_call sound fun answer disk' answers => ?_
  cases answers with | privatePayload => ?_
  have none : disk.journal.rows.find? (·.eventSha256 = event.eventSha256) = Option.none :=
    List.find?_eq_none.mpr fun row mem => by simpa using fresh row mem
  have found : ((withEvent disk event secrets).journal.rows.find?
      (·.eventSha256 = event.eventSha256)).map (·.privatePayload) = some sentinelPayload := by
    rw [withEvent, EncryptedJournal.push, List.find?_append, none]
    simp [EventRow.ofEvent]
  rw [found]
  exact ⟨sound, ends⟩

/-- The token is stored. -/
theorem wp_putSecret {ok : Except JournalError Unit → Unit → SoakDisk → Prop}
    (sound : ∀ secrets, Sound host (withEvent disk event secrets))
    (ends : ∀ secrets', ok (.ok ()) () (withEvent disk event
      (("device-refresh-token", utf8 syntheticTokenSentinel) :: secrets'))) :
    (call (.putSecret "device-refresh-token" (utf8 syntheticTokenSentinel))).wp (contract host) ok
      err () (withEvent disk event secrets) := by
  refine wp_call (sound secrets) fun answer disk' answers => ?_
  cases answers with | putSecret => ?_
  rw [EncryptedJournal.putSecret, if_neg (by decide)]
  exact ⟨sound _, ends _⟩

/-- The token is found. -/
theorem wp_secret {ok : Option Bytes → Unit → SoakDisk → Prop} {value : Bytes}
    (sound : Sound host (withEvent disk event (("device-refresh-token", value) :: secrets)))
    (ends : ok (some value) () (withEvent disk event (("device-refresh-token", value) :: secrets))) :
    (call (.secret "device-refresh-token")).wp (contract host) ok err ()
      (withEvent disk event (("device-refresh-token", value) :: secrets)) := by
  refine wp_call sound fun answer disk' answers => ?_
  cases answers with | secret => ?_
  exact ⟨sound, ends⟩

/-- An event that does not come next is refused and changes nothing. -/
theorem wp_append_refused {payload : Json} {ok : Except JournalError Unit → Unit → SoakDisk → Prop}
    (ahead : Ahead host startedAt n report disk) (own : event.runId = runId)
    (gap : event.sequence.toNat ≠ n + 2) (ends : ∀ error, ok (.error error) () disk) :
    (call (.append event payload)).wp (contract host) ok err () disk := by
  refine wp_call ahead.sound fun answer disk' answers => ?_
  cases answers with | append => ?_
  obtain ⟨error, refused⟩ := @OneRun.append_error _ _ _ _ payload ahead.run own
    (by rw [ahead.length]; exact gap)
  rw [refused]
  exact ⟨ahead.sound, ends error⟩

/-- **The journal's part of a cycle.**  The event is stored, and what must be refused is refused. -/
theorem wp_exerciseJournal {cycleId : Uuid} {ok : Unit → Unit → SoakDisk → Prop}
    (works : HostWorks host) (stands : Stands host startedAt n report disk) (less : n < total host)
    (next : ComesNext host.prims runId disk.journal event) (fresh : FreshHash disk.journal event)
    (ends : ∀ disk', Ahead host startedAt n report disk' →
      disk'.journal.headHash = event.eventSha256 → ok () () disk') :
    (exerciseJournal host cycleId event.sequence event).wp (contract host) ok err () disk := by
  have bound := total_lt stands.starts
  have length := stands.length
  have sequence := next.sequence
  have ahead : ∀ secrets, Ahead host startedAt n report (withEvent disk event secrets) :=
    stands.ahead less next
  rw [exerciseJournal, Act.wp_bind]
  refine wp_append_next stands less next fresh ?_
  rw [Act.wp_bind, Act.wp_ofExcept, Act.wp_bind]
  refine wp_privatePayload (ahead _).sound fresh ?_
  rw [Act.wp_bind]
  refine wp_failIf (by decide) ?_
  rw [Act.wp_bind]
  refine wp_putSecret (fun secrets => (ahead secrets).sound) fun secrets => ?_
  rw [Act.wp_bind, Act.wp_ofExcept, Act.wp_bind]
  refine wp_secret (ahead _).sound ?_
  rw [Act.wp_bind]
  refine wp_failIf (fun other => other rfl) ?_
  rw [Act.wp_bind]
  -- the event once more
  refine wp_append_refused (ahead _) next.runId (by omega) fun error => ?_
  rw [Act.wp_bind]
  refine wp_failIf (by simp [Except.isOk, Except.toBool]) ?_
  rw [Act.wp_bind]
  -- an event that leaves a gap
  refine wp_signEvent works (ahead _).sound fun gap _ own number _ => ?_
  have far : gap.sequence.toNat ≠ n + 2 := by
    have two : (2 : UInt64).toNat = 2 := rfl
    rw [number, saturatingAddU64, if_pos (by omega), UInt64.toNat_add]
    omega
  rw [Act.wp_bind]
  refine wp_append_refused (ahead _) own far fun error => ?_
  refine wp_failIf (by simp [Except.isOk, Except.toBool]) (ends _ (ahead _) ?_)
  exact EncryptedJournal.headHash_push

/-- The hash of the event that comes next is new. -/
theorem Stands.freshHash (works : HostWorks host) (stands : Stands host startedAt n report disk)
    (less : n < total host) (next : ComesNext host.prims runId disk.journal event) :
    FreshHash disk.journal event := by
  intro row mem same
  have number := next.sequence
  rw [stands.length] at number
  obtain ⟨stored, stores⟩ := stands.run.chained.stored row mem
  have bounded := (stands.run.sequence_le mem).2
  rw [stands.length, stores.sequence] at bounded
  change stored.sequence.toNat ≤ n at bounded
  have equal := works.separates stored event stores.1 next.verified (by omega) (by omega)
    (by rw [← stores.hash, same])
  rw [equal] at bounded
  omega

/-- **Cycle.**  A cycle that starts with the report and the journal in agreement ends with them in
agreement, one event further. -/
theorem wp_cycle {ok : SoakReport → Unit → SoakDisk → Prop} (works : HostWorks host)
    (stands : Stands host startedAt n report disk) (less : n < total host)
    (ends : ∀ report' disk', Stands host startedAt (n + 1) report' disk' → ok report' () disk') :
    (cycle host startedAt report).wp (contract host) ok err () disk := by
  have bound := total_lt stands.starts
  have within : host.interval.seconds.toNat * n ≤ host.duration.seconds.toNat := offset_le less.le
  have longest := duration_lt stands.starts
  obtain ⟨updatedAt, isReport⟩ := stands.counts
  have counted' : report.cyclesCompleted = .ofNat n ∧ report.eventsAppended = .ofNat n ∧
      report.lastEventSha256 = disk.journal.headHash := by
    rw [isReport]
    exact ⟨rfl, rfl, rfl⟩
  obtain ⟨completed, appended, hash⟩ := counted'
  have value : (UInt64.ofNat n).toNat = n := toNat_ofNat_of_lt (by omega)
  have offset : checkedMulU64 host.interval.seconds (.ofNat n) =
      some (.ofNat (host.interval.seconds.toNat * n)) := by
    rw [checkedMulU64_eq_some (by rw [value]; omega), value]
  have offsetValue : (UInt64.ofNat (host.interval.seconds.toNat * n)).toNat =
      host.interval.seconds.toNat * n := toNat_ofNat_of_lt (by omega)
  have successor : checkedAddU64 (.ofNat n) 1 = some (.ofNat (n + 1)) := by
    rw [checkedAddU64_eq_some, value, toNat_ofNat_of_lt (by omega)]
    rfl
  rw [cycle, completed, appended, offset, successor, Act.wp_bind, Act.wp_ofOption]
  dsimp only
  rw [Act.wp_bind]
  refine wp_addSeconds (by omega) (inRange_plusSeconds stands.starts (by omega)) ?_
  rw [Act.wp_bind]
  refine wp_sleepUntil stands.sound ?_
  rw [Act.wp_bind, Act.wp_ofOption]
  dsimp only
  rw [Act.wp_bind]
  refine wp_newId stands.sound fun cycleId => ?_
  rw [Act.wp_bind, Act.wp_ofOption]
  dsimp only
  rw [Act.wp_bind]
  refine wp_signEvent works stands.sound fun event verified own number previous => ?_
  have next : ComesNext host.prims runId disk.journal event :=
    ⟨verified, own, by rw [number, toNat_ofNat_of_lt (by omega), stands.length],
      by rw [previous, hash]⟩
  rw [Act.wp_bind, ← number]
  refine wp_exerciseJournal works stands less next (stands.freshHash works less next)
    fun disk' ahead head => ?_
  rw [Act.wp_bind]
  refine wp_exerciseRemoteControls ?_
  rw [Act.wp_bind]
  refine wp_scanForPlaintext works ahead.sound ?_
  rw [Act.wp_bind]
  refine wp_now ahead.sound fun time shows => ?_
  have stands' : Stands host startedAt (n + 1)
      (counted report event.sequence event.eventSha256 (formatTime host.prims time))
      { disk' with report := some (some (counted report event.sequence event.eventSha256
        (formatTime host.prims time))) } :=
    { starts := stands.starts
      inside := less
      counts := by
        refine ⟨formatTime host.prims time, ?_⟩
        rw [isReport, number, counted_checkpointAt (by omega), head]
      stored := rfl
      run := ahead.run
      length := ahead.length }
  rw [Act.wp_bind]
  refine wp_writeReport ahead.sound stands'.sound ?_
  rw [Act.wp_pure]
  exact ends _ _ stands'

/-- **Loop.**  The cycles that are left end with all of them completed. -/
theorem wp_cycles {ok : SoakReport → Unit → SoakDisk → Prop} (works : HostWorks host) {fuel : Nat}
    (stands : Stands host startedAt n report disk) (enough : total host ≤ n + fuel)
    (ends : ∀ report' disk', Stands host startedAt (total host) report' disk' →
      ok report' () disk') :
    (cycles host startedAt fuel report).wp (contract host) ok err () disk := by
  have bound := total_lt stands.starts
  have inside := stands.inside
  have completed : report.cyclesCompleted < expectedCycles host ↔ n < total host := by
    obtain ⟨updatedAt, isReport⟩ := stands.counts
    rw [isReport, UInt64.lt_iff_toNat_lt]
    change (UInt64.ofNat n).toNat < total host ↔ n < total host
    rw [toNat_ofNat_of_lt (by omega)]
  induction fuel generalizing n report disk with
  | zero =>
    obtain rfl : n = total host := by omega
    rw [cycles, Act.wp_bind, Act.wp_rejectIf, if_neg (by rw [completed]; omega), Act.wp_pure]
    exact ends report disk stands
  | succ fuel ih =>
    rw [cycles]
    by_cases less : n < total host
    · rw [if_pos (completed.mpr less), Act.wp_bind]
      refine wp_cycle works stands less fun report' disk' stands' => ?_
      refine ih stands' (by omega) stands'.inside ?_
      obtain ⟨updatedAt, isReport⟩ := stands'.counts
      rw [isReport, UInt64.lt_iff_toNat_lt]
      change (UInt64.ofNat (n + 1)).toNat < total host ↔ n + 1 < total host
      rw [toNat_ofNat_of_lt (by omega)]
    · rw [if_neg (mt completed.mp less), Act.wp_pure]
      obtain rfl : n = total host := by omega
      exact ends report disk stands

/-! ## A run -/

/-- A new report stands at no cycles. -/
theorem wp_newReport {ok : SoakReport × OffsetDateTime × OffsetDateTime → Unit → SoakDisk → Prop}
    (absent : disk.report = none) (empty : disk.journal.rows = [])
    (ends : ∀ startedAt expectedEndAt report disk', Stands host startedAt 0 report disk' →
      ok (report, startedAt, expectedEndAt) () disk') :
    (newReport host).wp (contract host) ok err () disk := by
  have sound : Sound host disk := .inl (.inl ⟨absent, empty⟩)
  rw [newReport, Act.wp_bind]
  refine wp_now_first sound absent fun time starts => ?_
  have longest := duration_lt starts
  rw [Act.wp_bind]
  refine wp_addSeconds (by omega) starts.endInRange ?_
  have head : disk.journal.headHash = genesisHash := by
    rw [EncryptedJournal.headHash, empty]
    rfl
  have stands : Stands host time 0
      (checkpointAt host time 0 (formatTime host.prims time) genesisHash)
      { disk with report := some (some (checkpointAt host time 0 (formatTime host.prims time)
        genesisHash)) } :=
    { starts
      inside := Nat.zero_le _
      counts := ⟨formatTime host.prims time, by rw [head]⟩
      stored := rfl
      run := .of_nil empty
      length := by simp [empty] }
  rw [Act.wp_bind]
  refine wp_writeReport sound stands.sound ?_
  rw [Act.wp_pure]
  exact ends time _ _ _ stands

theorem formatTime_eq {prims : Primitives} {time : OffsetDateTime}
    (printed : (prims.rfc3339 time).isSome) : prims.rfc3339 time = some (formatTime prims time) := by
  obtain ⟨text, isText⟩ := Option.isSome_iff_exists.mp printed
  rw [formatTime, isText]
  rfl

/-- The head of the journal that a report expects. -/
def expectedState (n : Nat) (lastEventSha256 : String) : Option (UInt64 × String) :=
  if n = 0 then none else some (.ofNat n, lastEventSha256)

/-- **Resuming.**  A stored report is accepted if the journal has the head it expects, and refused if
not. -/
theorem wp_resumeReport {updatedAt lastEventSha256 : String} {state : Option (UInt64 × String)}
    {ok : SoakReport × OffsetDateTime × OffsetDateTime → Unit → SoakDisk → Prop}
    (works : HostWorks host) (sound : Sound host disk) (starts : host.Starts startedAt)
    (inside : n ≤ total host) (stored : disk.report = some (some report))
    (isReport : report = checkpointAt host startedAt n updatedAt lastEventSha256)
    (latest : disk.journal.latestEventState runId = .ok state)
    (accepts : state = expectedState n lastEventSha256 →
      ∀ expectedEndAt, ok (report, startedAt, expectedEndAt) () disk)
    (refuses : state ≠ expectedState n lastEventSha256 → err (.error .checkpoint) () disk) :
    (resumeReport host).wp (contract host) ok err () disk := by
  have bound := total_lt starts
  have longest := duration_lt starts
  have value : (UInt64.ofNat n).toNat = n := toNat_ofNat_of_lt (by omega)
  rw [resumeReport, Act.wp_bind]
  refine wp_call sound fun answer disk' answers => ?_
  cases answers with | readReport => ?_
  refine ⟨sound, ?_⟩
  have parsed : disk.report.join = some report := by rw [stored]; rfl
  have running : report.status = "running" := by rw [isReport]; rfl
  have balanced : Balanced host report := by
    rw [isReport]
    exact balanced_checkpointAt (by omega)
  have started : host.parseTime report.startedAt = some startedAt := by
    rw [isReport]
    exact works.readsTimes _ _ (formatTime_eq starts.printed)
  have ended : host.parseTime report.expectedEndAt =
      some (startedAt.plusSeconds host.duration.seconds) := by
    rw [isReport]
    exact works.readsTimes _ _ (formatTime_eq starts.endPrinted)
  have expects : (if report.eventsAppended = 0 then none
      else some (report.eventsAppended, report.lastEventSha256)) =
        expectedState n lastEventSha256 := by
    have zero : UInt64.ofNat n = 0 ↔ n = 0 := by
      rw [← UInt64.toNat_inj, value]
      rfl
    rw [isReport]
    simp only [checkpointAt, expectedState, zero]
  rw [parsed, Act.wp_bind, Act.wp_ofOption]
  dsimp only
  rw [Act.wp_bind]
  refine wp_failIf (by rw [running]; decide) ?_
  rw [Act.wp_bind]
  refine wp_failIf (not_not.mpr balanced) ?_
  rw [Act.wp_bind, readTime, started, Act.wp_ofOption]
  dsimp only
  rw [Act.wp_bind, readTime, ended, Act.wp_ofOption]
  dsimp only
  rw [Act.wp_bind]
  refine wp_addSeconds (by omega) starts.endInRange ?_
  rw [Act.wp_bind]
  refine wp_failIf (fun other => other rfl) ?_
  rw [Act.wp_bind, expects]
  refine wp_call sound fun answer disk' answers => ?_
  cases answers with | latestEventState => ?_
  refine ⟨sound, ?_⟩
  rw [latest, Act.wp_bind, Act.wp_ofExcept]
  dsimp only
  rw [Act.wp_bind, failIf, Act.wp_rejectIf]
  by_cases same : state = expectedState n lastEventSha256
  · rw [if_neg (not_not.mpr same), Act.wp_pure]
    exact accepts same _
  · rw [if_pos same]
    exact refuses same

/-- The journal that a report counts has the head it expects. -/
theorem Stands.latestEventState (stands : Stands host startedAt n report disk) :
    disk.journal.latestEventState runId = .ok (expectedState n disk.journal.headHash) := by
  have length := stands.length
  rw [expectedState]
  split
  · exact stands.run.latestEventState_nil (List.length_eq_zero_iff.mp (by omega))
  · rename_i positive
    rw [stands.run.latestEventState (List.ne_nil_of_length_pos (by omega)), length]

/-- A journal with one event more has another one. -/
theorem Ahead.latestEventState (ahead : Ahead host startedAt n report disk)
    (starts : host.Starts startedAt) (lastEventSha256 : String) :
    ∃ state, disk.journal.latestEventState runId = .ok state ∧
      state ≠ expectedState n lastEventSha256 := by
  have bound := total_lt starts
  have inside := ahead.inside
  have length := ahead.length
  refine ⟨_, ahead.run.latestEventState (List.ne_nil_of_length_pos (by omega)), ?_⟩
  rw [length, expectedState]
  split
  · nofun
  · intro same
    have counts := congrArg UInt64.toNat (Prod.mk.inj (Option.some.inj same)).1
    rw [toNat_ofNat_of_lt (by omega), toNat_ofNat_of_lt (by omega)] at counts
    omega

/-- From a report that counts the events of the journal a run completes the schedule. -/
theorem wp_finish {expectedEndAt : OffsetDateTime} {ok : SoakReport → Unit → SoakDisk → Prop}
    (works : HostWorks host) (stands : Stands host startedAt n report disk)
    (ends : ∀ report' disk', Completed host report' disk' → ok report' () disk') :
    (finish host startedAt expectedEndAt report).wp (contract host) ok err () disk := by
  rw [finish, Act.wp_bind]
  refine wp_cycles works stands (Nat.le_add_left _ _) fun report' disk' stands' => ?_
  rw [Act.wp_bind]
  refine wp_sleepUntil stands'.sound ?_
  rw [Act.wp_bind]
  refine wp_now stands'.sound fun time _ => ?_
  obtain ⟨updatedAt, isReport⟩ := stands'.counts
  have completed : Completed host
      { report' with status := "complete", updatedAt := formatTime host.prims time }
      { disk' with report := some (some { report' with
          status := "complete", updatedAt := formatTime host.prims time }) } :=
    { status := rfl
      stored := rfl
      cycles := by
        rw [isReport]
        exact UInt64.ofNat_toNat
      events := by
        rw [isReport]
        exact UInt64.ofNat_toNat
      journal := by
        change (disk'.journal.runRows runId).length = _
        rw [stands'.run.runRows, stands'.length]
        rfl }
  rw [Act.wp_bind]
  refine wp_writeReport stands'.sound (.inr (.inr ⟨_, completed⟩)) ?_
  rw [Act.wp_pure]
  exact ends _ _ completed

/-- **Run.**  A run on a disk that it can start on or resume from completes the schedule. -/
theorem wp_run {ok : SoakReport → Unit → SoakDisk → Prop} (works : HostWorks host)
    (valid : ValidSchedule host) (resumable : Resumable host disk)
    (ends : ∀ report disk', Completed host report disk' → ok report () disk') :
    (run host).wp (contract host) ok err () disk := by
  have sound : Sound host disk := .inl resumable
  rw [run, Act.wp_bind]
  refine wp_failIf valid.valid ?_
  rw [Act.wp_bind, openReport, Act.wp_bind]
  refine wp_call sound fun answer disk' answers => ?_
  cases answers with | reportExists => ?_
  refine ⟨sound, ?_⟩
  rcases resumable with ⟨absent, empty⟩ | ⟨startedAt, n, report, stands⟩
  · rw [absent]
    exact wp_newReport absent empty fun startedAt expectedEndAt report disk' stands =>
      wp_finish works stands ends
  · rw [stands.stored]
    obtain ⟨updatedAt, isReport⟩ := stands.counts
    exact wp_resumeReport works sound stands.starts stands.inside stands.stored isReport
      stands.latestEventState (fun _ expectedEndAt => wp_finish works stands ends)
      fun other => absurd rfl other

end

end

/-! ## Runs after crashes -/

/-- How a run is to end. -/
def EndsWell (host : SoakHost) (value : Option SoakEnd) (disk : SoakDisk) : Prop :=
  ∃ report, value = some (.ok report) ∧ Completed host report disk

/-- What holds between two runs: after a crash the next one can resume, and the others ended well. -/
def BetweenRuns (host : SoakHost) : Option SoakEnd → SoakDisk → Prop
  | none, disk => Resumable host disk
  | some result, disk => EndsWell host (some result) disk

theorem wp_task {disk : SoakDisk} (works : HostWorks host) (valid : ValidSchedule host)
    (resumable : Resumable host disk) : host.task.wp (contract host) (EndsWell host) disk := by
  rw [SoakHost.task, Coroutine.wp_bind]
  have ends : (run host).wp (contract host) (fun report _ disk => Completed host report disk)
      (fun _ _ _ => False) () disk :=
    wp_run works valid resumable fun report disk' completed => completed
  rw [Act.wp] at ends
  refine Coroutine.wp_imp ends ?_
  rintro ⟨result, _⟩ disk' ended
  cases result with
  | ok report => exact ⟨report, rfl, ended⟩
  | error error => exact ended.elim

theorem meets (works : HostWorks host) (valid : ValidSchedule host) :
    (host.machine Settled).Meets (contract host) (BetweenRuns host) where
  system := rfl
  again := by
    rintro value prog disk sound between ⟨rfl, rfl⟩
    refine Coroutine.wp_imp (wp_task works valid between) ?_
    rintro value disk' ⟨report, rfl, completed⟩
    exact ⟨report, rfl, completed⟩
  crash := by
    rintro value disk disk' sound ⟨rfl, rfl, settled⟩
    exact ⟨sound, sound.resumable valid settled⟩

/-- Every call is answered. -/
theorem responds (works : HostWorks host) (valid : ValidSchedule host) :
    host.system.Responds where
  begins := fun op disk => ⟨disk, rfl⟩
  answers := fun op disk => by
    cases op with
    | now =>
      obtain ⟨time, starts⟩ := valid.startable
      exact ⟨time, _, .now starts.toShows fun _ => starts⟩
    | newId => exact ⟨runId, _, .newId runId⟩
    | sleep => exact ⟨(), _, .sleep⟩
    | reportExists => exact ⟨_, _, .reportExists⟩
    | readReport => exact ⟨_, _, .readReport⟩
    | writeReport report => exact ⟨(), _, .writeReport⟩
    | append event payload => exact ⟨_, _, .append⟩
    | privatePayload hash => exact ⟨_, _, .privatePayload⟩
    | putSecret name value => exact ⟨_, _, .putSecret⟩
    | secret name => exact ⟨_, _, .secret⟩
    | latestEventState id => exact ⟨_, _, .latestEventState⟩
    | readFiles =>
      obtain ⟨files, holds⟩ := works.hasFiles disk
      exact ⟨files, _, .readFiles holds⟩

/-- **Soak runs.**  Where every crash comes while the report counts the events of the journal, every
run that is not lost completes the schedule, with an event in the journal for each of its cycles. -/
theorem soak_completes (works : HostWorks host) (valid : ValidSchedule host)
    {config : Config soakSignature SoakDisk (Option SoakEnd)}
    (reached : Reach (host.machine Settled) (.running (.done none), .fresh) config) :
    Inevitable (host.machine Settled) (EndsWell host) config := by
  have responds := responds works valid
  have start : BetweenRuns host none .fresh := .inl ⟨rfl, rfl⟩
  have safe := (meets works valid).sound_between (.inl start) start reached
  -- a run that is not lost ends well
  have well : ∀ value disk, Sound host disk → EndsWell host value disk →
      Inevitable (host.machine Settled) (EndsWell host) (.running (.done value), disk) :=
    fun _ _ _ ends => .done ends
  refine safe.inevitable rfl responds fun value disk sound between => ?_
  cases value with
  | none =>
    refine .step ⟨_, .again ⟨rfl, rfl⟩⟩ fun next advance => ?_
    cases advance with
    | again follows =>
      obtain ⟨-, rfl⟩ := follows
      exact inevitable_running rfl responds well sound (wp_task works valid between)
  | some result => exact well _ disk sound between

/-! ## A crash between the two writes -/

/-- A run that finds the journal ahead of the report fails. -/
theorem wp_run_ahead {startedAt : OffsetDateTime} {n : Nat} {report : SoakReport} {disk : SoakDisk}
    (works : HostWorks host) (valid : ValidSchedule host) (starts : host.Starts startedAt)
    (ahead : Ahead host startedAt n report disk) :
    (run host).wp (contract host) (fun _ _ _ => False) (fun error _ _ => error = .error .checkpoint)
      () disk := by
  have sound := ahead.sound
  have inside := ahead.inside
  obtain ⟨updatedAt, hash, isReport⟩ := ahead.counts
  obtain ⟨state, latest, other⟩ := ahead.latestEventState starts hash
  rw [run, Act.wp_bind]
  refine wp_failIf valid.valid ?_
  rw [Act.wp_bind, openReport, Act.wp_bind]
  refine wp_call sound fun answer disk' answers => ?_
  cases answers with | reportExists => ?_
  refine ⟨sound, ?_⟩
  rw [ahead.stored]
  exact wp_resumeReport works sound starts (by omega) ahead.stored isReport latest
    (fun same => absurd same other) fun _ => rfl

/-- So the soak does not go on from there. -/
theorem not_inevitable_of_ahead {crashes : SoakDisk → Prop} {startedAt : OffsetDateTime} {n : Nat}
    {report : SoakReport} {disk : SoakDisk} (works : HostWorks host) (valid : ValidSchedule host)
    (starts : host.Starts startedAt) (ahead : Ahead host startedAt n report disk) :
    ¬Inevitable (host.machine crashes) (EndsWell host) (.running (.done none), disk) := by
  intro inevitable
  have fails : host.task.wp (contract host)
      (fun value _ => value = some (.error (.error .checkpoint))) disk := by
    rw [SoakHost.task, Coroutine.wp_bind]
    have ends := wp_run_ahead works valid starts ahead
    rw [Act.wp] at ends
    refine Coroutine.wp_imp ends ?_
    rintro ⟨result, _⟩ disk' ended
    cases result with
    | ok report => exact ended.elim
    | error error =>
      obtain rfl : error = .error .checkpoint := ended
      exact rfl
  cases inevitable with
  | done holds =>
    obtain ⟨report, isSome, -⟩ := holds
    cases isSome
  | step goes all =>
    have task := all _ (.again ⟨rfl, rfl⟩)
    obtain ⟨value, disk', ⟨report, isOk, -⟩, isError⟩ :=
      task.exists_end rfl (fun value prog disk isError follows => by
        obtain ⟨isNone, -⟩ := follows
        rw [isError] at isNone
        cases isNone) ⟨ahead.sound, fails⟩
    rw [isError] at isOk
    cases isOk

/-! ## The way to such a crash -/

section

variable {disk disk' : SoakDisk}

theorem runs_call {op : SoakCall} {answer : op.Answer} (answers : host.Answers op disk answer disk') :
    (call op).Runs host.system () disk (.ok answer) () disk' := by
  have between : host.system.Between op disk disk := by
    unfold System.Between
    exact rfl
  exact Act.Runs.perform rfl between answers

theorem runs_failIf {condition : Prop} [Decidable condition] {error : SoakError}
    (holds : ¬condition) : (failIf condition error).Runs host.system () disk (.ok ()) () disk :=
  Act.Runs.rejectIf holds

theorem runs_addSeconds {time : OffsetDateTime} {seconds : UInt64} (small : seconds.toNat < 2 ^ 63)
    (inRange : (time.plusSeconds seconds).InRange) :
    (addSeconds time seconds).Runs host.system () disk (.ok (time.plusSeconds seconds)) () disk :=
  (runs_failIf (by omega)).bind ((Act.Runs.rejectIf (not_not.mpr inRange)).bind Act.Runs.pure)

theorem runs_now {time : OffsetDateTime} (shows : host.Shows time) (present : disk.report.isSome) :
    (call .now).Runs host.system () disk (.ok time) () disk :=
  runs_call (.now shows fun absent => by simp [absent] at present)

/-- There is no sleep until a time that has come. -/
theorem runs_sleepUntil {time target : OffsetDateTime} (shows : host.Shows time)
    (present : disk.report.isSome) (late : target.unixNanoseconds ≤ time.unixNanoseconds) :
    (sleepUntil target).Runs host.system () disk (.ok ()) () disk := by
  refine (runs_now shows present).bind ?_
  rw [if_neg (not_lt.mpr late)]
  exact Act.Runs.pure

theorem runs_signEvent {time : OffsetDateTime} {cycleId eventId : Uuid} {sequence : UInt64}
    {previous : String} {payload : Json} {event : RunEventEnvelopeV1} (shows : host.Shows time)
    (present : disk.report.isSome)
    (isEvent : RunEventEnvelopeV1.sign host.prims deviceSeed eventId arenaId runId (some cycleId)
      sequence previous "portfolio_snapshot" time payload = .ok event) :
    (signEvent host cycleId sequence previous payload).Runs host.system () disk (.ok event) ()
      disk :=
  (runs_now shows present).bind ((runs_call (.newId eventId)).bind (Act.Runs.ofExcept isEvent))

/-- The report of a run that starts at the time. -/
def startReport (host : SoakHost) (time : OffsetDateTime) : SoakReport :=
  checkpointAt host time 0 (formatTime host.prims time) genesisHash

/-- The disk once it is written. -/
def SoakDisk.started (host : SoakHost) (time : OffsetDateTime) : SoakDisk :=
  { SoakDisk.fresh with report := some (some (startReport host time)) }

theorem stands_started {time : OffsetDateTime} (starts : host.Starts time) :
    Stands host time 0 (startReport host time) (SoakDisk.started host time) where
  starts
  inside := Nat.zero_le _
  counts := by
    have head : (SoakDisk.started host time).journal.headHash = genesisHash := HashChain.lastHash_nil
    exact ⟨formatTime host.prims time, by rw [head, startReport]⟩
  stored := rfl
  run := .of_nil rfl
  length := rfl

theorem runs_openReport {time : OffsetDateTime} (starts : host.Starts time) :
    (openReport host).Runs host.system () .fresh
      (.ok (startReport host time, time, time.plusSeconds host.duration.seconds)) ()
      (SoakDisk.started host time) := by
  have longest := duration_lt starts
  refine (runs_call .reportExists).bind ?_
  refine (runs_call (.now starts.toShows fun _ => starts)).bind ?_
  refine (runs_addSeconds (by omega) starts.endInRange).bind ?_
  exact (runs_call .writeReport).bind Act.Runs.pure

/-- The first cycle comes to where it reads the event back that it has stored. -/
theorem leadsTo_ahead {time : OffsetDateTime} (works : HostWorks host) (starts : host.Starts time)
    (positive : 0 < total host) :
    ∃ op disk, (cycle host time (startReport host time)).LeadsTo host.system () 
      (SoakDisk.started host time) op disk ∧
      Ahead host time 0 (startReport host time) disk := by
  have bound := total_lt starts
  have longest := duration_lt starts
  have stands := stands_started starts
  obtain ⟨event, isEvent⟩ := RunEventEnvelopeV1.exists_signed starts.printed deviceSeed runId arenaId
    runId (some runId) 1 genesisHash "portfolio_snapshot" (.ofFields [("cycle", .number (.unsigned 1)),
      ("equity_micro_usdc", .number (.unsigned 1000000))])
  have fields := RunEventEnvelopeV1.signed_of_sign isEvent
  have next : ComesNext host.prims runId (SoakDisk.started host time).journal event :=
    ⟨RunEventEnvelopeV1.verify_of_sign works.verifies isEvent, fields.runId,
      by rw [fields.sequence]; rfl, by rw [fields.previous]; rfl⟩
  refine ⟨.privatePayload event.eventSha256, _, ?_, stands.ahead positive next []⟩
  have offset : checkedMulU64 host.interval.seconds 0 = some 0 :=
    checkedMulU64_eq_some (show host.interval.seconds.toNat * 0 < 2 ^ 64 by omega)
  have one : checkedAddU64 0 1 = some 1 := by decide
  have stored := @SoakHost.Answers.append host (SoakDisk.started host time) event sentinelPayload
  rw [stands.run.append next (stands.freshHash works positive next) (by rw [stands.length]; decide)] at stored
  refine (Act.Runs.ofOption offset).leadsTo ?_
  refine (runs_addSeconds (by decide) (inRange_plusSeconds starts (Nat.zero_le _))).leadsTo ?_
  refine (runs_sleepUntil starts.toShows rfl (by simp [OffsetDateTime.plusSeconds])).leadsTo ?_
  refine (Act.Runs.ofOption one).leadsTo ?_
  refine (runs_call (.newId runId)).leadsTo ?_
  refine (Act.Runs.ofOption one).leadsTo ?_
  refine (runs_signEvent starts.toShows rfl isEvent).leadsTo ?_
  refine Act.LeadsTo.bind ?_
  refine (runs_call stored).leadsTo ?_
  refine (Act.Runs.ofExcept rfl).leadsTo ?_
  exact Act.LeadsTo.perform.bind

end

/-- A valid schedule has a cycle. -/
theorem total_pos (valid : ValidSchedule host) : 0 < total host := by
  have accepted := valid.valid
  simp only [InvalidSchedule, StdDuration.toNanoseconds, not_or, not_lt, not_not] at accepted
  obtain ⟨longer, positive, whole, whole', -⟩ := accepted
  rw [whole, whole'] at longer
  rw [whole'] at positive
  have zero : (0 : UInt32).toNat = 0 := rfl
  rw [zero] at longer positive
  rw [total_eq]
  exact Nat.div_pos (by omega) (by omega)

/-- **The defect.**  For every valid schedule the first run can be lost between the two writes of its
first cycle, and the soak does not go on from there. -/
theorem exists_not_inevitable (works : HostWorks host) (valid : ValidSchedule host) :
    ∃ config, Reach (host.machine Unfinished) (.running (.done none), .fresh) config ∧
      ¬Inevitable (host.machine Unfinished) (EndsWell host) config := by
  obtain ⟨time, starts⟩ := valid.startable
  have positive := total_pos valid
  have longest := duration_lt starts
  obtain ⟨op, disk, leads, ahead⟩ := leadsTo_ahead works starts positive
  have first : (cycles host time (total host) (startReport host time)).LeadsTo host.system ()
      (SoakDisk.started host time) op disk := by
    have less : (startReport host time).cyclesCompleted < expectedCycles host :=
      UInt64.lt_iff_toNat_lt.mpr positive
    obtain ⟨fuel, isFuel⟩ : ∃ fuel, total host = fuel + 1 := ⟨total host - 1, by omega⟩
    rw [isFuel, cycles, if_pos less]
    exact leads.bind
  have whole : (run host).LeadsTo host.system () .fresh op disk :=
    (runs_failIf valid.valid).leadsTo ((runs_openReport starts).leadsTo first.bind)
  obtain ⟨next, reached⟩ := Prog.LeadsTo.reach (host.machine Unfinished)
    (Prog.LeadsTo.bind whole : host.task.LeadsTo host.system .fresh op disk)
  have unfinished : Unfinished disk := by
    intro report isReport
    rw [ahead.stored] at isReport
    obtain rfl := Option.some.inj (Option.some.inj isReport)
    change "running" ≠ "complete"
    decide
  refine ⟨(.running (.done none), disk), ?_, not_inevitable_of_ahead works valid starts ahead⟩
  exact (Relation.ReflTransGen.head (.again ⟨rfl, rfl⟩) reached).tail
    (.crash ⟨rfl, rfl, unfinished⟩)

/-! ## One second -/

def sampleStart : OffsetDateTime := ⟨1767571200000000000, 0⟩

/-- A schedule of one cycle, on a host whose clock stands at the start. -/
def sampleHost : SoakHost where
  prims := { countingPrimitives with
    rfc3339 := fun time =>
      if time = sampleStart then some "2026-01-05T00:00:00Z"
      else if time = sampleStart.plusSeconds 1 then some "2026-01-05T00:00:01Z"
      else none }
  parseTime := fun text =>
    if text = "2026-01-05T00:00:00Z" then some sampleStart
    else if text = "2026-01-05T00:00:01Z" then some (sampleStart.plusSeconds 1)
    else none
  files := fun _ files => files.any leaks = false
  duration := ⟨1, 0⟩
  interval := ⟨1, 0⟩

theorem parseTime_sampleHost (time : OffsetDateTime) (text : String)
    (isText : sampleHost.prims.rfc3339 time = some text) :
    sampleHost.parseTime text = some time := by
  simp only [sampleHost] at isText ⊢
  split_ifs at isText with first second
  · rw [← Option.some.inj isText, first, if_pos rfl]
  · rw [← Option.some.inj isText, second, if_neg (by decide), if_pos rfl]

theorem verifiesOwn_sampleHost : sampleHost.prims.VerifiesOwn := by
  intro key digest
  rw [verifySignature_congr (show sampleHost.prims.base64Decode = countingPrimitives.base64Decode
    from rfl) rfl rfl]
  exact verifySignature_counting key _ digest

theorem sampleHost_works : HostWorks sampleHost where
  readsTimes := parseTime_sampleHost
  verifies := verifiesOwn_sampleHost
  separates := fun _ _ verified verified' inside inside' same =>
    have small : total sampleHost < 16 := by decide
    have hashes : sampleHost.prims.sha256 = countingPrimitives.sha256 := rfl
    sequence_of_eventSha256_counting hashes verified verified' (by omega) (by omega) same
  hasFiles := fun _ => ⟨[], rfl⟩
  encrypted := fun _ _ holds => holds

theorem sampleHost_starts : sampleHost.Starts sampleStart where
  utc := rfl
  printed := by decide
  inRange := by decide
  endPrinted := by decide
  endInRange := by decide

theorem sampleHost_valid : ValidSchedule sampleHost where
  valid := by decide
  startable := ⟨sampleStart, sampleHost_starts⟩

/-- The soak of one cycle completes. -/
theorem soak_completes_sampleHost :
    Inevitable (sampleHost.machine Settled) (EndsWell sampleHost)
      (.running (.done none), .fresh) :=
  soak_completes sampleHost_works sampleHost_valid .refl

/-- A crash at any time before the report is complete can end the soak. -/
theorem soak_not_completes :
    ¬∀ host, HostWorks host → ValidSchedule host → ∀ config,
      Reach (host.machine Unfinished) (.running (.done none), .fresh) config →
        Inevitable (host.machine Unfinished) (EndsWell host) config := by
  intro all
  obtain ⟨config, reached, lost⟩ := exists_not_inevitable sampleHost_works sampleHost_valid
  exact lost (all sampleHost sampleHost_works sampleHost_valid config reached)

end SoakRun

end CrowAgent
