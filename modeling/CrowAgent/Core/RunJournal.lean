import CrowAgent.Core.JournalChain

/-!
# A journal of one run

Where all rows of a journal belong to one run, its head is the last row (`latestEventState`).  The
event that comes next is stored (`OneRun.append`), and an event of another number is refused
(`OneRun.append_error`).
-/

namespace CrowAgent

open HashChain

variable {prims : Primitives} {runId : Uuid} {journal : EncryptedJournal}
  {event : RunEventEnvelopeV1} {privatePayload : Json}

/-- The hash that the next event refers to. -/
def EncryptedJournal.headHash (journal : EncryptedJournal) : String :=
  lastHash rowLink genesisHash journal.rows

/-- The journal with one more row. -/
def EncryptedJournal.push (journal : EncryptedJournal) (event : RunEventEnvelopeV1)
    (privatePayload : Json) : EncryptedJournal :=
  { journal with rows := journal.rows ++ [EventRow.ofEvent event privatePayload] }

@[simp] theorem EncryptedJournal.headHash_push :
    (journal.push event privatePayload).headHash = event.eventSha256 := by
  simp [headHash, push, lastHash, EventRow.ofEvent, rowLink]

@[simp] theorem EncryptedJournal.length_push :
    (journal.push event privatePayload).rows.length = journal.rows.length + 1 := by
  simp [push]

/-- A chained journal all of whose rows belong to the run. -/
structure OneRun (prims : Primitives) (runId : Uuid) (journal : EncryptedJournal) : Prop where
  chained : WellChained prims journal.rows
  own : ∀ row ∈ journal.rows, row.runId = runId.hyphenated

/-- The event comes next in the run. -/
structure ComesNext (prims : Primitives) (runId : Uuid) (journal : EncryptedJournal)
    (event : RunEventEnvelopeV1) : Prop where
  verified : event.verify prims = .ok ()
  runId : event.runId = runId
  sequence : event.sequence.toNat = journal.rows.length + 1
  previous : event.previousEventSha256 = journal.headHash

/-- No row has the hash of the event. -/
def FreshHash (journal : EncryptedJournal) (event : RunEventEnvelopeV1) : Prop :=
  ∀ row ∈ journal.rows, row.eventSha256 ≠ event.eventSha256

namespace OneRun

/-- A journal without rows. -/
theorem of_nil (empty : journal.rows = []) : OneRun prims runId journal where
  chained := ⟨by simp [empty], by simp [empty]⟩
  own := by simp [empty]

theorem rowsOf (run : OneRun prims runId journal) :
    journal.rows.filter (·.runId = runId.hyphenated) = journal.rows :=
  List.filter_eq_self.mpr fun row mem => by simpa using run.own row mem

theorem runRows (run : OneRun prims runId journal) : journal.runRows runId = journal.rows := by
  rw [run.chained.runRows_eq, run.rowsOf]

theorem chain (run : OneRun prims runId journal) :
    IsChainFrom rowLink 1 genesisHash journal.rows := by
  have chain := run.chained.chain runId.hyphenated
  rwa [run.rowsOf] at chain

/-- The sequence of a row is not above the number of rows. -/
theorem sequence_le (run : OneRun prims runId journal) {row : EventRow}
    (mem : row ∈ journal.rows) :
    0 ≤ row.sequence ∧ row.sequence.toNat ≤ journal.rows.length := by
  have bound := (mem_seq_bounds run.chain mem).2
  change row.sequence.toNat < 1 + journal.rows.length at bound
  exact ⟨run.chained.nonneg mem, by omega⟩

theorem latestRow (run : OneRun prims runId journal) :
    journal.latestRow runId = journal.rows.getLast? := by
  rw [EncryptedJournal.latestRow, run.runRows]

/-- The last row has the number of the rows. -/
theorem sequence_last (run : OneRun prims runId journal) {last : EventRow}
    (isLast : journal.rows.getLast? = some last) :
    last.sequence = journal.rows.length ∧ journal.headHash = last.eventSha256 := by
  obtain ⟨sequence, hash⟩ := getLast?_spec run.chain isLast
  have nonneg := (run.sequence_le (List.mem_of_getLast? isLast)).1
  change last.sequence.toNat + 1 = 1 + journal.rows.length at sequence
  exact ⟨by omega, hash⟩

theorem latestEventState_nil (run : OneRun prims runId journal) (empty : journal.rows = []) :
    journal.latestEventState runId = .ok none := by
  rw [EncryptedJournal.latestEventState, run.latestRow, empty]
  rfl

/-- The head of a run with rows. -/
theorem latestEventState (run : OneRun prims runId journal) (nonempty : journal.rows ≠ []) :
    journal.latestEventState runId =
      .ok (some (UInt64.ofNat journal.rows.length, journal.headHash)) := by
  have isLast := List.getLast?_eq_some_getLast nonempty
  generalize journal.rows.getLast nonempty = last at isLast
  obtain ⟨sequence, hash⟩ := run.sequence_last isLast
  have nonneg := (run.sequence_le (List.mem_of_getLast? isLast)).1
  simp only [EncryptedJournal.latestEventState, run.latestRow, isLast,
    EncryptedJournal.storedSequence, nonneg, if_true, hash]
  rw [sequence]
  rfl

/-- The event that comes next passes the check of `append`. -/
theorem checkAppend (run : OneRun prims runId journal) (next : ComesNext prims runId journal event) :
    journal.checkAppend prims event = .ok () := by
  have latest := run.latestRow
  have previous := next.previous
  have sequence := next.sequence
  rw [← next.runId] at latest
  cases isLast : journal.rows.getLast? with
  | none =>
    have empty : journal.rows = [] := List.getLast?_eq_none_iff.mp isLast
    rw [empty] at sequence
    have first : event.sequence = 1 := UInt64.toNat_inj.mp sequence
    have genesis : journal.headHash = genesisHash := by
      rw [EncryptedJournal.headHash, empty]
      rfl
    simp [EncryptedJournal.checkAppend, next.verified, latest, isLast, first, previous, genesis]
  | some last =>
    obtain ⟨number, hash⟩ := run.sequence_last isLast
    have after : event.sequence.toNat = EncryptedJournal.sequenceAfter last.sequence := by
      rw [sequence, EncryptedJournal.sequenceAfter, number, if_pos (Int.natCast_nonneg _)]
      rfl
    simp [EncryptedJournal.checkAppend, next.verified, latest, isLast, after, previous, hash]

/-- It does not clash with a row. -/
theorem conflicts (run : OneRun prims runId journal)
    (sequence : event.sequence.toNat = journal.rows.length + 1) (fresh : FreshHash journal event) :
    journal.conflicts (EventRow.ofEvent event privatePayload) = false := by
  refine List.any_eq_false.mpr fun row mem => ?_
  obtain ⟨nonneg, bounded⟩ := run.sequence_le mem
  have other : row.sequence ≠ (EventRow.ofEvent event privatePayload).sequence := by
    change row.sequence ≠ (event.sequence.toNat : Int)
    omega
  have hash : row.eventSha256 ≠ (EventRow.ofEvent event privatePayload).eventSha256 :=
    fresh row mem
  simp [other, hash]

/-- **Append.**  The event that comes next is stored. -/
theorem append (run : OneRun prims runId journal) (next : ComesNext prims runId journal event)
    (fresh : FreshHash journal event) (room : journal.rows.length + 1 < 2 ^ 63) :
    journal.append prims event privatePayload = (.ok (), journal.push event privatePayload) := by
  have small : ¬2 ^ 63 ≤ event.sequence.toNat := by
    rw [next.sequence]
    omega
  rw [EncryptedJournal.append, run.checkAppend next]
  simp only [EncryptedJournal.insertEvent, small, if_false, run.conflicts next.sequence fresh,
    Bool.false_eq_true]
  rfl

/-- The journal is still one of the run. -/
theorem push (run : OneRun prims runId journal) (next : ComesNext prims runId journal event) :
    OneRun prims runId (journal.push event privatePayload) where
  chained := by
    refine run.chained.insert next.verified ?_ fun other mem same => ?_
    · cases isLast : journal.rows.getLast? with
      | none =>
        have empty : journal.rows = [] := List.getLast?_eq_none_iff.mp isLast
        have sequence := next.sequence
        have previous := next.previous
        rw [empty] at sequence
        rw [EncryptedJournal.headHash, empty] at previous
        exact .inl ⟨sequence, previous⟩
      | some last =>
        obtain ⟨number, hash⟩ := run.sequence_last isLast
        have mem := List.mem_of_getLast? isLast
        refine .inr ⟨last, mem, by rw [run.own last mem, next.runId], ?_, ?_⟩
        · rw [next.sequence, number]
          rfl
        · rw [next.previous, hash]
    · have bounded := (run.sequence_le mem).2
      have sequence := next.sequence
      omega
  own := by
    intro row mem
    rcases List.mem_append.mp mem with old | new
    · exact run.own row old
    · rw [List.mem_singleton.mp new, ← next.runId]
      rfl

theorem withSecrets (run : OneRun prims runId journal) (secrets : List (String × Bytes)) :
    OneRun prims runId { journal with secrets } := ⟨run.chained, run.own⟩

/-- An event of another number than the next one is refused. -/
theorem append_error (run : OneRun prims runId journal) (same : event.runId = runId)
    (gap : event.sequence.toNat ≠ journal.rows.length + 1) :
    ∃ error, journal.append prims event privatePayload = (.error error, journal) := by
  have latest := run.latestRow
  rw [← same] at latest
  rw [EncryptedJournal.append]
  cases verified : event.verify prims with
  | error refused =>
    exact ⟨.event, by simp only [EncryptedJournal.checkAppend, verified]⟩
  | ok checked =>
    refine ⟨.sequence, ?_⟩
    cases isLast : journal.rows.getLast? with
    | none =>
      have empty : journal.rows = [] := List.getLast?_eq_none_iff.mp isLast
      have other : event.sequence ≠ 1 := by
        rintro first
        rw [first, empty] at gap
        exact gap rfl
      simp [EncryptedJournal.checkAppend, verified, latest, isLast, other]
    | some last =>
      have number := (run.sequence_last isLast).1
      have other : event.sequence.toNat ≠ EncryptedJournal.sequenceAfter last.sequence := by
        rw [EncryptedJournal.sequenceAfter, number, if_pos (Int.natCast_nonneg _)]
        exact gap
      simp [EncryptedJournal.checkAppend, verified, latest, isLast, other]

end OneRun

end CrowAgent
