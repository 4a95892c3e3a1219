import CrowAgent.Core.Journal
import Mathlib.Data.Set.Function

/-!
# Tamper evidence of a run's history

`public_events` only returns histories whose events verify and link.  The hash at the end of a run's
block therefore fixes the block: `runBlocks_agree` goes back along the chain from it, with the rule
for a run's first event deciding where the chain begins.
-/

namespace CrowAgent

open HashChain

/-- Sequence, previous hash and hash chain the events of a run. -/
def eventLink : Link RunEventEnvelopeV1 String where
  seq := fun event => event.sequence.toNat
  previous := fun event => event.previousEventSha256
  hash := fun event => event.eventSha256

namespace EncryptedJournal

variable {prims : Primitives} {previous : Previous}
  {events before block after : List RunEventEnvelopeV1}

/-- Every event verifies and continues the one before it. -/
def Scanned (prims : Primitives) : Previous → List RunEventEnvelopeV1 → Prop
  | _, [] => True
  | previous, event :: rest =>
    event.verify prims = .ok () ∧ continues previous event = true ∧
      Scanned prims (some (event.runId, event.sequence, event.eventSha256)) rest

theorem readEnvelope_eq_ok {row : EventRow} {event : RunEventEnvelopeV1}
    (ok : readEnvelope prims row = .ok event) :
    row.publicEnvelope = some event ∧ event.verify prims = .ok () := by
  unfold readEnvelope at ok
  split at ok
  · cases ok
  · rename_i stored envelope
    split at ok
    · cases ok
      exact ⟨envelope, ‹_›⟩
    · cases ok

/-- What the loop of `public_events` returns has passed its checks. -/
theorem scanned_of_scanEvents {rows : List EventRow}
    (ok : scanEvents prims previous rows = .ok events) : Scanned prims previous events := by
  induction rows generalizing previous events with
  | nil =>
    cases ok
    trivial
  | cons row rows ih =>
    rw [scanEvents] at ok
    cases read : readEnvelope prims row with
    | error error => simp [read, bind, Except.bind] at ok
    | ok event =>
      obtain ⟨-, verified⟩ := readEnvelope_eq_ok read
      simp only [read, bind, Except.bind] at ok
      split at ok
      · rename_i linked
        cases tail : scanEvents prims (some (event.runId, event.sequence, event.eventSha256)) rows with
        | error error => simp [tail] at ok
        | ok rest =>
          simp only [tail, pure, Except.pure, Except.ok.injEq] at ok
          subst ok
          exact ⟨verified, linked, ih tail⟩
      · cases ok

/-- What the loop carries along after some events. -/
def carried (previous : Previous) (events : List RunEventEnvelopeV1) : Previous :=
  (events.getLast?.map fun event => (event.runId, event.sequence, event.eventSha256)).or previous

/-- A part of a scanned history is scanned after the events before it. -/
theorem Scanned.append_right (scanned : Scanned prims previous (before ++ after)) :
    Scanned prims (carried previous before) after := by
  induction before generalizing previous with
  | nil => exact scanned
  | cons event rest ih =>
    have tail := ih scanned.2.2
    cases rest with
    | nil => exact tail
    | cons next rest => simpa [carried, List.getLast?_cons] using tail

theorem Scanned.append_left (scanned : Scanned prims previous (before ++ after)) :
    Scanned prims previous before := by
  induction before generalizing previous with
  | nil => trivial
  | cons event rest ih => exact ⟨scanned.1, scanned.2.1, ih scanned.2.2⟩

theorem Scanned.verified (scanned : Scanned prims previous events) :
    ∀ event ∈ events, event.verify prims = .ok () := by
  induction events generalizing previous with
  | nil => simp
  | cons event rest ih =>
    intro other mem
    rcases List.mem_cons.mp mem with rfl | mem
    · exact scanned.1
    · exact ih scanned.2.2 other mem

/-- Events of one run that follow an event of it continue its chain. -/
theorem Scanned.isChainFrom_next {runId : Uuid} {sequence : UInt64} {hash : String}
    (scanned : Scanned prims (some (runId, sequence, hash)) block)
    (sameRun : ∀ event ∈ block, event.runId = runId) :
    IsChainFrom eventLink (sequence.toNat + 1) hash block := by
  induction block generalizing sequence hash with
  | nil => trivial
  | cons event rest ih =>
    obtain ⟨-, linked, tail⟩ := scanned
    have run := sameRun event List.mem_cons_self
    simp only [continues, run, if_pos, Bool.and_eq_true, decide_eq_true_eq] at linked
    rw [run] at tail
    refine ⟨linked.1, linked.2, ?_⟩
    rw [← linked.1]
    exact ih tail fun other mem => sameRun other (List.mem_cons_of_mem _ mem)

/-- Events of one run that start it are a chain from the genesis hash. -/
theorem Scanned.isChainFrom_start {runId : Uuid} (scanned : Scanned prims previous block)
    (starts : ∀ run sequence hash, previous = some (run, sequence, hash) → run ≠ runId)
    (sameRun : ∀ event ∈ block, event.runId = runId) :
    IsChainFrom eventLink 1 genesisHash block := by
  cases block with
  | nil => trivial
  | cons event rest =>
    obtain ⟨-, linked, tail⟩ := scanned
    have run := sameRun event List.mem_cons_self
    have first : event.sequence = 1 ∧ event.previousEventSha256 = genesisHash := by
      unfold continues at linked
      split at linked
      · rename_i run' sequence hash
        rw [if_neg (by rw [run]; exact starts run' sequence hash rfl)] at linked
        simpa using linked
      · simpa using linked
    have one : event.sequence.toNat = 1 := by
      rw [first.1]
      rfl
    rw [run] at tail
    have next := tail.isChainFrom_next fun other mem =>
      sameRun other (List.mem_cons_of_mem _ mem)
    rw [one] at next
    exact ⟨one, first.2, next⟩

end EncryptedJournal

/-- A block of a run in a history: contiguous events of one run, from the run's first one on. -/
structure RunBlock (events block : List RunEventEnvelopeV1) (runId : Uuid) : Prop where
  nonempty : block ≠ []
  sameRun : ∀ event ∈ block, event.runId = runId
  contiguous : ∃ before after, events = before ++ block ++ after ∧
    ∀ event, before.getLast? = some event → event.runId ≠ runId

/-- The values that are written and hashed for the events of a history. -/
def writtenValues (prims : Primitives) (events : List RunEventEnvelopeV1) : Set Json :=
  {value | ∃ event ∈ events, event.sortedUnsigned prims = some value}

/-- The texts that are hashed for the events of a history. -/
def hashedTexts (prims : Primitives) (events : List RunEventEnvelopeV1) : Set Bytes :=
  prims.jsonBytes '' writtenValues prims events

/-- What is written is key-sorted. -/
theorem keySorted_of_mem_writtenValues {prims : Primitives} {events : List RunEventEnvelopeV1}
    {value : Json} (mem : value ∈ writtenValues prims events) : value.KeySorted := by
  obtain ⟨event, -, sorted⟩ := mem
  exact RunEventEnvelopeV1.keySorted_sortedUnsigned sorted

variable {prims : Primitives}

/-- A block that `public_events` returned is a verified chain from the genesis hash. -/
theorem RunBlock.chain {journal : EncryptedJournal} {events block : List RunEventEnvelopeV1}
    {runId : Uuid} (ok : journal.publicEvents prims = .ok events)
    (isBlock : RunBlock events block runId) :
    IsChainFrom eventLink 1 genesisHash block ∧ ∀ event ∈ block, event.verify prims = .ok () := by
  obtain ⟨before, after, rfl, starts⟩ := isBlock.contiguous
  have scanned := (EncryptedJournal.scanned_of_scanEvents ok).append_left.append_right
  refine ⟨scanned.isChainFrom_start ?_ isBlock.sameRun, scanned.verified⟩
  intro run sequence hash carries
  cases last : before.getLast? with
  | none => simp [EncryptedJournal.carried, last] at carries
  | some event =>
    simp only [EncryptedJournal.carried, last, Option.map_some, Option.some_or,
      Option.some.injEq, Prod.mk.injEq] at carries
    rw [← carries.1]
    exact starts event last

/-- Verified events with one hash agree, when neither the hash nor the writer collides on them. -/
theorem agree_of_eventSha256_eq {a b : RunEventEnvelopeV1} {events : List RunEventEnvelopeV1}
    (sha : Set.InjOn prims.sha256 (hashedTexts prims events))
    (writer : Set.InjOn prims.jsonBytes (writtenValues prims events))
    (times : ∀ t t' text, prims.rfc3339 t = some text → prims.rfc3339 t' = some text → t = t')
    (memA : a ∈ events) (memB : b ∈ events)
    (verifiedA : a.verify prims = .ok ()) (verifiedB : b.verify prims = .ok ())
    (same : a.eventSha256 = b.eventSha256) : RunEventEnvelopeV1.Agree a b := by
  obtain ⟨valueA, sortedA, hashA⟩ := RunEventEnvelopeV1.eventSha256_of_verify verifiedA
  obtain ⟨valueB, sortedB, hashB⟩ := RunEventEnvelopeV1.eventSha256_of_verify verifiedB
  have writtenA : valueA ∈ writtenValues prims events := ⟨a, memA, sortedA⟩
  have writtenB : valueB ∈ writtenValues prims events := ⟨b, memB, sortedB⟩
  rw [hashA, hashB] at same
  have digests := Subtype.ext (Hex.encode_injective same)
  have texts := sha ⟨valueA, writtenA, rfl⟩ ⟨valueB, writtenB, rfl⟩ digests
  have values := writer writtenA writtenB texts
  subst values
  exact RunEventEnvelopeV1.agree_of_sortedUnsigned_eq (times _ _) sortedA sortedB

/-- **Tamper evidence.**  In two histories that `public_events` returned, blocks of a run that end
in the same hash have the same length and agree on every signed field of every event. -/
theorem runBlocks_agree {journal journal' : EncryptedJournal}
    {events events' block block' : List RunEventEnvelopeV1} {runId runId' : Uuid}
    (sha : Set.InjOn prims.sha256 (hashedTexts prims (events ++ events')))
    (writer : Set.InjOn prims.jsonBytes (writtenValues prims (events ++ events')))
    (times : ∀ t t' text, prims.rfc3339 t = some text → prims.rfc3339 t' = some text → t = t')
    (ok : journal.publicEvents prims = .ok events)
    (ok' : journal'.publicEvents prims = .ok events')
    (isBlock : RunBlock events block runId) (isBlock' : RunBlock events' block' runId')
    (same : block.getLast?.map (·.eventSha256) = block'.getLast?.map (·.eventSha256)) :
    block.length = block'.length ∧ List.Forall₂ RunEventEnvelopeV1.Agree block block' := by
  obtain ⟨chain, verified⟩ := isBlock.chain ok
  obtain ⟨chain', verified'⟩ := isBlock'.chain ok'
  obtain ⟨before, after, split, -⟩ := isBlock.contiguous
  obtain ⟨before', after', split', -⟩ := isBlock'.contiguous
  have agree : List.Forall₂ RunEventEnvelopeV1.Agree block block' := by
    refine forall₂_of_lastHash_eq ?_ ?_ ?_ chain chain' isBlock.nonempty isBlock'.nonempty ?_
    · intro a memA b memB hashes
      refine agree_of_eventSha256_eq sha writer times ?_ ?_ (verified a memA) (verified' b memB)
        hashes
      · rw [split]
        simp [memA]
      · rw [split']
        simp [memB]
    · exact fun a b agree => congrArg UInt64.toNat agree.sequence
    · exact fun a b agree => agree.previous
    · exact congrArg (·.getD genesisHash) same
  exact ⟨agree.length_eq, agree⟩

/-- The sample event as it is returned with a receipt column. -/
def sampleReturned (serverReceipt : Option String) : RunEventEnvelopeV1 :=
  { sampleStarted with serverReceipt }

/-- A journal that holds the sample event. -/
def sampleJournal (serverReceipt : Option String) : EncryptedJournal where
  rows := [{ EventRow.ofEvent sampleStarted .null with serverReceipt }]
  secrets := []

theorem publicEvents_sampleJournal (serverReceipt : Option String) :
    (sampleJournal serverReceipt).publicEvents samplePrimitives =
      .ok [sampleReturned serverReceipt] := by
  have read : EncryptedJournal.readEnvelope samplePrimitives
      { EventRow.ofEvent sampleStarted .null with serverReceipt } = .ok sampleStarted :=
    EncryptedJournal.readEnvelope_of_verify rfl verify_sampleStarted
  have first : EncryptedJournal.continues none sampleStarted = true := by decide
  simp [EncryptedJournal.publicEvents, sampleJournal, EncryptedJournal.scanEvents, read, first,
    sampleReturned, bind, Except.bind, pure, Except.pure]

theorem runBlock_sample (serverReceipt : Option String) :
    RunBlock [sampleReturned serverReceipt] [sampleReturned serverReceipt] sampleStarted.runId :=
  ⟨by simp, by simp [sampleReturned], [], [], by simp, by simp⟩

/-- The sample history and its acknowledged copy agree. -/
theorem runBlocks_agree_sample :
    List.Forall₂ RunEventEnvelopeV1.Agree [sampleReturned none]
      [sampleReturned (some "receipt")] := by
  have written : (writtenValues samplePrimitives
      ([sampleReturned none] ++ [sampleReturned (some "receipt")])).Subsingleton := by
    rintro value ⟨event, mem, sorted⟩ value' ⟨event', mem', sorted'⟩
    have same : ∀ event ∈ [sampleReturned none] ++ [sampleReturned (some "receipt")],
        event.sortedUnsigned samplePrimitives = sampleStarted.sortedUnsigned samplePrimitives := by
      simp [sampleReturned, RunEventEnvelopeV1.sortedUnsigned, RunEventEnvelopeV1.unsignedRunEvent]
    rw [same event mem] at sorted
    rw [same event' mem'] at sorted'
    exact Option.some.inj (sorted.symm.trans sorted')
  refine (runBlocks_agree ((written.image _).injOn _) (written.injOn _) ?_
    (publicEvents_sampleJournal none) (publicEvents_sampleJournal (some "receipt"))
    (runBlock_sample none) (runBlock_sample (some "receipt")) rfl).2
  intro t t' text found found'
  simp only [samplePrimitives, Option.ite_none_right_eq_some] at found found'
  exact found.1.trans found'.1.symm

end CrowAgent
