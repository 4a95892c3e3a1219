import CrowAgent.Core.Journal
import Mathlib.Logic.Function.Basic
import Mathlib.Logic.Relation

/-!
# Concurrent writers of the journal

Several connections write to one database: the session, the relay and the desktop all open the same
file.  A call reads before it writes, and another connection can write in between.  `StoreStep` is
one statement of one connection.

* `WellChained`: the rows of every run are numbered from 1 and linked from the genesis hash, and
  every row is a verified event.
* `WellChained.insert`: the primary key and the link to a stored row keep it so, although the head
  was read earlier.
* `journal_chains_in_every_interleaving` puts the invariant together over whole runs.
-/

namespace CrowAgent

open HashChain

/-- Sequence, previous hash and hash chain the rows of a run. -/
def rowLink : Link EventRow String where
  seq := fun row => row.sequence.toNat
  previous := fun row => row.previousEventSha256
  hash := fun row => row.eventSha256

/-- The row stores a verified event, with or without its receipt. -/
def EventRow.Stores (prims : Primitives) (row : EventRow) (event : RunEventEnvelopeV1) : Prop :=
  event.verify prims = .ok () ∧
    row = { EventRow.ofEvent event row.privatePayload with serverReceipt := row.serverReceipt }

/-- The rows of every run are a chain from the genesis hash, and every row stores an event. -/
structure WellChained (prims : Primitives) (rows : List EventRow) : Prop where
  stored : ∀ row ∈ rows, ∃ event, row.Stores prims event
  chain : ∀ runId : String, IsChainFrom rowLink 1 genesisHash (rows.filter (·.runId = runId))

variable {prims : Primitives} {rows : List EventRow} {row : EventRow}
  {event : RunEventEnvelopeV1}

namespace EventRow.Stores

theorem runId (stores : row.Stores prims event) : row.runId = event.runId.hyphenated := by
  rw [stores.2]
  rfl

theorem sequence (stores : row.Stores prims event) : row.sequence = event.sequence.toNat := by
  rw [stores.2]
  rfl

theorem hash (stores : row.Stores prims event) : row.eventSha256 = event.eventSha256 := by
  rw [stores.2]
  rfl

theorem previous (stores : row.Stores prims event) :
    row.previousEventSha256 = event.previousEventSha256 := by
  rw [stores.2]
  rfl

theorem envelope (stores : row.Stores prims event) : row.publicEnvelope = some event := by
  rw [stores.2]
  rfl

theorem receive (stores : row.Stores prims event) (eventId : Uuid) (receipt : String) :
    (row.receive eventId receipt).Stores prims event := by
  refine ⟨stores.1, ?_⟩
  unfold EventRow.receive
  split
  · exact congrArg (fun row : EventRow => { row with serverReceipt := some receipt }) stores.2
  · exact stores.2

end EventRow.Stores

/-- A receipt changes nothing a chain looks at. -/
theorem EventRow.receive_link (row : EventRow) (eventId : Uuid) (receipt : String) :
    (row.receive eventId receipt).runId = row.runId ∧
      rowLink.seq (row.receive eventId receipt) = rowLink.seq row ∧
      rowLink.previous (row.receive eventId receipt) = rowLink.previous row ∧
      rowLink.hash (row.receive eventId receipt) = rowLink.hash row := by
  unfold EventRow.receive
  split <;> exact ⟨rfl, rfl, rfl, rfl⟩

/-- The rows of a run stay its rows. -/
theorem filter_runId_receive (rows : List EventRow) (eventId : Uuid) (receipt runId : String) :
    (rows.map (·.receive eventId receipt)).filter (·.runId = runId) =
      (rows.filter (·.runId = runId)).map (·.receive eventId receipt) := by
  rw [List.filter_map]
  congr 1
  refine List.filter_congr fun row _ => ?_
  rw [Function.comp_apply, (row.receive_link eventId receipt).1]

/-- Storing receipts keeps the chains. -/
theorem WellChained.receive (chained : WellChained prims rows) (eventId : Uuid)
    (receipt : String) : WellChained prims (rows.map (·.receive eventId receipt)) := by
  refine ⟨?_, ?_⟩
  · intro row mem
    obtain ⟨old, memOld, rfl⟩ := List.mem_map.mp mem
    obtain ⟨event, stores⟩ := chained.stored old memOld
    exact ⟨event, stores.receive eventId receipt⟩
  · intro runId
    rw [filter_runId_receive, isChainFrom_map (fun row => (row.receive_link eventId receipt).2.1)
      (fun row => (row.receive_link eventId receipt).2.2.1)
      (fun row => (row.receive_link eventId receipt).2.2.2)]
    exact chained.chain runId

/-- The event starts its run or follows a stored row of it. -/
def Follows (rows : List EventRow) (event : RunEventEnvelopeV1) : Prop :=
  (event.sequence.toNat = 1 ∧ event.previousEventSha256 = genesisHash) ∨
    ∃ row ∈ rows, row.runId = event.runId.hyphenated ∧
      event.sequence.toNat = row.sequence.toNat + 1 ∧
      event.previousEventSha256 = row.eventSha256

theorem WellChained.nonneg (chained : WellChained prims rows) (mem : row ∈ rows) :
    0 ≤ row.sequence := by
  obtain ⟨event, stores⟩ := chained.stored row mem
  rw [stores.sequence]
  exact Int.natCast_nonneg _

/-- **Insertion.**  A verified event that follows a stored row keeps the chains when the table takes
it, whatever was inserted since the row was read. -/
theorem WellChained.insert {privatePayload : Json} (chained : WellChained prims rows)
    (verified : event.verify prims = .ok ()) (follows : Follows rows event)
    (free : ∀ other ∈ rows, ¬(other.runId = event.runId.hyphenated ∧
      other.sequence = event.sequence.toNat)) :
    WellChained prims (rows ++ [EventRow.ofEvent event privatePayload]) := by
  refine ⟨?_, ?_⟩
  · intro row mem
    rcases List.mem_append.mp mem with old | new
    · exact chained.stored row old
    · rw [List.mem_singleton.mp new]
      exact ⟨event, verified, rfl⟩
  · intro runId
    rw [List.filter_append]
    by_cases own : event.runId.hyphenated = runId
    · subst own
      have new : [EventRow.ofEvent event privatePayload].filter
          (·.runId = event.runId.hyphenated) = [EventRow.ofEvent event privatePayload] := by
        simp [EventRow.ofEvent]
      rw [new]
      refine concat_of_new_successor (chained.chain _) ?_ ?_
      · rcases follows with first | ⟨row, mem, run, sequence, previous⟩
        · exact .inl first
        · exact .inr ⟨row, by simp [mem, run], sequence, previous⟩
      · intro other mem same
        obtain ⟨stored, run⟩ := List.mem_filter.mp mem
        refine free other stored ⟨by simpa using run, ?_⟩
        have nonneg := chained.nonneg stored
        change other.sequence.toNat = event.sequence.toNat at same
        omega
    · have other : [EventRow.ofEvent event privatePayload].filter (·.runId = runId) = [] := by
        simp [EventRow.ofEvent, own]
      rw [other, List.append_nil]
      exact chained.chain runId

/-! ## Reading a chained table -/

/-- In a chained table the rows of a run are already in sequence order. -/
theorem WellChained.runRows_eq {journal : EncryptedJournal}
    (chained : WellChained prims journal.rows) (runId : Uuid) :
    journal.runRows runId = journal.rows.filter (·.runId = runId.hyphenated) := by
  refine List.Pairwise.insertionSort_eq ?_
  refine (pairwise_seq (chained.chain runId.hyphenated)).imp_of_mem ?_
  intro a b memA memB below
  have nonnegA := chained.nonneg (List.mem_of_mem_filter memA)
  have nonnegB := chained.nonneg (List.mem_of_mem_filter memB)
  change a.sequence.toNat < b.sequence.toNat at below
  omega

/-- An event that passes the check of `append` follows a stored row. -/
theorem WellChained.follows_of_checkAppend {journal : EncryptedJournal}
    (chained : WellChained prims journal.rows) (ok : journal.checkAppend prims event = .ok ()) :
    event.verify prims = .ok () ∧ Follows journal.rows event := by
  unfold EncryptedJournal.checkAppend at ok
  split at ok
  · cases ok
  · rename_i verified
    refine ⟨verified, ?_⟩
    split at ok
    · split at ok
      · cases ok
      · rename_i matching
        simp only [ne_eq, not_or, not_not] at matching
        exact .inl ⟨by rw [matching.1]; rfl, matching.2⟩
    · rename_i row latest
      split at ok
      · cases ok
      · rename_i matching
        simp only [ne_eq, not_or, not_not] at matching
        have mem := List.mem_of_getLast? latest
        rw [chained.runRows_eq] at mem
        obtain ⟨stored, run⟩ := List.mem_filter.mp mem
        refine .inr ⟨row, stored, by simpa using run, ?_, matching.2⟩
        rw [matching.1, EncryptedJournal.sequenceAfter, if_pos (chained.nonneg stored)]

instance : Std.Total EncryptedJournal.rowLe where
  total a b := by
    unfold EncryptedJournal.rowLe
    rcases String.le_total a.runId b.runId with le | le
    · by_cases same : a.runId = b.runId
      · rcases Int.le_total a.sequence b.sequence with first | second
        · exact .inl (.inr ⟨same, first⟩)
        · exact .inr (.inr ⟨same.symm, second⟩)
      · refine .inl (.inl (String.not_le.mp fun back => same (String.le_antisymm le back)))
    · by_cases same : a.runId = b.runId
      · rcases Int.le_total a.sequence b.sequence with first | second
        · exact .inl (.inr ⟨same, first⟩)
        · exact .inr (.inr ⟨same.symm, second⟩)
      · refine .inr (.inl (String.not_le.mp fun back => same (String.le_antisymm back le)))

instance : IsTrans EventRow EncryptedJournal.rowLe where
  trans a b c := by
    unfold EncryptedJournal.rowLe
    rintro (ab | ⟨ab, seqAb⟩) (bc | ⟨bc, seqBc⟩)
    · exact .inl (String.lt_trans ab bc)
    · exact .inl (bc ▸ ab)
    · exact .inl (ab ▸ bc)
    · exact .inr ⟨ab.trans bc, seqAb.trans seqBc⟩

/-- Ordering the whole table by run and sequence leaves the rows of a run in their order. -/
theorem WellChained.filter_ordered (chained : WellChained prims rows) (runId : String) :
    (rows.insertionSort EncryptedJournal.rowLe).filter (·.runId = runId) =
      rows.filter (·.runId = runId) := by
  have perm : ((rows.insertionSort EncryptedJournal.rowLe).filter (·.runId = runId)).Perm
      (rows.filter (·.runId = runId)) := (List.perm_insertionSort _ rows).filter _
  have antisymm : ∀ a b, a ∈ (rows.insertionSort EncryptedJournal.rowLe).filter (·.runId = runId) →
      b ∈ rows.filter (·.runId = runId) → rowLink.seq a ≤ rowLink.seq b →
      rowLink.seq b ≤ rowLink.seq a → a = b := fun a b memA memB le ge =>
    eq_of_seq (chained.chain runId) (perm.subset memA) memB (Nat.le_antisymm le ge)
  refine List.Perm.eq_of_pairwise antisymm ?_ ?_ perm
  · refine ((List.pairwise_insertionSort EncryptedJournal.rowLe rows).filter _).imp_of_mem ?_
    intro a b memA memB le
    have runA : a.runId = runId := by simpa using (List.mem_filter.mp memA).2
    have runB : b.runId = runId := by simpa using (List.mem_filter.mp memB).2
    have sequence : a.sequence ≤ b.sequence := by
      rcases le with below | ⟨-, le⟩
      · rw [runA, runB] at below
        exact absurd below (String.lt_irrefl _)
      · exact le
    exact Int.toNat_le_toNat sequence
  · exact (pairwise_seq (chained.chain runId)).imp Nat.le_of_lt

/-- What `public_events` carries along after some ordered rows. -/
def carriedRow (before : List EventRow) : EncryptedJournal.Previous :=
  before.getLast?.bind fun row =>
    row.publicEnvelope.map fun event => (event.runId, event.sequence, event.eventSha256)

/-- A table in the order `public_events` reads it. -/
structure OrderedTable (prims : Primitives) (rows : List EventRow) : Prop where
  chained : WellChained prims rows
  ordered : rows.Pairwise EncryptedJournal.rowLe

theorem WellChained.orderedTable (chained : WellChained prims rows) :
    OrderedTable prims (rows.insertionSort EncryptedJournal.rowLe) := by
  refine ⟨⟨fun row mem => chained.stored row (List.mem_insertionSort _ |>.mp mem), fun runId => ?_⟩,
    List.pairwise_insertionSort _ rows⟩
  rw [chained.filter_ordered]
  exact chained.chain runId

/-- The runs of an ordered table are contiguous: once another run follows, a run is over. -/
theorem OrderedTable.filter_eq_nil {before after : List EventRow} {last : EventRow}
    (table : OrderedTable prims (before ++ [last] ++ row :: after)) (other : last.runId ≠ row.runId) :
    (before ++ [last]).filter (·.runId = row.runId) = [] := by
  refine List.filter_eq_nil_iff.mpr fun old mem => ?_
  obtain ⟨ordered, -, cross⟩ := List.pairwise_append.mp table.ordered
  have lastRow : EncryptedJournal.rowLe last row :=
    cross last (by simp) row List.mem_cons_self
  have oldLast : old = last ∨ EncryptedJournal.rowLe old last := by
    rcases List.mem_append.mp mem with mem | mem
    · exact .inr ((List.pairwise_append.mp ordered).2.2 old mem last (by simp))
    · exact .inl (List.mem_singleton.mp mem)
  simp only [decide_eq_true_eq]
  intro same
  have above : last.runId < row.runId := by
    rcases lastRow with above | ⟨eq, -⟩
    · exact above
    · exact absurd eq other
  rcases oldLast with rfl | below | ⟨eq, -⟩
  · exact other same
  · rw [same] at below
    exact String.lt_asymm above below
  · exact other (eq.symm.trans same)

/-- Every row of an ordered table continues the chain `public_events` follows. -/
theorem OrderedTable.continues {before after : List EventRow}
    (table : OrderedTable prims (before ++ row :: after)) (stores : row.Stores prims event) :
    EncryptedJournal.continues (carriedRow before) event = true := by
  have chain := table.chained.chain row.runId
  rw [List.filter_append, List.filter_cons_of_pos (by simp), List.append_cons] at chain
  obtain ⟨chainBefore, sequence, previous⟩ :=
    isChainFrom_concat.mp (isChainFrom_append.mp chain).1
  change row.sequence.toNat = _ at sequence
  change row.previousEventSha256 = _ at previous
  rw [stores.sequence, Int.toNat_natCast] at sequence
  rw [stores.previous] at previous
  rcases List.eq_nil_or_concat before with rfl | ⟨init, last, rfl⟩
  · simp only [List.filter_nil, List.length_nil, lastHash_nil] at sequence previous
    simp only [carriedRow, List.getLast?_nil, Option.bind_none, EncryptedJournal.continues,
      Bool.and_eq_true, decide_eq_true_eq]
    exact ⟨UInt64.toNat_inj.mp sequence, previous⟩
  · rw [List.concat_eq_append] at *
    obtain ⟨lastEvent, lastStores⟩ := table.chained.stored last (by simp)
    have carried : carriedRow (init ++ [last]) =
        some (lastEvent.runId, lastEvent.sequence, lastEvent.eventSha256) := by
      simp [carriedRow, lastStores.envelope]
    rw [carried, EncryptedJournal.continues]
    by_cases same : last.runId = row.runId
    · have run : lastEvent.runId = event.runId := by
        refine Uuid.hyphenated_injective ?_
        rw [← lastStores.runId, ← stores.runId, same]
      have split : (init ++ [last]).filter (·.runId = row.runId) =
          init.filter (·.runId = row.runId) ++ [last] := by
        simp [List.filter_append, same]
      rw [split] at chainBefore sequence previous
      obtain ⟨-, lastSequence, -⟩ := isChainFrom_concat.mp chainBefore
      change last.sequence.toNat = _ at lastSequence
      rw [lastStores.sequence, Int.toNat_natCast] at lastSequence
      rw [lastHash_concat] at previous
      rw [List.length_append, List.length_singleton] at sequence
      rw [if_pos run, Bool.and_eq_true, decide_eq_true_eq, decide_eq_true_eq]
      exact ⟨by omega, by rw [previous, ← lastStores.hash]; rfl⟩
    · have run : lastEvent.runId ≠ event.runId := by
        intro eq
        rw [lastStores.runId, stores.runId, eq] at same
        exact same rfl
      rw [table.filter_eq_nil same] at sequence previous
      rw [if_neg run, Bool.and_eq_true, decide_eq_true_eq, decide_eq_true_eq]
      exact ⟨UInt64.toNat_inj.mp sequence, previous⟩

/-- The loop of `public_events` accepts every row of an ordered table. -/
theorem OrderedTable.scanEvents_isOk {before after : List EventRow}
    (table : OrderedTable prims (before ++ after)) :
    ∃ events, EncryptedJournal.scanEvents prims (carriedRow before) after = .ok events := by
  induction after generalizing before with
  | nil => exact ⟨[], rfl⟩
  | cons row after ih =>
    obtain ⟨event, stores⟩ := table.chained.stored row (by simp)
    have read := EncryptedJournal.readEnvelope_of_verify stores.envelope stores.1
    have linked := table.continues stores
    rw [List.append_cons] at table
    obtain ⟨rest, restOk⟩ := ih table
    have carried : carriedRow (before ++ [row]) =
        some (event.runId, event.sequence, event.eventSha256) := by
      simp [carriedRow, stores.envelope]
    rw [carried] at restOk
    exact ⟨_, by simp only [EncryptedJournal.scanEvents, read, linked, restOk, bind, Except.bind,
      pure, Except.pure, if_pos]; rfl⟩

/-- `public_events` reads a chained table without an error. -/
theorem WellChained.publicEvents_isOk {journal : EncryptedJournal}
    (chained : WellChained prims journal.rows) :
    ∃ events, journal.publicEvents prims = .ok events := by
  have table : OrderedTable prims ([] ++ journal.rows.insertionSort EncryptedJournal.rowLe) :=
    chained.orderedTable
  exact table.scanEvents_isOk

/-! ## Statements of several connections -/

/-- A call between its reading and its writing statement. -/
inductive WaitingCall : Type
  | append (event : RunEventEnvelopeV1) (privatePayload : Json)
  | acknowledge (eventId : Uuid) (serverReceipt : String)

/-- The database and what each connection has read for the call it is in. -/
structure Store : Type where
  journal : EncryptedJournal
  waiting : Nat → Option WaitingCall

/-- What a statement of a connection shows to its caller. -/
inductive StoreLabel : Type
  | read (connection : Nat)
  | appended (connection : Nat) (result : Except JournalError Unit)
  | acknowledged (connection : Nat) (result : Except JournalError Unit)
  | secret (result : Except JournalError Unit)

/-- The store with a connection's waiting call replaced. -/
def Store.setWaiting (store : Store) (connection : Nat) (call : Option WaitingCall) : Store :=
  { store with waiting := Function.update store.waiting connection call }

@[simp] theorem Store.setWaiting_self (store : Store) (connection : Nat)
    (call : Option WaitingCall) :
    (store.setWaiting connection call).waiting connection = call := Function.update_self ..

theorem Store.setWaiting_of_ne {connection connection' : Nat} (store : Store)
    (call : Option WaitingCall) (ne : connection' ≠ connection) :
    (store.setWaiting connection call).waiting connection' = store.waiting connection' :=
  Function.update_of_ne ne ..

/-- One statement of one connection.  Besides what the tables decide, every call can fail at either
statement, with an error of the database or the cipher or because its process ends. -/
inductive StoreStep (prims : Primitives) : Store → StoreLabel → Store → Prop
  | readAppend {store : Store} {connection : Nat} {event : RunEventEnvelopeV1}
      {privatePayload : Json} (idle : store.waiting connection = none)
      (ok : store.journal.checkAppend prims event = .ok ()) :
      StoreStep prims store (.read connection)
        (store.setWaiting connection (some (.append event privatePayload)))
  | refuseAppend {store : Store} {connection : Nat} {error : JournalError}
      (idle : store.waiting connection = none) :
      StoreStep prims store (.appended connection (.error error)) store
  | insertEvent {store : Store} {connection : Nat} {event : RunEventEnvelopeV1}
      {privatePayload : Json}
      (waiting : store.waiting connection = some (.append event privatePayload)) :
      StoreStep prims store
        (.appended connection (store.journal.insertEvent event privatePayload).1)
        ({ store with journal := (store.journal.insertEvent event privatePayload).2 }.setWaiting
          connection none)
  | failAppend {store : Store} {connection : Nat} {event : RunEventEnvelopeV1}
      {privatePayload : Json} {error : JournalError}
      (waiting : store.waiting connection = some (.append event privatePayload)) :
      StoreStep prims store (.appended connection (.error error)) (store.setWaiting connection none)
  | readAcknowledge {store : Store} {connection : Nat} {eventId : Uuid} {serverReceipt : String}
      (idle : store.waiting connection = none)
      (ok : store.journal.checkAcknowledge eventId serverReceipt = .ok true) :
      StoreStep prims store (.read connection)
        (store.setWaiting connection (some (.acknowledge eventId serverReceipt)))
  | confirmAcknowledge {store : Store} {connection : Nat} {eventId : Uuid} {serverReceipt : String}
      (idle : store.waiting connection = none)
      (ok : store.journal.checkAcknowledge eventId serverReceipt = .ok false) :
      StoreStep prims store (.acknowledged connection (.ok ())) store
  | refuseAcknowledge {store : Store} {connection : Nat} {error : JournalError}
      (idle : store.waiting connection = none) :
      StoreStep prims store (.acknowledged connection (.error error)) store
  | updateReceipt {store : Store} {connection : Nat} {eventId : Uuid} {serverReceipt : String}
      (waiting : store.waiting connection = some (.acknowledge eventId serverReceipt)) :
      StoreStep prims store
        (.acknowledged connection (store.journal.updateReceipt eventId serverReceipt).1)
        ({ store with journal := (store.journal.updateReceipt eventId serverReceipt).2 }.setWaiting
          connection none)
  | failAcknowledge {store : Store} {connection : Nat} {eventId : Uuid} {serverReceipt : String}
      {error : JournalError}
      (waiting : store.waiting connection = some (.acknowledge eventId serverReceipt)) :
      StoreStep prims store (.acknowledged connection (.error error))
        (store.setWaiting connection none)
  | putSecret {store : Store} {name : String} {value : Bytes} :
      StoreStep prims store (.secret (store.journal.putSecret name value).1)
        { store with journal := (store.journal.putSecret name value).2 }
  | deleteSecret {store : Store} {name : String} :
      StoreStep prims store (.secret (store.journal.deleteSecret name).1)
        { store with journal := (store.journal.deleteSecret name).2 }
  | failSecret {store : Store} {error : JournalError} :
      StoreStep prims store (.secret (.error error)) store

/-- A database without events, and no call under way. -/
def Store.Fresh (store : Store) : Prop :=
  store.journal.rows = [] ∧ ∀ connection, store.waiting connection = none

/-- Some statement of some connection leads from one store to the next. -/
def StoreNext (prims : Primitives) (store next : Store) : Prop :=
  ∃ label, StoreStep prims store label next

/-- **Invariant.**  The table is well chained, and every event that waits for its insertion was
verified and follows a row that is in the table. -/
structure Store.Consistent (prims : Primitives) (store : Store) : Prop where
  chained : WellChained prims store.journal.rows
  waiting : ∀ connection event privatePayload,
    store.waiting connection = some (.append event privatePayload) →
      event.verify prims = .ok () ∧ Follows store.journal.rows event

/-- What follows a row still follows it when the table has grown. -/
theorem Follows.append {new : List EventRow} (follows : Follows rows event) :
    Follows (rows ++ new) event := by
  rcases follows with first | ⟨row, mem, rest⟩
  · exact .inl first
  · exact .inr ⟨row, List.mem_append_left _ mem, rest⟩

theorem Follows.receive (follows : Follows rows event) (eventId : Uuid) (receipt : String) :
    Follows (rows.map (·.receive eventId receipt)) event := by
  rcases follows with first | ⟨row, mem, run, sequence, previous⟩
  · exact .inl first
  · obtain ⟨sameRun, sameSeq, -, sameHash⟩ := row.receive_link eventId receipt
    exact .inr ⟨_, List.mem_map_of_mem mem, sameRun.trans run, sequence.trans (congrArg _ sameSeq.symm),
      previous.trans sameHash.symm⟩

theorem Store.waiting_of_setWaiting_none {store : Store} {connection connection' : Nat}
    {call : WaitingCall}
    (waiting : (store.setWaiting connection none).waiting connection' = some call) :
    store.waiting connection' = some call := by
  by_cases same : connection' = connection
  · subst same
    simp at waiting
  · rwa [Store.setWaiting_of_ne _ _ same] at waiting

/-- Without its waiting call a connection leaves the invariant alone. -/
theorem Store.Consistent.clear {store : Store} (consistent : store.Consistent prims)
    (connection : Nat) : (store.setWaiting connection none).Consistent prims :=
  ⟨consistent.chained, fun connection' event privatePayload waiting =>
    consistent.waiting connection' event privatePayload
      (Store.waiting_of_setWaiting_none waiting)⟩

/-- The inserting statement keeps the invariant, whatever it comes back with. -/
theorem Store.Consistent.insertEvent {store : Store} {connection : Nat} {privatePayload : Json}
    (consistent : store.Consistent prims)
    (waiting : store.waiting connection = some (.append event privatePayload)) :
    ({ store with journal := (store.journal.insertEvent event privatePayload).2 } : Store).Consistent
      prims := by
  obtain ⟨verified, follows⟩ := consistent.waiting connection event privatePayload waiting
  unfold EncryptedJournal.insertEvent
  split
  · exact consistent
  · split
    · exact consistent
    · rename_i free
      refine ⟨consistent.chained.insert verified follows ?_, ?_⟩
      · rintro other mem ⟨run, sequence⟩
        refine free (List.any_eq_true.mpr ⟨other, mem, ?_⟩)
        simp [EventRow.ofEvent, run, sequence]
      · intro connection' event' privatePayload' waiting'
        obtain ⟨verified', follows'⟩ := consistent.waiting _ _ _ waiting'
        exact ⟨verified', follows'.append⟩

/-- So does the statement that stores a receipt. -/
theorem Store.Consistent.updateReceipt {store : Store} (consistent : store.Consistent prims)
    (eventId : Uuid) (serverReceipt : String) :
    ({ store with journal := (store.journal.updateReceipt eventId serverReceipt).2 } :
      Store).Consistent prims := by
  refine ⟨consistent.chained.receive eventId serverReceipt, ?_⟩
  intro connection event privatePayload waiting
  obtain ⟨verified, follows⟩ := consistent.waiting _ _ _ waiting
  exact ⟨verified, follows.receive eventId serverReceipt⟩

/-- **Step.**  Every statement of every connection keeps the invariant. -/
theorem Store.Consistent.step {store next : Store} {label : StoreLabel}
    (consistent : store.Consistent prims) (step : StoreStep prims store label next) :
    next.Consistent prims := by
  cases step with
  | @readAppend connection event privatePayload idle ok =>
    refine ⟨consistent.chained, fun connection' event' privatePayload' waiting => ?_⟩
    by_cases same : connection' = connection
    · subst same
      simp only [Store.setWaiting_self, Option.some.injEq, WaitingCall.append.injEq] at waiting
      rw [← waiting.1]
      exact consistent.chained.follows_of_checkAppend ok
    · rw [Store.setWaiting_of_ne _ _ same] at waiting
      exact consistent.waiting _ _ _ waiting
  | refuseAppend idle => exact consistent
  | insertEvent waiting => exact (consistent.insertEvent waiting).clear _
  | failAppend waiting => exact consistent.clear _
  | @readAcknowledge connection eventId serverReceipt idle ok =>
    refine ⟨consistent.chained, fun connection' event' privatePayload' waiting => ?_⟩
    by_cases same : connection' = connection
    · subst same
      simp at waiting
    · rw [Store.setWaiting_of_ne _ _ same] at waiting
      exact consistent.waiting _ _ _ waiting
  | confirmAcknowledge idle ok => exact consistent
  | refuseAcknowledge idle => exact consistent
  | updateReceipt waiting => exact (consistent.updateReceipt _ _).clear _
  | failAcknowledge waiting => exact consistent.clear _
  | putSecret =>
    unfold EncryptedJournal.putSecret
    split <;> exact ⟨consistent.chained, consistent.waiting⟩
  | deleteSecret =>
    unfold EncryptedJournal.deleteSecret
    split <;> exact ⟨consistent.chained, consistent.waiting⟩
  | failSecret => exact consistent

/-- **Run.**  The invariant holds in every store that is reached from a fresh one. -/
theorem Store.Fresh.consistent {initial store : Store} (fresh : initial.Fresh)
    (reached : Relation.ReflTransGen (StoreNext prims) initial store) : store.Consistent prims := by
  induction reached with
  | refl =>
    refine ⟨⟨?_, ?_⟩, ?_⟩
    · simp [fresh.1]
    · intro runId
      rw [fresh.1]
      exact isChainFrom_nil
    · intro connection event privatePayload waiting
      rw [fresh.2] at waiting
      cases waiting
  | tail reached next ih =>
    obtain ⟨label, step⟩ := next
    exact ih.step step

/-- A failing `append` leaves the table as it is. -/
theorem StoreStep.rows_of_append_error {store next : Store} {connection : Nat}
    {error : JournalError}
    (step : StoreStep prims store (.appended connection (.error error)) next) :
    next.journal.rows = store.journal.rows := by
  generalize labelEq : StoreLabel.appended connection (.error error) = label at step
  cases step with
  | refuseAppend idle => rfl
  | @insertEvent connection' event privatePayload waiting =>
    simp only [StoreLabel.appended.injEq] at labelEq
    obtain ⟨-, result⟩ := labelEq
    unfold EncryptedJournal.insertEvent at result ⊢
    split
    · rfl
    · split
      · rfl
      · rename_i small free
        rw [if_neg small, if_neg free] at result
        cases result
  | failAppend waiting => rfl
  | _ => cases labelEq

/-- **Chains under concurrent writers.**  In every store reached by any interleaving of the
statements of any number of connections, the rows of every run are numbered from 1 without a gap
and linked from the genesis hash, a failing `append` changes no row, and `public_events` never
refuses the sequence. -/
theorem journal_chains_in_every_interleaving {initial store : Store} (fresh : initial.Fresh)
    (reached : Relation.ReflTransGen (StoreNext prims) initial store) :
    (∀ runId : Uuid, IsChainFrom rowLink 1 genesisHash (store.journal.runRows runId)) ∧
      (∀ connection error next, StoreStep prims store (.appended connection (.error error)) next →
        next.journal.rows = store.journal.rows) ∧
      store.journal.publicEvents prims ≠ .error .sequence := by
  have consistent := fresh.consistent reached
  refine ⟨fun runId => ?_, fun connection error next step => step.rows_of_append_error, ?_⟩
  · rw [consistent.chained.runRows_eq]
    exact consistent.chained.chain _
  · obtain ⟨events, ok⟩ := consistent.chained.publicEvents_isOk
    rw [ok]
    exact fun contra => nomatch contra

/-- A fresh database. -/
def emptyStore : Store where
  journal := { rows := [], secrets := [] }
  waiting := fun _ => none

/-- Two connections have both read the head for the sample event. -/
def contestedStore : Store :=
  (emptyStore.setWaiting 0 (some (.append sampleStarted .null))).setWaiting 1
    (some (.append sampleStarted .null))

/-- The store after a connection has inserted the sample event, or tried to. -/
def Store.insertSample (store : Store) (connection : Nat) : Store :=
  ({ store with journal := (store.journal.insertEvent sampleStarted .null).2 } :
    Store).setWaiting connection none

theorem reached_contested :
    Relation.ReflTransGen (StoreNext samplePrimitives) emptyStore
      ((contestedStore.insertSample 0).insertSample 1) := by
  have checked : emptyStore.journal.checkAppend samplePrimitives sampleStarted = .ok () := by
    simp only [EncryptedJournal.checkAppend, verify_sampleStarted]
    rfl
  have first : StoreNext samplePrimitives emptyStore
      (emptyStore.setWaiting 0 (some (.append sampleStarted .null))) :=
    ⟨_, .readAppend rfl checked⟩
  have second : StoreNext samplePrimitives
      (emptyStore.setWaiting 0 (some (.append sampleStarted .null))) contestedStore :=
    ⟨_, .readAppend rfl checked⟩
  have third : StoreNext samplePrimitives contestedStore (contestedStore.insertSample 0) :=
    ⟨_, .insertEvent rfl⟩
  have fourth : StoreNext samplePrimitives (contestedStore.insertSample 0)
      ((contestedStore.insertSample 0).insertSample 1) := ⟨_, .insertEvent rfl⟩
  exact (((Relation.ReflTransGen.single first).tail second).tail third).tail fourth

/-- Two connections that race for the first event of a run leave one row of it. -/
theorem journal_chains_after_race :
    IsChainFrom rowLink 1 genesisHash
        (((contestedStore.insertSample 0).insertSample 1).journal.runRows sampleStarted.runId) ∧
      ((contestedStore.insertSample 0).insertSample 1).journal.publicEvents samplePrimitives ≠
        .error .sequence :=
  have chains := journal_chains_in_every_interleaving ⟨rfl, fun _ => rfl⟩ reached_contested
  ⟨chains.1 _, chains.2.2⟩

end CrowAgent
