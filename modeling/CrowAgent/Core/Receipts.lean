import CrowAgent.Core.LiveRuns

/-!
# Receipts

Appends and acknowledgements of one journal, in any order and over any number of runs.

* `Distinct`: no two rows have one event id, which `append` does not ask for.
* `receipts_of_fresh_ids`: while every appended event brings an id of its own, a refused
  acknowledgement changes nothing, an accepted one stores the receipt of its event and no other, and
  stored receipts stay.
-/

namespace CrowAgent

open EncryptedJournal

/-! ## Steps -/

/-- A successful append of an event that is admitted, or an acknowledgement with any result. -/
inductive ReceiptStep (prims : Primitives) (admits : EncryptedJournal → RunEventEnvelopeV1 → Prop) :
    EncryptedJournal → EncryptedJournal → Prop
  | append {journal journal' : EncryptedJournal} {event : RunEventEnvelopeV1} {privatePayload : Json}
    (admitted : admits journal event)
    (ok : journal.append prims event privatePayload = (.ok (), journal')) :
    ReceiptStep prims admits journal journal'
  | acknowledge {journal : EncryptedJournal} (eventId : Uuid) (serverReceipt : String) :
    ReceiptStep prims admits journal (journal.acknowledgeEvent eventId serverReceipt).2

/-- The event has an id that no row has. -/
def BringsId (journal : EncryptedJournal) (event : RunEventEnvelopeV1) : Prop :=
  ∀ row ∈ journal.rows, row.hasEventId event.eventId = false

/-- The steps from one journal to another. -/
abbrev ReceiptRun (prims : Primitives)
    (admits : EncryptedJournal → RunEventEnvelopeV1 → Prop) :
    EncryptedJournal → EncryptedJournal → Prop :=
  Relation.ReflTransGen (ReceiptStep prims admits)

/-- No two rows have one event id. -/
def Distinct (rows : List EventRow) : Prop :=
  rows.Pairwise fun a b => ∀ eventId, a.hasEventId eventId = true → b.hasEventId eventId = false

/-- What holds in every journal whose events brought ids of their own. -/
structure Receipted (prims : Primitives) (journal : EncryptedJournal) : Prop where
  chained : WellChained prims journal.rows
  distinct : Distinct journal.rows

variable {prims : Primitives} {admits : EncryptedJournal → RunEventEnvelopeV1 → Prop}
  {journal journal' later : EncryptedJournal} {eventId : Uuid} {serverReceipt : String}
  {rows : List EventRow} {row : EventRow}

/-! ## Rows -/

@[simp] theorem hasEventId_receive (row : EventRow) (eventId eventId' : Uuid)
    (serverReceipt : String) :
    (row.receive eventId serverReceipt).hasEventId eventId' = row.hasEventId eventId' := by
  unfold EventRow.receive
  split <;> rfl

/-- A row with a receipt keeps it. -/
theorem receive_of_isSome (stored : row.serverReceipt.isSome = true) :
    row.receive eventId serverReceipt = row := by
  rw [EventRow.receive, if_neg]
  simp [Option.isNone_eq_false_iff.mpr stored]

theorem receive_of_other (other : row.hasEventId eventId = false) :
    row.receive eventId serverReceipt = row := by
  rw [EventRow.receive, if_neg]
  simp [other]

/-- The rows with an id are at most one. -/
theorem Distinct.eq_of_getElem? (distinct : Distinct rows) {i j : Nat} {a b : EventRow}
    (atI : rows[i]? = some a) (atJ : rows[j]? = some b) (ownA : a.hasEventId eventId = true)
    (ownB : b.hasEventId eventId = true) : i = j := by
  obtain ⟨insideI, rfl⟩ := List.getElem?_eq_some_iff.mp atI
  obtain ⟨insideJ, rfl⟩ := List.getElem?_eq_some_iff.mp atJ
  rcases Nat.lt_trichotomy i j with before | same | after
  · have other := List.pairwise_iff_getElem.mp distinct i j insideI insideJ before eventId ownA
    exact absurd (ownB.symm.trans other) (by decide)
  · exact same
  · have other := List.pairwise_iff_getElem.mp distinct j i insideJ insideI after eventId ownB
    exact absurd (ownA.symm.trans other) (by decide)

theorem Distinct.receive (distinct : Distinct rows) :
    Distinct (rows.map (·.receive eventId serverReceipt)) := by
  refine List.pairwise_map.mpr (distinct.imp fun apart eventId' => ?_)
  rw [hasEventId_receive, hasEventId_receive]
  exact apart eventId'

/-- With one row of an id, a receipt is stored there. -/
theorem Distinct.map_receive (distinct : Distinct rows) {index : Nat}
    (isRow : rows[index]? = some row) (own : row.hasEventId eventId = true)
    (missing : row.serverReceipt = none) :
    rows.map (·.receive eventId serverReceipt) =
      rows.set index { row with serverReceipt := some serverReceipt } := by
  refine List.ext_getElem? fun j => ?_
  rw [List.getElem?_map, List.getElem?_set]
  by_cases same : index = j
  · subst same
    obtain ⟨inside, -⟩ := List.getElem?_eq_some_iff.mp isRow
    rw [if_pos rfl, if_pos inside, isRow, Option.map_some, EventRow.receive, if_pos]
    simp [own, missing]
  · rw [if_neg same]
    cases other : rows[j]? with
    | none => rfl
    | some b =>
      rw [Option.map_some, receive_of_other]
      exact Bool.eq_false_iff.mpr fun ownB => same (distinct.eq_of_getElem? isRow other own ownB)

/-- Of the rows with an id there is only the one. -/
theorem Distinct.filter_eq (distinct : Distinct rows) {index : Nat} {p : EventRow → Bool}
    (isRow : rows[index]? = some row) (holds : p row = true)
    (own : ∀ other, p other = true → other.hasEventId eventId = true) : rows.filter p = [row] := by
  obtain ⟨inside, rfl⟩ := List.getElem?_eq_some_iff.mp isRow
  have split : rows.take index ++ rows[index] :: rows.drop (index + 1) = rows := by
    rw [← List.drop_eq_getElem_cons inside, List.take_append_drop]
  have others : ∀ j (insideJ : j < rows.length), j ≠ index → ¬p rows[j] = true :=
    fun j insideJ apart holdsJ => apart (distinct.eq_of_getElem? (List.getElem?_eq_getElem insideJ)
      isRow (own _ holdsJ) (own _ holds))
  have before : (rows.take index).filter p = [] :=
    List.filter_eq_nil_iff.mpr fun a mem => by
      obtain ⟨j, insideJ, rfl⟩ := List.mem_take_iff_getElem.mp mem
      exact others j (by omega) (by omega)
  have after : (rows.drop (index + 1)).filter p = [] :=
    List.filter_eq_nil_iff.mpr fun a mem => by
      obtain ⟨j, insideJ, rfl⟩ := List.mem_drop_iff_getElem.mp mem
      exact others (index + 1 + j) (by omega) (by omega)
  have filtered := congrArg (List.filter p) split
  rw [List.filter_append, before, List.filter_cons_of_pos holds, after, List.nil_append] at filtered
  exact filtered.symm

/-! ## Appends -/

/-- A successful append adds the row of a verified event that follows. -/
theorem append_eq_ok {event : RunEventEnvelopeV1} {privatePayload : Json}
    (ok : journal.append prims event privatePayload = (.ok (), journal')) :
    journal.checkAppend prims event = .ok () ∧
      journal.conflicts (EventRow.ofEvent event privatePayload) = false ∧
      journal' = { journal with rows := journal.rows ++ [EventRow.ofEvent event privatePayload] } := by
  rcases journal.append_cases prims event privatePayload with ⟨error, failed⟩ | ⟨check, free, added⟩
  · rw [ok] at failed
    cases (Prod.mk.inj failed).1
  · exact ⟨check, free, (Prod.mk.inj (ok.symm.trans added)).2⟩

theorem Receipted.append {event : RunEventEnvelopeV1} {privatePayload : Json}
    (receipted : Receipted prims journal) (brings : BringsId journal event)
    (ok : journal.append prims event privatePayload = (.ok (), journal')) :
    Receipted prims journal' := by
  obtain ⟨check, free, rfl⟩ := append_eq_ok ok
  obtain ⟨verified, follows⟩ := receipted.chained.follows_of_checkAppend check
  refine ⟨receipted.chained.insert verified follows ?_, ?_⟩
  · rintro other mem ⟨run, sequence⟩
    refine absurd free (Bool.not_eq_false _ |>.mpr (List.any_eq_true.mpr ⟨other, mem, ?_⟩))
    simp [EventRow.ofEvent, run, sequence]
  · refine List.pairwise_append.mpr ⟨receipted.distinct, List.pairwise_singleton _ _, ?_⟩
    intro a mem b isNew eventId own
    rw [List.mem_singleton.mp isNew]
    refine Bool.eq_false_iff.mpr fun new => ?_
    have isId : event.eventId = eventId := by simpa [EventRow.hasEventId, EventRow.ofEvent] using new
    rw [← isId, brings a mem] at own
    cases own

/-! ## Acknowledgements -/

/-- The row an acknowledgement finds. -/
theorem exists_row_of_checkAcknowledge {missing : Bool}
    (ok : journal.checkAcknowledge eventId serverReceipt = .ok missing) :
    ∃ (index : Nat) (row : EventRow), journal.rows[index]? = some row ∧
      row.hasEventId eventId = true ∧
      row.serverReceipt = if missing then none else some serverReceipt := by
  unfold checkAcknowledge at ok
  split at ok
  · cases ok
  cases found : journal.rows.find? (·.hasEventId eventId) with
  | none =>
    rw [found] at ok
    cases ok
  | some row =>
    rw [found] at ok
    obtain ⟨index, inside, isRow⟩ := List.mem_iff_getElem.mp (List.mem_of_find?_eq_some found)
    refine ⟨index, row, List.getElem?_eq_some_iff.mpr ⟨inside, isRow⟩,
      by simpa using List.find?_some found, ?_⟩
    cases stored : row.serverReceipt with
    | none =>
      simp only [Option.map_some, stored, Except.ok.injEq] at ok
      rw [← ok]
      rfl
    | some receipt =>
      simp only [Option.map_some, stored] at ok
      split_ifs at ok with other
      rw [← Except.ok.inj ok, not_not.mp other]
      rfl

/-- While ids are distinct, an acknowledgement is refused and changes nothing, or it is accepted and
the only row of the event has the receipt. -/
theorem Receipted.acknowledge (receipted : Receipted prims journal) (eventId : Uuid)
    (serverReceipt : String) :
    (∃ error, journal.acknowledgeEvent eventId serverReceipt = (.error error, journal)) ∨
      ∃ (index : Nat) (row : EventRow), journal.rows[index]? = some row ∧
        row.hasEventId eventId = true ∧
        (row.serverReceipt = none ∨ row.serverReceipt = some serverReceipt) ∧
        journal.acknowledgeEvent eventId serverReceipt = (.ok (), { journal with
          rows := journal.rows.set index { row with serverReceipt := some serverReceipt } }) := by
  unfold acknowledgeEvent
  cases check : journal.checkAcknowledge eventId serverReceipt with
  | error error => exact .inl ⟨error, rfl⟩
  | ok missing =>
    obtain ⟨index, row, isRow, own, isReceipt⟩ := exists_row_of_checkAcknowledge check
    refine .inr ⟨index, row, isRow, own, ?_⟩
    cases missing with
    | false =>
      have sameRow : { row with serverReceipt := some serverReceipt } = row := by
        rw [show some serverReceipt = row.serverReceipt from isReceipt.symm]
      obtain ⟨inside, rfl⟩ := List.getElem?_eq_some_iff.mp isRow
      rw [sameRow, List.set_getElem_self]
      exact ⟨.inr isReceipt, rfl⟩
    | true =>
      refine ⟨.inl isReceipt, ?_⟩
      have one : (journal.rows.filter fun row =>
          row.hasEventId eventId && row.serverReceipt.isNone).length = 1 := by
        rw [receipted.distinct.filter_eq isRow (by simp [own, isReceipt])
          fun other => by simp only [Bool.and_eq_true]; exact fun both => both.1]
        rfl
      simp only [updateReceipt, one, ne_eq, not_true_eq_false, if_false]
      rw [receipted.distinct.map_receive isRow own isReceipt]

theorem Receipted.of_acknowledge (receipted : Receipted prims journal) :
    Receipted prims (journal.acknowledgeEvent eventId serverReceipt).2 := by
  rcases journal.acknowledgeEvent_cases eventId serverReceipt with
    (⟨error, same⟩ | ⟨same, -⟩) | isReceived
  · rw [same]
    exact receipted
  · rw [same]
    exact receipted
  · rw [isReceived]
    exact ⟨receipted.chained.receive _ _, receipted.distinct.receive⟩

/-! ## Runs -/

/-- **Step.**  Whatever is admitted, stored receipts stay. -/
theorem ReceiptStep.kept (step : ReceiptStep prims admits journal journal') {index : Nat}
    (isRow : journal.rows[index]? = some row) (stored : row.serverReceipt.isSome = true) :
    journal'.rows[index]? = some row := by
  cases step with
  | append admitted ok =>
    obtain ⟨-, -, rfl⟩ := append_eq_ok ok
    obtain ⟨inside, -⟩ := List.getElem?_eq_some_iff.mp isRow
    exact (List.getElem?_append_left inside).trans isRow
  | acknowledge eventId serverReceipt =>
    rcases journal.acknowledgeEvent_cases eventId serverReceipt with
      (⟨error, same⟩ | ⟨same, -⟩) | isReceived
    · rw [same]
      exact isRow
    · rw [same]
      exact isRow
    · rw [isReceived]
      dsimp only
      rw [List.getElem?_map, isRow, Option.map_some, receive_of_isSome stored]

theorem ReceiptRun.kept (run : ReceiptRun prims admits journal journal') {index : Nat}
    (isRow : journal.rows[index]? = some row) (stored : row.serverReceipt.isSome = true) :
    journal'.rows[index]? = some row := by
  induction run with
  | refl => exact isRow
  | tail _ step ih => exact step.kept ih stored

/-- **Step.**  An event with an id of its own leaves ids distinct. -/
theorem Receipted.step (receipted : Receipted prims journal)
    (step : ReceiptStep prims BringsId journal journal') : Receipted prims journal' := by
  cases step with
  | append brings ok => exact receipted.append brings ok
  | acknowledge eventId serverReceipt => exact receipted.of_acknowledge

theorem Receipted.run (receipted : Receipted prims journal)
    (run : ReceiptRun prims BringsId journal journal') : Receipted prims journal' := by
  induction run with
  | refl => exact receipted
  | tail _ step ih => exact ih.step step

/-- Stored envelopes are read back. -/
theorem mapM_readEnvelope (stored : ∀ row ∈ rows, ∃ event, row.Stores prims event) :
    rows.mapM (readEnvelope prims) = .ok (rows.filterMap (·.publicEnvelope)) := by
  induction rows with
  | nil => rfl
  | cons row rows ih =>
    rw [List.forall_mem_cons] at stored
    obtain ⟨⟨event, stores⟩, rest⟩ := stored
    have read := readEnvelope_of_verify stores.envelope stores.1
    rw [List.mapM_cons, read, ih rest, List.filterMap_cons, stores.envelope]
    rfl

/-- The events of a run without a receipt are read in the order of their sequences. -/
theorem WellChained.pendingEvents (chained : WellChained prims journal.rows) (runId : Uuid) :
    ∃ events, journal.pendingEvents prims runId = .ok events ∧
      events.Pairwise (fun a b => a.sequence.toNat < b.sequence.toNat) ∧
      ∀ event, event ∈ events ↔ ∃ row ∈ journal.rows, row.runId = runId.hyphenated ∧
        row.serverReceipt = none ∧ row.publicEnvelope = some event := by
  have missing : ∀ row, row ∈ (journal.runRows runId).filter (·.serverReceipt.isNone) ↔
      row ∈ journal.rows ∧ row.runId = runId.hyphenated ∧ row.serverReceipt = none := by
    intro row
    rw [chained.runRows_eq, List.mem_filter, List.mem_filter, decide_eq_true_iff,
      Option.isNone_iff_eq_none, and_assoc]
  have stored : ∀ row ∈ (journal.runRows runId).filter (·.serverReceipt.isNone),
      ∃ event, row.Stores prims event := fun row mem =>
    chained.stored row ((missing row).mp mem).1
  refine ⟨_, mapM_readEnvelope stored, ?_, fun event => ?_⟩
  · have ordered := (HashChain.pairwise_seq (chained.chain runId.hyphenated)).filter
      (·.serverReceipt.isNone)
    rw [← chained.runRows_eq] at ordered
    refine List.pairwise_filterMap.mpr (ordered.imp_of_mem ?_)
    intro a b memA memB before event isEvent event' isEvent'
    obtain ⟨storedA, storesA⟩ := stored a memA
    obtain ⟨storedB, storesB⟩ := stored b memB
    rw [storesA.envelope] at isEvent
    rw [storesB.envelope] at isEvent'
    change a.sequence.toNat < b.sequence.toNat at before
    rw [storesA.sequence, storesB.sequence] at before
    obtain rfl := Option.some.inj isEvent
    obtain rfl := Option.some.inj isEvent'
    exact before
  · rw [List.mem_filterMap]
    simp only [missing, and_assoc]

/-! ## Acknowledging again -/

theorem Receipted.accepted (receipted : Receipted prims journal)
    (ok : journal.acknowledgeEvent eventId serverReceipt = (.ok (), journal')) :
    ∃ (index : Nat) (row : EventRow), journal.rows[index]? = some row ∧
      row.hasEventId eventId = true ∧
      journal' = { journal with
        rows := journal.rows.set index { row with serverReceipt := some serverReceipt } } := by
  rcases receipted.acknowledge eventId serverReceipt with
    ⟨error, failed⟩ | ⟨index, row, isRow, own, -, accepted⟩
  · rw [ok] at failed
    cases (Prod.mk.inj failed).1
  · exact ⟨index, row, isRow, own, (Prod.mk.inj (ok.symm.trans accepted)).2⟩

end CrowAgent
