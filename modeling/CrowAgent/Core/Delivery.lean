import CrowAgent.Core.JournalChain
import CrowAgent.World
import Mathlib.Data.List.Destutter

/-!
# Delivery of journaled events

A run's events go to the sink one by one, and again after a failure.  `Record.Delivered` is the
invariant of the journal, the sink and the ids in use: every run is delivered up to its last event,
whose receipt may be missing (`Progress`).

* `destutter_concat_of_rel`, `destutter_concat_of_not_rel`: how a list without repeats grows.
* `EncryptedJournal.append_cases`, `EncryptedJournal.acknowledgeEvent_cases`: what the two calls do.
* `Record.Delivered.append`, `.acknowledge`, `.offered`: each of them keeps the invariant.
-/

namespace CrowAgent

open HashChain

/-! ## Collapsing repeats -/

section Repeats

variable {α : Type} {R : α → α → Prop} [DecidableRel R]

theorem destutter'_concat (first : α) (l : List α) (a : α) {b : α}
    (last : (l.destutter' R first).getLast? = some b) :
    (l ++ [a]).destutter' R first =
      if R b a then l.destutter' R first ++ [a] else l.destutter' R first := by
  induction l generalizing first with
  | nil =>
    simp only [List.destutter'_nil, List.getLast?_singleton, Option.some.injEq] at last
    subst last
    exact List.destutter'_singleton R
  | cons c l ih =>
    rw [List.cons_append, List.destutter'_cons, List.destutter'_cons]
    rw [List.destutter'_cons] at last
    split
    · rename_i rel
      rw [if_pos rel, List.getLast?_cons] at last
      have inner : (l.destutter' R c).getLast? = some b := by
        rw [List.getLast?_eq_some_getLast (List.destutter'_ne_nil l R)] at last ⊢
        exact last
      rw [ih c inner, apply_ite (first :: ·)]
      rfl
    · rename_i same
      rw [if_neg same] at last
      exact ih first last

/-- A new element that differs from the last one kept is kept. -/
theorem destutter_concat_of_rel {l : List α} {a : α}
    (rel : ∀ b, (l.destutter R).getLast? = some b → R b a) :
    (l ++ [a]).destutter R = l.destutter R ++ [a] := by
  cases l with
  | nil => rfl
  | cons first l =>
    rw [List.cons_append, List.destutter_cons', List.destutter_cons'] at *
    have last := List.getLast?_eq_some_getLast (List.destutter'_ne_nil l R (a := first))
    rw [destutter'_concat first l a last, if_pos (rel _ last)]

/-- A repeat of the last one kept is dropped. -/
theorem destutter_concat_of_not_rel {l : List α} {a b : α}
    (last : (l.destutter R).getLast? = some b) (same : ¬R b a) :
    (l ++ [a]).destutter R = l.destutter R := by
  cases l with
  | nil => simp at last
  | cons first l =>
    rw [List.cons_append, List.destutter_cons', List.destutter_cons'] at *
    rw [destutter'_concat first l a last, if_neg same]

end Repeats


/-! ## The record of a run -/

/-- The envelopes of rows. -/
def envelopes (rows : List EventRow) : List RunEventEnvelopeV1 := rows.filterMap (·.publicEnvelope)

/-- Two events with different ids. -/
def Differs (a b : RunEventEnvelopeV1) : Prop := a.eventId ≠ b.eventId

instance : DecidableRel Differs := fun _ _ => instDecidableNot

/-- The events without the consecutive repeats of one of them. -/
def collapse (events : List RunEventEnvelopeV1) : List RunEventEnvelopeV1 :=
  events.destutter Differs

namespace Record

/-- The rows of a run, in insertion order. -/
def rowsOf (r : Record) (runId : Uuid) : List EventRow :=
  r.journal.rows.filter (·.runId = runId.hyphenated)

/-- The events of a run that the sink stored, in the order in which it did. -/
def storedOf (r : Record) (runId : Uuid) : List RunEventEnvelopeV1 :=
  (r.offers.filter fun offer => offer.stored && offer.event.runId = runId).map (·.event)

end Record

/-- How far a run has come: every row has its receipt and the sink has every event, or the last row
waits for its receipt and the sink may lack its event. -/
inductive Progress (rows : List EventRow) (stored : List RunEventEnvelopeV1) : Prop
  | settled (acked : ∀ row ∈ rows, row.serverReceipt.isSome)
      (same : collapse stored = envelopes rows)
  | pending {front : List EventRow} {last : EventRow} (split : rows = front ++ [last])
      (acked : ∀ row ∈ front, row.serverReceipt.isSome) (missing : last.serverReceipt = none)
      (same : collapse stored = envelopes front ∨ collapse stored = envelopes rows)

/-- The event starts its run, or its predecessor was stored by one of the offers. -/
def Preceded (before : List Offer) (event : RunEventEnvelopeV1) : Prop :=
  event.sequence.toNat = 1 ∨ ∃ offer ∈ before, offer.stored = true ∧
    offer.event.runId = event.runId ∧ event.sequence.toNat = offer.event.sequence.toNat + 1 ∧
    event.previousEventSha256 = offer.event.eventSha256

/-- **Invariant.**  The journal is chained, ids are used once, every run has come as far as
`Progress` says, and no event was offered before its predecessor was stored. -/
structure Record.Delivered (prims : Primitives) (r : Record) : Prop where
  chained : WellChained prims r.journal.rows
  drawn : ∀ row ∈ r.journal.rows, ∀ id, row.hasEventId id → id ∈ r.drawn
  unique : r.journal.rows.Pairwise fun a b => ∀ id, a.hasEventId id → ¬b.hasEventId id
  progress : ∀ runId, Progress (r.rowsOf runId) (r.storedOf runId)
  order : ∀ before offer after, r.offers = before ++ offer :: after → Preceded before offer.event

variable {prims : Primitives} {r : Record} {event : RunEventEnvelopeV1} {row : EventRow}
  {rows front : List EventRow}

@[simp] theorem envelopes_append {rows' : List EventRow} :
    envelopes (rows ++ rows') = envelopes rows ++ envelopes rows' := List.filterMap_append

theorem envelopes_singleton (envelope : row.publicEnvelope = some event) :
    envelopes [row] = [event] := by
  simp [envelopes, envelope]

theorem EventRow.hasEventId_iff {id : Uuid} :
    row.hasEventId id ↔ ∃ event, row.publicEnvelope = some event ∧ event.eventId = id := by
  simp [EventRow.hasEventId, Option.any_eq_true]

theorem EventRow.receive_of_not {id : Uuid} {receipt : String} (other : ¬row.hasEventId id) :
    row.receive id receipt = row := by
  simp [EventRow.receive, other]

@[simp] theorem EventRow.publicEnvelope_receive {id : Uuid} {receipt : String} :
    (row.receive id receipt).publicEnvelope = row.publicEnvelope := by
  unfold EventRow.receive
  split <;> rfl

theorem EventRow.hasEventId_receive {id id' : Uuid} {receipt : String} :
    (row.receive id receipt).hasEventId id' = row.hasEventId id' := by
  simp [EventRow.hasEventId]

/-- After an update of its receipt a row has one. -/
theorem EventRow.isSome_receive {id : Uuid} {receipt : String} (own : row.hasEventId id) :
    (row.receive id receipt).serverReceipt.isSome := by
  unfold EventRow.receive
  cases stored : row.serverReceipt <;> simp [own, stored]

theorem EventRow.isSome_receive_of_isSome {id : Uuid} {receipt : String}
    (acked : row.serverReceipt.isSome) : (row.receive id receipt).serverReceipt.isSome := by
  unfold EventRow.receive
  split
  · rfl
  · exact acked

theorem envelopes_receive {id : Uuid} {receipt : String} :
    envelopes (rows.map (·.receive id receipt)) = envelopes rows := by
  simp [envelopes, List.filterMap_map]

/-! ## What the journal calls do -/

namespace EncryptedJournal

variable {journal : EncryptedJournal}

/-- An append fails and changes nothing, or adds the row of a checked event. -/
theorem append_cases (prims : Primitives) (journal : EncryptedJournal)
    (event : RunEventEnvelopeV1) (privatePayload : Json) :
    (∃ error, journal.append prims event privatePayload = (.error error, journal)) ∨
      (journal.checkAppend prims event = .ok () ∧
        journal.conflicts (EventRow.ofEvent event privatePayload) = false ∧
        journal.append prims event privatePayload = (.ok (), { journal with
          rows := journal.rows ++ [EventRow.ofEvent event privatePayload] })) := by
  unfold append
  cases check : journal.checkAppend prims event with
  | error error => exact .inl ⟨error, rfl⟩
  | ok done =>
    simp only [insertEvent]
    split
    · exact .inl ⟨_, rfl⟩
    · split
      · exact .inl ⟨_, rfl⟩
      · rename_i free
        exact .inr ⟨trivial, by simpa using free, rfl⟩

/-- Acknowledging fails or finds the receipt and changes nothing, or it stores the receipt. -/
theorem acknowledgeEvent_cases (journal : EncryptedJournal) (id : Uuid) (receipt : String) :
    ((∃ error, journal.acknowledgeEvent id receipt = (.error error, journal)) ∨
      (journal.acknowledgeEvent id receipt = (.ok (), journal) ∧
        ∃ row ∈ journal.rows, row.hasEventId id ∧ row.serverReceipt = some receipt)) ∨
    (journal.acknowledgeEvent id receipt).2 =
      { journal with rows := journal.rows.map (·.receive id receipt) } := by
  unfold acknowledgeEvent
  cases check : journal.checkAcknowledge id receipt with
  | error error => exact .inl (.inl ⟨error, rfl⟩)
  | ok missing =>
    cases missing with
    | true => exact .inr rfl
    | false =>
      refine .inl (.inr ⟨rfl, ?_⟩)
      simp only [checkAcknowledge] at check
      split at check
      · cases check
      · cases found : journal.rows.find? (·.hasEventId id) with
        | none => simp [found] at check
        | some row =>
          simp only [found, Option.map_some] at check
          split at check
          · cases check
          · rename_i stored
            split at check
            · cases check
            · rename_i same
              simp only [Option.some.injEq] at stored
              refine ⟨row, List.mem_of_find?_eq_some found, ?_, ?_⟩
              · simpa using List.find?_some found
              · rw [stored, not_not.mp same]
          · cases check

theorem rows_putSecret (journal : EncryptedJournal) (name : String) (value : Bytes) :
    (journal.putSecret name value).2.rows = journal.rows := by
  unfold putSecret
  split <;> rfl

theorem rows_deleteSecret (journal : EncryptedJournal) (name : String) :
    (journal.deleteSecret name).2.rows = journal.rows := by
  unfold deleteSecret
  split <;> rfl

end EncryptedJournal

/-! ## Every call keeps the invariant -/

namespace Record.Delivered

/-- The last event of a run has an id of its own. -/
theorem not_hasEventId_front (delivered : r.Delivered prims) {runId id : Uuid} {last : EventRow}
    (split : r.rowsOf runId = front ++ [last]) (own : last.hasEventId id) :
    ∀ row ∈ front, ¬row.hasEventId id := by
  intro row mem
  have pairwise := delivered.unique.filter (·.runId = runId.hyphenated)
  change (r.rowsOf runId).Pairwise _ at pairwise
  rw [split] at pairwise
  intro theirs
  exact (List.pairwise_append.mp pairwise).2.2 row mem last (by simp) id theirs own

/-- Rows with one event id are one row. -/
theorem eq_of_hasEventId (delivered : r.Delivered prims) {id : Uuid} {a b : EventRow}
    (memA : a ∈ r.journal.rows) (memB : b ∈ r.journal.rows) (ownA : a.hasEventId id)
    (ownB : b.hasEventId id) : a = b := by
  by_contra differ
  have symmetric : Std.Symm (fun a b : EventRow => ∀ id, a.hasEventId id → ¬b.hasEventId id) :=
    ⟨fun _ _ apart id own theirs => apart id theirs own⟩
  exact delivered.unique.forall memA memB differ id ownA ownB

theorem mem_rowsOf {runId : Uuid} :
    row ∈ r.rowsOf runId ↔ row ∈ r.journal.rows ∧ row.runId = runId.hyphenated := by
  simp [rowsOf]

/-- The rows of a run are its chain. -/
theorem rowsChain (delivered : r.Delivered prims) (runId : Uuid) :
    IsChainFrom rowLink 1 genesisHash (r.rowsOf runId) := delivered.chained.chain _

/-- What an append leaves behind. -/
theorem append (delivered : r.Delivered prims) {privatePayload : Json}
    (acked : ∀ row ∈ r.rowsOf event.runId, row.serverReceipt.isSome)
    (drawn : event.eventId ∈ r.drawn)
    (fresh : ∀ row ∈ r.journal.rows, ¬row.hasEventId event.eventId) :
    ({ r with journal := (r.journal.append prims event privatePayload).2 } : Record).Delivered
      prims := by
  rcases r.journal.append_cases prims event privatePayload with ⟨error, same⟩ | ⟨check, free, added⟩
  · rw [same]
    exact delivered
  · rw [added]
    obtain ⟨verified, follows⟩ := delivered.chained.follows_of_checkAppend check
    refine ⟨delivered.chained.insert verified follows ?_, ?_, ?_, ?_, delivered.order⟩
    · rintro other mem ⟨run, sequence⟩
      have taken : r.journal.conflicts (EventRow.ofEvent event privatePayload) = true :=
        List.any_eq_true.mpr ⟨other, mem, by simp [EventRow.ofEvent, run, sequence]⟩
      rw [taken] at free
      cases free
    · intro row mem id own
      rcases List.mem_append.mp mem with old | new
      · exact delivered.drawn row old id own
      · rw [List.mem_singleton.mp new] at own
        simp only [EventRow.hasEventId, EventRow.ofEvent, Option.any_some,
          decide_eq_true_eq] at own
        rw [← own]
        exact drawn
    · refine List.pairwise_append.mpr ⟨delivered.unique, List.pairwise_singleton .., ?_⟩
      rintro old mem new memNew id own theirs
      rw [List.mem_singleton.mp memNew] at theirs
      simp only [EventRow.hasEventId, EventRow.ofEvent, Option.any_some,
        decide_eq_true_eq] at theirs
      exact fresh old mem (theirs ▸ own)
    · intro runId
      have rowsEq : ({ r with journal := { r.journal with
          rows := r.journal.rows ++ [EventRow.ofEvent event privatePayload] } } :
            Record).rowsOf runId = r.rowsOf runId ++
              [EventRow.ofEvent event privatePayload].filter (·.runId = runId.hyphenated) :=
        List.filter_append ..
      change Progress (Record.rowsOf _ runId) (r.storedOf runId)
      rw [rowsEq]
      by_cases same : event.runId = runId
      · subst same
        have new : [EventRow.ofEvent event privatePayload].filter
            (·.runId = event.runId.hyphenated) = [EventRow.ofEvent event privatePayload] := by
          simp [EventRow.ofEvent]
        rw [new]
        refine .pending rfl acked rfl (.inl ?_)
        cases delivered.progress event.runId with
        | settled _ same => exact same
        | @pending front last split _ missing _ =>
          have lastAcked := acked last (by rw [split]; simp)
          rw [missing] at lastAcked
          cases lastAcked
      · have other : [EventRow.ofEvent event privatePayload].filter
            (·.runId = runId.hyphenated) = [] := by
          simp [EventRow.ofEvent, Uuid.hyphenated_injective.eq_iff, same]
        rw [other, List.append_nil]
        exact delivered.progress runId

theorem rowsOf_receive {id runId : Uuid} {receipt : String} :
    ({ r with journal := { r.journal with rows := r.journal.rows.map (·.receive id receipt) } } :
      Record).rowsOf runId = (r.rowsOf runId).map (·.receive id receipt) :=
  filter_runId_receive ..

/-- What storing a receipt leaves behind, when the sink has the event. -/
theorem acknowledge (delivered : r.Delivered prims) {id runId : Uuid} {receipt : String}
    {last : EventRow} (split : r.rowsOf runId = front ++ [last]) (own : last.hasEventId id)
    (sent : collapse (r.storedOf runId) = envelopes (r.rowsOf runId)) :
    ({ r with journal := (r.journal.acknowledgeEvent id receipt).2 } : Record).Delivered prims := by
  rcases r.journal.acknowledgeEvent_cases id receipt with (⟨error, same⟩ | ⟨same, -⟩) | updated
  · rw [same]
    exact delivered
  · rw [same]
    exact delivered
  · rw [updated]
    refine ⟨delivered.chained.receive id receipt, ?_, ?_, ?_, delivered.order⟩
    · intro row mem id' own'
      obtain ⟨old, memOld, rfl⟩ := List.mem_map.mp mem
      rw [EventRow.hasEventId_receive] at own'
      exact delivered.drawn old memOld id' own'
    · refine List.pairwise_map.mpr (delivered.unique.imp ?_)
      intro a b apart id' ownA
      rw [EventRow.hasEventId_receive] at ownA ⊢
      exact apart id' ownA
    · intro runId'
      rw [rowsOf_receive]
      change Progress _ (r.storedOf runId')
      have memLast : last ∈ r.rowsOf runId := by rw [split]; simp
      by_cases same : runId' = runId
      · subst same
        have ackedFront : ∀ row ∈ front, row.serverReceipt.isSome := by
          intro row mem
          cases delivered.progress runId' with
          | settled acked _ => exact acked row (by rw [split]; simp [mem])
          | pending split' acked _ _ =>
            rw [split] at split'
            obtain ⟨rfl, -⟩ := List.append_inj' split' rfl
            exact acked row mem
        refine .settled ?_ (by rw [envelopes_receive]; exact sent)
        intro row mem
        obtain ⟨old, memOld, rfl⟩ := List.mem_map.mp mem
        rw [split] at memOld
        rcases List.mem_append.mp memOld with inFront | isLast
        · exact EventRow.isSome_receive_of_isSome (ackedFront old inFront)
        · rw [List.mem_singleton.mp isLast]
          exact EventRow.isSome_receive own
      · have untouched : (r.rowsOf runId').map (·.receive id receipt) = r.rowsOf runId' := by
          refine (List.map_congr_left fun row mem => ?_).trans (List.map_id _)
          refine EventRow.receive_of_not fun theirs => same ?_
          have equal := delivered.eq_of_hasEventId (mem_rowsOf.mp mem).1 (mem_rowsOf.mp memLast).1
            theirs own
          have run := (mem_rowsOf.mp mem).2
          rw [equal, (mem_rowsOf.mp memLast).2] at run
          exact (Uuid.hyphenated_injective run).symm
        rw [untouched]
        exact delivered.progress runId'

end Record.Delivered

namespace Record

/-- The event is the last one of its run, and its receipt is still missing. -/
def Awaiting (r : Record) (event : RunEventEnvelopeV1) : Prop :=
  ∃ front last, r.rowsOf event.runId = front ++ [last] ∧ last.publicEnvelope = some event ∧
    last.serverReceipt = none

/-- The record after an event was sent. -/
def offered (r : Record) (event : RunEventEnvelopeV1) (stored : Bool) : Record :=
  { r with offers := r.offers ++ [⟨event, stored⟩] }

theorem storedOf_offered (r : Record) (event : RunEventEnvelopeV1) (stored : Bool) (runId : Uuid) :
    (r.offered event stored).storedOf runId =
      r.storedOf runId ++ if stored = true ∧ event.runId = runId then [event] else [] := by
  simp only [storedOf, offered, List.filter_append, List.map_append]
  congr 1
  by_cases both : stored = true ∧ event.runId = runId <;> simp [both]

namespace Delivered

/-- The sink's collapsed history after it stored the last event of a run. -/
theorem collapse_sent (delivered : r.Delivered prims) (awaiting : r.Awaiting event) :
    collapse (r.storedOf event.runId ++ [event]) = envelopes (r.rowsOf event.runId) := by
  obtain ⟨front, last, split, envelope, missing⟩ := awaiting
  have own : last.hasEventId event.eventId := EventRow.hasEventId_iff.mpr ⟨event, envelope, rfl⟩
  have events : envelopes (r.rowsOf event.runId) = envelopes front ++ [event] := by
    rw [split, envelopes_append, envelopes_singleton envelope]
  have reached : collapse (r.storedOf event.runId) = envelopes front ∨
      collapse (r.storedOf event.runId) = envelopes front ++ [event] := by
    cases delivered.progress event.runId with
    | settled acked _ =>
      have lastAcked := acked last (by rw [split]; simp)
      rw [missing] at lastAcked
      cases lastAcked
    | pending split' _ _ same =>
      rw [← events]
      rw [split] at split'
      obtain ⟨rfl, -⟩ := List.append_inj' split' rfl
      exact same
  rw [events]
  rcases reached with lacks | has
  · rw [← lacks]
    refine destutter_concat_of_rel fun before isLast => ?_
    change (collapse (r.storedOf event.runId)).getLast? = some before at isLast
    rw [lacks] at isLast
    obtain ⟨row, mem, theirs⟩ := List.mem_filterMap.mp (List.mem_of_getLast? isLast)
    intro same
    exact delivered.not_hasEventId_front split own row mem
      (EventRow.hasEventId_iff.mpr ⟨before, theirs, same⟩)
  · rw [← has]
    refine destutter_concat_of_not_rel (b := event) ?_ (not_not.mpr rfl)
    change (collapse (r.storedOf event.runId)).getLast? = some event
    rw [has, List.getLast?_concat]

/-- The predecessor of the last event of a run was stored. -/
theorem preceded (delivered : r.Delivered prims) (awaiting : r.Awaiting event) :
    Preceded r.offers event := by
  obtain ⟨front, last, split, envelope, missing⟩ := awaiting
  have chain := delivered.rowsChain event.runId
  rw [split] at chain
  obtain ⟨chainFront, sequence, previous⟩ := isChainFrom_concat.mp chain
  obtain ⟨stored, stores⟩ := delivered.chained.stored last
    (mem_rowsOf.mp (by rw [split]; simp : last ∈ r.rowsOf event.runId)).1
  obtain rfl : stored = event := Option.some.inj (stores.envelope.symm.trans envelope)
  change last.sequence.toNat = _ at sequence
  change last.previousEventSha256 = _ at previous
  rw [stores.sequence, Int.toNat_natCast] at sequence
  rw [stores.previous] at previous
  rcases List.eq_nil_or_concat front with rfl | ⟨init, pred, rfl⟩
  · exact .inl sequence
  · rw [List.concat_eq_append] at *
    have memPred : pred ∈ r.rowsOf stored.runId := by rw [split]; simp
    obtain ⟨predEvent, predStores⟩ := delivered.chained.stored pred (mem_rowsOf.mp memPred).1
    obtain ⟨-, predSequence, -⟩ := isChainFrom_concat.mp chainFront
    change pred.sequence.toNat = _ at predSequence
    rw [predStores.sequence, Int.toNat_natCast] at predSequence
    rw [lastHash_concat] at previous
    rw [List.length_append, List.length_singleton] at sequence
    have inSink : predEvent ∈ r.storedOf stored.runId := by
      have inFront : predEvent ∈ envelopes (init ++ [pred]) :=
        List.mem_filterMap.mpr ⟨pred, by simp, predStores.envelope⟩
      refine (List.destutter_sublist Differs _).subset ?_
      change predEvent ∈ collapse (r.storedOf stored.runId)
      cases delivered.progress stored.runId with
      | settled _ same =>
        rw [same, split, envelopes_append]
        exact List.mem_append_left _ inFront
      | pending split' _ _ same =>
        rw [split] at split'
        obtain ⟨rfl, -⟩ := List.append_inj' split' rfl
        rcases same with same | same
        · rw [same]
          exact inFront
        · rw [same, split, envelopes_append]
          exact List.mem_append_left _ inFront
    simp only [storedOf, List.mem_map, List.mem_filter, Bool.and_eq_true,
      decide_eq_true_eq] at inSink
    obtain ⟨offer, ⟨mem, kept, run⟩, rfl⟩ := inSink
    exact .inr ⟨offer, mem, kept, run, by omega, previous.trans predStores.hash⟩

/-- What sending the last event of a run leaves behind. -/
theorem offered (delivered : r.Delivered prims) (awaiting : r.Awaiting event) (stored : Bool) :
    (r.offered event stored).Delivered prims := by
  refine ⟨delivered.chained, delivered.drawn, delivered.unique, ?_, ?_⟩
  · intro runId
    rw [storedOf_offered]
    change Progress (r.rowsOf runId) _
    by_cases both : stored = true ∧ event.runId = runId
    · rw [if_pos both, ← both.2]
      have sent := delivered.collapse_sent awaiting
      cases delivered.progress event.runId with
      | settled acked same => exact .settled acked sent
      | pending split acked missing same => exact .pending split acked missing (.inr sent)
    · rw [if_neg both, List.append_nil]
      exact delivered.progress runId
  · intro before offer after split
    rcases List.eq_nil_or_concat after with rfl | ⟨init, final, rfl⟩
    · obtain ⟨rfl, equal⟩ := List.append_inj' split rfl
      rw [← (List.cons.inj equal).1]
      exact delivered.preceded awaiting
    · rw [List.concat_eq_append, ← List.cons_append, ← List.append_assoc] at split
      obtain ⟨front, -⟩ := List.append_inj' split rfl
      exact delivered.order before offer init front

end Delivered

end Record

end CrowAgent
