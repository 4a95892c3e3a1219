import CrowAgent.Core.WriterContract

/-!
# Events reach the sink in order

`writers` is a process that makes one call of an event writer after the other and can crash at any
step.  `events_delivered_in_order` reads the invariant of the contract in every state it reaches.
-/

namespace CrowAgent

open Coroutine HashChain

variable {prims : Primitives} {r : Record}

/-! ## Any sequence of calls -/

/-- A call of a durable event writer. -/
inductive WriterCall (prims : Primitives) : Prog calls Unit → Prop
  | append (writer : DurableRunEventWriter) (cycleId : Option Uuid) (eventType : String)
      (payload privatePayload : Json) :
      WriterCall prims (writer.append prims cycleId eventType payload privatePayload |>.discard ())
  | flushPending (writer : DurableRunEventWriter) :
      WriterCall prims (writer.flushPending.discard ())

/-- One call of a writer after the other.  The process can crash at any step. -/
def writers (prims : Primitives) : Machine calls World Unit where
  toSystem := World.system prims KeepsRecord
  again := fun _ => WriterCall prims
  crash := fun _ => KeepsRecord

theorem writers_meet (prims : Primitives) :
    (writers prims).Meets (delivery prims KeepsRecord (fun _ _ same => same) fun _ _ _ => True)
      fun _ _ => True where
  system := rfl
  again := by
    rintro value prog w inv - call
    cases call with
    | append writer cycleId eventType payload privatePayload =>
      exact Act.wp_discard.mpr (Act.wp_mono inv (DurableRunEventWriter.wp_append inv)
        (fun _ _ _ _ _ => trivial) fun _ _ _ _ _ => trivial)
    | flushPending writer =>
      exact Act.wp_discard.mpr (Act.wp_mono inv (DurableRunEventWriter.wp_flushPending inv)
        (fun _ _ _ _ _ => trivial) fun _ _ _ _ _ => trivial)
  crash := fun inv keeps => ⟨Record.Delivered.keeps inv keeps, trivial⟩

/-- No run has been recorded yet. -/
def Record.Fresh (r : Record) : Prop := r.journal.rows = [] ∧ r.offers = []

theorem Record.Fresh.delivered (fresh : r.Fresh) : r.Delivered prims := by
  have rowsOf : ∀ runId, r.rowsOf runId = [] := fun runId => by rw [rowsOf, fresh.1]; rfl
  have storedOf : ∀ runId, r.storedOf runId = [] := fun runId => by rw [storedOf, fresh.2]; rfl
  refine ⟨⟨by simp [fresh.1], fun runId => by rw [fresh.1]; exact isChainFrom_nil⟩,
    by simp [fresh.1], by simp [fresh.1], fun runId => ?_, ?_⟩
  · rw [rowsOf, storedOf]
    exact .settled (by simp) rfl
  · intro before offer after split
    rw [fresh.2] at split
    simp at split

/-- **Delivery in order.**  Whatever the calls of durable event writers, the failures of the sink
and the crashes, every run is a chain of which at most one event has no receipt, the sink has stored
a first part of it, up to consecutive repeats, that covers every event with a receipt, and no event
was offered to the sink before its predecessor was stored. -/
theorem events_delivered_in_order {w₀ w : World} {thread : Thread calls Unit} (fresh : w₀.Fresh)
    (reached : Reach (writers prims) (.running (.done ()), w₀) (thread, w)) (runId : Uuid) :
    IsChainFrom rowLink 1 genesisHash (w.journal.runRows runId) ∧
      ((w.journal.runRows runId).filter (·.serverReceipt.isNone)).length ≤ 1 ∧
      (∃ m, ((w.journal.runRows runId).filter (·.serverReceipt.isSome)).length ≤ m ∧
        collapse (w.storedOf runId) = (envelopes (w.journal.runRows runId)).take m) ∧
      ∀ before offer after, w.offers = before ++ offer :: after → Preceded before offer.event := by
  have safe := (writers_meet prims).sound_between fresh.delivered trivial reached
  have delivered : w.Delivered prims := safe.inv
  rw [delivered.chained.runRows_eq]
  refine ⟨delivered.rowsChain runId, ?_⟩
  have counted : (w.rowsOf runId).length = (envelopes (w.rowsOf runId)).length := by
    have all : ∀ row ∈ w.rowsOf runId, row.publicEnvelope.isSome := by
      intro row mem
      obtain ⟨event, stores⟩ := delivered.chained.stored row (Record.Delivered.mem_rowsOf.mp mem).1
      rw [stores.envelope]
      rfl
    rw [envelopes, List.length_filterMap_eq_countP, List.countP_eq_length.mpr all]
  change ((w.rowsOf runId).filter _).length ≤ 1 ∧
    (∃ m, ((w.rowsOf runId).filter _).length ≤ m ∧ _ = (envelopes (w.rowsOf runId)).take m) ∧ _
  refine ⟨?_, ?_, delivered.order⟩
  · cases delivered.progress runId with
    | settled acked _ =>
      rw [List.filter_eq_nil_iff.mpr fun row mem => by
        simp [Option.isNone_eq_false_iff.mpr (acked row mem)]]
      exact Nat.zero_le _
    | @pending front last split acked _ _ =>
      rw [split, List.filter_append, List.filter_eq_nil_iff.mpr fun row mem => by
        simp [Option.isNone_eq_false_iff.mpr (acked row mem)], List.nil_append]
      exact List.length_filter_le ..
  · cases delivered.progress runId with
    | settled acked same =>
      refine ⟨(w.rowsOf runId).length, List.length_filter_le .., ?_⟩
      rw [counted, List.take_length]
      exact same
    | @pending front last split acked missing same =>
      have received : ((w.rowsOf runId).filter (·.serverReceipt.isSome)).length ≤ front.length := by
        rw [split, List.filter_append]
        simpa [missing] using List.length_filter_le ..
      rcases same with lacks | has
      · refine ⟨front.length, received, ?_⟩
        have sameLength : front.length = (envelopes front).length := by
          rw [split, List.length_append, envelopes_append, List.length_append] at counted
          have short : (envelopes [last]).length ≤ 1 := List.length_filterMap_le ..
          have shortFront : (envelopes front).length ≤ front.length := List.length_filterMap_le ..
          simp only [List.length_singleton] at counted
          omega
        rw [lacks, split, envelopes_append, sameLength, List.take_left]
      · refine ⟨(w.rowsOf runId).length, List.length_filter_le .., ?_⟩
        rw [counted, List.take_length]
        exact has

/-- The world before the first call. -/
def sampleWorld : World where
  journal := { rows := [], secrets := [] }
  offers := []
  drawn := []
  marks := []
  queries := []
  observed := []
  toControl := .new
  relay := .session
  clock := sampleStarted.occurredAt
  issued := []
  accepted := []
  passed := []
  reached := []
  moves := []
  changes := []
  lastTick := none

def sampleWriter : DurableRunEventWriter where
  signingKey := sampleKey
  arenaId := sampleStarted.arenaId
  runId := sampleStarted.runId

/-- The world after the sink stored the sample event and reported a failure. -/
def sampleUnacknowledged : World := { sampleWorld with
  journal := { rows := [EventRow.ofEvent sampleStarted .null], secrets := [] }
  offers := [⟨sampleStarted, true⟩]
  drawn := [sampleStarted.eventId] }

theorem sign_sampleStarted :
    RunEventEnvelopeV1.sign samplePrimitives sampleKey sampleStarted.eventId sampleStarted.arenaId
      sampleStarted.runId none 1 genesisHash "run_started" sampleStarted.occurredAt
      sampleStarted.payload = .ok sampleStarted := by
  rfl

/-- The first append of the run fails at the sink, which stored the event. -/
theorem sample_append_runs :
    (sampleWriter.append samplePrimitives none "run_started" sampleStarted.payload .null :
      Act calls Unit _ _).Runs (World.system samplePrimitives KeepsRecord) () sampleWorld
        (.error .sink) () sampleUnacknowledged := by
  have check : sampleWorld.journal.checkAppend samplePrimitives sampleStarted = .ok () := by
    simp only [EncryptedJournal.checkAppend, verify_sampleStarted]
    rfl
  have head : sampleWorld.journal.latestEventState sampleWriter.runId = .ok none := rfl
  refine runs_append_sink true rfl rfl head (by simp [sampleWorld]) sign_sampleStarted ?_
  simp only [EncryptedJournal.append, check]
  rfl

/-- The theorem at the run in which the sink stored the only event of a run without a receipt. -/
theorem sample_delivered_in_order :
    (∃ m, collapse (sampleUnacknowledged.storedOf sampleStarted.runId) =
      (envelopes (sampleUnacknowledged.journal.runRows sampleStarted.runId)).take m) ∧
      ((sampleUnacknowledged.journal.runRows sampleStarted.runId).filter
        (·.serverReceipt.isNone)).length ≤ 1 := by
  have first : Reach (writers samplePrimitives) (.running (.done ()), sampleWorld)
      (.running (sampleWriter.append samplePrimitives none "run_started" sampleStarted.payload
        .null |>.discard ()), sampleWorld) :=
    Relation.ReflTransGen.single (.again (.append ..))
  have reached : Reach (writers samplePrimitives) (.running (.done ()), sampleWorld)
      (.running (.done ()), sampleUnacknowledged) :=
    first.trans (Prog.Runs.reach sample_append_runs)
  obtain ⟨-, one, ⟨m, -, same⟩, -⟩ := events_delivered_in_order ⟨rfl, rfl⟩ reached
    sampleStarted.runId
  exact ⟨⟨m, same⟩, one⟩

end CrowAgent
