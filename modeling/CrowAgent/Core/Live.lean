import CrowAgent.World

/-!
# The durable event writer

`append` journals a signed event before it is sent, and `flushPending` sends what is still without a
receipt; every append flushes first.
-/

namespace CrowAgent

open Coroutine

variable {σ ε : Type}

/-- A call of the journal whose error is converted. -/
def askJournal (convert : JournalError → ε) (call : JournalCall) : Act calls σ ε call.Value := do
  Act.ofExcept convert (← ask (.journal call))

/-- A call of the venue whose error is converted. -/
def askVenue (convert : HyperliquidError → ε) (call : VenueCall) : Act calls σ ε call.Value := do
  Act.ofExcept convert (← ask (.venue call))

inductive DurableRunEventError : Type
  | journal (error : JournalError)
  | protocol (error : ProtocolError)
  | sink
  deriving DecidableEq, Repr

structure DurableRunEventWriter : Type where
  signingKey : FixedBytes 32
  arenaId : Uuid
  runId : Uuid

namespace DurableRunEventWriter

/-- Send an event to the sink. -/
def offer (event : RunEventEnvelopeV1) : Act calls σ DurableRunEventError String := do
  Act.ofExcept (fun _ => .sink) (← ask (.appendEvent event))

/-- Send an event and store the receipt. -/
def deliver (event : RunEventEnvelopeV1) : Act calls σ DurableRunEventError String := do
  let receipt ← offer event
  askJournal .journal (.acknowledgeEvent event.eventId receipt)
  return receipt

/-- The loop of `flush_pending`. -/
def deliverAll (acknowledged : Nat) :
    List RunEventEnvelopeV1 → Act calls σ DurableRunEventError Nat
  | [] => pure acknowledged
  | event :: pending => do
    let _ ← deliver event
    deliverAll (acknowledged + 1) pending

def flushPending (writer : DurableRunEventWriter) : Act calls σ DurableRunEventError Nat := do
  let pending ← askJournal .journal (.pendingEvents writer.runId)
  deliverAll 0 pending

def putLocalSecret (name : String) (value : Bytes) : Act calls σ DurableRunEventError Unit :=
  askJournal .journal (.putSecret name value)

/-- The sequence and the previous hash of the next event. -/
def nextState : Option (UInt64 × String) → UInt64 × String
  | none => (1, genesisHash)
  | some (sequence, hash) => (if sequence.toNat + 1 < 2 ^ 64 then sequence + 1 else sequence, hash)

def append (prims : Primitives) (writer : DurableRunEventWriter) (cycleId : Option Uuid)
    (eventType : String) (payload privatePayload : Json) :
    Act calls σ DurableRunEventError RunEventEnvelopeV1 := do
  let _ ← writer.flushPending
  let latest ← askJournal .journal (.latestEventState writer.runId)
  let (sequence, previousEventSha256) := nextState latest
  let occurredAt ← ask .nowUtc
  let eventId ← ask .newV4
  let event ← Act.ofExcept .protocol (RunEventEnvelopeV1.sign prims writer.signingKey eventId
    writer.arenaId writer.runId cycleId sequence previousEventSha256 eventType occurredAt payload)
  askJournal .journal (.append event privatePayload)
  let receipt ← deliver event
  return event.withServerReceipt receipt

end DurableRunEventWriter

/-! ## Runs -/

/-- A call can be answered without others acting in between. -/
theorem runs_ask {prims : Primitives} {env : World → World → Prop} {σ ε : Type} {locals : σ}
    {w w₁ w' : World} (op : Op) (answer : op.Res) (begins : World.Begins op w w₁)
    (polled : World.Polled op w₁) (answers : World.Answers prims op w₁ answer w') :
    (ask op : Act calls σ ε op.Res).Runs (World.system prims env) locals w (.ok answer) locals w' := by
  refine Act.Runs.perform begins ?_ ⟨polled, answers⟩
  unfold System.Between
  split
  · exact .refl
  · rfl

/-- A journal call can have the result the tables decide. -/
theorem runs_askJournal {prims : Primitives} {env : World → World → Prop} {σ ε : Type} {locals : σ}
    {convert : JournalError → ε} {call : JournalCall} {value : call.Value} {w : World}
    {journal : EncryptedJournal} (result : call.run prims w.journal = (.ok value, journal)) :
    (askJournal convert call : Act calls σ ε call.Value).Runs (World.system prims env) locals w
      (.ok value) locals { w with journal } := by
  have asked : (ask (.journal call) : Act calls σ ε _).Runs (World.system prims env) locals w
      (.ok (.ok value)) locals { w with journal } :=
    runs_ask _ _ rfl nofun (.inl ⟨by rw [result], by rw [result]⟩)
  exact Act.Runs.bind asked Act.Runs.pure

/-- A secret can be stored. -/
theorem runs_putSecret {prims : Primitives} {env : World → World → Prop} {σ ε : Type} {locals : σ}
    {convert : JournalError → ε} {name : String} {value : Bytes} {w : World} (named : name ≠ "") :
    (askJournal convert (.putSecret name value) : Act calls σ ε Unit).Runs (World.system prims env)
      locals w (.ok ()) locals { w with journal := (w.journal.putSecret name value).2 } := by
  have ok : (w.journal.putSecret name value).1 = .ok () := by
    rw [EncryptedJournal.putSecret, if_neg named]
  exact runs_askJournal (Prod.ext ok rfl)

/-- An append can journal the event it signs and fail at the sink, which may still store it; the clock
shows what it showed before. -/
theorem runs_append_sink {prims : Primitives} {env : World → World → Prop} {σ : Type} {locals : σ}
    {writer : DurableRunEventWriter} {cycleId : Option Uuid} {eventType : String}
    {payload privatePayload : Json} {w : World} {latest : Option (UInt64 × String)}
    {eventId : Uuid} {event : RunEventEnvelopeV1} {journal : EncryptedJournal} (stored : Bool)
    (polled : w.relay = .session) (flushed : w.journal.pendingEvents prims writer.runId = .ok [])
    (head : w.journal.latestEventState writer.runId = .ok latest) (new : eventId ∉ w.drawn)
    (signed : RunEventEnvelopeV1.sign prims writer.signingKey eventId writer.arenaId writer.runId
      cycleId (DurableRunEventWriter.nextState latest).1 (DurableRunEventWriter.nextState latest).2
      eventType w.clock payload = .ok event)
    (added : w.journal.append prims event privatePayload = (.ok (), journal)) :
    (writer.append prims cycleId eventType payload privatePayload :
      Act calls σ _ _).Runs (World.system prims env) locals w (.error .sink) locals
        { w with journal, offers := w.offers ++ [⟨event, stored⟩], drawn := eventId :: w.drawn } := by
  have pending : (JournalCall.pendingEvents writer.runId).run prims w.journal =
      (.ok [], w.journal) := Prod.ext flushed rfl
  have state : (JournalCall.latestEventState writer.runId).run prims w.journal =
      (.ok latest, w.journal) := Prod.ext head rfl
  refine Act.Runs.bind (Act.Runs.bind (runs_askJournal pending) Act.Runs.pure) ?_
  refine Act.Runs.bind (runs_askJournal state) ?_
  refine Act.Runs.bind (runs_ask .nowUtc w.clock rfl nofun rfl) ?_
  refine Act.Runs.bind (runs_ask .newV4 eventId rfl nofun ⟨new, rfl⟩) ?_
  refine Act.Runs.bind (Act.Runs.ofExcept signed) (Act.Runs.bind (runs_askJournal added) ?_)
  have failed : (ask (.appendEvent event) : Act calls σ DurableRunEventError _).Runs
      (World.system prims env) locals { w with journal, drawn := eventId :: w.drawn }
      (.ok (.error ())) locals
      { w with journal, offers := w.offers ++ [⟨event, stored⟩], drawn := eventId :: w.drawn } :=
    runs_ask _ _ ⟨stored, rfl⟩ (fun _ => polled) ⟨rfl, fun contra => nomatch contra⟩
  exact Act.Runs.bind_error (Act.Runs.bind_error (Act.Runs.bind failed Prog.Runs.done))

end CrowAgent
