import CrowAgent.Core.Delivery
import CrowAgent.Core.JournalHistory
import CrowAgent.Core.Live

/-!
# The contract of the event writer

`delivery` is the contract every program that records a run is proved under: the record stays
delivered, and a call of the journal or the sink is made only when `Allowed` says so.  The writer
meets it: `wp_deliver`, `wp_flushPending` and `wp_append` say what its calls leave behind.
-/

namespace CrowAgent

open Coroutine HashChain

variable {prims : Primitives} {r : Record} {event : RunEventEnvelopeV1}

/-! ## The contract of the writers -/

/-- What has to hold for a call that touches the record; `submit` is for the venue's orders. -/
def Allowed (submit : OrderDecision → String → World → Prop) (op : Op) (w : World) : Prop :=
  match op with
  | .journal (.append event _) =>
    (∀ row ∈ w.rowsOf event.runId, row.serverReceipt.isSome) ∧ event.eventId ∈ w.drawn ∧
      ∀ row ∈ w.journal.rows, ¬row.hasEventId event.eventId
  | .journal (.acknowledgeEvent id _) =>
    ∃ runId front last, w.rowsOf runId = front ++ [last] ∧ last.hasEventId id ∧
      collapse (w.storedOf runId) = envelopes (w.rowsOf runId)
  | .appendEvent event => w.Awaiting event
  | .venue (.submitIoc order clientOrderId) => submit order clientOrderId w
  | _ => True

/-- Others keep secrets and draw ids, and leave the runs alone. -/
structure KeepsRecord (w w' : World) : Prop where
  rows : w'.journal.rows = w.journal.rows
  offers : w'.offers = w.offers
  drawn : w.drawn ⊆ w'.drawn
  marks : w'.marks = w.marks

namespace KeepsRecord

variable {w w' w'' : World}

theorem refl (w : World) : KeepsRecord w w := ⟨rfl, rfl, List.Subset.refl _, rfl⟩

theorem trans (first : KeepsRecord w w') (second : KeepsRecord w' w'') : KeepsRecord w w'' :=
  ⟨second.rows.trans first.rows, second.offers.trans first.offers,
    List.Subset.trans first.drawn second.drawn, second.marks.trans first.marks⟩

theorem rowsOf (keeps : KeepsRecord w w') (runId : Uuid) : w'.rowsOf runId = w.rowsOf runId := by
  rw [Record.rowsOf, keeps.rows, Record.rowsOf]

theorem storedOf (keeps : KeepsRecord w w') (runId : Uuid) :
    w'.storedOf runId = w.storedOf runId := by
  rw [Record.storedOf, keeps.offers, Record.storedOf]

/-- So do any number of steps of others. -/
theorem of_steps {env : World → World → Prop} (quiet : ∀ w w', env w w' → KeepsRecord w w')
    (steps : Relation.ReflTransGen env w w') : KeepsRecord w w' := by
  induction steps with
  | refl => exact refl w
  | tail _ step ih => exact ih.trans (quiet _ _ step)

end KeepsRecord

/-- The invariant looks at the rows, the offers and the ids in use. -/
theorem Record.Delivered.of_rows_eq {r' : Record} (inv : r.Delivered prims)
    (rows : r'.journal.rows = r.journal.rows) (offers : r'.offers = r.offers)
    (drawn : r.drawn ⊆ r'.drawn) : r'.Delivered prims := by
  have rowsOf : ∀ runId, r'.rowsOf runId = r.rowsOf runId := fun runId => by
    rw [Record.rowsOf, rows, Record.rowsOf]
  have storedOf : ∀ runId, r'.storedOf runId = r.storedOf runId := fun runId => by
    rw [Record.storedOf, offers, Record.storedOf]
  refine ⟨rows ▸ inv.chained, ?_, rows ▸ inv.unique, ?_, offers ▸ inv.order⟩
  · rw [rows]
    exact fun row mem id own => drawn (inv.drawn row mem id own)
  · intro runId
    rw [rowsOf, storedOf]
    exact inv.progress runId

theorem Record.Delivered.keeps {w w' : World} (inv : w.Delivered prims)
    (keeps : KeepsRecord w w') : w'.Delivered prims :=
  inv.of_rows_eq keeps.rows keeps.offers keeps.drawn

/-- The contract under which the record of every run stays delivered in order. -/
def delivery (prims : Primitives) (env : World → World → Prop)
    (quiet : ∀ w w', env w w' → KeepsRecord w w')
    (submit : OrderDecision → String → World → Prop) : Contract calls World where
  sys := World.system prims env
  inv := fun w => w.Delivered prims
  pre := Allowed submit
  rely := Relation.ReflTransGen env
  rely_refl := fun _ => .refl
  rely_trans := fun first second => first.trans second
  env_rely := fun {w w'} inv acts => ⟨.single acts, inv.keeps (quiet w w' acts)⟩

section Contract

variable {env : World → World → Prop} {quiet : ∀ w w', env w w' → KeepsRecord w w'}
  {submit : OrderDecision → String → World → Prop} {w w' : World} {op : Op}

/-- Making a call leaves the journal alone. -/
theorem World.Begins.journal (begins : World.Begins op w w') : w'.journal = w.journal := by
  unfold World.Begins at begins
  split at begins
  · obtain ⟨stored, rfl⟩ := begins
    rfl
  · rw [begins]
    rfl
  · rw [begins]

/-- A call that is answered at once does nothing before. -/
theorem World.Begins.eq_of_sync (begins : World.Begins op w w') (sync : op.awaits = false) :
    w' = w := by
  cases op with
  | appendEvent event => cases sync
  | venue call =>
    cases call with
    | submitIoc order clientOrderId => cases sync
    | _ => exact begins
  | _ => exact begins

/-- The answers of all calls but two leave the journal, the offers and the ids alone. -/
theorem World.Answers.tables {answer : op.Res} (answers : World.Answers prims op w answer w')
    (notJournal : ∀ call, op ≠ .journal call) (notNew : op ≠ .newV4) :
    w'.journal = w.journal ∧ w'.offers = w.offers ∧ w'.drawn = w.drawn := by
  cases op with
  | journal call => exact absurd rfl (notJournal call)
  | newV4 => exact absurd rfl notNew
  | appendEvent event =>
    rw [answers.1]
    exact ⟨rfl, rfl, rfl⟩
  | orderPermitted =>
    rw [answers.2]
    exact ⟨rfl, rfl, rfl⟩
  | shared call =>
    rw [answers.2]
    exact ⟨rfl, rfl, rfl⟩
  | applyRemote command =>
    rw [answers.2]
    exact ⟨rfl, rfl, rfl⟩
  | panic => exact answer.elim
  | exit => exact answer.elim
  | _ =>
    rw [show w' = _ from answers]
    exact ⟨rfl, rfl, rfl⟩

/-- Making a call keeps the invariant. -/
theorem Record.Delivered.begins (inv : w.Delivered prims) (allowed : Allowed submit op w)
    (begins : World.Begins op w w') : w'.Delivered prims := by
  unfold World.Begins at begins
  split at begins
  · obtain ⟨stored, rfl⟩ := begins
    exact inv.offered allowed stored
  · rw [begins]
    exact inv.of_rows_eq rfl rfl (List.Subset.refl _)
  · rw [begins]
    exact inv

/-- So does the answer. -/
theorem Record.Delivered.answers (inv : w.Delivered prims)
    (allowed : op.awaits = false → Allowed submit op w) {answer : op.Res}
    (answers : World.Answers prims op w answer w') : w'.Delivered prims := by
  by_cases isJournal : ∃ call, op = .journal call
  · obtain ⟨call, rfl⟩ := isJournal
    rcases answers with ⟨-, rfl⟩ | ⟨error, -, -, rfl⟩
    · have allowed := allowed rfl
      cases call with
      | append event privatePayload =>
        exact inv.append allowed.1 allowed.2.1 allowed.2.2
      | acknowledgeEvent id receipt =>
        obtain ⟨runId, front, last, split, own, sent⟩ := allowed
        exact inv.acknowledge split own sent
      | putSecret name value =>
        exact inv.of_rows_eq (w.journal.rows_putSecret name value) rfl (List.Subset.refl _)
      | deleteSecret name =>
        exact inv.of_rows_eq (w.journal.rows_deleteSecret name) rfl (List.Subset.refl _)
      | _ => exact inv
    · exact inv
  · by_cases isNew : op = .newV4
    · subst isNew
      rw [answers.2]
      exact inv.of_rows_eq rfl rfl (List.subset_cons_self ..)
    · obtain ⟨journal, offers, drawn⟩ := World.Answers.tables answers
        (fun call same => isJournal ⟨call, same⟩) isNew
      exact inv.of_rows_eq (congrArg EncryptedJournal.rows journal) offers
        (by rw [drawn]; exact List.Subset.refl _)

variable {σ ε : Type} {locals : σ}

/-- The rule for a call that is answered at once. -/
theorem calls_sync {Q : op.Res → World → Prop} (sync : op.awaits = false)
    (inv : w.Delivered prims) (allowed : Allowed submit op w)
    (ok : ∀ answer w', World.Answers prims op w answer w' → w'.Delivered prims → Q answer w') :
    (delivery prims env quiet submit).Calls op Q w := by
  refine ⟨allowed, fun w₁ begins => ?_⟩
  obtain rfl : w₁ = w := World.Begins.eq_of_sync begins sync
  refine ⟨inv, fun w₂ between inv₂ answer w₃ answers => ?_⟩
  have quiet : w₂ = w₁ := by
    unfold Contract.Meanwhile at between
    rw [if_neg (by rw [show calls.awaits op = op.awaits from rfl, sync]; simp)] at between
    exact between
  subst quiet
  have inv₃ := inv.answers (fun _ => allowed) answers.2
  exact ⟨inv₃, ok answer w₃ answers.2 inv₃⟩

/-- The rule for a call that others can act in. -/
theorem calls_await {Q : op.Res → World → Prop} (await : op.awaits = true)
    (inv : w.Delivered prims) (allowed : Allowed submit op w)
    (ok : ∀ w₁ w₂ answer w', World.Begins op w w₁ → Relation.ReflTransGen env w₁ w₂ →
      World.Answers prims op w₂ answer w' → w'.Delivered prims → Q answer w') :
    (delivery prims env quiet submit).Calls op Q w := by
  refine ⟨allowed, fun w₁ begins => ⟨inv.begins allowed begins, ?_⟩⟩
  intro w₂ between inv₂ answer w₃ answers
  have steps : Relation.ReflTransGen env w₁ w₂ := by
    unfold Contract.Meanwhile at between
    rw [if_pos (show calls.awaits op = true from await)] at between
    exact between
  have sync : op.awaits = false → Allowed submit op w₂ := by
    intro sync
    rw [await] at sync
    cases sync
  have inv₃ : w₃.Delivered prims := inv₂.answers sync answers.2
  exact ⟨inv₃, ok w₁ w₂ answer w₃ begins steps answers.2 inv₃⟩

/-- The rule for a call of the journal. -/
theorem wp_askJournal {convert : JournalError → ε} {call : JournalCall}
    {ok : call.Value → σ → World → Prop} {err : ε → σ → World → Prop}
    (inv : w.Delivered prims) (allowed : Allowed submit (.journal call) w)
    (onOk : ∀ value w', (call.run prims w.journal).1 = .ok value →
      w' = { w with journal := (call.run prims w.journal).2 } → w'.Delivered prims →
        ok value locals w')
    (onErr : ∀ error w', w'.Delivered prims → err (convert error) locals w') :
    (askJournal convert call : Act calls σ ε call.Value).wp (delivery prims env quiet submit) ok err
      locals w := by
  refine Act.wp_bind.mpr (wp_ask.mpr (calls_sync rfl inv allowed fun answer w' answers inv' => ?_))
  refine Act.wp_ofExcept.mpr ?_
  rcases answers with ⟨rfl, rfl⟩ | ⟨error, -, rfl, rfl⟩
  · split
    · rename_i value result
      exact onOk value _ result rfl inv'
    · exact onErr _ _ inv'
  · exact onErr _ _ inv'

/-- The rule for a call that only reads the journal. -/
theorem wp_readJournal {convert : JournalError → ε} {call : JournalCall}
    {ok : call.Value → σ → World → Prop} {err : ε → σ → World → Prop}
    (inv : w.Delivered prims) (allowed : Allowed submit (.journal call) w)
    (reads : (call.run prims w.journal).2 = w.journal)
    (onOk : ∀ value, (call.run prims w.journal).1 = .ok value → ok value locals w)
    (onErr : ∀ error, err (convert error) locals w) :
    (askJournal convert call : Act calls σ ε call.Value).wp (delivery prims env quiet submit) ok err
      locals w := by
  refine Act.wp_bind.mpr (wp_ask.mpr (calls_sync rfl inv allowed fun answer w' answers inv' => ?_))
  refine Act.wp_ofExcept.mpr ?_
  rcases answers with ⟨rfl, rfl⟩ | ⟨error, -, rfl, rfl⟩
  · rw [reads]
    split
    · rename_i value result
      exact onOk value result
    · exact onErr _
  · exact onErr _

/-! ## Delivering an event -/

namespace Record

/-- Every row of the run has its receipt. -/
def Settled (r : Record) (runId : Uuid) : Prop :=
  ∀ row ∈ r.rowsOf runId, row.serverReceipt.isSome

/-- The event is journaled with a receipt. -/
def Acknowledged (prims : Primitives) (r : Record) (event : RunEventEnvelopeV1)
    (receipt : String) : Prop :=
  ∃ row ∈ r.journal.rows, row.Stores prims event ∧ row.serverReceipt = some receipt

/-- The sink stored the last event of the run, whose receipt is still missing. -/
def Sent (r : Record) (event : RunEventEnvelopeV1) : Prop :=
  r.Awaiting event ∧ collapse (r.storedOf event.runId) = envelopes (r.rowsOf event.runId)

theorem Delivered.allowed_acknowledge {w : World} (sent : w.Sent event) {receipt : String} :
    Allowed submit (.journal (.acknowledgeEvent event.eventId receipt)) w := by
  obtain ⟨⟨front, last, split, envelope, -⟩, all⟩ := sent
  exact ⟨event.runId, front, last, split, EventRow.hasEventId_iff.mpr ⟨event, envelope, rfl⟩, all⟩

/-- What a stored receipt leaves behind. -/
theorem Delivered.acknowledged (delivered : r.Delivered prims) (sent : r.Sent event)
    {receipt : String}
    (ok : (r.journal.acknowledgeEvent event.eventId receipt).1 = .ok ()) {r' : Record}
    (after : r' = { r with journal := (r.journal.acknowledgeEvent event.eventId receipt).2 }) :
    r'.Settled event.runId ∧ r'.Acknowledged prims event receipt := by
  obtain ⟨⟨front, last, split, envelope, missing⟩, all⟩ := sent
  have memLast : last ∈ r.rowsOf event.runId := by rw [split]; simp
  have own : last.hasEventId event.eventId := EventRow.hasEventId_iff.mpr ⟨event, envelope, rfl⟩
  obtain ⟨stored, stores⟩ := delivered.chained.stored last (mem_rowsOf.mp memLast).1
  obtain rfl : stored = event := Option.some.inj (stores.envelope.symm.trans envelope)
  rcases r.journal.acknowledgeEvent_cases stored.eventId receipt with
    (⟨error, failed⟩ | ⟨-, row, mem, theirs, has⟩) | updated
  · rw [failed] at ok
    cases ok
  · rw [delivered.eq_of_hasEventId mem (mem_rowsOf.mp memLast).1 theirs own, missing] at has
    cases has
  · rw [updated] at after
    subst after
    have received : (last.receive stored.eventId receipt).serverReceipt = some receipt := by
      simp [EventRow.receive, own, missing]
    refine ⟨?_, last.receive stored.eventId receipt, ?_, stores.receive _ _, received⟩
    · intro row mem
      rw [Delivered.rowsOf_receive] at mem
      obtain ⟨old, memOld, rfl⟩ := List.mem_map.mp mem
      by_cases theirs : old.hasEventId stored.eventId
      · exact EventRow.isSome_receive theirs
      · refine EventRow.isSome_receive_of_isSome ?_
        cases delivered.progress stored.runId with
        | settled acked _ => exact acked old memOld
        | @pending front' last' split' acked _ _ =>
          rw [split'] at memOld
          rcases List.mem_append.mp memOld with inFront | isLast
          · exact acked old inFront
          · rw [split] at split'
            obtain ⟨-, equal⟩ := List.append_inj' split' rfl
            rw [List.mem_singleton.mp isLast, ← (List.cons.inj equal).1] at theirs
            exact absurd own theirs
    · exact List.mem_map_of_mem (mem_rowsOf.mp memLast).1

/-- What `pending_events` finds. -/
theorem Delivered.pending_cases (delivered : r.Delivered prims) {runId : Uuid}
    {pending : List RunEventEnvelopeV1} (ok : r.journal.pendingEvents prims runId = .ok pending) :
    (pending = [] ∧ r.Settled runId) ∨
      ∃ event, pending = [event] ∧ event.runId = runId ∧ r.Awaiting event := by
  unfold EncryptedJournal.pendingEvents at ok
  rw [delivered.chained.runRows_eq] at ok
  change ((r.rowsOf runId).filter (·.serverReceipt.isNone)).mapM _ = _ at ok
  cases delivered.progress runId with
  | settled acked _ =>
    have none : (r.rowsOf runId).filter (·.serverReceipt.isNone) = [] :=
      List.filter_eq_nil_iff.mpr fun row mem => by
        simp [Option.isNone_eq_false_iff.mpr (acked row mem)]
    rw [none] at ok
    cases ok
    exact .inl ⟨rfl, acked⟩
  | @pending front last split acked missing _ =>
    have one : (r.rowsOf runId).filter (·.serverReceipt.isNone) = [last] := by
      have rest : front.filter (·.serverReceipt.isNone) = [] :=
        List.filter_eq_nil_iff.mpr fun row mem => by
          simp [Option.isNone_eq_false_iff.mpr (acked row mem)]
      rw [split, List.filter_append, rest]
      simp [missing]
    rw [one] at ok
    cases read : EncryptedJournal.readEnvelope prims last with
    | error error => simp [read, bind, Except.bind] at ok
    | ok event =>
      simp only [List.mapM_cons, List.mapM_nil, read, bind, Except.bind, pure, Except.pure,
        Except.ok.injEq] at ok
      obtain ⟨envelope, -⟩ := EncryptedJournal.readEnvelope_eq_ok read
      have mem : last ∈ r.rowsOf runId := by rw [split]; simp
      obtain ⟨stored, stores⟩ := delivered.chained.stored last (mem_rowsOf.mp mem).1
      obtain rfl : stored = event := Option.some.inj (stores.envelope.symm.trans envelope)
      have run : stored.runId = runId :=
        Uuid.hyphenated_injective (stores.runId.symm.trans (mem_rowsOf.mp mem).2)
      exact .inr ⟨stored, ok.symm, run, front, last, by rw [run]; exact split, envelope, missing⟩

end Record

namespace DurableRunEventWriter

/-- Sending the last event of a run and storing its receipt settles the run. -/
theorem wp_deliver (inv : w.Delivered prims) (awaiting : w.Awaiting event) :
    (deliver event : Act calls σ _ String).wp (delivery prims env quiet submit)
      (fun receipt locals' w' => locals' = locals ∧ w'.Settled event.runId ∧
        w'.Acknowledged prims event receipt)
      (fun _ locals' _ => locals' = locals) locals w := by
  simp only [deliver, offer, Act.wp_bind, wp_ask]
  refine calls_await rfl inv awaiting fun w₁ w₂ answer w' begins steps answers inv' => ?_
  obtain ⟨stored, rfl⟩ := begins
  obtain ⟨rfl, kept⟩ := answers
  cases answer with
  | error failure => exact Act.wp_ofExcept.mpr rfl
  | ok receipt =>
    have last := kept ⟨receipt, rfl⟩
    have keeps := KeepsRecord.of_steps quiet steps
    obtain rfl : stored = true := by
      rw [keeps.offers, List.getLast?_concat] at last
      simpa using last
    have rows : w'.rowsOf event.runId = w.rowsOf event.runId := keeps.rowsOf event.runId
    have stored : w'.storedOf event.runId = w.storedOf event.runId ++ [event] := by
      have offered := w.storedOf_offered event true event.runId
      rw [if_pos ⟨rfl, rfl⟩] at offered
      exact (keeps.storedOf event.runId).trans offered
    have sent : w'.Sent event := by
      refine ⟨?_, ?_⟩
      · rw [Record.Awaiting, rows]
        exact awaiting
      · rw [stored, rows]
        exact inv.collapse_sent awaiting
    refine Act.wp_ofExcept.mpr (Act.wp_bind.mpr
      (wp_askJournal inv' (Record.Delivered.allowed_acknowledge sent) ?_ ?_))
    · intro value w'' result after inv''
      have recorded : w''.toRecord =
          { w'.toRecord with
            journal := (w'.journal.acknowledgeEvent event.eventId receipt).2 } := by
        rw [after]
        rfl
      exact Act.wp_pure.mpr ⟨rfl, inv'.acknowledged sent result recorded⟩
    · intro error w'' inv''
      rfl

/-- Sending what is pending settles the run. -/
theorem wp_flushPending {writer : DurableRunEventWriter} (inv : w.Delivered prims) :
    (writer.flushPending : Act calls σ _ Nat).wp (delivery prims env quiet submit)
      (fun _ locals' w' => locals' = locals ∧ w'.Settled writer.runId)
      (fun _ locals' _ => locals' = locals) locals w := by
  refine Act.wp_bind.mpr (wp_readJournal inv trivial rfl ?_ fun error => rfl)
  intro pending result
  rcases inv.pending_cases result with ⟨rfl, settled⟩ | ⟨event, rfl, run, awaiting⟩
  · exact Act.wp_pure.mpr ⟨rfl, settled⟩
  · refine Act.wp_bind.mpr (Act.wp_mono inv (wp_deliver inv awaiting) ?_ ?_)
    · rintro receipt locals' w' inv' ⟨rfl, settled, -⟩
      exact Act.wp_pure.mpr ⟨rfl, run ▸ settled⟩
    · exact fun error locals' w' inv' same => same

/-- Acknowledged rows stay as they are. -/
def KeepsAcknowledged (w w' : World) : Prop :=
  ∀ row ∈ w.journal.rows, row.serverReceipt.isSome → row ∈ w'.journal.rows

theorem keepsAcknowledged :
    (delivery prims env quiet submit).Keeps (fun _ => True) KeepsAcknowledged where
  refl := fun w row mem _ => mem
  trans := fun first second row mem acked => second row (first row mem acked) acked
  rely := fun {w w'} steps row mem _ => by
    rw [(KeepsRecord.of_steps quiet steps).rows]
    exact mem
  begins := fun _ inv begins row mem _ => by
    rw [World.Begins.journal begins]
    exact mem
  answers := fun {op w w' answer} _ inv answers row mem acked => by
    obtain ⟨-, answers⟩ := answers
    by_cases isJournal : ∃ call, op = .journal call
    · obtain ⟨call, rfl⟩ := isJournal
      rcases answers with ⟨-, rfl⟩ | ⟨error, -, -, rfl⟩
      · cases call with
        | append event privatePayload =>
          rcases w.journal.append_cases prims event privatePayload with
            ⟨error, same⟩ | ⟨-, -, added⟩
          · simp only [JournalCall.run, same]
            exact mem
          · simp only [JournalCall.run, added]
            exact List.mem_append_left _ mem
        | acknowledgeEvent id receipt =>
          rcases w.journal.acknowledgeEvent_cases id receipt with
            (⟨error, same⟩ | ⟨same, -⟩) | updated
          · simp only [JournalCall.run, same]
            exact mem
          · simp only [JournalCall.run, same]
            exact mem
          · simp only [JournalCall.run, updated]
            refine List.mem_map.mpr ⟨row, mem, ?_⟩
            simp [EventRow.receive, Option.isNone_eq_false_iff.mpr acked]
        | putSecret name value =>
          simp only [JournalCall.run, EncryptedJournal.rows_putSecret]
          exact mem
        | deleteSecret name =>
          simp only [JournalCall.run, EncryptedJournal.rows_deleteSecret]
          exact mem
        | _ => exact mem
      · exact mem
    · by_cases isNew : op = .newV4
      · subst isNew
        rw [answers.2]
        exact mem
      · rw [(World.Answers.tables answers (fun call same => isJournal ⟨call, same⟩) isNew).1]
        exact mem

/-- What an append that returned an event leaves behind. -/
structure Appended (prims : Primitives) (writer : DurableRunEventWriter) (cycleId : Option Uuid)
    (eventType : String) (payload : Json) (before after : Record)
    (result : RunEventEnvelopeV1) : Prop where
  settled : after.Settled writer.runId
  acknowledged : ∃ event receipt eventId sequence previousEventSha256,
    result = event.withServerReceipt receipt ∧ after.Acknowledged prims event receipt ∧
      event.Signed eventId writer.arenaId writer.runId cycleId sequence previousEventSha256
        eventType payload ∧
      ∀ row ∈ before.rowsOf writer.runId, row.serverReceipt.isSome →
        row.sequence < event.sequence.toNat

/-- An append that returns an event has journaled it, and the sink has acknowledged it. -/
theorem wp_append {writer : DurableRunEventWriter} {cycleId : Option Uuid} {eventType : String}
    {payload privatePayload : Json} (inv : w.Delivered prims) :
    (writer.append prims cycleId eventType payload privatePayload :
      Act calls σ _ RunEventEnvelopeV1).wp (delivery prims env quiet submit)
      (fun result locals' w' => locals' = locals ∧
        Appended prims writer cycleId eventType payload w.toRecord w'.toRecord result)
      (fun _ locals' _ => locals' = locals) locals w := by
  refine Act.wp_bind.mpr (Act.wp_mono inv (Act.wp_keeps keepsAcknowledged Act.only_true inv
    (wp_flushPending inv)) ?_ fun error locals' w' inv' same => same.2)
  rintro - locals' w₁ inv₁ ⟨kept, rfl, settled⟩
  refine Act.wp_bind.mpr (wp_readJournal inv₁ trivial rfl ?_ fun error => rfl)
  rintro latest -
  refine Act.wp_bind.mpr (wp_ask.mpr (calls_sync rfl inv₁ trivial ?_))
  rintro occurredAt w₂ read inv₂
  replace settled : w₂.Settled writer.runId := by rw [show w₂ = _ from read]; exact settled
  replace kept : KeepsAcknowledged w w₂ := by rw [show w₂ = _ from read]; exact kept
  refine Act.wp_bind.mpr (wp_ask.mpr (calls_sync rfl inv₂ trivial ?_))
  rintro eventId w₃ ⟨new, rfl⟩ inv₃
  refine Act.wp_bind.mpr (Act.wp_ofExcept.mpr ?_)
  split
  · rename_i event signed
    have fields := RunEventEnvelopeV1.signed_of_sign signed
    have allowed : Allowed submit (.journal (.append event privatePayload))
        { w₂ with drawn := eventId :: w₂.drawn } := by
      refine ⟨?_, ?_, ?_⟩
      · rw [fields.runId]
        exact settled
      · rw [fields.eventId]
        exact List.mem_cons_self
      · rw [fields.eventId]
        exact fun row mem own => new (inv₂.drawn row mem eventId own)
    refine Act.wp_bind.mpr (wp_askJournal inv₃ allowed ?_ fun error w' inv' => rfl)
    rintro value w₄ result after inv₄
    rcases w₂.journal.append_cases prims event privatePayload with
      ⟨error, failed⟩ | ⟨check, -, added⟩
    · rw [show (JournalCall.run prims w₂.journal (.append event privatePayload)).1 = _ from
        congrArg Prod.fst failed] at result
      cases result
    · rw [show (JournalCall.run prims w₂.journal (.append event privatePayload)).2 = _ from
        congrArg Prod.snd added] at after
      have rowsEq : w₄.rowsOf writer.runId =
          w₂.rowsOf writer.runId ++ [EventRow.ofEvent event privatePayload] := by
        rw [after]
        simp [Record.rowsOf, EventRow.ofEvent, fields.runId]
      have awaiting : w₄.Awaiting event := by
        refine ⟨w₂.rowsOf writer.runId, EventRow.ofEvent event privatePayload, ?_, rfl, rfl⟩
        rw [fields.runId]
        exact rowsEq
      have above : ∀ row ∈ w.rowsOf writer.runId, row.serverReceipt.isSome →
          row.sequence < event.sequence.toNat := by
        intro row mem acked
        have memW : row ∈ w₂.rowsOf writer.runId :=
          Record.Delivered.mem_rowsOf.mpr ⟨kept row (Record.Delivered.mem_rowsOf.mp mem).1 acked,
            (Record.Delivered.mem_rowsOf.mp mem).2⟩
        have chain := inv₄.rowsChain writer.runId
        rw [rowsEq] at chain
        obtain ⟨chainFront, sequence, -⟩ := isChainFrom_concat.mp chain
        have bound := (mem_seq_bounds chainFront memW).2
        have nonneg := inv₂.chained.nonneg (Record.Delivered.mem_rowsOf.mp memW).1
        change (event.sequence.toNat : Int).toNat = _ at sequence
        change row.sequence.toNat < _ at bound
        omega
      refine Act.wp_bind.mpr (Act.wp_mono inv₄ (wp_deliver inv₄ awaiting) ?_ ?_)
      · rintro receipt locals'' w₅ inv₅ ⟨rfl, settled', acknowledged⟩
        rw [fields.runId] at settled'
        exact Act.wp_pure.mpr
          ⟨rfl, settled', event, receipt, eventId, _, _, rfl, acknowledged, fields, above⟩
      · exact fun error locals'' w₅ inv₅ same => same
  · rfl

end DurableRunEventWriter

end Contract

end CrowAgent
