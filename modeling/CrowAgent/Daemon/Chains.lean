import CrowAgent.Daemon.Invariants

/-!
# The chains of the runs

`chainOf` lists the events of a run.  Only an append adds to a chain, and `OfWorld.wp_append` is the
rule for a program that appends: what holds before has to last until the event is journaled, and what
holds then has to last until the sink has it.
-/

namespace CrowAgent

open Coroutine

variable {prims : Primitives} {config : DaemonConfig} {w w' : World} {op : Op} {runId : Uuid}

/-! ## Chains -/

/-- The events of a run, in the order in which they were journaled. -/
def Record.chainOf (r : Record) (runId : Uuid) : List RunEventEnvelopeV1 := envelopes (r.rowsOf runId)

theorem Record.chainOf_of_rows {r r' : Record} (same : r'.journal.rows = r.journal.rows) :
    r'.chainOf runId = r.chainOf runId := by
  rw [chainOf, rowsOf, same, chainOf, rowsOf]

namespace EncryptedJournal

variable {journal journal' : EncryptedJournal} {r : Record}

/-- The event of a row belongs to the chain of its run alone. -/
theorem envelopes_filter_ofEvent {event : RunEventEnvelopeV1} {privatePayload : Json} :
    envelopes ([EventRow.ofEvent event privatePayload].filter (·.runId = runId.hyphenated)) =
      if event.runId = runId then [event] else [] := by
  have texts : (EventRow.ofEvent event privatePayload).runId = runId.hyphenated ↔
      event.runId = runId :=
    ⟨fun same => Uuid.hyphenated_injective same, fun same => congrArg Uuid.hyphenated same⟩
  rw [List.filter_singleton]
  split
  next same => rw [decide_eq_true (texts.mpr same)]; rfl
  next different => rw [decide_eq_false fun same => different (texts.mp same)]; rfl

/-- An append adds its event to the chain of its run. -/
theorem chainOf_append {event : RunEventEnvelopeV1} {privatePayload : Json}
    (added : journal.append prims event privatePayload = (.ok (), journal')) (runId : Uuid) :
    Record.chainOf { r with journal := journal' } runId =
      Record.chainOf { r with journal } runId ++ if event.runId = runId then [event] else [] := by
  rcases append_cases prims journal event privatePayload with ⟨error, failed⟩ | ⟨-, -, rows⟩
  · cases failed.symm.trans added
  have stored : journal'.rows = journal.rows ++ [EventRow.ofEvent event privatePayload] :=
    congrArg (·.2.rows) (added.symm.trans rows)
  simp only [Record.chainOf, Record.rowsOf, stored, List.filter_append, envelopes_append,
    envelopes_filter_ofEvent]

/-- A receipt is no event. -/
theorem chainOf_acknowledgeEvent {eventId : Uuid} {receipt : String} :
    Record.chainOf { r with journal := (journal.acknowledgeEvent eventId receipt).2 } runId =
      Record.chainOf { r with journal } runId := by
  rcases acknowledgeEvent_cases journal eventId receipt with (⟨error, same⟩ | ⟨same, -⟩) | stored
  · rw [same]
  · rw [same]
  · rw [stored]
    simp only [Record.chainOf, Record.rowsOf, filter_runId_receive, envelopes_receive]

end EncryptedJournal

/-- A call that is no append leaves the chains alone. -/
theorem World.Answers.chainOf {answer : op.Res} (answers : World.Answers prims op w answer w')
    (other : ∀ event privatePayload, op ≠ .journal (.append event privatePayload)) (runId : Uuid) :
    w'.chainOf runId = w.chainOf runId := by
  cases op with
  | journal call =>
    rcases answers with ⟨-, rfl⟩ | ⟨error, -, -, rfl⟩
    · cases call with
      | append event privatePayload => exact absurd rfl (other event privatePayload)
      | acknowledgeEvent eventId receipt => exact EncryptedJournal.chainOf_acknowledgeEvent
      | putSecret name value => exact Record.chainOf_of_rows (w.journal.rows_putSecret name value)
      | deleteSecret name => exact Record.chainOf_of_rows (w.journal.rows_deleteSecret name)
      | _ => rfl
    · rfl
  | newV4 => rw [answers.2]; rfl
  | _ => exact Record.chainOf_of_rows (congrArg _ (World.Answers.tables answers nofun nofun).1)

/-- No answer takes an event from a chain. -/
theorem World.Answers.chainOf_subset {answer : op.Res} (answers : World.Answers prims op w answer w')
    (runId : Uuid) : w.chainOf runId ⊆ w'.chainOf runId := by
  by_cases appends : ∃ event privatePayload, op = .journal (.append event privatePayload)
  · rcases appends with ⟨event, privatePayload, rfl⟩
    rcases answers with ⟨-, rfl⟩ | ⟨error, -, -, rfl⟩
    · change w.chainOf runId ⊆ Record.chainOf { w.toRecord with
        journal := (w.journal.append prims event privatePayload).2 } runId
      rcases w.journal.append_cases prims event privatePayload with ⟨error, kept⟩ | ⟨-, -, added⟩
      · rw [kept]
        exact List.Subset.refl _
      · have chain := EncryptedJournal.chainOf_append (r := w.toRecord) added runId
        rw [added, chain]
        exact List.subset_append_left _ _
    · exact List.Subset.refl _
  · have other : ∀ event privatePayload, op ≠ .journal (.append event privatePayload) :=
      fun event privatePayload same => appends ⟨event, privatePayload, same⟩
    rw [World.Answers.chainOf answers other]
    exact List.Subset.refl _

theorem World.Begins.chainOf (begins : World.Begins op w w') (runId : Uuid) :
    w'.chainOf runId = w.chainOf runId :=
  Record.chainOf_of_rows (congrArg _ begins.journal)

theorem Beside.chainOf (beside : Beside w w') (runId : Uuid) :
    w'.chainOf runId = w.chainOf runId := Record.chainOf_of_rows beside.rows

/-! ## Appending -/

/-- The event is one that an append of the writer with the arguments journals. -/
structure DurableRunEventWriter.Writes (writer : DurableRunEventWriter) (cycleId : Option Uuid)
    (eventType : String) (payload : Json) (event : RunEventEnvelopeV1) : Prop where
  runId : event.runId = writer.runId
  cycleId : event.cycleId = cycleId
  eventType : event.eventType = eventType
  payload : event.payload = payload

/-- What an append does besides. -/
def quietEffects : Effects where
  events := fun _ _ => False
  keys := fun _ => False
  weighs := fun _ => False
  shared := fun _ => False
  cycles := fun _ => False
  selects := False

namespace OfWorld

variable {σ ε : Type} {locals : σ} {c : Contract calls World} {I I' : World → Prop}

/-- Flushing changes nothing but receipts. -/
theorem wp_flushPending {writer : DurableRunEventWriter}
    (keeps : c.Preserves (Op.Within quietEffects) I) (inv : c.inv w) (holds : I w) :
    (writer.flushPending : Act calls σ _ _).wp c (fun _ _ => I) (fun _ _ => I) locals w :=
  Act.wp_preserves keeps (DurableRunEventWriter.only_flushPending.mono fun _ => Op.IsPlain.within)
    inv holds

/-- **Appending.**  The rule for an append: one thing holds until the event is journaled, and another
from then on. -/
theorem wp_appendAs (ofWorld : OfWorld prims c) {writer : DurableRunEventWriter}
    {cycleId : Option Uuid} {eventType : String} {payload privatePayload : Json}
    (before : c.Preserves (Op.Within quietEffects) I)
    (after : c.Preserves (Op.Within quietEffects) I')
    (allowed : ∀ {w} {event : RunEventEnvelopeV1},
      writer.Writes cycleId eventType payload event → c.inv w → I w →
        c.pre (.journal (.append event privatePayload)) w)
    (adds : ∀ {w} {event : RunEventEnvelopeV1} {journal},
      writer.Writes cycleId eventType payload event → c.inv w → I w →
        w.journal.append prims event privatePayload = (.ok (), journal) →
          c.inv { w with journal } ∧ I' { w with journal })
    (inv : c.inv w) (holds : I w) :
    (writer.append prims cycleId eventType payload privatePayload : Act calls σ _ _).wp c
      (fun _ _ => I') (fun _ _ w => I w ∨ I' w) locals w := by
  have asks : ∀ {op : Op} {locals : σ} {w : World}, op.Within quietEffects → c.inv w → I w →
      (ask op : Act calls σ DurableRunEventError op.Res).wp c (fun _ _ => I) (fun _ _ => I) locals
        w := fun within inv holds => Act.wp_preserves before (only_ask within) inv holds
  have keep : ∀ (error : DurableRunEventError) (_ : σ) w, c.inv w → I w → I w ∨ I' w :=
    fun _ _ _ _ => .inl
  refine Act.wp_bind.mpr (Act.wp_mono inv (wp_flushPending before inv holds) ?_ keep)
  intro _ _ w₁ inv₁ holds₁
  have reads : (askJournal .journal (.latestEventState writer.runId) :
      Act calls σ DurableRunEventError _).Only (Op.Within quietEffects) :=
    only_askJournal (by trivial)
  refine Act.wp_bind.mpr (Act.wp_mono inv₁ (Act.wp_preserves before reads inv₁ holds₁) ?_ keep)
  intro latest _ w₂ inv₂ holds₂
  refine Act.wp_bind.mpr (Act.wp_mono inv₂ (asks (by trivial) inv₂ holds₂) ?_ keep)
  intro occurredAt _ w₃ inv₃ holds₃
  refine Act.wp_bind.mpr (Act.wp_mono inv₃ (asks (by trivial) inv₃ holds₃) ?_ keep)
  intro eventId _ w₄ inv₄ holds₄
  refine Act.wp_bind.mpr (Act.wp_ofExcept.mpr ?_)
  split
  · rename_i event signed
    have fields := RunEventEnvelopeV1.signed_of_sign signed
    have writes : writer.Writes cycleId eventType payload event :=
      ⟨fields.runId, fields.cycleId, fields.eventType, fields.payload⟩
    refine Act.wp_bind.mpr (ofWorld.wp_askJournal
      (allowed writes inv₄ holds₄) inv₄ ?_ ?_)
    · intro _ journal added
      obtain ⟨inv₅, holds₅⟩ := adds writes inv₄ holds₄ added
      have delivers : (DurableRunEventWriter.deliver event : Act calls σ _ _).Only
          (Op.Within quietEffects) :=
        DurableRunEventWriter.only_deliver.mono fun _ => Op.IsPlain.within
      refine ⟨inv₅, Act.wp_bind.mpr (Act.wp_mono inv₅ (Act.wp_preserves after delivers inv₅ holds₅)
        ?_ fun _ _ _ _ => .inr)⟩
      exact fun _ _ _ _ holds₆ => Act.wp_pure.mpr holds₆
    · intro error journal failed
      obtain rfl : journal = w₄.journal := by
        rcases failed with same | ran
        · exact same
        · rcases w₄.journal.append_cases prims event privatePayload with ⟨_, kept⟩ | ⟨-, -, added⟩
          · exact (congrArg Prod.snd (ran.symm.trans kept) :)
          · cases ran.symm.trans added
      exact ⟨inv₄, .inl holds₄⟩
  · exact .inl holds₄

/-- The same, for what does not look at the cycle of the event. -/
theorem wp_append (ofWorld : OfWorld prims c) {writer : DurableRunEventWriter}
    {cycleId : Option Uuid} {eventType : String} {payload privatePayload : Json}
    (before : c.Preserves (Op.Within quietEffects) I)
    (after : c.Preserves (Op.Within quietEffects) I')
    (allowed : ∀ {w} {event : RunEventEnvelopeV1}, event.runId = writer.runId →
      event.eventType = eventType → event.payload = payload → c.inv w → I w →
        c.pre (.journal (.append event privatePayload)) w)
    (adds : ∀ {w} {event : RunEventEnvelopeV1} {journal}, event.runId = writer.runId →
      event.eventType = eventType → event.payload = payload → c.inv w → I w →
        w.journal.append prims event privatePayload = (.ok (), journal) →
          c.inv { w with journal } ∧ I' { w with journal })
    (inv : c.inv w) (holds : I w) :
    (writer.append prims cycleId eventType payload privatePayload : Act calls σ _ _).wp c
      (fun _ _ => I') (fun _ _ w => I w ∨ I' w) locals w :=
  ofWorld.wp_appendAs before after
    (fun writes => allowed writes.runId writes.eventType writes.payload)
    (fun writes => adds writes.runId writes.eventType writes.payload) inv holds

/-- The rule for an event of a session. -/
theorem wp_appendSessionEvent (ofWorld : OfWorld prims c) {eventType : String} {payload : Json}
    (before : c.Preserves (Op.Within quietEffects) I)
    (after : c.Preserves (Op.Within quietEffects) I')
    (allowed : ∀ {w} {event : RunEventEnvelopeV1}, event.runId = runId →
      event.eventType = eventType → event.payload = payload → c.inv w → I w →
        c.pre (.journal (.append event .null)) w)
    (adds : ∀ {w} {event : RunEventEnvelopeV1} {journal}, event.runId = runId →
      event.eventType = eventType → event.payload = payload → c.inv w → I w →
        w.journal.append prims event .null = (.ok (), journal) →
          c.inv { w with journal } ∧ I' { w with journal })
    (inv : c.inv w) (holds : I w) :
    (appendSessionEvent prims config runId eventType payload).wp c (fun _ _ => I')
      (fun _ _ w => I w ∨ I' w) () w := by
  refine Act.wp_bind.mpr (Act.wp_mono inv (Act.wp_mapError.mpr
    (ofWorld.wp_append before after allowed adds inv holds)) ?_ fun _ _ _ _ => id)
  exact fun _ _ _ _ holds => Act.wp_pure.mpr holds

end OfWorld

end CrowAgent
