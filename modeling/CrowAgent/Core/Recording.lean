import CrowAgent.Core.WriterContract

/-!
# Programs that record

Most of what the agent does between two decisions is recording: it asks the venue, the API and the
clock, keeps secrets and appends events.  `Records` says that a program does nothing else.  Such
programs compose, keep every run delivered, and leave orders, the shared state and what has been
acknowledged alone.
-/

namespace CrowAgent

open Coroutine

variable {prims : Primitives} {scope : Scope} {σ τ ε ε' α β : Type}

/-- What a program may record, events of a run and a type and secrets of a name, and the runs whose
risk it may weigh. -/
structure Scope : Type where
  events : Uuid → String → Prop
  keys : String → Prop
  weighs : Uuid → Prop

/-- Anything may be recorded. -/
def Scope.all : Scope := ⟨fun _ _ => True, fun _ => True, fun _ => True⟩

/-- The calls that neither order nor look at the shared state, and record nothing out of scope. -/
def Op.IsPlain (scope : Scope) : Op → Prop
  | .venue (.submitIoc _ _) | .orderPermitted | .shared _ | .applyRemote _ | .select | .rotate
  | .cycleStarts _ _ _ | .cycleEnds | .trades _ _ _ => False
  | .journal (.append event _) => scope.events event.runId event.eventType
  | .journal (.putSecret name _) | .journal (.deleteSecret name) => scope.keys name
  | .observes runId _ _ | .judges runId _ => scope.weighs runId
  | .venue (.fillsSince _ _ _) | .venue (.fundingSince _ _ _) => ∃ runId, scope.weighs runId
  | _ => True

/-- The plain calls that need no preparation. -/
def Op.IsFree (scope : Scope) : Op → Prop
  | .journal (.append _ _) | .journal (.acknowledgeEvent _ _) | .appendEvent _ => False
  | op => op.IsPlain scope

/-- The program makes plain calls only and keeps every run delivered. -/
structure Records (prims : Primitives) (scope : Scope) (x : Act calls σ ε α) : Prop where
  only : x.Only (Op.IsPlain scope)
  meets : ∀ {env quiet submit locals w}, w.Delivered prims →
    x.wp (delivery prims env quiet submit) (fun _ _ _ => True) (fun _ _ _ => True) locals w

namespace Records

/-- Recording programs compose. -/
theorem bind {x : Act calls σ ε α} {f : α → Act calls σ ε β} (first : Records prims scope x)
    (second : ∀ value, Records prims scope (f value)) : Records prims scope (x >>= f) where
  only := first.only.bind fun value => (second value).only
  meets := fun inv => Act.wp_bind.mpr (Act.wp_mono inv (first.meets inv)
    (fun value _ _ inv' _ => (second value).meets inv') fun _ _ _ _ _ => trivial)

theorem pure {value : α} : Records prims scope (Pure.pure value : Act calls σ ε α) where
  only := .pure
  meets := fun _ => Act.wp_pure.mpr trivial

theorem throw {error : ε} : Records prims scope (MonadExcept.throw error : Act calls σ ε α) where
  only := .throw
  meets := fun _ => Act.wp_throw.mpr trivial

theorem get : Records prims scope (MonadState.get : Act calls σ ε σ) where
  only := .get
  meets := fun _ => Act.wp_get.mpr trivial

theorem modify {f : σ → σ} : Records prims scope (modifyThe σ f : Act calls σ ε PUnit) where
  only := .modify
  meets := fun _ => Act.wp_modify.mpr trivial

theorem ofExcept {convert : ε' → ε} {result : Except ε' α} :
    Records prims scope (Act.ofExcept convert result : Act calls σ ε α) where
  only := .ofExcept
  meets := fun _ => by
    refine Act.wp_ofExcept.mpr ?_
    cases result <;> trivial

theorem mapError {x : Act calls σ ε' α} {convert : ε' → ε} (records : Records prims scope x) :
    Records prims scope (x.mapError convert) where
  only := records.only.mapError
  meets := fun inv => Act.wp_mapError.mpr (records.meets inv)

theorem attempt {x : Act calls σ ε' α} (records : Records prims scope x) :
    Records prims scope (x.attempt : Act calls σ ε (Except ε' α)) where
  only := records.only.attempt
  meets := fun inv => Act.wp_attempt.mpr (records.meets inv)

theorem zoom {part : σ → τ} {put : τ → σ → σ} {x : Act calls τ ε α} (records : Records prims scope x) :
    Records prims scope (x.zoom part put) where
  only := records.only.zoom
  meets := fun inv => Act.wp_zoom.mpr (records.meets inv)

/-- A call without preparation. -/
theorem ask {op : Op} (free : op.IsFree scope) :
    Records prims scope (CrowAgent.ask op : Act calls σ ε op.Res) where
  only := by
    refine .perform ?_
    unfold Op.IsFree at free
    split at free
    · exact free.elim
    · exact free.elim
    · exact free.elim
    · exact free
  meets := fun {env quiet submit locals w} inv => by
    have allowed : Allowed submit op w := by
      unfold Allowed
      split
      · exact free.elim
      · exact free.elim
      · exact free.elim
      · exact free.elim
      · trivial
    refine wp_ask.mpr ?_
    cases await : op.awaits with
    | false => exact calls_sync await inv allowed fun _ _ _ _ => trivial
    | true => exact calls_await await inv allowed fun _ _ _ _ _ _ _ _ => trivial

theorem askJournal {convert : JournalError → ε} {call : JournalCall}
    (free : (Op.journal call).IsFree scope) :
    Records prims scope (CrowAgent.askJournal convert call : Act calls σ ε call.Value) :=
  (ask free).bind fun _ => ofExcept

theorem askVenue {convert : HyperliquidError → ε} {call : VenueCall}
    (free : (Op.venue call).IsFree scope) :
    Records prims scope (CrowAgent.askVenue convert call : Act calls σ ε call.Value) :=
  (ask free).bind fun _ => ofExcept

end Records

/-! ## The event writer records -/

namespace DurableRunEventWriter

theorem only_deliver {event : RunEventEnvelopeV1} :
    (deliver event : Act calls σ _ String).Only (Op.IsPlain scope) := by
  apply Act.Only.bind
  · exact (Act.Only.perform trivial).bind fun _ => .ofExcept
  · intro receipt
    apply Act.Only.bind
    · exact (Act.Only.perform trivial).bind fun _ => .ofExcept
    · exact fun _ => .pure

theorem only_deliverAll {pending : List RunEventEnvelopeV1} {acknowledged : Nat} :
    (deliverAll acknowledged pending : Act calls σ _ Nat).Only (Op.IsPlain scope) := by
  induction pending generalizing acknowledged with
  | nil => exact .pure
  | cons event pending ih => exact only_deliver.bind fun _ => ih

theorem only_flushPending {writer : DurableRunEventWriter} :
    (writer.flushPending : Act calls σ _ Nat).Only (Op.IsPlain scope) :=
  ((Act.Only.perform trivial).bind fun _ => .ofExcept).bind fun _ => only_deliverAll

theorem records_flushPending {writer : DurableRunEventWriter} :
    Records prims scope (writer.flushPending : Act calls σ _ Nat) where
  only := only_flushPending
  meets := fun inv => Act.wp_mono inv (wp_flushPending inv) (fun _ _ _ _ _ => trivial)
    fun _ _ _ _ _ => trivial

variable {writer : DurableRunEventWriter} {cycleId : Option Uuid} {eventType : String}
  {payload privatePayload : Json}

theorem only_append (appends : scope.events writer.runId eventType) :
    (writer.append prims cycleId eventType payload privatePayload :
      Act calls σ _ RunEventEnvelopeV1).Only (Op.IsPlain scope) := by
  apply only_flushPending.bind
  intro _
  apply Act.Only.bind
  · exact (Act.Only.perform trivial).bind fun _ => .ofExcept
  · intro latest
    apply Act.Only.bind (.perform trivial)
    intro occurredAt
    apply Act.Only.bind (.perform trivial)
    intro eventId
    apply Act.Only.bind_ofExcept
    intro event signed
    have fields := RunEventEnvelopeV1.signed_of_sign signed
    have inScope : scope.events event.runId event.eventType := by
      rw [fields.runId, fields.eventType]
      exact appends
    apply Act.Only.bind
    · exact (Act.Only.perform inScope).bind fun _ => .ofExcept
    · exact fun _ => only_deliver.bind fun _ => .pure

theorem records_append (appends : scope.events writer.runId eventType) :
    Records prims scope (writer.append prims cycleId eventType payload privatePayload :
      Act calls σ _ RunEventEnvelopeV1) where
  only := only_append appends
  meets := fun inv => Act.wp_mono inv (wp_append inv) (fun _ _ _ _ _ => trivial)
    fun _ _ _ _ _ => trivial

end DurableRunEventWriter

/-! ## What recording leaves alone -/

section Frame

variable {env : World → World → Prop} {quiet : ∀ w w', env w w' → KeepsRecord w w'}
  {submit : OrderDecision → String → World → Prop} {w w' : World} {op : Op}

/-- A plain call leaves the marks and the shared state alone when it is made. -/
theorem World.Begins.plain (begins : World.Begins op w w') (plain : op.IsPlain scope) :
    w'.marks = w.marks ∧ w'.toControl = w.toControl := by
  unfold World.Begins at begins
  split at begins
  · obtain ⟨stored, rfl⟩ := begins
    exact ⟨rfl, rfl⟩
  · exact plain.elim
  · rw [begins]
    exact ⟨rfl, rfl⟩

/-- So does its answer. -/
theorem World.Answers.plain {answer : op.Res} (answers : World.Answers prims op w answer w')
    (plain : op.IsPlain scope) : w'.marks = w.marks ∧ w'.toControl = w.toControl := by
  cases op with
  | journal call =>
    rcases answers with ⟨-, rfl⟩ | ⟨error, -, -, rfl⟩
    · exact ⟨rfl, rfl⟩
    · exact ⟨rfl, rfl⟩
  | newV4 =>
    rw [answers.2]
    exact ⟨rfl, rfl⟩
  | appendEvent event =>
    rw [answers.1]
    exact ⟨rfl, rfl⟩
  | orderPermitted => exact plain.elim
  | shared call => exact plain.elim
  | applyRemote command => exact plain.elim
  | select => exact plain.elim
  | rotate => exact plain.elim
  | cycleStarts runId cycleId day => exact plain.elim
  | cycleEnds => exact plain.elim
  | trades runId settings strategy => exact plain.elim
  | panic => exact answer.elim
  | exit => exact answer.elim
  | _ =>
    rw [show w' = _ from answers]
    exact ⟨rfl, rfl⟩

theorem keepsMarks :
    (delivery prims env quiet submit).Keeps (Op.IsPlain scope) fun w w' => w'.marks = w.marks where
  refl := fun _ => rfl
  trans := fun first second => second.trans first
  rely := fun steps => (KeepsRecord.of_steps quiet steps).marks
  begins := fun plain _ begins => (World.Begins.plain begins plain).1
  answers := fun plain _ answers => (World.Answers.plain answers.2 plain).1

end Frame

end CrowAgent
