import CrowAgent.Daemon.ChainGrammar

/-!
# Appending to a chain

`charting` is the contract that every append adds an event which the grammar of a chain allows there,
and `charts_executeLiveCycle` says that a live cycle keeps to it: the cycle ends with a chain that is
ready for what the loop does next, and with one cycle more.
-/

namespace CrowAgent

open Coroutine FixedWidth

variable {prims : Primitives} {config : DaemonConfig} {w w' : World} {op : Op} {runId : Uuid}
  {state next : ChainState}

/-! ## The contract -/

/-- The chain of the run leads to the state, and the ids of its cycles were drawn. -/
structure World.At (w : World) (runId : Uuid) (state : ChainState) : Prop where
  read : chainGrammar.after (w.chainOf runId) = some state
  drawn : state.cycles ⊆ w.drawn

/-- The grammar accepts every chain, and every row holds an event. -/
structure World.Charted (w : World) : Prop where
  chains : ∀ runId, ∃ state, w.At runId state
  legible : ∀ row ∈ w.journal.rows, row.publicEnvelope.isSome

/-- The chains stay as they are. -/
structure World.Rests (w w' : World) : Prop where
  chains : ∀ runId, w'.chainOf runId = w.chainOf runId
  drawn : w.drawn ⊆ w'.drawn
  legible : (∀ row ∈ w.journal.rows, row.publicEnvelope.isSome) →
    ∀ row ∈ w'.journal.rows, row.publicEnvelope.isSome

theorem World.Rests.at (rests : w.Rests w') (there : w.At runId state) : w'.At runId state :=
  ⟨(rests.chains runId).symm ▸ there.read, List.Subset.trans there.drawn rests.drawn⟩

theorem World.Rests.charted (rests : w.Rests w') (charted : w.Charted) : w'.Charted :=
  ⟨fun runId => (charted.chains runId).imp fun _ there => rests.at there,
    rests.legible charted.legible⟩

theorem World.Begins.rests (begins : World.Begins op w w') : w.Rests w' := by
  refine ⟨begins.chainOf, ?_, ?_⟩
  · unfold World.Begins at begins
    split at begins
    · rcases begins with ⟨stored, rfl⟩
      exact List.Subset.refl _
    · rw [begins]
      exact List.Subset.refl _
    · rw [begins]
      exact List.Subset.refl _
  · rw [begins.journal]
    exact id

theorem Beside.rests (beside : Beside w w') : w.Rests w' := by
  refine ⟨beside.chainOf, ?_, ?_⟩
  · rw [congrArg Record.drawn beside.record]
    exact List.Subset.refl _
  · rw [beside.rows]
    exact id

/-- A receipt changes no event. -/
theorem EncryptedJournal.legible_acknowledgeEvent {journal : EncryptedJournal} {eventId : Uuid}
    {receipt : String} (legible : ∀ row ∈ journal.rows, row.publicEnvelope.isSome) :
    ∀ row ∈ (journal.acknowledgeEvent eventId receipt).2.rows, row.publicEnvelope.isSome := by
  rcases acknowledgeEvent_cases journal eventId receipt with (⟨error, same⟩ | ⟨same, -⟩) | stored
  · rw [same]
    exact legible
  · rw [same]
    exact legible
  · rw [stored]
    intro row mem
    rcases List.mem_map.mp mem with ⟨row', mem', rfl⟩
    unfold EventRow.receive
    split
    · exact legible row' mem'
    · exact legible row' mem'

/-- A call that is no append leaves the chains alone. -/
theorem World.Answers.rests {answer : op.Res} (answers : World.Answers prims op w answer w')
    (other : ∀ event privatePayload, op ≠ .journal (.append event privatePayload)) : w.Rests w' := by
  have chains := fun runId => World.Answers.chainOf answers other runId
  cases op with
  | journal call =>
    rcases answers with ⟨-, rfl⟩ | ⟨error, -, -, rfl⟩
    · refine ⟨chains, List.Subset.refl _, fun legible => ?_⟩
      cases call with
      | append event privatePayload => exact absurd rfl (other event privatePayload)
      | acknowledgeEvent eventId receipt => exact EncryptedJournal.legible_acknowledgeEvent legible
      | putSecret name value =>
        change ∀ row ∈ (w.journal.putSecret name value).2.rows, _
        rw [w.journal.rows_putSecret name value]
        exact legible
      | deleteSecret name =>
        change ∀ row ∈ (w.journal.deleteSecret name).2.rows, _
        rw [w.journal.rows_deleteSecret name]
        exact legible
      | _ => exact legible
    · exact ⟨chains, List.Subset.refl _, id⟩
  | newV4 =>
    rw [answers.2] at chains ⊢
    exact ⟨chains, List.subset_cons_self _ _, id⟩
  | appendEvent event =>
    rw [answers.1] at chains ⊢
    exact ⟨chains, List.Subset.refl _, id⟩
  | orderPermitted =>
    rw [answers.2] at chains ⊢
    exact ⟨chains, List.Subset.refl _, id⟩
  | shared call =>
    rw [answers.2] at chains ⊢
    exact ⟨chains, List.Subset.refl _, id⟩
  | applyRemote command =>
    rw [answers.2] at chains ⊢
    exact ⟨chains, List.Subset.refl _, id⟩
  | panic => exact answer.elim
  | exit => exact answer.elim
  | _ =>
    rw [show w' = _ from answers] at chains ⊢
    exact ⟨chains, List.Subset.refl _, id⟩

/-- The event of an append is one that the grammar allows. -/
def World.Fits (op : Op) (w : World) : Prop :=
  ∀ event privatePayload, op = .journal (.append event privatePayload) →
    ∃ state next, w.At event.runId state ∧ state.next event = some next ∧ next.cycles ⊆ w.drawn

/-- The contract of the chains. -/
def charting (prims : Primitives) (config : DaemonConfig) : Contract calls World :=
  .ofSystem (daemon prims config anything).toSystem World.Charted World.Fits
    fun charted acts => acts.choose_spec.2.beside.rests.charted charted

theorem charting_ofWorld : OfWorld prims (charting prims config) :=
  ⟨fun begins => begins.2, fun answers => answers⟩

/-- The event is added to its chain, and to no other. -/
theorem World.At.append {event : RunEventEnvelopeV1} {privatePayload : Json}
    {journal : EncryptedJournal} (there : w.At event.runId state)
    (steps : state.next event = some next) (drawn : next.cycles ⊆ w.drawn)
    (added : w.journal.append prims event privatePayload = (.ok (), journal)) :
    World.At { w with journal } event.runId next := by
  refine ⟨?_, drawn⟩
  have chain := EncryptedJournal.chainOf_append (r := w.toRecord) added event.runId
  rw [if_pos rfl] at chain
  change chainGrammar.after (Record.chainOf { w.toRecord with journal } event.runId) = some next
  rw [chain]
  exact Grammar.after_snoc_of_next there.read steps

theorem World.Charted.append {event : RunEventEnvelopeV1} {privatePayload : Json}
    {journal : EncryptedJournal} (charted : w.Charted) (there : w.At event.runId state)
    (steps : state.next event = some next) (drawn : next.cycles ⊆ w.drawn)
    (added : w.journal.append prims event privatePayload = (.ok (), journal)) :
    World.Charted { w with journal } := by
  refine ⟨fun runId => ?_, ?_⟩
  · by_cases own : event.runId = runId
    · subst own
      exact ⟨next, there.append steps drawn added⟩
    · rcases charted.chains runId with ⟨other, reads⟩
      have chain := EncryptedJournal.chainOf_append (r := w.toRecord) added runId
      rw [if_neg own, List.append_nil] at chain
      exact ⟨other, chain.symm ▸ reads.read, reads.drawn⟩
  · rcases w.journal.append_cases prims event privatePayload with ⟨error, failed⟩ | ⟨-, -, rows⟩
    · cases failed.symm.trans added
    · have stored : journal.rows = w.journal.rows ++ [EventRow.ofEvent event privatePayload] :=
        congrArg (·.2.rows) (added.symm.trans rows)
      change ∀ row ∈ journal.rows, row.publicEnvelope.isSome
      rw [stored]
      intro row mem
      rcases List.mem_append.mp mem with old | new
      · exact charted.legible row old
      · rw [List.mem_singleton.mp new]
        rfl

/-- What lasts while the chains rest is preserved by everything but appends. -/
theorem charting_preserves {I : World → Prop} (lasts : ∀ {w w'}, w.Rests w' → I w → I w') :
    (charting prims config).Preserves (Op.Within silentEffects) I where
  rely := by
    intro w w' _ holds (acts : Relation.ReflTransGen (daemon prims config anything).env w w')
    induction acts with
    | refl => exact holds
    | tail _ acts ih => exact lasts acts.choose_spec.2.beside.rests ih
  pre := by
    rintro op w within _ _ event privatePayload rfl
    exact within.elim
  begins := fun _ charted holds begins =>
    ⟨begins.2.rests.charted charted, lasts begins.2.rests holds⟩
  answers := by
    intro op w w' answer within charted holds answers
    have rests : w.Rests w' := World.Answers.rests answers.2 fun event privatePayload same => by
      subst same
      exact within.elim
    exact ⟨rests.charted charted, lasts rests holds⟩

theorem silent_of_quiet {op : Op} (within : op.Within quietEffects) : op.Within silentEffects :=
  within.mono {
    events := False.elim
    keys := fun _ => trivial
    weighs := fun _ => trivial
    shared := fun _ => trivial
    cycles := fun _ => trivial
    selects := fun _ => trivial }

/-! ## Appending -/

/-- The id is drawn, and no cycle of the chain has it. -/
structure World.Drew (w : World) (runId : Uuid) (state : ChainState) (cycleId : Uuid) : Prop
    extends w.At runId state where
  isNew : cycleId ∉ state.cycles
  mem : cycleId ∈ w.drawn

theorem World.Rests.drew {cycleId : Uuid} (rests : w.Rests w') (drew : w.Drew runId state cycleId) :
    w'.Drew runId state cycleId := ⟨rests.at drew.toAt, drew.isNew, rests.drawn drew.mem⟩

section Appends

variable {σ ε α : Type} {locals : σ}

/-- **Appending.**  An append that the grammar allows leads on to the next state. -/
theorem wp_appendTo {writer : DurableRunEventWriter} {cycleId : Option Uuid} {eventType : String}
    {payload privatePayload : Json} (charted : w.Charted) (there : w.At writer.runId state)
    (steps : ∀ event, writer.Writes cycleId eventType payload event → state.next event = some next)
    (drawn : next.cycles ⊆ w.drawn) :
    (writer.append prims cycleId eventType payload privatePayload : Act calls σ _ _).wp
      (charting prims config) (fun _ _ w => w.At writer.runId next) (fun _ _ _ => True) locals w := by
  have before : (charting prims config).Preserves (Op.Within quietEffects)
      fun w => w.At writer.runId state ∧ next.cycles ⊆ w.drawn :=
    (charting_preserves fun rests both =>
      ⟨rests.at both.1, List.Subset.trans both.2 rests.drawn⟩).mono fun _ => silent_of_quiet
  have after : (charting prims config).Preserves (Op.Within quietEffects)
      fun w => w.At writer.runId next :=
    (charting_preserves fun rests there => rests.at there).mono fun _ => silent_of_quiet
  refine Act.wp_mono charted (charting_ofWorld.wp_appendAs before after ?_ ?_ charted
    ⟨there, drawn⟩) (fun _ _ _ _ => id) fun _ _ _ _ _ => trivial
  · rintro w event writes _ both event' _ same
    cases same
    exact ⟨state, next, writes.runId ▸ both.1, steps event writes, both.2⟩
  · intro w event journal writes charted both added
    have own : w.At event.runId state := writes.runId ▸ both.1
    have led := own.append (steps event writes) both.2 added
    exact ⟨charted.append own (steps event writes) both.2 added, writes.runId ▸ led⟩

/-- A part that appends nothing. -/
theorem wp_rest {x : Act calls σ ε α} (only : x.Only (Op.Within silentEffects))
    (charted : w.Charted) (there : w.At runId state) :
    x.wp (charting prims config) (fun _ _ w => w.At runId state) (fun _ _ w => w.At runId state)
      locals w := Act.wp_preserves (charting_preserves fun rests => rests.at) only charted there

theorem wp_restDrew {x : Act calls σ ε α} {cycleId : Uuid} (only : x.Only (Op.Within silentEffects))
    (charted : w.Charted) (drew : w.Drew runId state cycleId) :
    x.wp (charting prims config) (fun _ _ w => w.Drew runId state cycleId)
      (fun _ _ w => w.Drew runId state cycleId) locals w :=
  Act.wp_preserves (charting_preserves fun rests => rests.drew) only charted drew

/-- A call that is no append. -/
theorem wp_askRest {I : World → Prop} (within : op.Within silentEffects)
    (lasts : ∀ {w w'}, w.Rests w' → I w → I w') (charted : w.Charted) (holds : I w) :
    (ask op : Act calls σ ε op.Res).wp (charting prims config) (fun _ _ => I) (fun _ _ _ => False)
      locals w := by
  have throws : (ask op : Act calls σ ε op.Res).Throws fun _ => False := .perform
  exact Act.wp_mono charted (Act.wp_throws throws (Act.wp_preserves (charting_preserves lasts)
    (only_ask within) charted holds)) (fun _ _ _ _ => id) fun _ _ _ _ done => done.1

/-- A new id is drawn. -/
theorem wp_draw (charted : w.Charted) (there : w.At runId state) :
    (ask .newV4 : Act calls σ ε Uuid).wp (charting prims config)
      (fun id _ w => w.Drew runId state id) (fun _ _ _ => False) locals w := by
  have keeps : (charting prims config).Preserves (Op.Within silentEffects)
      fun w => w.At runId state := charting_preserves fun rests => rests.at
  have within : Op.newV4.Within silentEffects := trivial
  refine wp_ask.mpr (Contract.calls_sync rfl (keeps.pre within charted there)
    (fun begins => (keeps.begins within charted there begins).1) ?_)
  intro w₁ id w' begins answers
  rcases keeps.begins within charted there begins with ⟨charted₁, there₁⟩
  rcases keeps.answers within charted₁ there₁ answers with ⟨charted', there'⟩
  have drawn : id ∉ w₁.drawn ∧ w' = { w₁ with drawn := id :: w₁.drawn } := answers.2
  refine ⟨charted', there', fun old => drawn.1 (there₁.drawn old), ?_⟩
  rw [drawn.2]
  exact List.mem_cons_self

end Appends

/-! ## Errors that end a session -/

section Errors

variable {σ ε α : Type}

theorem throws_askVenue {call : VenueCall} :
    (askVenue .venue call : Act calls σ LiveCycleError call.Value).Throws LiveCycleError.IsFatal :=
  Act.Throws.perform.bind fun _ => .ofExcept fun _ _ _ => LiveCycleError.noConfusion

theorem throws_ask {R : ε → Prop} {op : Op} : (ask op : Act calls σ ε op.Res).Throws R := .perform

theorem throws_unixMilliseconds {time : OffsetDateTime} :
    (Act.ofExcept id (unixMilliseconds time) : Act calls σ LiveCycleError UInt64).Throws
      LiveCycleError.IsFatal := by
  refine .ofExcept fun error failed => ?_
  unfold unixMilliseconds at failed
  dsimp only at failed
  split at failed
  · cases failed
  · cases failed
    exact fun _ => LiveCycleError.noConfusion

theorem throws_validateAccountPolicy {account : AccountSnapshot} {isolatedLeverage : UInt8} :
    (Act.ofExcept id (validateAccountPolicy account isolatedLeverage) :
      Act calls σ LiveCycleError Unit).Throws LiveCycleError.IsFatal := by
  refine .ofExcept fun error failed => ?_
  unfold validateAccountPolicy at failed
  split at failed
  · cases failed
    exact fun _ => LiveCycleError.noConfusion
  · cases failed

theorem throws_ofExec {ε' : Type} {R : ε → Prop} {convert : ε' → ε} {result : Exec ε' α}
    (has : ∀ error, R (convert error)) : (ofExec convert result : Act calls σ ε α).Throws R := by
  unfold ofExec
  split
  · exact .pure
  · exact .throw (has _)
  · exact Act.Throws.perform.bind fun never => never.elim

theorem throws_refreshAccount {cycle : LiveCycle} {day : Date} :
    (cycle.refreshAccount day).Throws LiveCycleError.IsFatal :=
  throws_askVenue.bind fun _ => throws_validateAccountPolicy.bind fun _ =>
    Act.Throws.modify.bind fun _ => throws_ask.bind fun _ => .pure

theorem throws_observe {cycle : LiveCycle} {now : OffsetDateTime} :
    (cycle.observe now).Throws LiveCycleError.IsFatal :=
  throws_unixMilliseconds.bind fun _ => throws_refreshAccount.bind fun _ =>
    throws_askVenue.bind fun _ => Act.Throws.get.bind fun _ =>
      (throws_ofExec fun never => never.elim).bind fun _ => throws_askVenue.bind fun _ => .pure

theorem marketableProposal_isFatal {proposal : Proposal}
    {snapshots : List (String × MarketSnapshot)} {error : LiveCycleError}
    (failed : marketableProposal proposal snapshots = .error error) : error.IsFatal := by
  unfold marketableProposal at failed
  split at failed
  · cases failed
    exact fun _ => LiveCycleError.noConfusion
  · split at failed
    · cases failed
      exact fun _ => LiveCycleError.noConfusion
    · cases failed

theorem startingCapital_isFatal {cycle : LiveCycle} {error : LiveCycleError}
    (failed : cycle.startingCapital = .error error) : error.IsFatal := by
  unfold LiveCycle.startingCapital at failed
  split at failed
  · cases failed
  · cases failed
    exact fun _ => LiveCycleError.noConfusion

theorem throws_storeRisk {runId : Uuid} :
    (storeRisk prims runId).Throws LiveCycleError.IsFatal :=
  Act.Throws.get.bind fun _ => .mapError fun _ _ => LiveCycleError.noConfusion

theorem only_storeRisk {runId : Uuid} : (storeRisk prims runId).Only (Op.Within silentEffects) :=
  Act.Only.get.bind fun _ => (only_askJournal (by trivial)).mapError

end Errors

/-! ## A cycle -/

section Cycles

variable {cycle : LiveCycle} {cycleId : Uuid} {cycles : List Uuid} {risk : LiveRiskState} {α : Type}

/-- A part of a cycle that appends nothing. -/
theorem wp_restFatal {x : Act calls LiveRiskState LiveCycleError α}
    (only : x.Only (Op.Within silentEffects)) (throws : x.Throws LiveCycleError.IsFatal)
    (charted : w.Charted) (there : w.At runId state) :
    x.wp (charting prims config) (fun _ _ w => w.At runId state) Fatal risk w :=
  Act.wp_mono charted (Act.wp_throws throws (wp_rest only charted there)) (fun _ _ _ _ => id)
    fun _ _ _ _ done => done.1

theorem only_refreshAccount {day : Date} :
    (cycle.refreshAccount day).Only (Op.Within silentEffects) :=
  (only_askVenue (by trivial)).bind fun _ => Act.Only.ofExcept.bind fun _ =>
    Act.Only.modify.bind fun _ => (only_ask (by trivial)).bind fun _ => .pure

theorem only_ofExec {σ ε ε' : Type} {convert : ε' → ε} {result : Exec ε' α} :
    (ofExec convert result : Act calls σ ε α).Only (Op.Within silentEffects) := by
  unfold ofExec
  split
  · exact .pure
  · exact .throw
  · exact (only_ask (by trivial)).bind fun never => never.elim

/-- An append that the grammar allows. -/
theorem wp_appendEventTo {writer : DurableRunEventWriter} {inCycle : Option Uuid} {eventType : String}
    {payload privatePayload : Json} (charted : w.Charted) (there : w.At writer.runId state)
    (steps : ∀ event, writer.Writes inCycle eventType payload event → state.next event = some next)
    (drawn : next.cycles ⊆ w.drawn) :
    (appendEvent prims writer inCycle eventType payload privatePayload :
      Act calls LiveRiskState LiveCycleError _).wp (charting prims config)
      (fun _ _ w => w.At writer.runId next) Fatal risk w := by
  refine Act.wp_mapError.mpr (Act.wp_mono charted (wp_appendTo charted there steps drawn)
    (fun _ _ _ _ => id) ?_)
  exact fun _ _ _ _ _ _ => LiveCycleError.noConfusion

/-- An event of the cycle. -/
theorem wp_cycleAppend {before : CycleStep} {step : ChainStep} {eventType : String}
    {payload privatePayload : Json} (charted : w.Charted)
    (there : w.At cycle.runId ⟨.cycle cycleId before, cycles⟩)
    (steps : ∀ event : RunEventEnvelopeV1, event.eventType = eventType → event.payload = payload →
      before.next cycleId event = some step) :
    (appendEvent prims cycle.writer (some cycleId) eventType payload privatePayload :
      Act calls LiveRiskState LiveCycleError _).wp (charting prims config)
      (fun _ _ w => w.At cycle.runId ⟨step, cycles⟩) Fatal risk w := by
  refine wp_appendEventTo charted there (fun event writes => ?_) there.drawn
  exact ChainState.next_of_cycle writes.cycleId rfl (steps event writes.eventType writes.payload)

/-- The first events of a cycle. -/
theorem charts_recordEvidence {evidence : CycleEvidence} (charted : w.Charted)
    (drew : w.Drew cycle.runId ⟨.ready, cycles⟩ cycleId) :
    (cycle.recordEvidence prims cycleId evidence).wp (charting prims config)
      (fun _ _ w => w.At cycle.runId ⟨.cycle cycleId .portfolio, cycleId :: cycles⟩) Fatal risk w := by
  have started : (cycle.append prims cycleId "cycle_started"
      (.ofFields [
        ("scheduled_at", prims.timeJson evidence.now),
        ("venue_time_ms", UInt64.toJson evidence.nowMs)])).wp (charting prims config)
      (fun _ _ w => w.At cycle.runId ⟨.cycle cycleId .started, cycleId :: cycles⟩) Fatal risk w := by
    refine wp_appendEventTo charted drew.toAt (fun event writes => ?_) ?_
    · exact ChainState.next_of_started writes.cycleId rfl drew.isNew writes.eventType
    · exact List.cons_subset.mpr ⟨drew.mem, drew.drawn⟩
  refine Act.wp_bind.mpr (Act.wp_mono charted started ?_ fun _ _ _ _ => id)
  intro _ _ w₁ charted₁ there₁
  refine Act.wp_bind.mpr (Act.wp_mono charted₁ (wp_cycleAppend charted₁ there₁
    fun _ type _ => if_pos type) ?_ fun _ _ _ _ => id)
  intro _ _ w₂ charted₂ there₂
  refine Act.wp_bind.mpr (Act.wp_mono charted₂ (wp_cycleAppend charted₂ there₂
    fun _ type _ => if_pos type) ?_ fun _ _ _ _ => id)
  intro _ _ w₃ charted₃ there₃
  refine Act.wp_bind.mpr (Act.wp_mono charted₃ (wp_cycleAppend charted₃ there₃
    fun _ type _ => if_pos type) ?_ fun _ _ _ _ => id)
  exact fun _ _ _ _ there₄ => Act.wp_pure.mpr there₄

/-- The cycle waits for its decision, or for more of its receipts. -/
def Decides (cycle : LiveCycle) (cycleId : Uuid) (cycles : List Uuid) (w : World) : Prop :=
  ∃ before, (before = .portfolio ∨ before = .receipts) ∧
    w.At cycle.runId ⟨.cycle cycleId before, cycles⟩

theorem charts_recordReceipts {receipts : List Uuid} (charted : w.Charted)
    (decides : Decides cycle cycleId cycles w) :
    (cycle.recordReceipts prims cycleId receipts).wp (charting prims config)
      (fun _ _ => Decides cycle cycleId cycles) Fatal risk w := by
  induction receipts generalizing w risk with
  | nil => exact Act.wp_pure.mpr decides
  | cons receipt receipts ih =>
    rcases decides with ⟨before, waits, there⟩
    have steps : ∀ event : RunEventEnvelopeV1, event.eventType = "inference_receipt" →
        before.next cycleId event = some (.cycle cycleId .receipts) := by
      intro event type
      rcases waits with rfl | rfl
      · rw [CycleStep.next, type]
        rfl
      · exact if_pos type
    refine Act.wp_bind.mpr (Act.wp_mono charted (wp_cycleAppend charted there
      fun event type _ => steps event type) ?_ fun _ _ _ _ => id)
    intro _ locals w₁ charted₁ there₁
    exact ih charted₁ ⟨.receipts, .inr rfl, there₁⟩

/-- A decision that fails ends its cycle. -/
theorem charts_askModel {evidence : CycleEvidence} (charted : w.Charted)
    (there : w.At cycle.runId ⟨.cycle cycleId .portfolio, cycles⟩) :
    (cycle.askModel prims cycleId evidence).wp (charting prims config)
      (fun _ _ w => w.At cycle.runId ⟨.cycle cycleId .proposal, cycles⟩)
      (AfterError fun _ w => w.At cycle.runId ⟨.ready, cycles⟩) risk w := by
  refine Act.wp_bind.mpr (Act.wp_get.mpr (Act.wp_bind.mpr (Act.wp_mono charted
    (wp_restFatal (only_ask (by trivial)) throws_ask charted there) ?_
    fun _ _ _ _ fatal => fatal.afterError)))
  intro answer _ w₁ charted₁ there₁
  cases answer with
  | error error =>
    refine Act.wp_bind.mpr (Act.wp_mono charted₁ (wp_cycleAppend charted₁ there₁
    fun _ type _ => if_pos type) ?_ fun _ _ _ _ fatal => fatal.afterError)
    intro _ _ w₂ charted₂ there₂
    refine Act.wp_bind.mpr (Act.wp_mono charted₂ (wp_restFatal only_storeRisk throws_storeRisk
      charted₂ there₂) ?_ fun _ _ _ _ fatal => fatal.afterError)
    exact fun _ _ _ _ there₃ => Act.wp_throw.mpr fun _ _ => there₃
  | ok outcome =>
    refine Act.wp_bind.mpr (Act.wp_mono charted₁ (charts_recordReceipts charted₁
      ⟨.portfolio, .inl rfl, there₁⟩) ?_ fun _ _ _ _ fatal => fatal.afterError)
    intro _ _ w₂ charted₂ decides
    rcases decides with ⟨before, waits, there₂⟩
    have steps : ∀ event : RunEventEnvelopeV1, event.eventType = "proposal" →
        before.next cycleId event = some (.cycle cycleId .proposal) := by
      intro event type
      rcases waits with rfl | rfl
      · rw [CycleStep.next, type]
        rfl
      · rw [CycleStep.next, type]
        rfl
    refine Act.wp_bind.mpr (Act.wp_mono charted₂ (wp_cycleAppend charted₂ there₂
      fun event type _ => steps event type) ?_ fun _ _ _ _ fatal => fatal.afterError)
    exact fun _ _ _ _ there₃ => Act.wp_pure.mpr there₃

/-- A policy outcome without an order ends the cycle. -/
theorem charts_conclude {before : CycleStep} {symbol : String} {policyAllowed : Bool} {payload : Json}
    (steps : ∀ event : RunEventEnvelopeV1, event.eventType = "policy_outcome" →
      event.payload = payload → before.next cycleId event = some .ready)
    (charted : w.Charted) (there : w.At cycle.runId ⟨.cycle cycleId before, cycles⟩) :
    (cycle.conclude prims cycleId symbol policyAllowed payload).wp (charting prims config)
      (fun _ _ w => w.At cycle.runId ⟨.ready, cycles⟩) Fatal risk w := by
  refine Act.wp_bind.mpr (Act.wp_mono charted (wp_cycleAppend charted there steps) ?_
    fun _ _ _ _ => id)
  intro _ _ w₁ charted₁ there₁
  refine Act.wp_bind.mpr (Act.wp_mono charted₁ (wp_restFatal only_storeRisk throws_storeRisk charted₁
    there₁) ?_ fun _ _ _ _ => id)
  exact fun _ _ _ _ there₂ => Act.wp_pure.mpr there₂

/-- Fresh evidence for a proposal adds its book. -/
theorem charts_evaluate {now : OffsetDateTime} {proposal : Proposal} (charted : w.Charted)
    (there : w.At cycle.runId ⟨.cycle cycleId .proposal, cycles⟩) :
    (cycle.evaluate prims cycleId now proposal).wp (charting prims config)
      (fun _ _ w => w.At cycle.runId ⟨.cycle cycleId .quote, cycles⟩) Fatal risk w := by
  refine Act.wp_bind.mpr (Act.wp_mono charted (wp_restFatal only_refreshAccount throws_refreshAccount
    charted there) ?_ fun _ _ _ _ => id)
  intro account _ w₁ charted₁ there₁
  refine Act.wp_bind.mpr (Act.wp_mono charted₁ (wp_restFatal (only_ask (by trivial)) throws_ask
    charted₁ there₁) ?_ fun _ _ _ _ => id)
  intro readAt _ w₂ charted₂ there₂
  refine Act.wp_bind.mpr (Act.wp_mono charted₂ (wp_restFatal .ofExcept throws_unixMilliseconds
    charted₂ there₂) ?_ fun _ _ _ _ => id)
  intro nowMs _ w₃ charted₃ there₃
  refine Act.wp_bind.mpr (Act.wp_mono charted₃ (wp_restFatal (only_askVenue (by trivial))
    throws_askVenue charted₃ there₃) ?_ fun _ _ _ _ => id)
  intro snapshot _ w₄ charted₄ there₄
  refine Act.wp_bind.mpr (Act.wp_mono charted₄ (wp_cycleAppend charted₄ there₄ fun event type _ => by
    rw [CycleStep.next, type]
    rfl) ?_ fun _ _ _ _ => id)
  intro _ locals w₅ charted₅ there₅
  have judges : ∀ {x : Act calls LiveRiskState LiveCycleError (Except PolicyError OrderDecision)},
      x.Only (Op.Within silentEffects) → x.Throws LiveCycleError.IsFatal →
        x.wp (charting prims config) (fun _ _ w => w.At cycle.runId ⟨.cycle cycleId .quote, cycles⟩)
          Fatal locals w₅ := fun only throws => wp_restFatal only throws charted₅ there₅
  refine judges ?_ ?_
  · exact Act.Only.ofExcept.bind fun _ => Act.Only.get.bind fun _ => only_ofExec.bind fun _ =>
      Act.Only.ofExcept.bind fun _ => Act.Only.ofExcept.bind fun _ =>
        (only_ask (by trivial)).bind fun _ => only_ofExec.attempt
  · refine (Act.Throws.ofExcept fun error failed => marketableProposal_isFatal failed).bind fun _ => ?_
    refine Act.Throws.get.bind fun _ => (throws_ofExec fun never => never.elim).bind fun _ => ?_
    refine (Act.Throws.ofExcept fun error failed => startingCapital_isFatal failed).bind fun _ => ?_
    refine (Act.Throws.ofExcept fun error _ _ => LiveCycleError.noConfusion).bind fun _ => ?_
    exact throws_ask.bind fun _ => .attempt

/-- An order is submitted right after the policy approved it. -/
theorem charts_dispatch {order : OrderDecision} (charted : w.Charted)
    (there : w.At cycle.runId ⟨.cycle cycleId .quote, cycles⟩) :
    (cycle.dispatch prims cycleId order).wp (charting prims config)
      (fun _ _ w => w.At cycle.runId ⟨.cycle cycleId .order, cycles⟩) Fatal risk w := by
  have approves : ∀ event : RunEventEnvelopeV1, event.eventType = "policy_outcome" →
      event.payload = approvedPayload order →
        CycleStep.quote.next cycleId event = some (.cycle cycleId .approval) := by
    intro event type payload
    have approved : event.approves = true := by
      rw [RunEventEnvelopeV1.approves, payload, approvedPayload, Json.get?_ofFields_pair (by decide)]
    rw [CycleStep.next, if_pos type, if_pos approved]
  refine Act.wp_bind.mpr (Act.wp_mono charted (wp_cycleAppend charted there approves) ?_
    fun _ _ _ _ => id)
  intro policyEvent _ w₁ charted₁ there₁
  refine Act.wp_bind.mpr (Act.wp_mono charted₁ (wp_restFatal (only_ask (by trivial)) throws_ask
    charted₁ there₁) ?_ fun _ _ _ _ => id)
  intro orderId _ w₂ charted₂ there₂
  refine Act.wp_bind.mpr (Act.wp_mono charted₂ (wp_cycleAppend charted₂ there₂
    fun _ type _ => if_pos type) ?_ fun _ _ _ _ => id)
  intro _ locals w₃ charted₃ there₃
  refine Act.wp_bind.mpr (Act.wp_modify.mpr (Act.wp_bind.mpr (Act.wp_mono charted₃
    (wp_restFatal only_storeRisk throws_storeRisk charted₃ there₃) ?_ fun _ _ _ _ => id)))
  intro _ _ w₄ charted₄ there₄
  exact wp_restFatal (only_askVenue (by exact ⟨cycle.runId, trivial⟩)) throws_askVenue charted₄ there₄

/-- What follows on an order ends its cycle. -/
theorem charts_settle {now : OffsetDateTime} {symbol : String} {submission : VenueSubmission}
    (charted : w.Charted) (there : w.At cycle.runId ⟨.cycle cycleId .order, cycles⟩) :
    (cycle.settle prims cycleId now symbol submission).wp (charting prims config)
      (fun _ _ w => w.At cycle.runId ⟨.ready, cycles⟩) Fatal risk w := by
  refine Act.wp_bind.mpr (Act.wp_mono charted (wp_cycleAppend charted there
    fun _ type _ => if_pos type) ?_ fun _ _ _ _ => id)
  intro _ _ w₁ charted₁ there₁
  refine Act.wp_bind.mpr (Act.wp_mono charted₁ (wp_restFatal (only_ask (by trivial)) throws_ask
    charted₁ there₁) ?_ fun _ _ _ _ => id)
  intro readAt _ w₂ charted₂ there₂
  refine Act.wp_bind.mpr (Act.wp_mono charted₂ (wp_restFatal .ofExcept throws_unixMilliseconds
    charted₂ there₂) ?_ fun _ _ _ _ => id)
  intro reconcileAt locals w₃ charted₃ there₃
  refine Act.wp_bind.mpr (Act.wp_get.mpr (Act.wp_bind.mpr (Act.wp_mono charted₃ (wp_restFatal
    (only_askVenue (by exact ⟨cycle.runId, trivial⟩)) throws_askVenue charted₃ there₃) ?_
    fun _ _ _ _ => id)))
  intro fills _ w₄ charted₄ there₄
  refine Act.wp_bind.mpr (Act.wp_mono charted₄ (wp_restFatal
    (only_askVenue (by exact ⟨cycle.runId, trivial⟩)) throws_askVenue charted₄ there₄) ?_
    fun _ _ _ _ => id)
  intro funding _ w₅ charted₅ there₅
  refine Act.wp_bind.mpr (Act.wp_mono charted₅ (wp_restFatal (only_askVenue (by trivial))
    throws_askVenue charted₅ there₅) ?_ fun _ _ _ _ => id)
  intro reconciled _ w₆ charted₆ there₆
  refine Act.wp_bind.mpr (Act.wp_mono charted₆ (wp_restFatal .ofExcept throws_validateAccountPolicy
    charted₆ there₆) ?_ fun _ _ _ _ => id)
  intro _ locals w₇ charted₇ there₇
  refine Act.wp_bind.mpr (Act.wp_modify.mpr (Act.wp_bind.mpr (Act.wp_modify.mpr (Act.wp_bind.mpr
    (Act.wp_mono charted₇ (wp_restFatal (only_ask (by trivial)) throws_ask charted₇ there₇) ?_
      fun _ _ _ _ => id)))))
  intro _ _ w₈ charted₈ there₈
  refine Act.wp_bind.mpr (Act.wp_mono charted₈ (wp_cycleAppend charted₈ there₈
    fun _ type _ => if_pos type) ?_ fun _ _ _ _ => id)
  intro _ _ w₉ charted₉ there₉
  refine Act.wp_bind.mpr (Act.wp_mono charted₉ (wp_cycleAppend charted₉ there₉
    fun _ type _ => if_pos type) ?_ fun _ _ _ _ => id)
  intro _ _ w₁₀ charted₁₀ there₁₀
  refine Act.wp_bind.mpr (Act.wp_mono charted₁₀ (wp_cycleAppend charted₁₀ there₁₀
    fun _ type _ => if_pos type) ?_ fun _ _ _ _ => id)
  intro _ _ w₁₁ charted₁₁ there₁₁
  refine Act.wp_bind.mpr (Act.wp_mono charted₁₁ (wp_cycleAppend charted₁₁ there₁₁
    fun _ type _ => if_pos type) ?_ fun _ _ _ _ => id)
  intro _ _ w₁₂ charted₁₂ there₁₂
  refine Act.wp_bind.mpr (Act.wp_mono charted₁₂ (wp_restFatal only_storeRisk throws_storeRisk
    charted₁₂ there₁₂) ?_ fun _ _ _ _ => id)
  exact fun _ _ _ _ there₁₃ => Act.wp_pure.mpr there₁₃

/-- The payload of a policy outcome does not approve its order. -/
theorem quote_refused {payload : Json} (refused : payload.get? "allowed" = some (.bool false))
    (event : RunEventEnvelopeV1) (type : event.eventType = "policy_outcome")
    (same : event.payload = payload) : CycleStep.quote.next cycleId event = some .ready := by
  have other : ¬event.approves = true := by
    rw [RunEventEnvelopeV1.approves, same, refused]
    exact Bool.false_ne_true
  rw [CycleStep.next, if_pos type, if_neg other]

/-- **A cycle.**  A cycle under a new id ends where it was ready to begin, also when the model fails. -/
theorem charts_run {now : OffsetDateTime} (charted : w.Charted)
    (drew : w.Drew cycle.runId ⟨.ready, cycles⟩ cycleId) :
    (cycle.run prims cycleId now).wp (charting prims config)
      (fun _ _ w => w.At cycle.runId ⟨.ready, cycleId :: cycles⟩)
      (AfterError fun _ w => w.At cycle.runId ⟨.ready, cycleId :: cycles⟩) risk w := by
  have observes : (cycle.observe now).Only (Op.Within silentEffects) :=
    (LiveCycle.records_observe (by trivial) : Records prims _ _).within
  refine Act.wp_bind.mpr (Act.wp_mono charted (Act.wp_throws throws_observe
    (wp_restDrew observes charted drew)) ?_ fun _ _ _ _ done => Fatal.afterError done.1)
  intro evidence _ w₁ charted₁ drew₁
  refine Act.wp_bind.mpr (Act.wp_mono charted₁ (charts_recordEvidence charted₁ drew₁) ?_
    fun _ _ _ _ fatal => fatal.afterError)
  intro _ _ w₂ charted₂ there₂
  refine Act.wp_bind.mpr (Act.wp_mono charted₂ (charts_askModel charted₂ there₂) ?_
    fun _ _ _ _ => id)
  intro outcome _ w₃ charted₃ there₃
  split
  · refine Act.wp_mono charted₃ (charts_conclude (fun event type _ => ?_) charted₃ there₃)
      (fun _ _ _ _ => id) fun _ _ _ _ fatal => fatal.afterError
    exact if_pos type
  · refine Act.wp_bind.mpr (Act.wp_mono charted₃ (charts_evaluate charted₃ there₃) ?_
      fun _ _ _ _ fatal => fatal.afterError)
    intro evaluated _ w₄ charted₄ there₄
    split
    · exact Act.wp_mono charted₄ (charts_conclude
        (quote_refused (Json.get?_ofFields_pair (by decide))) charted₄ there₄)
        (fun _ _ _ _ => id) fun _ _ _ _ fatal => fatal.afterError
    · refine Act.wp_bind.mpr (Act.wp_mono charted₄ (wp_restFatal
        (only_ask (by exact ⟨cycle.runId, trivial⟩)) throws_ask charted₄ there₄) ?_
        fun _ _ _ _ fatal => fatal.afterError)
      intro permitted _ w₅ charted₅ there₅
      split
      · refine Act.wp_bind.mpr (Act.wp_mono charted₅ (charts_dispatch charted₅ there₅) ?_
          fun _ _ _ _ fatal => fatal.afterError)
        intro submission _ w₆ charted₆ there₆
        exact Act.wp_mono charted₆ (charts_settle charted₆ there₆) (fun _ _ _ _ => id)
          fun _ _ _ _ fatal => fatal.afterError
      · exact Act.wp_mono charted₅ (charts_conclude
        (quote_refused (Json.get?_ofFields_pair (by decide))) charted₅ there₅)
          (fun _ _ _ _ => id) fun _ _ _ _ fatal => fatal.afterError

/-- The chain is ready for what the loop does next, and has so many cycles. -/
def World.Completed (runId : Uuid) (n : Nat) (w : World) : Prop :=
  ∃ cycles, w.At runId ⟨.ready, cycles⟩ ∧ cycles.length = n

theorem World.Rests.completed {n : Nat} (rests : w.Rests w') (completed : w.Completed runId n) :
    w'.Completed runId n := by
  rcases completed with ⟨cycles, there, count⟩
  exact ⟨cycles, rests.at there, count⟩

/-- A cycle is one more. -/
theorem charts_executeLiveCycle {n : Nat} (charted : w.Charted)
    (completed : w.Completed cycle.runId n) :
    (executeLiveCycle prims cycle).wp (charting prims config)
      (fun _ _ => World.Completed cycle.runId (n + 1))
      (AfterError fun _ => World.Completed cycle.runId (n + 1)) risk w := by
  rcases completed with ⟨cycles, there, rfl⟩
  have ends : ∀ {cycleId w}, w.At cycle.runId ⟨.ready, cycleId :: cycles⟩ →
      World.Completed cycle.runId (cycles.length + 1) w := fun there => ⟨_, there, rfl⟩
  refine Act.wp_bind.mpr (Act.wp_mono charted (wp_draw charted there) ?_
    fun _ _ _ _ => False.elim)
  intro cycleId _ w₁ charted₁ drew₁
  refine Act.wp_bind.mpr (Act.wp_mono charted₁ (wp_askRest (by trivial)
    (fun rests => rests.drew) charted₁ drew₁) ?_
    fun _ _ _ _ => False.elim)
  intro now _ w₂ charted₂ drew₂
  refine Act.wp_bind.mpr (Act.wp_mono charted₂ (wp_askRest (by trivial)
    (fun rests => rests.drew) charted₂ drew₂) ?_
    fun _ _ _ _ => False.elim)
  intro _ _ w₃ charted₃ drew₃
  refine Act.wp_bind.mpr (Act.wp_attempt.mpr (Act.wp_mono charted₃ (charts_run charted₃ drew₃) ?_ ?_))
  · intro result _ w₄ charted₄ there₄
    refine Act.wp_bind.mpr (Act.wp_mono charted₄ (wp_askRest (by exact ⟨cycle.runId, trivial⟩)
      (fun rests => rests.completed) charted₄ (ends there₄)) ?_ fun _ _ _ _ => False.elim)
    exact fun _ _ _ _ completed => Act.wp_pure.mpr completed
  · intro error risk' w₄ charted₄ after
    have lasts : ∀ {w w' : World}, w.Rests w' →
        AfterError (fun _ => World.Completed cycle.runId (cycles.length + 1)) error risk' w →
        AfterError (fun _ => World.Completed cycle.runId (cycles.length + 1)) error risk' w' :=
      fun rests after failure same => rests.completed (after failure same)
    refine Act.wp_bind.mpr (Act.wp_mono charted₄ (wp_askRest (by exact ⟨cycle.runId, trivial⟩) lasts
      charted₄ fun failure same => ends (after failure same)) ?_ fun _ _ _ _ => False.elim)
    exact fun _ _ _ _ after => Act.wp_throw.mpr after

end Cycles

end CrowAgent
