import CrowAgent.Daemon.SessionRuns
import CrowAgent.Lib.JsonText

/-!
# The watermark of a run

The stored risk state of a run says up to which instant the run has asked the venue for its fills and
its funding.  `Links` holds of two watermarks when every instant between them lies in a window that an
event of the run tells the venue's answer for.  A write of the risk state links the new watermark to
the one before (`LinksAt`), so any two watermarks of a run are linked (`watermarks_linked`).
-/

namespace CrowAgent

open Coroutine

variable {prims : Primitives} {config : DaemonConfig} {w w' : World} {op : Op} {runId : Uuid}
  {risk : LiveRiskState} {kind : QueryKind} {since upTo : UInt64} {result : Json}

/-! ## What the venue settled -/

/-- The event that tells what the venue answered. -/
def QueryKind.eventType : QueryKind → String
  | .fills => "fill"
  | .funding => "funding"

/-- The field of the event that has the answer. -/
def QueryKind.field : QueryKind → String
  | .fills => "fills"
  | .funding => "funding"

/-- The venue answered for the window. -/
def World.Asked (w : World) (kind : QueryKind) (since upTo : UInt64) (result : Json) : Prop :=
  ∃ events, (⟨kind, since, upTo, result, events⟩ : Query) ∈ w.queries

/-- An event of the run tells the answer. -/
def World.Tells (w : World) (runId : Uuid) (kind : QueryKind) (result : Json) : Prop :=
  ∃ event ∈ w.chainOf runId, event.eventType = kind.eventType ∧
    event.payload.get? kind.field = some result

/-- The instant lies in the closed window of a query whose answer an event of the run tells. -/
def World.Settles (w : World) (runId : Uuid) (kind : QueryKind) (time : UInt64) : Prop :=
  ∃ since upTo result, w.Asked kind since upTo result ∧ since ≤ time ∧ time ≤ upTo ∧
    w.Tells runId kind result

/-- The two watermarks are the same, or every instant between them is settled. -/
def World.Links (w : World) (runId : Uuid) (since upTo : UInt64) : Prop :=
  since ≠ upTo → ∀ kind time, since ≤ time → time ≤ upTo → w.Settles runId kind time

theorem World.Links.refl : w.Links runId since since := fun different => absurd rfl different

/-- Linked windows make one. -/
theorem World.Links.trans {between : UInt64} (first : w.Links runId since between)
    (second : w.Links runId between upTo) : w.Links runId since upTo := by
  intro different kind time after before
  by_cases early : time ≤ between
  · by_cases same : since = between
    · subst same
      exact second different kind time after before
    · exact first same kind time after early
  · have late : between ≤ time := UInt64.le_of_lt (UInt64.not_le.mp early)
    refine second ?_ kind time late before
    rintro rfl
    exact early before

/-- A window whose answers are told is linked. -/
theorem World.Links.of_told {fills funding : Json} (askedFills : w.Asked .fills since upTo fills)
    (askedFunding : w.Asked .funding since upTo funding) (toldFills : w.Tells runId .fills fills)
    (toldFunding : w.Tells runId .funding funding) : w.Links runId since upTo := by
  intro _ kind time after before
  cases kind with
  | fills => exact ⟨since, upTo, fills, askedFills, after, before, toldFills⟩
  | funding => exact ⟨since, upTo, funding, askedFunding, after, before, toldFunding⟩

/-! ## What grows -/

/-- No answer of the venue, no account that was taken in and no event is forgotten. -/
structure World.Grows (w w' : World) : Prop where
  queries : w.queries ⊆ w'.queries
  observed : w.observed ⊆ w'.observed
  chains : ∀ runId, w.chainOf runId ⊆ w'.chainOf runId

namespace World.Grows

theorem of_eq (queries : w'.queries = w.queries) (observed : w'.observed = w.observed)
    (chains : ∀ runId, w'.chainOf runId = w.chainOf runId) : w.Grows w' :=
  ⟨queries ▸ List.Subset.refl _, observed ▸ List.Subset.refl _,
    fun runId => chains runId ▸ List.Subset.refl _⟩

theorem asked (grows : w.Grows w') (asked : w.Asked kind since upTo result) :
    w'.Asked kind since upTo result := asked.imp fun _ mem => grows.queries mem

theorem tells (grows : w.Grows w') (tells : w.Tells runId kind result) :
    w'.Tells runId kind result :=
  tells.imp fun _ told => ⟨grows.chains runId told.1, told.2⟩

theorem links (grows : w.Grows w') (links : w.Links runId since upTo) :
    w'.Links runId since upTo := by
  intro different kind time after before
  rcases links different kind time after before with ⟨since, upTo, result, asked, inside⟩
  exact ⟨since, upTo, result, grows.asked asked, inside.1, inside.2.1, grows.tells inside.2.2⟩

end World.Grows

theorem World.Begins.grows (begins : World.Begins op w w') : w.Grows w' := by
  have notes : w'.queries = w.queries ∧ w'.observed = w.observed := by
    unfold World.Begins at begins
    split at begins
    · rcases begins with ⟨stored, rfl⟩
      exact ⟨rfl, rfl⟩
    · rw [begins]
      exact ⟨rfl, rfl⟩
    · rw [begins]
      exact ⟨rfl, rfl⟩
  exact .of_eq notes.1 notes.2 begins.chainOf

/-- The answers of the venue are noted. -/
theorem World.Answers.queries_subset {answer : op.Res} (answers : World.Answers prims op w answer w') :
    w.queries ⊆ w'.queries := by
  cases op with
  | journal call => rcases answers with ⟨-, rfl⟩ | ⟨error, -, -, rfl⟩ <;> exact List.Subset.refl _
  | newV4 => rw [answers.2]; exact List.Subset.refl _
  | appendEvent event => rw [answers.1]; exact List.Subset.refl _
  | orderPermitted => rw [answers.2]; exact List.Subset.refl _
  | shared call => rw [answers.2]; exact List.Subset.refl _
  | applyRemote command => rw [answers.2]; exact List.Subset.refl _
  | venue call =>
    rw [show w' = _ from answers]
    exact List.subset_append_right _ _
  | panic => exact answer.elim
  | exit => exact answer.elim
  | _ =>
    rw [show w' = _ from answers]
    exact List.Subset.refl _

/-- The accounts that are taken in are noted. -/
theorem World.Answers.observed_subset {answer : op.Res}
    (answers : World.Answers prims op w answer w') : w.observed ⊆ w'.observed := by
  cases op with
  | journal call => rcases answers with ⟨-, rfl⟩ | ⟨error, -, -, rfl⟩ <;> exact List.Subset.refl _
  | newV4 => rw [answers.2]; exact List.Subset.refl _
  | appendEvent event => rw [answers.1]; exact List.Subset.refl _
  | orderPermitted => rw [answers.2]; exact List.Subset.refl _
  | shared call => rw [answers.2]; exact List.Subset.refl _
  | applyRemote command => rw [answers.2]; exact List.Subset.refl _
  | observes runId day equityMicroUsdc =>
    rw [show w' = _ from answers]
    exact List.subset_cons_self _ _
  | panic => exact answer.elim
  | exit => exact answer.elim
  | _ =>
    rw [show w' = _ from answers]
    exact List.Subset.refl _

theorem World.Answers.grows {answer : op.Res} (answers : World.Answers prims op w answer w') :
    w.Grows w' := ⟨answers.queries_subset, answers.observed_subset, answers.chainOf_subset⟩

theorem Beside.grows (beside : Beside w w') : w.Grows w' :=
  .of_eq (congrArg Record.queries beside.record :) (congrArg Record.observed beside.record :)
    beside.chainOf

/-! ## The stored watermark -/

/-- The stored risk state of the run has the watermark. -/
def World.Watermark (prims : Primitives) (runId : Uuid) (since : UInt64) (w : World) : Prop :=
  ∃ risk : LiveRiskState, w.journal.secret (liveRiskStateKey runId) = some (risk.encoded prims) ∧
    risk.lastReconciliationMs = since

/-- Under the keys of risk states there are risk states. -/
def World.StoresRisks (prims : Primitives) (w : World) : Prop :=
  ∀ runId value, w.journal.secret (liveRiskStateKey runId) = some value →
    ∃ risk : LiveRiskState, value = risk.encoded prims

/-- A separator that does not come again shows where the end begins. -/
theorem end_of_separated {c : Char} {a b s t : List Char} (notA : c ∉ a) (notB : c ∉ b)
    (same : s ++ c :: a = t ++ c :: b) : a = b := by
  have read : ∀ {front back : List Char}, c ∉ back →
      ((front ++ c :: back).reverse.takeWhile (· ≠ c)).reverse = back := by
    intro front back other
    have skips : ∀ d ∈ back.reverse, decide (d ≠ c) = true := fun d mem =>
      decide_eq_true fun equal => other (equal ▸ List.mem_reverse.mp mem)
    rw [List.reverse_append, List.reverse_cons, List.append_assoc,
      List.takeWhile_append_of_pos skips]
    simp
  rw [← @read s a notA, same, read notB]

/-- The last field of an object, if it is a number, can be read off its text. -/
theorem last_of_compact {float : UInt64 → String} {key : String} {a b : UInt64}
    {fields fields' : List (String × Json)}
    (same : Json.compact float (.object (fields ++ [(key, .number (.unsigned a))])) =
      Json.compact float (.object (fields' ++ [(key, .number (.unsigned b))]))) : a = b := by
  rcases compactFields_concat float key (.number (.unsigned a)) fields with ⟨front, text⟩
  rcases compactFields_concat float key (.number (.unsigned b)) fields' with ⟨front', text'⟩
  have noColon : ∀ {value : Nat}, ':' ∉ Nat.toDigits 10 value := fun mem =>
    absurd (Json.isDigit_of_mem_toDigits mem) (by decide)
  have digits : ['{'] ++ front ++ Json.quoted key ++ ':' :: Nat.toDigits 10 a.toNat =
      ['{'] ++ front' ++ Json.quoted key ++ ':' :: Nat.toDigits 10 b.toNat := by
    refine (List.append_left_inj ['}']).mp ?_
    simpa only [Json.compact, text, text', Json.numberText_unsigned, List.append_assoc,
      List.cons_append, List.nil_append] using same
  exact UInt64.toNat_inj.mp (Json.toDigits_injective (end_of_separated noColon noColon digits))

/-- So a stored risk state has one watermark. -/
theorem World.Watermark.unique (first : w.Watermark prims runId since)
    (second : w.Watermark prims runId upTo) : since = upTo := by
  rcases first with ⟨risk, stored, rfl⟩
  rcases second with ⟨risk', stored', rfl⟩
  have text := utf8_injective (Option.some.inj (stored.symm.trans stored'))
  exact @last_of_compact prims.floatText "last_reconciliation_ms" _ _ (risk.fields prims).dropLast
    (risk'.fields prims).dropLast (String.ofList_injective text)

/-! ## The contract -/

/-- A write of a risk state links its watermark to the one before. -/
structure World.LinksAt (prims : Primitives) (op : Op) (w : World) : Prop where
  puts : ∀ runId value, op = .journal (.putSecret (liveRiskStateKey runId) value) →
    ∃ risk : LiveRiskState, value = risk.encoded prims ∧
      ∀ since, w.Watermark prims runId since → w.Links runId since risk.lastReconciliationMs
  deletes : ∀ runId, op ≠ .journal (.deleteSecret (liveRiskStateKey runId))

theorem World.StoresRisks.of_secrets (stores : w.StoresRisks prims)
    (secrets : ∀ runId, w'.journal.secret (liveRiskStateKey runId) =
      w.journal.secret (liveRiskStateKey runId)) : w'.StoresRisks prims :=
  fun runId value stored => stores runId value (secrets runId ▸ stored)

theorem liveRiskStateKey_not_command : ¬IsCommandKey (liveRiskStateKey runId) := by
  have key : IsSessionKey sampleConfig (liveRiskStateKey runId) := .risk runId
  exact key.not_command

/-- The contract of the watermarks. -/
def linking (prims : Primitives) (config : DaemonConfig) : Contract calls World :=
  .ofSystem (daemon prims config anything).toSystem (World.StoresRisks prims) (World.LinksAt prims)
    fun stores acts => stores.of_secrets fun _ =>
      acts.choose_spec.2.beside.secret liveRiskStateKey_not_command

theorem linking_ofWorld : OfWorld prims (linking prims config) :=
  ⟨fun begins => begins.2, fun answers => answers⟩

/-- What writes no risk state. -/
def linkEffects : Effects where
  events := fun _ _ => True
  keys := fun name => ∀ runId, name ≠ liveRiskStateKey runId
  weighs := fun _ => True
  shared := fun _ => True
  cycles := fun _ => True
  selects := True

theorem linkEffects_manages : linkEffects.Manages config where
  events := fun _ _ _ => trivial
  id := fun _ => append_ne_append (by decide) (by decide)
  lease := fun _ => append_ne_append (by decide) (by decide)
  strategy := fun _ _ => append_ne_append (by decide) (by decide)
  settings := fun _ _ => append_ne_append (by decide) (by decide)
  shared := fun _ => trivial

/-- What stays true while notes and chains grow and no risk state is written. -/
def Lasting (I : World → Prop) : Prop :=
  ∀ w w' : World, w.Grows w' → (∀ runId, w'.journal.secret (liveRiskStateKey runId) =
    w.journal.secret (liveRiskStateKey runId)) → I w → I w'

theorem Lasting.and {I I' : World → Prop} (first : Lasting I) (second : Lasting I') :
    Lasting fun w => I w ∧ I' w :=
  fun _ _ grows secrets both => ⟨first _ _ grows secrets both.1, second _ _ grows secrets both.2⟩

theorem lasting_watermark : Lasting (World.Watermark prims runId since) :=
  fun _ _ _ secrets => Exists.imp fun _ stored => ⟨(secrets runId).trans stored.1, stored.2⟩

theorem lasting_asked : Lasting fun w => w.Asked kind since upTo result :=
  fun _ _ grows _ => grows.asked

theorem lasting_tells : Lasting fun w => w.Tells runId kind result :=
  fun _ _ grows _ => grows.tells

theorem Lasting.preserves {I : World → Prop} (lasting : Lasting I) :
    (linking prims config).Preserves (Op.Within linkEffects) I where
  rely := by
    intro w w' stores holds (acts : Relation.ReflTransGen (daemon prims config anything).env w w')
    induction acts with
    | refl => exact holds
    | tail _ acts ih =>
      have beside := acts.choose_spec.2.beside
      exact lasting _ _ beside.grows (fun _ => beside.secret liveRiskStateKey_not_command) ih
  pre := by
    refine fun {op w} within _ _ => ⟨?_, ?_⟩
    · rintro runId value rfl
      exact absurd rfl (within runId)
    · rintro runId rfl
      exact within runId rfl
  begins := by
    intro op w w' _ stores holds begins
    have secrets : ∀ runId, w'.journal.secret (liveRiskStateKey runId) =
        w.journal.secret (liveRiskStateKey runId) := fun _ => by
      rw [World.Begins.journal begins.2]
    exact ⟨stores.of_secrets secrets, lasting _ _ begins.2.grows secrets holds⟩
  answers := by
    intro op w w' answer within stores holds answers
    have secrets : ∀ runId, w'.journal.secret (liveRiskStateKey runId) =
        w.journal.secret (liveRiskStateKey runId) := fun runId =>
      answers.2.secret_of_within within fun written => written runId rfl
    exact ⟨stores.of_secrets secrets, lasting _ _ answers.2.grows secrets holds⟩

/-- What records nothing of the run's risk state lets all of it last. -/
theorem Lasting.quiet {I : World → Prop} (lasting : Lasting I) :
    (linking prims config).Preserves (Op.Within quietEffects) I :=
  lasting.preserves.mono fun _ => Op.Within.mono {
    events := fun _ => trivial
    keys := False.elim
    weighs := fun _ => trivial
    shared := fun _ => trivial
    cycles := fun _ => trivial
    selects := fun _ => trivial }

/-! ## The steps -/

theorem LiveRiskState.lastReconciliationMs_update {account : AccountSnapshot} {today : Date} :
    (risk.update account today).lastReconciliationMs = risk.lastReconciliationMs := by
  unfold LiveRiskState.update
  split <;> rfl

/-- The session works with the stored watermark of its run. -/
def AtWatermark (prims : Primitives) (runId : Uuid) (risk : LiveRiskState) (w : World) : Prop :=
  w.Watermark prims runId risk.lastReconciliationMs

section Steps

variable {I : World → Prop} {α : Type}

/-- A query is noted. -/
theorem wp_askPast {call : VenueCall} (lasting : Lasting I) (within : (Op.venue call).Within linkEffects)
    (awaits : (Op.venue call).awaits = true) (stores : w.StoresRisks prims) (holds : I w) :
    (askVenue .venue call : Act calls LiveRiskState LiveCycleError call.Value).wp
      (linking prims config)
      (fun value locals w => locals = risk ∧ I w ∧ ∃ events, call.queries events (.ok value) ⊆ w.queries)
      (fun _ locals w => locals = risk ∧ I w) risk w := by
  have keeps := @Lasting.preserves prims config _ lasting
  refine Act.wp_bind.mpr (wp_ask.mpr (Contract.calls_await awaits (keeps.pre within stores holds) ?_ ?_))
  · exact fun begins => (keeps.begins within stores holds begins).1
  · intro w₁ w₂ answer w₃ begins acts stores₂ answers
    rcases keeps.begins within stores holds begins with ⟨stores₁, holds₁⟩
    have holds₂ := keeps.rely stores₁ holds₁ acts
    rcases keeps.answers within stores₂ holds₂ answers with ⟨stores₃, holds₃⟩
    refine ⟨stores₃, Act.wp_ofExcept.mpr ?_⟩
    cases answer with
    | error error => exact ⟨rfl, holds₃⟩
    | ok value =>
      refine ⟨rfl, holds₃, w₂.journal.rows.length, ?_⟩
      rw [show w₃ = _ from answers.2]
      exact List.subset_append_left _ _

theorem linksAt_append {event : RunEventEnvelopeV1} {privatePayload : Json} :
    w.LinksAt prims (.journal (.append event privatePayload)) := by
  constructor
  · intro runId value same
    cases same
  · intro runId same
    cases same

/-- An event tells an answer. -/
theorem wp_tell (kind : QueryKind) {writer : DurableRunEventWriter} {cycleId : Option Uuid}
    {payload : Json} (has : payload.get? kind.field = some result) (lasting : Lasting I)
    (stores : w.StoresRisks prims) (holds : I w) :
    (appendEvent prims writer cycleId kind.eventType payload .null :
      Act calls LiveRiskState LiveCycleError _).wp (linking prims config)
      (fun _ locals w => locals = risk ∧ I w ∧ w.Tells writer.runId kind result) Fatal risk w := by
  have append : (writer.append prims cycleId kind.eventType payload .null :
      Act calls LiveRiskState _ _).wp (linking prims config)
      (fun _ _ w => I w ∧ w.Tells writer.runId kind result)
      (fun _ _ w => I w ∨ I w ∧ w.Tells writer.runId kind result) risk w := by
    refine linking_ofWorld.wp_append lasting.quiet (lasting.and lasting_tells).quiet
      (fun _ _ _ _ _ => linksAt_append) ?_ stores holds
    intro w event journal ofRun type same stores holds added
    have secrets : journal.secrets = w.journal.secrets := by
      rw [← congrArg (·.2.secrets) added]
      exact EncryptedJournal.secrets_append
    have chain := EncryptedJournal.chainOf_append (r := w.toRecord) added
    have grows : w.Grows { w with journal } := by
      refine ⟨List.Subset.refl _, List.Subset.refl _, fun runId => ?_⟩
      rw [show Record.chainOf _ runId = _ from chain runId]
      exact List.subset_append_left _ _
    have kept : ∀ runId, journal.secret (liveRiskStateKey runId) =
        w.journal.secret (liveRiskStateKey runId) := fun _ => by
      rw [EncryptedJournal.secret, secrets, EncryptedJournal.secret]
    refine ⟨World.StoresRisks.of_secrets stores kept, lasting _ _ grows kept holds, event, ?_, type,
      by rw [same, has]⟩
    rw [show Record.chainOf _ writer.runId = _ from chain writer.runId, if_pos ofRun]
    exact List.mem_append_right _ List.mem_cons_self
  refine Act.wp_mapError.mpr (Act.wp_mono stores (Act.wp_steady steady_append append) ?_ ?_)
  · exact fun _ _ _ _ done => done
  · intro _ _ _ _ _ _ same
    cases same

/-- Another event is appended. -/
theorem wp_appendOther {writer : DurableRunEventWriter} {cycleId : Option Uuid} {eventType : String}
    {payload : Json} (lasting : Lasting I) (stores : w.StoresRisks prims) (holds : I w) :
    (appendEvent prims writer cycleId eventType payload .null :
      Act calls LiveRiskState LiveCycleError _).wp (linking prims config)
      (fun _ locals w => locals = risk ∧ I w) Fatal risk w := by
  refine Act.wp_mapError.mpr (Act.wp_mono stores (Act.wp_rests lasting.preserves
    (only_append (by trivial)) steady_append stores holds) (fun _ _ _ _ => id) ?_)
  intro _ _ _ _ _ _ same
  cases same

/-- A linked watermark is stored. -/
theorem wp_putRisk {σ ε : Type} {locals : σ} {convert : JournalError → ε}
    (stores : w.StoresRisks prims)
    (links : ∀ since, w.Watermark prims runId since → w.Links runId since risk.lastReconciliationMs) :
    (askJournal convert (.putSecret (liveRiskStateKey runId) (risk.encoded prims)) :
      Act calls σ ε Unit).wp (linking prims config)
      (fun _ locals' w => locals' = locals ∧ AtWatermark prims runId risk w)
      (fun error _ _ => ∃ cause, error = convert cause) locals w := by
  have allowed : w.LinksAt prims
      (.journal (.putSecret (liveRiskStateKey runId) (risk.encoded prims))) := by
    refine ⟨?_, nofun⟩
    intro other value same
    injection same with same
    injection same with names values
    obtain rfl := liveRiskStateKey_injective names
    exact ⟨risk, values.symm, links⟩
  refine linking_ofWorld.wp_askJournal allowed stores ?_ ?_
  · intro _ journal put
    have found := EncryptedJournal.secret_of_putSecret put
    refine ⟨?_, rfl, risk, found, rfl⟩
    intro other value read
    by_cases same : other = runId
    · subst same
      exact ⟨risk, (Option.some.inj (found.symm.trans read)).symm⟩
    · have names : liveRiskStateKey other ≠ liveRiskStateKey runId := fun equal =>
        same (liveRiskStateKey_injective equal)
      have kept := @EncryptedJournal.secret_putSecret_of_ne w.journal _ _ (risk.encoded prims) names
      have ran : w.journal.putSecret (liveRiskStateKey runId) (risk.encoded prims) = (.ok (), journal) :=
        put
      rw [ran] at kept
      exact stores other value (kept.symm.trans read)
  · intro error journal failed
    have same : journal = w.journal := by
      rcases failed with same | put
      · exact same
      · exact EncryptedJournal.putSecret_error put
    rw [same]
    exact ⟨stores, error, rfl⟩

theorem wp_storeRisk_linked (stores : w.StoresRisks prims) (stored : w.Watermark prims runId since)
    (links : w.Links runId since risk.lastReconciliationMs) :
    (storeRisk prims runId).wp (linking prims config)
      (fun _ locals w => locals = risk ∧ AtWatermark prims runId risk w) Fatal risk w := by
  have linked : ∀ since', w.Watermark prims runId since' →
      w.Links runId since' risk.lastReconciliationMs := fun since' stored' =>
    stored.unique stored' ▸ links
  refine Act.wp_bind.mpr (Act.wp_get.mpr (Act.wp_mapError.mpr (Act.wp_mono stores
    (wp_putRisk stores linked) (fun _ _ _ _ => id) ?_)))
  intro _ _ _ _ _ _ same
  cases same

/-- **A settlement.**  The answers for a window are told, and then its end is stored. -/
theorem wp_recordSettlement {writer : DurableRunEventWriter} {cycleId : Option Uuid}
    {fills funding fillPayload fundingPayload reconciliation portfolio : Json}
    {rest : RunEventEnvelopeV1 → α} (hasFills : fillPayload.get? "fills" = some fills)
    (hasFunding : fundingPayload.get? "funding" = some funding) (stores : w.StoresRisks prims)
    (stored : w.Watermark prims writer.runId since)
    (askedFills : w.Asked .fills since risk.lastReconciliationMs fills)
    (askedFunding : w.Asked .funding since risk.lastReconciliationMs funding) :
    (do
      let _ ← appendEvent prims writer cycleId "fill" fillPayload .null
      let _ ← appendEvent prims writer cycleId "funding" fundingPayload .null
      let _ ← appendEvent prims writer cycleId "reconciliation" reconciliation .null
      let finalEvent ← appendEvent prims writer cycleId "portfolio_snapshot" portfolio .null
      storeRisk prims writer.runId
      return rest finalEvent : Act calls LiveRiskState LiveCycleError α).wp (linking prims config)
      (fun _ => AtWatermark prims writer.runId) Fatal risk w := by
  have lasting₀ : Lasting fun w => w.Watermark prims writer.runId since ∧
      w.Asked .fills since risk.lastReconciliationMs fills ∧
      w.Asked .funding since risk.lastReconciliationMs funding :=
    lasting_watermark.and (lasting_asked.and lasting_asked)
  have tells : ∀ kind result, Lasting fun w => w.Tells writer.runId kind result :=
    fun _ _ => lasting_tells
  have lasting₁ := lasting₀.and (tells .fills fills)
  have lasting₂ := lasting₁.and (tells .funding funding)
  refine Act.wp_bind.mpr (Act.wp_mono stores (wp_tell .fills hasFills lasting₀ stores
    ⟨stored, askedFills, askedFunding⟩) ?_ fun _ _ _ _ => id)
  intro _ locals w₁ stores₁ done
  rcases done with ⟨rfl, told₁⟩
  refine Act.wp_bind.mpr (Act.wp_mono stores₁ (wp_tell .funding hasFunding lasting₁ stores₁
    told₁) ?_ fun _ _ _ _ => id)
  intro _ locals w₂ stores₂ done
  rcases done with ⟨rfl, told₂⟩
  refine Act.wp_bind.mpr (Act.wp_mono stores₂ (wp_appendOther lasting₂ stores₂ told₂) ?_
    fun _ _ _ _ => id)
  intro _ locals w₃ stores₃ done
  rcases done with ⟨rfl, told₃⟩
  refine Act.wp_bind.mpr (Act.wp_mono stores₃ (wp_appendOther lasting₂ stores₃ told₃) ?_
    fun _ _ _ _ => id)
  intro _ locals w₄ stores₄ done
  rcases done with ⟨rfl, ⟨⟨stored₄, askedFills, askedFunding⟩, toldFills⟩, toldFunding⟩
  have links : w₄.Links writer.runId since locals.lastReconciliationMs :=
    .of_told askedFills askedFunding toldFills toldFunding
  refine Act.wp_bind.mpr (Act.wp_mono stores₄ (wp_storeRisk_linked stores₄ stored₄ links) ?_
    fun _ _ _ _ => id)
  intro _ locals w₅ _ done
  rcases done with ⟨rfl, at₅⟩
  exact Act.wp_pure.mpr at₅

/-- The venue is asked from the watermark on, and the watermark moves in memory. -/
theorem wp_askWindow {executionAccount : String} {isolatedLeverage : UInt8}
    {rest : Json → Json → AccountSnapshot → Act calls LiveRiskState LiveCycleError α}
    {ok : α → LiveRiskState → World → Prop} {err : LiveCycleError → LiveRiskState → World → Prop}
    (stores : w.StoresRisks prims) (holds : AtWatermark prims runId risk w)
    (goesOn : ∀ {fills funding account w}, w.StoresRisks prims → AtWatermark prims runId risk w →
      w.Asked .fills risk.lastReconciliationMs upTo fills →
      w.Asked .funding risk.lastReconciliationMs upTo funding →
      (rest fills funding account).wp (linking prims config) ok err
        { risk with lastReconciliationMs := upTo } w)
    (fails : ∀ {error w}, AtWatermark prims runId risk w → err error risk w) :
    (do
      let fills ← askVenue .venue (.fillsSince executionAccount risk.lastReconciliationMs upTo)
      let funding ← askVenue .venue (.fundingSince executionAccount risk.lastReconciliationMs upTo)
      let account ← askVenue .venue (.accountSnapshot executionAccount)
      Act.ofExcept id (validateAccountPolicy account isolatedLeverage)
      modify ({ · with lastReconciliationMs := upTo })
      rest fills funding account : Act calls LiveRiskState LiveCycleError α).wp
      (linking prims config) ok err risk w := by
  have lasting₀ : Lasting (AtWatermark prims runId risk) := lasting_watermark
  refine Act.wp_bind.mpr (Act.wp_mono stores (wp_askPast lasting₀ (by exact ⟨runId, trivial⟩) rfl
    stores holds) ?_ ?_)
  · intro fills locals w₁ stores₁ done
    rcases done with ⟨rfl, at₁, events, noted⟩
    have asked₁ : w₁.Asked .fills locals.lastReconciliationMs upTo fills :=
      ⟨events, noted List.mem_cons_self⟩
    have lasting₁ : Lasting fun w => AtWatermark prims runId locals w ∧
        w.Asked .fills locals.lastReconciliationMs upTo fills := lasting₀.and lasting_asked
    refine Act.wp_bind.mpr (Act.wp_mono stores₁ (wp_askPast lasting₁ (by exact ⟨runId, trivial⟩) rfl
      stores₁ ⟨at₁, asked₁⟩) ?_ ?_)
    · intro funding locals w₂ stores₂ done
      rcases done with ⟨rfl, both₂, events, noted⟩
      have asked₂ : w₂.Asked .funding locals.lastReconciliationMs upTo funding :=
        ⟨events, noted List.mem_cons_self⟩
      have lasting₂ : Lasting fun w => (AtWatermark prims runId locals w ∧
          w.Asked .fills locals.lastReconciliationMs upTo fills) ∧
          w.Asked .funding locals.lastReconciliationMs upTo funding := lasting₁.and lasting_asked
      refine Act.wp_bind.mpr (Act.wp_mono stores₂ (Act.wp_rests lasting₂.preserves
        (only_askVenue (by trivial)) steady_askVenue stores₂ ⟨both₂, asked₂⟩) ?_ ?_)
      · intro account locals w₃ stores₃ done
        rcases done with ⟨rfl, ⟨at₃, askedFills⟩, askedFunding⟩
        refine Act.wp_bind.mpr (Act.wp_ofExcept.mpr ?_)
        split
        · exact Act.wp_bind.mpr (Act.wp_modify.mpr (goesOn stores₃ at₃ askedFills askedFunding))
        · exact fails at₃
      · rintro error locals w₃ - ⟨rfl, ⟨at₃, -⟩, -⟩
        exact fails at₃
    · rintro error locals w₂ - ⟨rfl, at₂, -⟩
      exact fails at₂
  · rintro error locals w₁ - ⟨rfl, at₁⟩
    exact fails at₁

/-- A session brings its run up to date. -/
theorem atWatermark_reconciles {session : SessionAccount} (stores : w.StoresRisks prims)
    (holds : AtWatermark prims session.runId risk w) :
    (reconcileLiveState prims session).wp (linking prims config)
      (fun _ => AtWatermark prims session.runId) (fun _ _ _ => True) risk w := by
  have lasting : Lasting (AtWatermark prims session.runId risk) := lasting_watermark
  refine Act.wp_bind.mpr (Act.wp_mono stores (Act.wp_rests lasting.preserves
    (only_ask (by trivial)) steady_ask stores holds) ?_ fun _ _ _ _ _ => trivial)
  intro now locals w₁ stores₁ done
  rcases done with ⟨rfl, at₁⟩
  refine Act.wp_bind.mpr (Act.wp_ofExcept.mpr ?_)
  split
  · rename_i reconcileAt _
    refine Act.wp_bind.mpr (Act.wp_get.mpr (wp_askWindow stores₁ at₁ ?_ fun _ => trivial))
    intro fills funding account w₂ stores₂ at₂ askedFills askedFunding
    have lasting₂ : Lasting fun w => AtWatermark prims session.runId locals w ∧
        w.Asked .fills locals.lastReconciliationMs reconcileAt fills ∧
        w.Asked .funding locals.lastReconciliationMs reconcileAt funding :=
      lasting_watermark.and (lasting_asked.and lasting_asked)
    refine Act.wp_bind.mpr (Act.wp_mono stores₂ (Act.wp_rests lasting₂.preserves
      (only_ask (by trivial)) steady_ask stores₂ ⟨at₂, askedFills, askedFunding⟩) ?_
      fun _ _ _ _ _ => trivial)
    intro today locals₃ w₃ stores₃ done
    rcases done with ⟨rfl, holds₃⟩
    refine Act.wp_bind.mpr (Act.wp_modify.mpr (Act.wp_bind.mpr (Act.wp_mono stores₃
      (Act.wp_rests lasting₂.preserves (only_ask (by trivial)) steady_ask stores₃ holds₃) ?_
      fun _ _ _ _ _ => trivial)))
    intro _ locals₄ w₄ stores₄ done
    rcases done with ⟨rfl, at₄, askedFills₄, askedFunding₄⟩
    have moved : ({ locals with lastReconciliationMs := reconcileAt }.update account
        today.date).lastReconciliationMs = reconcileAt := LiveRiskState.lastReconciliationMs_update
    rw [← moved] at askedFills₄ askedFunding₄
    refine Act.wp_mono stores₄ (@wp_recordSettlement _ _ _ _ _ _ session.writer _ _ _ _ _ _ _ _ ?_ ?_ stores₄ at₄
      askedFills₄ askedFunding₄) (fun _ _ _ _ => id) fun _ _ _ _ _ => trivial
    · exact Json.get?_ofFields_pair (by decide)
    · exact Json.get?_ofFields_pair (by decide)
  · trivial

/-- What the venue settled after an order is taken in. -/
theorem atWatermark_settles {cycle : LiveCycle} {cycleId : Uuid} {now : OffsetDateTime}
    {symbol : String} {submission : VenueSubmission} (stores : w.StoresRisks prims)
    (holds : AtWatermark prims cycle.runId risk w) :
    (cycle.settle prims cycleId now symbol submission).wp (linking prims config)
      (fun _ => AtWatermark prims cycle.runId) (AfterError (AtWatermark prims cycle.runId)) risk
      w := by
  have lasting : ∀ {risk}, Lasting (AtWatermark prims cycle.runId risk) := lasting_watermark
  refine Act.wp_bind.mpr (Act.wp_mono stores (wp_appendOther lasting stores holds) ?_
    fun _ _ _ _ fatal => fatal.afterError)
  intro _ locals w₁ stores₁ done
  rcases done with ⟨rfl, at₁⟩
  refine Act.wp_bind.mpr (Act.wp_mono stores₁ (Act.wp_rests lasting.preserves
    (only_ask (by trivial)) steady_ask stores₁ at₁) ?_ fun _ _ _ _ done _ _ => done.1 ▸ done.2)
  intro reconciledAt locals w₂ stores₂ done
  rcases done with ⟨rfl, at₂⟩
  refine Act.wp_bind.mpr (Act.wp_ofExcept.mpr ?_)
  split
  · rename_i reconcileAt _
    refine Act.wp_bind.mpr (Act.wp_get.mpr (wp_askWindow stores₂ at₂ ?_ fun at₃ _ _ => at₃))
    intro fills funding account w₃ stores₃ at₃ askedFills askedFunding
    have lasting₃ : Lasting fun w => AtWatermark prims cycle.runId locals w ∧
        w.Asked .fills locals.lastReconciliationMs reconcileAt fills ∧
        w.Asked .funding locals.lastReconciliationMs reconcileAt funding :=
      lasting_watermark.and (lasting_asked.and lasting_asked)
    refine Act.wp_bind.mpr (Act.wp_modify.mpr (Act.wp_bind.mpr (wp_ask.mpr
      ((lasting₃.preserves.calls (by trivial) stores₃ ⟨at₃, askedFills, askedFunding⟩).mono ?_))))
    intro _ w₄ stores₄ done
    rcases done with ⟨at₄, askedFills₄, askedFunding₄⟩
    have moved : ({ locals with lastReconciliationMs := reconcileAt }.update account
        now.date).lastReconciliationMs = reconcileAt := LiveRiskState.lastReconciliationMs_update
    rw [← moved] at askedFills₄ askedFunding₄
    refine Act.wp_mono stores₄ (@wp_recordSettlement _ _ _ _ _ _ cycle.writer _ _ _ _ _ _ _ _ ?_ ?_ stores₄ at₄
      askedFills₄ askedFunding₄) (fun _ _ _ _ => id)
      fun _ _ _ _ fatal => fatal.afterError
    · rfl
    · rfl
  · exact fun _ _ => at₂

/-- An order leaves the watermark where it is. -/
theorem atWatermark_dispatches {cycle : LiveCycle} {cycleId : Uuid} {order : OrderDecision}
    (stores : w.StoresRisks prims) (holds : AtWatermark prims cycle.runId risk w) :
    (cycle.dispatch prims cycleId order).wp (linking prims config)
      (fun _ => AtWatermark prims cycle.runId) (AfterError (AtWatermark prims cycle.runId)) risk
      w := by
  have lasting : ∀ {risk}, Lasting (AtWatermark prims cycle.runId risk) := lasting_watermark
  have fatal : ∀ (error : LiveCycleError) (locals : LiveRiskState) (w : World),
      (linking prims config).inv w → Fatal error locals w →
        AfterError (AtWatermark prims cycle.runId) error locals w :=
    fun _ _ _ _ fatal => fatal.afterError
  refine Act.wp_bind.mpr (Act.wp_mono stores (wp_appendOther lasting stores holds) ?_ fatal)
  intro policyEvent locals w₁ stores₁ done
  rcases done with ⟨rfl, at₁⟩
  refine Act.wp_bind.mpr (Act.wp_mono stores₁ (Act.wp_rests lasting.preserves
    (only_ask (by trivial)) steady_ask stores₁ at₁) ?_ fun _ _ _ _ done _ _ => done.1 ▸ done.2)
  intro orderId locals w₂ stores₂ done
  rcases done with ⟨rfl, at₂⟩
  refine Act.wp_bind.mpr (Act.wp_mono stores₂ (wp_appendOther lasting stores₂ at₂) ?_ fatal)
  intro _ locals w₃ stores₃ done
  rcases done with ⟨rfl, at₃⟩
  have same : w₃.Links cycle.runId locals.lastReconciliationMs
      locals.countOrder.lastReconciliationMs := .refl
  refine Act.wp_bind.mpr (Act.wp_modify.mpr (Act.wp_bind.mpr (Act.wp_mono stores₃
    (wp_storeRisk_linked stores₃ at₃ same) ?_ fatal)))
  intro _ locals₄ w₄ stores₄ done
  rcases done with ⟨rfl, at₄⟩
  refine Act.wp_mono stores₄ (Act.wp_rests lasting.preserves
    (only_askVenue (by exact ⟨cycle.runId, trivial⟩)) steady_askVenue stores₄ at₄) ?_ ?_
  · exact fun _ _ _ _ done => done.1 ▸ done.2
  · exact fun _ _ _ _ done _ _ => done.1 ▸ done.2

end Steps

/-! ## Sessions -/

/-- The stored risk state of a run is what a session goes on with. -/
theorem atWatermark_loads (reads : prims.ReadsRiskStates) {now : OffsetDateTime}
    (stores : w.StoresRisks prims) :
    (sessionRisk prims config runId now).wp (linking prims config)
      (fun risk _ => AtWatermark prims runId risk) (fun _ _ _ => True) () w := by
  refine Act.wp_bind.mpr (Act.wp_mapError.mpr (Act.wp_bind.mpr
    (linking_ofWorld.wp_readJournal (fun _ => rfl) ⟨nofun, nofun⟩ stores ?_ fun _ => trivial)))
  intro value found
  obtain rfl : w.journal.secret (liveRiskStateKey runId) = value := Except.ok.inj found
  cases secret : w.journal.secret (liveRiskStateKey runId) with
  | none =>
    have lasting : Lasting fun w => w.journal.secret (liveRiskStateKey runId) = none :=
      fun _ _ _ secrets missing => (secrets runId).trans missing
    have keeps : ∀ {α : Type} {x : Act calls Unit LiveRunError α} {w : World},
        x.Only (Op.Within linkEffects) → w.StoresRisks prims →
        w.journal.secret (liveRiskStateKey runId) = none →
        x.wp (linking prims config) (fun _ _ w => w.journal.secret (liveRiskStateKey runId) = none)
          (fun _ _ _ => True) () w := fun only stores missing =>
      Act.wp_mono stores (Act.wp_preserves lasting.preserves only stores missing)
        (fun _ _ _ _ => id) fun _ _ _ _ _ => trivial
    refine Act.wp_pure.mpr (Act.wp_bind.mpr (Act.wp_mono stores
      (keeps (only_askVenue (by trivial)) stores secret) ?_ fun _ _ _ _ => id))
    intro account _ w₁ stores₁ missing₁
    refine Act.wp_bind.mpr (Act.wp_mono stores₁ (keeps .rejectIf stores₁ missing₁) ?_
      fun _ _ _ _ => id)
    intro _ _ w₂ stores₂ missing₂
    refine Act.wp_bind.mpr (Act.wp_mono stores₂ (keeps .ofExcept stores₂ missing₂) ?_
      fun _ _ _ _ => id)
    intro lastReconciliationMs _ w₃ stores₃ missing₃
    refine Act.wp_bind.mpr (Act.wp_mono stores₃ (keeps (only_ask (by trivial)) stores₃ missing₃) ?_
      fun _ _ _ _ => id)
    intro _ _ w₄ stores₄ missing₄
    refine Act.wp_bind.mpr (Act.wp_mapError.mpr (Act.wp_mono stores₄ (wp_putRisk stores₄ ?_) ?_
      fun _ _ _ _ _ => trivial))
    · rintro since ⟨risk, stored, -⟩
      cases missing₄.symm.trans stored
    · exact fun _ _ _ _ done => Act.wp_pure.mpr done.2
  | some value =>
    cases read : (prims.parseJson value).bind (LiveRiskState.ofJson? prims) with
    | none =>
      simp only [read]
      exact Act.wp_throw.mpr trivial
    | some state =>
      simp only [read]
      refine Act.wp_pure.mpr (Act.wp_pure.mpr ?_)
      rcases stores runId value secret with ⟨stored, rfl⟩
      rw [reads stored state read]
      exact ⟨stored, secret, rfl⟩

/-- What is shown of the sessions of the daemon. -/
theorem linked_rule (reads : prims.ReadsRiskStates) :
    RiskRule prims config (linking prims config) linkEffects (fun _ _ => True) (AtWatermark prims)
      fun runId _ => AtWatermark prims runId where
  manages := linkEffects_manages
  selects := trivial
  tokens := fun runId same =>
    @liveRiskStateKey_not_command runId (same ▸ .tokens)
  idles := Lasting.preserves fun _ _ _ _ => id
  read := fun _ => trivial
  timed := Lasting.preserves fun _ _ _ _ => id
  keeps := lasting_watermark.preserves
  drops := fun {call w} stores =>
    (Lasting.preserves fun _ _ _ _ => id).calls (by trivial) stores trivial
  cycles := by
    intro cycle _
    have lasting : ∀ {risk}, Lasting (AtWatermark prims cycle.runId risk) := lasting_watermark
    refine {
      appends := fun _ _ => trivial
      idle := lasting.preserves
      plain := lasting.preserves
      starts := fun stores holds _ => lasting.preserves.calls (by trivial) stores holds
      observes := ?_
      judges := fun stores holds _ => lasting.preserves.calls (by trivial) stores holds
      stores := ?_
      permitted := fun stores holds =>
        lasting.preserves.calls (by exact ⟨cycle.runId, trivial⟩) stores holds
      dispatches := fun stores holds _ _ => atWatermark_dispatches stores holds
      settles := fun stores holds => atWatermark_settles stores holds
      ends := fun stores holds =>
        lasting.preserves.calls (by exact ⟨cycle.runId, trivial⟩) stores holds
      breaks := fun stores => (Lasting.preserves fun _ _ _ _ => id).calls
        (by exact ⟨cycle.runId, trivial⟩) stores trivial }
    · intro day risk w account stores holds
      have updated : AtWatermark prims cycle.runId (risk.update account day) w := by
        unfold AtWatermark
        rw [LiveRiskState.lastReconciliationMs_update]
        exact holds
      exact lasting.preserves.calls (by trivial) stores updated
    · intro day risk w stores holds
      refine Act.wp_mono stores (wp_storeRisk_linked stores holds .refl) ?_ ?_
      · exact fun _ _ _ _ done => done.1 ▸ done.2
      · exact fun _ _ _ _ fatal => fatal.afterError
  loads := fun stores _ => atWatermark_loads reads stores
  reconciles := atWatermark_reconciles
  trades := fun stores holds => lasting_watermark.preserves.calls (by trivial) stores holds

theorem linking_meets (reads : prims.ReadsRiskStates) :
    (daemon prims config anything).Meets (linking prims config)
      (RiskRule.Between (AtWatermark prims)) where
  system := rfl
  again := fun stores between next => (linked_rule reads).again linking_ofWorld stores between next
  crash := by
    rintro stage w w' stores ⟨rfl, -, last, dies, rfl⟩
    refine ⟨World.StoresRisks.of_secrets stores fun _ => ?_, trivial⟩
    exact dies.beside.secret liveRiskStateKey_not_command

/-! ## Runs -/

variable {a b : Config calls World Stage}

/-- A step of the daemon forgets nothing. -/
theorem grows_of_step (step : Step (daemon prims config anything) a b) : a.2.Grows b.2 := by
  cases step with
  | issue begins => exact begins.2.grows
  | resume answers => exact answers.2.grows
  | others awaits acts => exact acts.choose_spec.2.beside.grows
  | again follows => exact .of_eq rfl rfl fun _ => rfl
  | crash crashes =>
    rcases crashes with ⟨-, -, last, dies, rfl⟩
    exact ⟨dies.beside.grows.queries, dies.beside.grows.observed, dies.beside.grows.chains⟩

/-- A step of the daemon leaves the stored risk state of a run alone, or writes it in a call that the
contract allowed. -/
theorem riskState_of_step {c : Contract calls World} (ofWorld : OfWorld prims c)
    (deletes : ∀ w, ¬c.pre (.journal (.deleteSecret (liveRiskStateKey runId))) w)
    (called : Config.Called c a) (step : Step (daemon prims config anything) a b) :
    b.2.journal.secret (liveRiskStateKey runId) = a.2.journal.secret (liveRiskStateKey runId) ∨
      ∃ value, c.pre (.journal (.putSecret (liveRiskStateKey runId) value)) a.2 ∧
        b.2.journal.secret (liveRiskStateKey runId) = some value := by
  cases step with
  | issue begins => exact .inl (by rw [World.Begins.journal begins.2])
  | @resume op next w w' answer answers =>
    by_cases puts : ∃ value, op = .journal (.putSecret (liveRiskStateKey runId) value)
    · rcases puts with ⟨value, rfl⟩
      rcases called rfl with ⟨w₀, -, allowed, begins⟩
      obtain rfl := World.Begins.eq_of_sync (ofWorld.begins begins) rfl
      rcases answers.2 with ⟨-, rfl⟩ | ⟨error, -, -, rfl⟩
      · have named : liveRiskStateKey runId ≠ "" := liveRiskStateKey_ne_empty runId
        exact .inr ⟨value, allowed, EncryptedJournal.secret_putSecret_self named⟩
      · exact .inl rfl
    · have other : op ≠ .journal (.deleteSecret (liveRiskStateKey runId)) := by
        rintro rfl
        rcases called rfl with ⟨w₀, -, allowed, -⟩
        exact deletes w₀ allowed
      exact .inl (World.Answers.secret answers.2 (fun value same => puts ⟨value, same⟩) other)
  | others awaits acts => exact .inl (acts.choose_spec.2.beside.secret liveRiskStateKey_not_command)
  | again follows => exact .inl rfl
  | crash crashes =>
    rcases crashes with ⟨-, -, last, dies, rfl⟩
    exact .inl (dies.beside.secret liveRiskStateKey_not_command)

/-- A step of the daemon leaves the watermark of a run where it is, or moves it to a linked one. -/
theorem watermark_of_step
    (called : Config.Called (linking prims config) a) (step : Step (daemon prims config anything) a b)
    (stored : a.2.Watermark prims runId since) :
    ∃ upTo, b.2.Watermark prims runId upTo ∧ b.2.Links runId since upTo := by
  rcases riskState_of_step linking_ofWorld (fun _ allowed => World.LinksAt.deletes allowed runId rfl)
    called step with same | ⟨value, allowed, secret⟩
  · exact ⟨since, stored.imp fun _ stored => ⟨same.trans stored.1, stored.2⟩, .refl⟩
  · rcases World.LinksAt.puts allowed runId value rfl with ⟨risk, rfl, links⟩
    exact ⟨risk.lastReconciliationMs, ⟨risk, secret, rfl⟩,
      (grows_of_step step).links (links since stored)⟩

/-- **Watermarks.**  Whatever fails and however often a process restarts: when the stored watermark of
a run has moved from one instant to another, each instant between them, both included, lies in the
closed window of a query of fills whose answer a fill event of the run tells, and likewise for
funding. -/
theorem watermarks_linked (reads : prims.ReadsRiskStates) {w₀ : World} (start : w₀.StoresRisks prims)
    (reached : DaemonReaches prims config anything w₀ a)
    (later : Reach (daemon prims config anything) a b) (first : a.2.Watermark prims runId since)
    (last : b.2.Watermark prims runId upTo) (moved : since ≠ upTo) :
    ∀ kind time, since ≤ time → time ≤ upTo → b.2.Settles runId kind time := by
  have meets := @linking_meets prims config reads
  have between : RiskRule.Between (AtWatermark prims) .start w₀ := trivial
  have safe : ∀ {c}, DaemonReaches prims config anything w₀ c →
      Config.Safe (linking prims config) (RiskRule.Between (AtWatermark prims)) c :=
    fun reached => meets.sound_between start between reached
  have called : ∀ {c}, DaemonReaches prims config anything w₀ c →
      Config.Called (linking prims config) c := by
    intro c reached
    cases reached with
    | refl => trivial
    | tail before step => exact meets.called (safe before) step
  have linked : ∃ upTo, b.2.Watermark prims runId upTo ∧ b.2.Links runId since upTo := by
    clear last moved
    induction later with
    | refl => exact ⟨since, first, .refl⟩
    | @tail c d before step ih =>
      rcases ih with ⟨between, stored, links⟩
      rcases watermark_of_step (called (reached.trans before)) step stored with
        ⟨upTo, stored', links'⟩
      exact ⟨upTo, stored', ((grows_of_step step).links links).trans links'⟩
  rcases linked with ⟨found, stored, links⟩
  obtain rfl := stored.unique last
  exact links moved

/-- The theorem at a session that moved its watermark by a second. -/
theorem sample_watermarks_linked : ∃ state w',
    DaemonReaches sessionPrimitives sessionConfig anything sessionWorld
      (.running (.done (.loop state)), w') ∧
    w'.Watermark sessionPrimitives sampleStarted.runId 1767571201000 ∧
    ∀ kind time, 1767571200000 ≤ time → time ≤ 1767571201000 →
      w'.Settles sampleStarted.runId kind time := by
  rcases exists_sample_loop with ⟨state, w', reached, -, -, stored⟩
  have start : sessionWorld.StoresRisks sessionPrimitives := fun _ _ stored =>
    ⟨sampleRisk, sessionWorld_secret stored⟩
  have first : sessionWorld.Watermark sessionPrimitives sampleStarted.runId 1767571200000 :=
    ⟨sampleRisk, sessionWorld_stores, rfl⟩
  have last : w'.Watermark sessionPrimitives sampleStarted.runId 1767571201000 := ⟨_, stored, rfl⟩
  have moved : (1767571200000 : UInt64) ≠ 1767571201000 := by decide
  refine ⟨state, w', reached, last, ?_⟩
  exact watermarks_linked sessionPrimitives_readsRiskStates start .refl reached first last moved

end CrowAgent
