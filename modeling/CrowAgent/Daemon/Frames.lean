import CrowAgent.Daemon.Effects

/-!
# What the calls of the daemon leave alone

`OfWorld` is what the contracts of this development have in common: their calls do what
`World.Begins` and `World.Answers` say.  The rules about them come first, and then what a call, a
message of the relay and an event beside the session leave alone.
-/

namespace CrowAgent

open Coroutine

variable {prims : Primitives} {config : DaemonConfig} {σ ε α : Type} {op : Op} {w w' : World}

/-! ## Rules -/

/-- The calls of the contract's system do what they do to a world. -/
structure OfWorld (prims : Primitives) (c : Contract calls World) : Prop where
  begins : ∀ {op w w'}, c.sys.begin op w w' → World.Begins op w w'
  answers : ∀ {op w answer w'}, c.sys.answer op w answer w' →
    World.Polled op w ∧ World.Answers prims op w answer w'

namespace OfWorld

variable {c : Contract calls World} {locals : σ} {err : ε → σ → World → Prop}

/-- The rule for a call that is answered at once, and made only when the system lets it. -/
theorem calls_begun (ofWorld : OfWorld prims c) (sync : op.awaits = false) (allowed : c.pre op w)
    (inv : c.inv w) {Q : op.Res → World → Prop}
    (ok : c.sys.begin op w w → ∀ answer w', World.Answers prims op w answer w' →
      c.inv w' ∧ Q answer w') : c.Calls op Q w := by
  refine Contract.calls_sync sync allowed ?_ ?_
  · intro w₁ begins
    rw [World.Begins.eq_of_sync (ofWorld.begins begins) sync]
    exact inv
  · intro w₁ answer w' begins answers
    obtain rfl := World.Begins.eq_of_sync (ofWorld.begins begins) sync
    exact ok begins answer w' (ofWorld.answers answers).2

/-- The rule for a call that is answered at once. -/
theorem calls_sync (ofWorld : OfWorld prims c) (sync : op.awaits = false) (allowed : c.pre op w)
    (inv : c.inv w) {Q : op.Res → World → Prop}
    (ok : ∀ answer w', World.Answers prims op w answer w' → c.inv w' ∧ Q answer w') :
    c.Calls op Q w := ofWorld.calls_begun sync allowed inv fun _ => ok

/-- The rule for a call of the shared state. -/
theorem calls_shared (ofWorld : OfWorld prims c) {call : SharedCall}
    (allowed : c.pre (.shared call) w) (inv : c.inv w) {Q : call.Value → World → Prop}
    (ok : c.sys.begin (.shared call) w w →
      c.inv (w.shares call) ∧ Q (call.run w.toControl).1 (w.shares call)) :
    c.Calls (.shared call) Q w := by
  refine ofWorld.calls_begun rfl allowed inv ?_
  rintro begins answer w' ⟨rfl, rfl⟩
  exact ok begins

/-- The rule for a call of the journal. -/
theorem wp_askJournal (ofWorld : OfWorld prims c) {convert : JournalError → ε} {call : JournalCall}
    {ok : call.Value → σ → World → Prop} (allowed : c.pre (.journal call) w) (inv : c.inv w)
    (onOk : ∀ value journal, call.run prims w.journal = (.ok value, journal) →
      c.inv { w with journal } ∧ ok value locals { w with journal })
    (onErr : ∀ error journal, journal = w.journal ∨
        call.run prims w.journal = (.error error, journal) →
      c.inv { w with journal } ∧ err (convert error) locals { w with journal }) :
    (askJournal convert call : Act calls σ ε call.Value).wp c ok err locals w := by
  refine Act.wp_bind.mpr (wp_ask.mpr (ofWorld.calls_sync rfl allowed inv ?_))
  intro answer w' answers
  rcases answers with ⟨same, rfl⟩ | ⟨error, -, rfl, rfl⟩
  · obtain ⟨result, journal, ran⟩ : ∃ result journal,
        call.run prims w.journal = (result, journal) := ⟨_, _, rfl⟩
    rw [ran] at same
    rw [ran]
    subst same
    cases answer with
    | ok value =>
      obtain ⟨inv', done⟩ := onOk value journal ran
      exact ⟨inv', Act.wp_ofExcept.mpr done⟩
    | error error =>
      obtain ⟨inv', done⟩ := onErr error journal (.inr ran)
      exact ⟨inv', Act.wp_ofExcept.mpr done⟩
  · obtain ⟨inv', done⟩ := onErr error w'.journal (.inl rfl)
    exact ⟨inv', Act.wp_ofExcept.mpr done⟩

/-- The rule for a call that only reads the journal. -/
theorem wp_readJournal (ofWorld : OfWorld prims c) {convert : JournalError → ε}
    {call : JournalCall} {ok : call.Value → σ → World → Prop}
    (reads : ∀ journal, (call.run prims journal).2 = journal) (allowed : c.pre (.journal call) w)
    (inv : c.inv w)
    (onOk : ∀ value, (call.run prims w.journal).1 = .ok value → ok value locals w)
    (onErr : ∀ error, err (convert error) locals w) :
    (askJournal convert call : Act calls σ ε call.Value).wp c ok err locals w := by
  refine ofWorld.wp_askJournal allowed inv ?_ ?_
  · intro value journal ran
    obtain rfl : journal = w.journal := by rw [← reads w.journal, ran]
    exact ⟨inv, onOk value (by rw [ran])⟩
  · intro error journal failed
    obtain rfl : journal = w.journal := by
      rcases failed with same | ran
      · exact same
      · rw [← reads w.journal, ran]
    exact ⟨inv, onErr error⟩

end OfWorld

/-! ## Keys -/

/-- Texts are different when neither beginning is a part of the other. -/
theorem append_ne_append {a b x y : String} (left : ¬a.toList <+: b.toList)
    (right : ¬b.toList <+: a.toList) : a ++ x ≠ b ++ y := by
  intro same
  have lists : a.toList ++ x.toList = b.toList ++ y.toList := by
    rw [← String.toList_append, same, String.toList_append]
  rcases List.prefix_or_prefix_of_prefix ⟨x.toList, rfl⟩ ⟨y.toList, lists.symm⟩ with inside | inside
  · exact left inside
  · exact right inside

theorem append_ne_empty {a x : String} (named : a ≠ "") : a ++ x ≠ "" :=
  fun empty => named (String.append_eq_empty_iff.mp empty).1

/-- The secrets that are written beside a session. -/
inductive IsCommandKey : String → Prop
  | nonce (controllerDeviceId : Uuid) : IsCommandKey (remoteControllerNonceKey controllerDeviceId)
  | tokens : IsCommandKey refreshTokenKey

theorem refreshTokenKey_eq : refreshTokenKey = "device-refresh-" ++ "token" := by decide

/-- A session writes none of them. -/
theorem IsSessionKey.not_command {name : String} (session : IsSessionKey config name) :
    ¬IsCommandKey name := by
  intro command
  generalize same : name = other at command
  cases command with
  | nonce controllerDeviceId =>
    cases session <;> exact append_ne_append (by decide) (by decide) same
  | tokens =>
    rw [refreshTokenKey_eq] at same
    cases session <;> exact append_ne_append (by decide) (by decide) same

theorem remoteControllerNonceKey_ne_tokens {controllerDeviceId : Uuid} :
    remoteControllerNonceKey controllerDeviceId ≠ refreshTokenKey := by
  rw [refreshTokenKey_eq]
  exact append_ne_append (by decide) (by decide)

theorem remoteControllerNonceKey_injective {controllerDeviceId other : Uuid}
    (same : remoteControllerNonceKey controllerDeviceId = remoteControllerNonceKey other) :
    controllerDeviceId = other :=
  Uuid.hyphenated_injective ((String.append_right_inj _).mp same)

theorem liveRiskStateKey_injective {runId other : Uuid}
    (same : liveRiskStateKey runId = liveRiskStateKey other) : runId = other :=
  Uuid.hyphenated_injective ((String.append_right_inj _).mp same)

/-! ## Secrets -/

namespace EncryptedJournal

variable {journal : EncryptedJournal} {name other : String}

/-- The other secrets are found as before. -/
theorem find?_others (secrets : List (String × Bytes)) (different : other ≠ name) :
    (secrets.filter (·.1 ≠ name)).find? (·.1 = other) = secrets.find? (·.1 = other) := by
  rw [List.find?_filter]
  congr 1
  funext entry
  have kept : entry.1 = other → entry.1 ≠ name := fun same => same ▸ different
  simp only [decide_eq_true_eq, decide_eq_decide]
  exact ⟨And.right, fun same => ⟨kept same, same⟩⟩

theorem secret_putSecret_of_ne {value : Bytes} (different : other ≠ name) :
    (journal.putSecret name value).2.secret other = journal.secret other := by
  unfold putSecret
  split
  · rfl
  · rw [secret, List.find?_cons_of_neg (by simpa using different.symm),
      find?_others journal.secrets different, secret]

theorem secret_deleteSecret_of_ne (different : other ≠ name) :
    (journal.deleteSecret name).2.secret other = journal.secret other := by
  unfold deleteSecret
  split
  · rfl
  · rw [secret, find?_others journal.secrets different, secret]

/-- A stored secret is found under its name. -/
theorem secret_of_putSecret {value : Bytes} {journal' : EncryptedJournal}
    (ok : journal.putSecret name value = (.ok (), journal')) :
    journal'.secret name = some value := by
  unfold putSecret at ok
  split at ok
  · cases ok
  · obtain rfl := (Prod.mk.inj ok).2
    simp [secret]

theorem secret_putSecret_self {value : Bytes} (named : name ≠ "") :
    (journal.putSecret name value).2.secret name = some value := by
  rw [putSecret, if_neg named]
  simp [secret]

/-- A failed write changes nothing. -/
theorem putSecret_error {value : Bytes} {error : JournalError} {journal' : EncryptedJournal}
    (failed : journal.putSecret name value = (.error error, journal')) : journal' = journal := by
  unfold putSecret at failed
  split at failed
  · exact (Prod.mk.inj failed).2.symm
  · cases failed

/-- A deleted secret is not found. -/
theorem secret_of_deleteSecret {journal' : EncryptedJournal}
    (ok : journal.deleteSecret name = (.ok (), journal')) : journal'.secret name = none := by
  unfold deleteSecret at ok
  split at ok
  · cases ok
  · obtain rfl := (Prod.mk.inj ok).2
    simp [secret]

theorem secrets_append {event : RunEventEnvelopeV1} {privatePayload : Json} :
    (journal.append prims event privatePayload).2.secrets = journal.secrets := by
  rcases append_cases prims journal event privatePayload with ⟨error, failed⟩ | ⟨-, -, added⟩
  · rw [failed]
  · rw [added]

theorem secrets_acknowledgeEvent {eventId : Uuid} {receipt : String} :
    (journal.acknowledgeEvent eventId receipt).2.secrets = journal.secrets := by
  rcases acknowledgeEvent_cases journal eventId receipt with (⟨error, failed⟩ | ⟨same, -⟩) | stored
  · rw [failed]
  · rw [same]
  · rw [stored]

end EncryptedJournal

/-- A call of the journal leaves the secrets alone that it does not write. -/
theorem JournalCall.secret_run {call : JournalCall} {journal : EncryptedJournal} {name : String}
    (puts : ∀ value, call ≠ .putSecret name value) (deletes : call ≠ .deleteSecret name) :
    (call.run prims journal).2.secret name = journal.secret name := by
  cases call with
  | append event privatePayload =>
    exact congrArg (fun secrets => (secrets.find? (·.1 = name)).map (·.2))
      EncryptedJournal.secrets_append
  | acknowledgeEvent eventId receipt =>
    exact congrArg (fun secrets => (secrets.find? (·.1 = name)).map (·.2))
      EncryptedJournal.secrets_acknowledgeEvent
  | putSecret other value =>
    exact EncryptedJournal.secret_putSecret_of_ne fun same => puts value (same ▸ rfl)
  | deleteSecret other =>
    exact EncryptedJournal.secret_deleteSecret_of_ne fun same => deletes (same ▸ rfl)
  | _ => rfl

/-- So does an answer. -/
theorem World.Answers.secret {answer : op.Res} (answers : World.Answers prims op w answer w')
    {name : String} (puts : ∀ value, op ≠ .journal (.putSecret name value))
    (deletes : op ≠ .journal (.deleteSecret name)) :
    w'.journal.secret name = w.journal.secret name := by
  cases op with
  | journal call =>
    rcases answers with ⟨-, rfl⟩ | ⟨error, -, -, rfl⟩
    · exact JournalCall.secret_run (fun value same => puts value (same ▸ rfl))
        fun same => deletes (same ▸ rfl)
    · rfl
  | newV4 => rw [answers.2]
  | _ => rw [(World.Answers.tables answers nofun nofun).1]

/-- A call that has other effects leaves a secret alone. -/
theorem World.Answers.secret_of_within {effects : Effects} {answer : op.Res}
    (answers : World.Answers prims op w answer w') (within : op.Within effects) {name : String}
    (other : ¬effects.keys name) : w'.journal.secret name = w.journal.secret name := by
  refine World.Answers.secret answers ?_ ?_
  · rintro value rfl
    exact other within
  · rintro rfl
    exact other within

/-! ## The shared state and the notes -/

/-- Making a call leaves the shared state alone. -/
theorem World.Begins.shared (begins : World.Begins op w w') : w'.toShared = w.toShared := by
  unfold World.Begins at begins
  split at begins
  · obtain ⟨stored, rfl⟩ := begins
    rfl
  · rw [begins]
    rfl
  · rw [begins]

/-- No answer changes what the commands of the owner left. -/
theorem World.Answers.commands {answer : op.Res} (answers : World.Answers prims op w answer w') :
    w'.issued = w.issued ∧ w'.accepted = w.accepted ∧ w'.passed = w.passed ∧
      w'.highestNonce = w.highestNonce := by
  cases op with
  | journal call =>
    rcases answers with ⟨-, rfl⟩ | ⟨error, -, -, rfl⟩
    · exact ⟨rfl, rfl, rfl, rfl⟩
    · exact ⟨rfl, rfl, rfl, rfl⟩
  | newV4 =>
    rw [answers.2]
    exact ⟨rfl, rfl, rfl, rfl⟩
  | appendEvent event =>
    rw [answers.1]
    exact ⟨rfl, rfl, rfl, rfl⟩
  | orderPermitted =>
    rw [answers.2]
    exact ⟨rfl, rfl, rfl, rfl⟩
  | shared call =>
    rw [answers.2]
    exact ⟨rfl, rfl, rfl, by cases call <;> rfl⟩
  | applyRemote command =>
    rw [answers.2]
    exact ⟨rfl, rfl, rfl, rfl⟩
  | panic => exact answer.elim
  | exit => exact answer.elim
  | _ =>
    rw [show w' = _ from answers]
    exact ⟨rfl, rfl, rfl, rfl⟩

/-- Only the application of a command adds to the commands that came. -/
theorem World.Answers.reached {answer : op.Res} (answers : World.Answers prims op w answer w')
    (commands : ∀ command, op ≠ .applyRemote command) : w'.reached = w.reached := by
  cases op with
  | journal call => rcases answers with ⟨-, rfl⟩ | ⟨error, -, -, rfl⟩ <;> rfl
  | newV4 => rw [answers.2]
  | appendEvent event => rw [answers.1]
  | orderPermitted =>
    rw [answers.2]
    rfl
  | shared call =>
    rw [answers.2]
    rfl
  | applyRemote command => exact absurd rfl (commands command)
  | panic => exact answer.elim
  | exit => exact answer.elim
  | _ =>
    rw [show w' = _ from answers]
    try rfl

/-- Only the calls of the shared state and a remote command change what the tasks share. -/
theorem World.Answers.control {answer : op.Res} (answers : World.Answers prims op w answer w')
    (calls : ∀ call, op ≠ .shared call) (commands : ∀ command, op ≠ .applyRemote command) :
    w'.toControl = w.toControl ∧ w'.reached = w.reached := by
  cases op with
  | journal call =>
    rcases answers with ⟨-, rfl⟩ | ⟨error, -, -, rfl⟩
    · exact ⟨rfl, rfl⟩
    · exact ⟨rfl, rfl⟩
  | newV4 =>
    rw [answers.2]
    exact ⟨rfl, rfl⟩
  | appendEvent event =>
    rw [answers.1]
    exact ⟨rfl, rfl⟩
  | orderPermitted =>
    rw [answers.2]
    exact ⟨rfl, rfl⟩
  | shared call => exact absurd rfl (calls call)
  | applyRemote command => exact absurd rfl (commands command)
  | panic => exact answer.elim
  | exit => exact answer.elim
  | _ =>
    rw [show w' = _ from answers]
    exact ⟨rfl, rfl⟩

/-- Looking at the gate changes nothing. -/
theorem World.Answers.startControl {answer : op.Res} (answers : World.Answers prims op w answer w')
    (within : op.Within startEffects) : w'.toControl = w.toControl := by
  by_cases shared : ∃ call, op = .shared call
  · obtain ⟨call, rfl⟩ := shared
    obtain rfl : call = .label := within
    rw [answers.2]
    rfl
  · have other : ∀ call, op ≠ .shared call := fun call same => shared ⟨call, same⟩
    have notCommand : ∀ command, op ≠ .applyRemote command := by
      rintro command rfl
      exact within
    exact (answers.control other notCommand).1

/-- A session does not end itself. -/
theorem World.Answers.live {answer : op.Res} (answers : World.Answers prims op w answer w')
    (within : op.Within sessionEffects) : w'.live = w.live := by
  by_cases shared : ∃ call, op = .shared call
  · obtain ⟨call, rfl⟩ := shared
    rw [answers.2]
    cases call with
    | setLive live => exact within.elim
    | _ => rfl
  · have other : ∀ call, op ≠ .shared call := fun call same => shared ⟨call, same⟩
    have notCommand : ∀ command, op ≠ .applyRemote command := by
      rintro command rfl
      exact within
    exact congrArg Control.live (answers.control other notCommand).1

/-- Only a turn of the loop changes what the session woke up for. -/
theorem World.Answers.lastTick {answer : op.Res} (answers : World.Answers prims op w answer w')
    (other : op ≠ .select) : w'.lastTick = w.lastTick := by
  cases op with
  | journal call => rcases answers with ⟨-, rfl⟩ | ⟨error, -, -, rfl⟩ <;> rfl
  | newV4 => rw [answers.2]
  | appendEvent event => rw [answers.1]
  | orderPermitted =>
    rw [answers.2]
    rfl
  | shared call =>
    rw [answers.2]
    rfl
  | applyRemote command => rw [answers.2]
  | select => exact absurd rfl other
  | panic => exact answer.elim
  | exit => exact answer.elim
  | _ =>
    rw [show w' = _ from answers]
    try rfl

end CrowAgent
