import CrowAgent.Core.LiveRuns
import CrowAgent.Daemon.SessionRules
import CrowAgent.Daemon.StartRuns

/-!
# The id and the lease of the run

A session keeps the id and the lease of its run under two keys, which it writes one after the other.
`acquireRun` finds nothing to go on with when only one of them is stored.  They are stored in pairs as
long as each second write, the one of the lease, follows on the first (`leaseKept`).
-/

namespace CrowAgent

open Coroutine

variable {prims : Primitives} {config : DaemonConfig} {w w' : World} {op : Op}

/-! ## Pairs -/

/-- The id of a run and its lease are both stored, or neither of them is. -/
inductive EncryptedJournal.Paired (config : DaemonConfig) (journal : EncryptedJournal) : Prop
  | absent (id : journal.secret (runIdKey config.arenaId) = none)
      (lease : journal.secret (leaseKey config.arenaId) = none)
  | stored {runId : Uuid} {leaseToken : String}
      (id : journal.secret (runIdKey config.arenaId) = some (utf8 runId.hyphenated))
      (lease : journal.secret (leaseKey config.arenaId) = some (utf8 leaseToken))

/-- The call writes the lease. -/
def JournalCall.WritesLease (config : DaemonConfig) : JournalCall → Prop
  | .putSecret name _ | .deleteSecret name => name = leaseKey config.arenaId
  | _ => False

/-- No process ends before a write of the lease, and the write takes effect. -/
def leaseKept (prims : Primitives) (config : DaemonConfig) (a b : Config calls World Stage) : Prop :=
  ∀ (call : JournalCall) (next : (Op.journal call).Res → Prog calls Stage),
    call.WritesLease config →
      (a.1 = .running (@Prog.call calls _ (.journal call) next) →
        b.1 = @Thread.waiting calls _ (.journal call) next) ∧
      (a.1 = @Thread.waiting calls _ (.journal call) next →
        b.2.journal = (call.run prims a.2.journal).2)

theorem runIdKey_ne_leaseKey {arenaId other : Uuid} : runIdKey arenaId ≠ leaseKey other :=
  append_ne_append (by decide) (by decide)

theorem strategyKey_ne_runIdKey {runId arenaId : Uuid} : strategyKey runId ≠ runIdKey arenaId :=
  append_ne_append (by decide) (by decide)

theorem strategyKey_ne_leaseKey {runId arenaId : Uuid} : strategyKey runId ≠ leaseKey arenaId :=
  append_ne_append (by decide) (by decide)

namespace EncryptedJournal.Paired

variable {journal journal' : EncryptedJournal}

theorem of_eq (paired : journal.Paired config)
    (id : journal'.secret (runIdKey config.arenaId) = journal.secret (runIdKey config.arenaId))
    (lease : journal'.secret (leaseKey config.arenaId) = journal.secret (leaseKey config.arenaId)) :
    journal'.Paired config := by
  cases paired with
  | absent noId noLease => exact .absent (id.trans noId) (lease.trans noLease)
  | stored hasId hasLease => exact .stored (id.trans hasId) (lease.trans hasLease)

/-- What happens beside a session does not touch them. -/
theorem beside (paired : w.journal.Paired config) (beside : Beside w w') :
    w'.journal.Paired config :=
  paired.of_eq (beside.secret (IsSessionKey.runId : IsSessionKey config _).not_command)
    (beside.secret (IsSessionKey.lease : IsSessionKey config _).not_command)

end EncryptedJournal.Paired

/-! ## The contract -/

/-- A call other than a write of the lease finds a pair, and a write of the lease makes one. -/
structure World.PairsAt (prims : Primitives) (config : DaemonConfig) (op : Op) (w : World) :
    Prop where
  finds : (∀ call : JournalCall, op = .journal call → ¬call.WritesLease config) →
    w.journal.Paired config
  makes : ∀ call : JournalCall, op = .journal call → call.WritesLease config →
    (call.run prims w.journal).2.Paired config

theorem World.PairsAt.of_other (paired : w.journal.Paired config)
    (other : ∀ call : JournalCall, op = .journal call → ¬call.WritesLease config) :
    w.PairsAt prims config op :=
  ⟨fun _ => paired, fun call same writes => absurd writes (other call same)⟩

/-- The contract of the pair; a write of the lease takes effect. -/
def pairs (prims : Primitives) (config : DaemonConfig) : Contract calls World :=
  .ofSystem
    { (daemon prims config anything).toSystem with
      answer := fun op w answer w' => (daemon prims config anything).answer op w answer w' ∧
        ∀ call : JournalCall, op = .journal call → call.WritesLease config →
          w'.journal = (call.run prims w.journal).2 }
    (fun _ => True) (World.PairsAt prims config) fun _ _ => trivial

theorem pairs_ofWorld : OfWorld prims (pairs prims config) :=
  ⟨fun begins => begins.2, fun answers => answers.1⟩

/-- What a predicate of the journal has to be like to say something about the two secrets alone. -/
structure OfPair (config : DaemonConfig) (I : EncryptedJournal → Prop) : Prop where
  paired : ∀ {journal}, I journal → journal.Paired config
  looks : ∀ {journal journal'}, I journal →
    journal'.secret (runIdKey config.arenaId) = journal.secret (runIdKey config.arenaId) →
    journal'.secret (leaseKey config.arenaId) = journal.secret (leaseKey config.arenaId) → I journal'

theorem ofPair_paired : OfPair config fun journal => journal.Paired config :=
  ⟨id, fun paired => paired.of_eq⟩

/-- Neither secret is stored. -/
def EncryptedJournal.Unpaired (config : DaemonConfig) (journal : EncryptedJournal) : Prop :=
  journal.secret (runIdKey config.arenaId) = none ∧ journal.secret (leaseKey config.arenaId) = none

theorem ofPair_unpaired : OfPair config fun journal => journal.Unpaired config :=
  ⟨fun absent => .absent absent.1 absent.2,
    fun absent id lease => ⟨id.trans absent.1, lease.trans absent.2⟩⟩

section Preserves

variable {I : EncryptedJournal → Prop} {effects : Effects}

theorem OfPair.beside (ofPair : OfPair config I) (holds : I w.journal) (beside : Beside w w') :
    I w'.journal :=
  ofPair.looks holds (beside.secret (IsSessionKey.runId : IsSessionKey config _).not_command)
    (beside.secret (IsSessionKey.lease : IsSessionKey config _).not_command)

theorem OfPair.rely (ofPair : OfPair config I) (holds : I w.journal)
    (steps : (pairs prims config).rely w w') : I w'.journal := by
  have acts : Relation.ReflTransGen (daemon prims config anything).env w w' := steps
  clear steps
  induction acts with
  | refl => exact holds
  | tail _ acts ih =>
    obtain ⟨event, -, happens⟩ := acts
    exact ofPair.beside ih happens.beside

/-- What writes neither of the two secrets keeps what is said about them. -/
theorem OfPair.preserves (ofPair : OfPair config I) (id : ¬effects.keys (runIdKey config.arenaId))
    (lease : ¬effects.keys (leaseKey config.arenaId)) :
    (pairs prims config).Preserves (Op.Within effects) fun w => I w.journal where
  rely := fun _ holds steps => ofPair.rely holds steps
  pre := by
    refine fun {op w} within _ holds => .of_other (ofPair.paired holds) ?_
    rintro call rfl writes
    cases call with
    | putSecret name value =>
      obtain rfl : name = leaseKey config.arenaId := writes
      exact lease within
    | deleteSecret name =>
      obtain rfl : name = leaseKey config.arenaId := writes
      exact lease within
    | _ => exact writes
  begins := by
    intro op w w' _ _ holds begins
    refine ⟨trivial, ?_⟩
    rw [World.Begins.journal begins.2]
    exact holds
  answers := by
    intro op w w' answer within _ holds answers
    exact ⟨trivial, ofPair.looks holds (answers.1.2.secret_of_within within id)
      (answers.1.2.secret_of_within within lease)⟩

theorem OfPair.quiet (ofPair : OfPair config I) :
    (pairs prims config).Preserves (Op.Within quietEffects) fun w => I w.journal :=
  ofPair.preserves (fun never => never) fun never => never

end Preserves

/-- A write of the lease makes a pair. -/
theorem wp_writeLease {convert : JournalError → LiveRunError} {call : JournalCall}
    (writes : call.WritesLease config) (makes : (call.run prims w.journal).2.Paired config) :
    (askJournal convert call : Act calls Unit _ _).wp (pairs prims config)
      (fun _ _ w => w.journal.Paired config) (fun _ _ w => w.journal.Paired config) () w := by
  refine Act.wp_bind.mpr (wp_ask.mpr ?_)
  refine Contract.calls_sync rfl ⟨fun other => absurd writes (other call rfl), ?_⟩
    (fun _ => trivial) ?_
  · rintro _ same -
    cases same
    exact makes
  · intro w₁ answer w₂ begins answers
    obtain rfl := World.Begins.eq_of_sync (pairs_ofWorld.begins begins) rfl
    have effect := answers.2 call rfl writes
    refine ⟨trivial, Act.wp_ofExcept.mpr ?_⟩
    rw [← effect] at makes
    split
    · exact makes
    · exact makes

/-- A call of the journal that is no write of the lease. -/
theorem World.PairsAt.of_call {call : JournalCall} (paired : w.journal.Paired config)
    (other : ¬call.WritesLease config) : w.PairsAt prims config (.journal call) := by
  refine .of_other paired ?_
  rintro _ same
  cases same
  exact other

/-- **Acquiring a run** keeps the pair. -/
theorem wp_acquireRun_pairs (paired : w.journal.Paired config) :
    (acquireRun prims config).wp (pairs prims config) (fun _ _ w => w.journal.Paired config)
      (fun _ _ w => w.journal.Paired config) () w := by
  refine Act.wp_bind.mpr (pairs_ofWorld.wp_readJournal (fun _ => rfl)
    (.of_call paired fun never => never) trivial ?_ fun _ => paired)
  intro existingId readId
  refine Act.wp_bind.mpr (pairs_ofWorld.wp_readJournal (fun _ => rfl)
    (.of_call paired fun never => never) trivial ?_ fun _ => paired)
  intro existingLease readLease
  split
  · refine Act.wp_preserves ofPair_paired.quiet ?_ trivial paired
    exact Act.Only.ofOption.bind fun _ => Act.Only.ofOption.bind fun _ => only_askApi.bind fun _ =>
      .pure
  · have absent : w.journal.Unpaired config := ⟨Except.ok.inj readId, Except.ok.inj readLease⟩
    refine Act.wp_bind.mpr (Act.wp_mono trivial (Act.wp_preserves ofPair_unpaired.quiet only_askApi
      trivial absent) ?_ fun _ _ _ _ absent => ofPair_unpaired.paired absent)
    rintro started ⟨⟩ w₁ - absent₁
    have paired₁ := ofPair_unpaired.paired absent₁
    refine Act.wp_bind.mpr (pairs_ofWorld.wp_askJournal (.of_call paired₁ runIdKey_ne_leaseKey)
      trivial ?_ ?_)
    · intro _ journal put
      have stored := EncryptedJournal.secret_of_putSecret put
      have named : leaseKey config.arenaId ≠ "" := append_ne_empty (by decide)
      have makes : (journal.putSecret (leaseKey config.arenaId) (utf8 started.leaseToken)).2.Paired
          config := by
        have kept : (journal.putSecret (leaseKey config.arenaId) (utf8 started.leaseToken)).2.secret
            (runIdKey config.arenaId) = journal.secret (runIdKey config.arenaId) :=
          EncryptedJournal.secret_putSecret_of_ne runIdKey_ne_leaseKey
        exact .stored (kept.trans stored) (EncryptedJournal.secret_putSecret_self named)
      refine ⟨trivial, Act.wp_bind.mpr (Act.wp_mono trivial (wp_writeLease rfl makes) ?_
        fun _ _ _ _ => id)⟩
      exact fun _ _ _ _ paired => Act.wp_pure.mpr paired
    · intro error journal failed
      obtain rfl : journal = w₁.journal := by
        rcases failed with same | ran
        · exact same
        · exact EncryptedJournal.putSecret_error ran
      exact ⟨trivial, paired₁⟩
  · exact Act.wp_throw.mpr paired

/-- A failed removal changes nothing. -/
theorem EncryptedJournal.deleteSecret_error {journal journal' : EncryptedJournal} {name : String}
    {error : JournalError} (failed : journal.deleteSecret name = (.error error, journal')) :
    journal' = journal := by
  unfold deleteSecret at failed
  split at failed
  · exact (Prod.mk.inj failed).2.symm
  · cases failed

/-- What a session does besides. -/
def pairEffects (config : DaemonConfig) : Effects where
  events := fun _ _ => True
  keys := fun name => name ≠ runIdKey config.arenaId ∧ name ≠ leaseKey config.arenaId
  weighs := fun _ => True
  shared := fun _ => True
  cycles := fun _ => True
  selects := True

theorem OfPair.others {I : EncryptedJournal → Prop} (ofPair : OfPair config I) :
    (pairs prims config).Preserves (Op.Within (pairEffects config)) fun w => I w.journal :=
  ofPair.preserves (fun other => other.1 rfl) fun other => other.2 rfl

theorem pairEffects_loops {runId : Uuid} : (pairEffects config).Loops runId where
  events := fun _ _ => trivial
  strategy := ⟨append_ne_append (by decide) (by decide), append_ne_append (by decide) (by decide)⟩
  settings := ⟨append_ne_append (by decide) (by decide), append_ne_append (by decide) (by decide)⟩
  risk := ⟨append_ne_append (by decide) (by decide), append_ne_append (by decide) (by decide)⟩
  weighs := trivial
  shared := fun _ => trivial
  cycles := trivial

/-- **Removing a run** keeps the pair. -/
theorem wp_finishRun_pairs {runId : Uuid} (paired : w.journal.Paired config) :
    (finishRun config runId).wp (pairs prims config) (fun _ _ w => w.journal.Paired config)
      (fun _ _ w => w.journal.Paired config) () w := by
  refine Act.wp_bind.mpr (pairs_ofWorld.wp_askJournal (.of_call paired runIdKey_ne_leaseKey)
    trivial ?_ ?_)
  · intro _ journal removed
    have noId := EncryptedJournal.secret_of_deleteSecret removed
    have named : leaseKey config.arenaId ≠ "" := append_ne_empty (by decide)
    have noLease : (journal.deleteSecret (leaseKey config.arenaId)).2.secret
        (leaseKey config.arenaId) = none :=
      EncryptedJournal.secret_of_deleteSecret
        (Prod.ext (by rw [EncryptedJournal.deleteSecret, if_neg named]) rfl)
    have makes : (journal.deleteSecret (leaseKey config.arenaId)).2.Paired config :=
      .absent ((EncryptedJournal.secret_deleteSecret_of_ne runIdKey_ne_leaseKey).trans noId) noLease
    refine ⟨trivial, Act.wp_bind.mpr (Act.wp_mono trivial (wp_writeLease rfl makes) ?_
      fun _ _ _ _ => id)⟩
    rintro _ ⟨⟩ w₁ - paired₁
    have rest : (askJournal .journal (.deleteSecret (strategyKey runId)) >>= fun _ =>
        ask (.shared (.setActiveRun none)) : Act calls Unit LiveRunError Unit).Only
        (Op.Within (pairEffects config)) :=
      (only_askJournal (by exact pairEffects_loops.strategy)).bind fun _ => only_ask (by trivial)
    exact Act.wp_preserves ofPair_paired.others rest trivial paired₁
  · intro error journal failed
    obtain rfl : journal = w.journal := by
      rcases failed with same | ran
      · exact same
      · exact EncryptedJournal.deleteSecret_error ran
    exact ⟨trivial, paired⟩

/-! ## Restarts -/

theorem IsSessionKey.not_start {name : String} (session : IsSessionKey config name) :
    ¬startEffects.keys name := by
  rintro rfl
  exact session.not_command .tokens

/-- Every session keeps the pair. -/
theorem pairs_rule : DaemonRule prims config (pairs prims config) (fun _ => pairEffects config)
    (fun w => w.journal.Paired config) (fun _ w => w.journal.Paired config)
    (fun _ w => w.journal.Paired config) fun w => w.journal.Paired config where
  loops := fun _ => pairEffects_loops
  selects := fun _ => trivial
  starts := ofPair_paired.preserves (IsSessionKey.runId : IsSessionKey config _).not_start
    (IsSessionKey.lease : IsSessionKey config _).not_start
  lives := ofPair_paired.preserves (fun never => never) fun never => never
  waits := ofPair_paired.quiet
  acquires := fun _ paired => wp_acquireRun_pairs paired
  prepares := fun _ => ofPair_paired.quiet
  begins := fun _ paired => Act.wp_preserves ofPair_paired.others
    (only_initializeEventChain pairEffects_loops.initial) trivial paired
  keeps := fun _ => ofPair_paired.others
  stops := fun _ paired => Act.wp_mono trivial (Act.wp_preserves ofPair_paired.others
    (only_appendSessionEvent (by trivial)) trivial paired)
    (fun _ _ _ _ paired => wp_finishRun_pairs paired) fun _ _ _ _ => id
  drops := ofPair_paired.preserves (fun never => never) fun never => never
  idles := ofPair_paired.quiet
  unacquired := fun _ => id
  unbegun := fun _ => id
  fails := fun _ => id

/-- What a write of the lease makes of the two secrets is up to the id that is stored. -/
theorem JournalCall.WritesLease.paired {call : JournalCall} {journal journal' : EncryptedJournal}
    (writes : call.WritesLease config) (makes : (call.run prims journal).2.Paired config)
    (id : journal'.secret (runIdKey config.arenaId) = journal.secret (runIdKey config.arenaId)) :
    (call.run prims journal').2.Paired config := by
  have named : leaseKey config.arenaId ≠ "" := append_ne_empty (by decide)
  cases call with
  | putSecret name value =>
    obtain rfl : name = leaseKey config.arenaId := writes
    refine makes.of_eq ?_ ((EncryptedJournal.secret_putSecret_self named).trans
      (EncryptedJournal.secret_putSecret_self named).symm)
    exact (EncryptedJournal.secret_putSecret_of_ne runIdKey_ne_leaseKey).trans
      (id.trans (EncryptedJournal.secret_putSecret_of_ne runIdKey_ne_leaseKey).symm)
  | deleteSecret name =>
    obtain rfl : name = leaseKey config.arenaId := writes
    have removed : ∀ journal : EncryptedJournal,
        (journal.deleteSecret (leaseKey config.arenaId)).2.secret (leaseKey config.arenaId) = none :=
      fun journal => EncryptedJournal.secret_of_deleteSecret
        (Prod.ext (by rw [EncryptedJournal.deleteSecret, if_neg named]) rfl)
    refine makes.of_eq ?_ ((removed _).trans (removed _).symm)
    exact (EncryptedJournal.secret_deleteSecret_of_ne runIdKey_ne_leaseKey).trans
      (id.trans (EncryptedJournal.secret_deleteSecret_of_ne runIdKey_ne_leaseKey).symm)
  | _ => exact writes.elim

/-- No process ends with half a pair. -/
theorem pairs_meet : (daemon prims config anything).MeetsWhen (leaseKept prims config)
    (pairs prims config) (World.PairsAt prims config)
    (DaemonRule.Between (fun w => w.journal.Paired config) (fun _ w => w.journal.Paired config)
      fun w => w.journal.Paired config) where
  begins := fun begins _ => begins
  answers := by
    refine fun {op next answer w w'} answers meant => ⟨answers, ?_⟩
    rintro call rfl writes
    exact (meant call next writes).2 rfl
  others := fun acts _ => acts
  waits := by
    intro op w w' _ pairsAt begins
    have same := World.Begins.journal begins.2
    exact ⟨fun other => same ▸ pairsAt.finds other, fun call isCall writes =>
      same ▸ pairsAt.makes call isCall writes⟩
  lasts := by
    intro op w w' _ pairsAt acts
    obtain ⟨event, -, happens⟩ := acts
    refine ⟨fun other => ofPair_paired.beside (pairsAt.finds other) happens.beside, ?_⟩
    intro call isCall writes
    exact writes.paired (pairsAt.makes call isCall writes)
      (happens.beside.secret (IsSessionKey.runId : IsSessionKey config _).not_command)
  again := fun inv between next => DaemonRule.again pairs_rule pairs_ofWorld inv between next
  crash := by
    intro thread stage w w' safe waiting crashes meant
    obtain ⟨rfl, -, last, dies, rfl⟩ := crashes
    refine ⟨trivial, ?_⟩
    have whole : w.journal.Paired config → last.restarted.journal.Paired config := by
      intro paired
      have lasts : last.journal.Paired config := ofPair_paired.beside paired dies.beside
      exact lasts
    have finds : ∀ {op : Op}, w.PairsAt prims config op →
        (∀ call : JournalCall, op = .journal call → call.WritesLease config →
          last.restarted.journal.Paired config) → last.restarted.journal.Paired config := by
      intro op pairsAt writes
      by_cases lease : ∃ call : JournalCall, op = .journal call ∧ call.WritesLease config
      · obtain ⟨call, isCall, writesLease⟩ := lease
        exact writes call isCall writesLease
      · exact whole (pairsAt.finds fun call isCall writesLease =>
          lease ⟨call, isCall, writesLease⟩)
    cases thread with
    | running prog =>
      cases prog with
      | done stage =>
        have between : DaemonRule.Between _ _ _ stage w := safe.2
        cases stage with
        | start => exact whole between
        | loop state => exact whole between
        | «over» stopped => exact whole between
      | call op next =>
        refine finds safe.2.1 ?_
        rintro call rfl writes
        have waits := (meant call next writes).1 rfl
        cases waits
    | waiting op next =>
      refine finds waiting ?_
      rintro call rfl writes
      have effect := (meant call next writes).2 rfl
      have makes := World.PairsAt.makes waiting call rfl writes
      rw [← effect] at makes
      exact makes

/-! ## Acquiring a run from a pair -/

/-- The failure comes from the control plane or from the database. -/
def LiveRunError.FromOutside : LiveRunError → Prop
  | .controlPlane _ => True
  | .journal error => World.isFault error
  | _ => False

/-- A call that the tables do not refuse fails with a fault of the database. -/
theorem World.Answers.isFault {call : JournalCall} {error : JournalError}
    (answers : World.Answers prims (.journal call) w (.error error) w') {value : call.Value}
    (accepts : (call.run prims w.journal).1 = .ok value) : World.isFault error := by
  rcases answers with ⟨same, -⟩ | ⟨error', fault, same, -⟩
  · cases same.trans accepts
  · cases same
    exact fault

section Acquire

variable {c : Contract calls World} {ok : Uuid → Unit → World → Prop}

/-- A call of the journal that the tables do not refuse. -/
theorem OfWorld.wp_askJournal_total (ofWorld : OfWorld prims c) {call : JournalCall}
    {ok : call.Value → Unit → World → Prop} {value : call.Value}
    (accepts : (call.run prims w.journal).1 = .ok value) (allowed : c.pre (.journal call) w)
    (inv : ∀ w, c.inv w)
    (onOk : ∀ w', w' = { w with journal := (call.run prims w.journal).2 } → ok value () w') :
    (askJournal LiveRunError.journal call).wp c ok (fun error _ _ => error.FromOutside) () w := by
  refine Act.wp_bind.mpr (wp_ask.mpr (ofWorld.calls_sync rfl allowed (inv w) ?_))
  intro answer w' answers
  refine ⟨inv w', Act.wp_ofExcept.mpr ?_⟩
  cases answer with
  | error error => exact World.Answers.isFault answers accepts
  | ok other =>
    rcases answers with ⟨same, after⟩ | ⟨error, -, same, -⟩
    · cases same.trans accepts
      exact onOk w' after
    · cases same

theorem wp_askApi_outside {call : ApiCall} {ok : call.Value → Unit → World → Prop}
    (allowed : c.pre (.api call) w) (inv : ∀ w, c.inv w) (onOk : ∀ value w', ok value () w') :
    (askApi LiveRunError.controlPlane call).wp c ok (fun error _ _ => error.FromOutside) () w := by
  refine Act.wp_bind.mpr (wp_ask.mpr ⟨allowed, fun w₁ _ => ⟨inv w₁, fun w₂ _ _ answer w₃ _ =>
    ⟨inv w₃, Act.wp_ofExcept.mpr ?_⟩⟩⟩)
  cases answer with
  | error error => trivial
  | ok value => exact onOk value w₃

/-- **Acquiring a run from a pair** fails only with what comes from outside. -/
theorem wp_acquireRun_of_paired (reads : prims.ReadsTexts) (ofWorld : OfWorld prims c)
    (allowed : ∀ op w, c.pre op w) (inv : ∀ w, c.inv w) (paired : w.journal.Paired config) :
    (acquireRun prims config).wp c (fun _ _ _ => True) (fun error _ _ => error.FromOutside) () w := by
  have puts : ∀ {name : String} {value : Bytes} {w : World}, name ≠ "" →
      ((JournalCall.putSecret name value).run prims w.journal).1 = .ok () := fun named => by
    rw [JournalCall.run, EncryptedJournal.putSecret, if_neg named]
    rfl
  refine Act.wp_bind.mpr (ofWorld.wp_askJournal_total rfl (allowed _ _) inv ?_)
  intro w₁ same
  obtain rfl : w₁ = w := same
  refine Act.wp_bind.mpr (ofWorld.wp_askJournal_total rfl (allowed _ _) inv ?_)
  intro w₂ same
  obtain rfl : w₂ = w₁ := same
  cases paired with
  | absent noId noLease =>
    rw [noId, noLease]
    refine Act.wp_bind.mpr (wp_askApi_outside (allowed _ _) inv fun started w₃ => ?_)
    refine Act.wp_bind.mpr (ofWorld.wp_askJournal_total (puts (append_ne_empty (by decide)))
      (allowed _ _) inv fun w₄ _ => ?_)
    refine Act.wp_bind.mpr (ofWorld.wp_askJournal_total (puts (append_ne_empty (by decide)))
      (allowed _ _) inv fun w₅ _ => ?_)
    exact Act.wp_pure.mpr trivial
  | @stored runId leaseToken hasId hasLease =>
    rw [hasId, hasLease]
    have read : ((prims.parseUtf8 (utf8 runId.hyphenated)).bind prims.parseUuid) = some runId := by
      rw [reads.parseUtf8, Option.bind_some, reads.parseUuid]
    refine Act.wp_bind.mpr (Act.wp_ofOption.mpr ?_)
    rw [read]
    refine Act.wp_bind.mpr (Act.wp_ofOption.mpr ?_)
    rw [reads.parseUtf8]
    refine Act.wp_bind.mpr (wp_askApi_outside (allowed _ _) inv fun _ w₃ => ?_)
    exact Act.wp_pure.mpr trivial

end Acquire

/-- **Restarts.**  As long as each write of the lease follows on the write of the id and takes
effect, a process starts with both of them or with neither, and it acquires a run unless the control
plane or the database fails. -/
theorem run_acquired_after_restart {w₀ : World} {config' : Config calls World Stage}
    (reads : prims.ReadsTexts) (start : w₀.journal.Paired config)
    (reached : ReachWhen (daemon prims config anything) (leaseKept prims config)
      (.running (.done .start), w₀) config') :
    (config'.1 = .running (.done .start) → config'.2.journal.Paired config) ∧
      ∀ next, config'.1 = .running
          (@Prog.call calls _ (.journal (.secret (runIdKey config.arenaId))) next) →
        ∀ env error w', (acquireRun prims config).Runs (World.system prims env) () config'.2
          (.error error) () w' → error.FromOutside := by
  have between : DaemonRule.Between (fun w : World => w.journal.Paired config)
      (fun _ w => w.journal.Paired config) (fun w => w.journal.Paired config) .start w₀ := start
  have safe := (Machine.MeetsWhen.sound_between pairs_meet trivial between reached).1
  obtain ⟨thread, w⟩ := config'
  refine ⟨?_, ?_⟩
  · rintro rfl
    exact safe.2
  · rintro next rfl env error w' runs
    have paired : w.journal.Paired config := safe.pre.finds fun call same writes => by
      cases same
      exact writes
    let c : Contract calls World := .ofSystem (World.system prims env) (fun _ => True)
      (fun _ _ => True) fun _ _ => trivial
    have acquires := wp_acquireRun_of_paired (c := c) reads ⟨id, id⟩ (fun _ _ => trivial)
      (fun _ => trivial) paired
    exact (Act.Runs.wp_error runs trivial acquires).2

/-! ## A process that ends between the two writes -/

/-- A session stores the id of its new run and comes to the write of the lease. -/
theorem leadsTo_putLease (now : OffsetDateTime) (started : StartedHarnessRunV1)
    (early : ¬config.manifest.endsAt.unixNanoseconds ≤ now.unixNanoseconds)
    (connected : w.relay = .session) (absent : w.journal.Unpaired config) :
    (startSession prims config).LeadsTo (alone prims) () w
      (.journal (.putSecret (leaseKey config.arenaId) (utf8 started.leaseToken)))
      { w with
        clock := now
        journal := (w.journal.putSecret (runIdKey config.arenaId)
          (utf8 started.runId.hyphenated)).2 } := by
  have opens : JournalCall.openJournal.run prims w.journal = (.ok (), w.journal) := rfl
  have token : (askApi .controlPlane .withAccessToken : Act calls Unit LiveRunError _).Runs
      (alone prims) () { w with clock := now } (.ok ()) () { w with clock := now } :=
    Act.Runs.bind (runs_ask (.api .withAccessToken) (Except.ok ()) rfl nofun rfl) Act.Runs.pure
  have starts : (askApi .controlPlane (.startRun config.liveArena.startRequest) :
      Act calls Unit LiveRunError _).Runs (alone prims) () { w with clock := now } (.ok started) ()
      { w with clock := now } :=
    Act.Runs.bind (runs_ask (.api (.startRun _)) (Except.ok started) rfl (fun _ => connected) rfl)
      Act.Runs.pure
  have acquires : (acquireRun prims config).LeadsTo (alone prims) () { w with clock := now }
      (.journal (.putSecret (leaseKey config.arenaId) (utf8 started.leaseToken)))
      { w with
        clock := now
        journal := (w.journal.putSecret (runIdKey config.arenaId)
          (utf8 started.runId.hyphenated)).2 } := by
    have named : runIdKey config.arenaId ≠ "" := append_ne_empty (by decide)
    refine Act.Runs.leadsTo (runs_readSecret absent.1) ?_
    refine Act.Runs.leadsTo (runs_readSecret absent.2) ?_
    refine Act.Runs.leadsTo starts ?_
    exact Act.Runs.leadsTo (runs_putSecret named) (.bind (.bind .perform))
  exact Act.Runs.leadsTo (runs_ask .nowUtc now rfl nofun rfl)
    (Act.Runs.leadsTo (Act.Runs.rejectIf early) (Act.Runs.leadsTo (runs_askJournal opens)
      (Act.Runs.leadsTo token (.bind acquires))))

/-- What the control plane answers the sample daemon. -/
def sampleStart : StartedHarnessRunV1 where
  runId := sampleStarted.runId
  leaseToken := "lease"

theorem startingWorld_unpaired : startingWorld.journal.Unpaired sampleConfig := ⟨rfl, rfl⟩

/-- The tokens of a process leave the absence of a run as it is. -/
theorem unpaired_connected {refreshToken : String} (absent : w.journal.Unpaired config) :
    (w.connected refreshToken).journal.Unpaired config := by
  have others : ∀ {name : String}, IsSessionKey config name →
      (w.connected refreshToken).journal.secret name = w.journal.secret name := fun session =>
    EncryptedJournal.secret_putSecret_of_ne fun same => session.not_command (same ▸ .tokens)
  exact ⟨(others .runId).trans absent.1, (others .lease).trans absent.2⟩

/-- **Half a pair.**  A process that ends after it stored the id of its new run and before it stored
the lease is followed by one that acquires no run. -/
theorem half_pair_at_restart :
    ∃ w : World, DaemonReaches readingPrimitives sampleConfig anything startingWorld
        (.running (.done .start), w) ∧
      w.journal.secret (runIdKey sampleConfig.arenaId) = some (utf8 sampleStart.runId.hyphenated) ∧
      w.journal.secret (leaseKey sampleConfig.arenaId) = none ∧
      ∀ env, (acquireRun readingPrimitives sampleConfig).Runs (World.system readingPrimitives env)
        () w (.error .state) () w := by
  have absent : (startingWorld.connected "").journal.Unpaired sampleConfig :=
    unpaired_connected startingWorld_unpaired
  have leads : (startSession readingPrimitives sampleConfig).LeadsTo (alone readingPrimitives) ()
      (startingWorld.connected "") (.journal (.putSecret _ _)) _ :=
    leadsTo_putLease startingWorld.clock sampleStart (by decide) rfl absent
  have startsUp := leadsTo_startUp rfl (by decide) leads
  have start : DaemonReaches readingPrimitives sampleConfig anything startingWorld
      (.running (startUp readingPrimitives sampleConfig), startingWorld) := .single (.again .start)
  obtain ⟨next, reached⟩ : ∃ next, Reach (daemon readingPrimitives sampleConfig anything)
      (.running (startUp readingPrimitives sampleConfig), startingWorld)
      (.running (.call _ next), _) :=
    reach_of_leadsTo (fun _ _ _ => trivial) Prog.only_true startsUp
  let journal := ((startingWorld.connected "").journal.putSecret (runIdKey sampleConfig.arenaId)
    (utf8 sampleStart.runId.hyphenated)).2
  have hasId : journal.secret (runIdKey sampleConfig.arenaId) =
      some (utf8 sampleStart.runId.hyphenated) :=
    EncryptedJournal.secret_putSecret_self (append_ne_empty (by decide))
  have noLease : journal.secret (leaseKey sampleConfig.arenaId) = none :=
    (EncryptedJournal.secret_putSecret_of_ne runIdKey_ne_leaseKey.symm).trans absent.2
  refine ⟨_, (start.trans reached).tail (.crash ⟨rfl, trivial, _, .between _, rfl⟩), hasId, noLease,
    fun env => ?_⟩
  exact Act.Runs.bind (runs_readSecret hasId) (Act.Runs.bind (runs_readSecret noLease) .done)

/-- The theorem at a process that ends before it asks for a run. -/
theorem sample_acquires_after_restart :
    ∃ w : World, ReachWhen (daemon readingPrimitives sampleConfig anything)
        (leaseKept readingPrimitives sampleConfig) (.running (.done .start), startingWorld)
        (.running (.done .start), w) ∧ w.journal.Paired sampleConfig := by
  have begun : leaseKept readingPrimitives sampleConfig (.running (.done .start), startingWorld)
      (.running (startUp readingPrimitives sampleConfig), startingWorld) :=
    fun _ _ _ => ⟨nofun, nofun⟩
  have ended : leaseKept readingPrimitives sampleConfig
      (.running (startUp readingPrimitives sampleConfig), startingWorld)
      (.running (.done .start), startingWorld.restarted) := by
    refine fun call next _ => ⟨fun same => ?_, nofun⟩
    cases same
  have reached : ReachWhen (daemon readingPrimitives sampleConfig anything)
      (leaseKept readingPrimitives sampleConfig) (.running (.done .start), startingWorld)
      (.running (.done .start), startingWorld.restarted) :=
    .tail (.single ⟨.again .start, begun⟩) ⟨.crash ⟨rfl, trivial, _, .between _, rfl⟩, ended⟩
  have absent : startingWorld.journal.Paired sampleConfig :=
    ofPair_unpaired.paired startingWorld_unpaired
  exact ⟨_, reached, (run_acquired_after_restart readingPrimitives_readsTexts absent reached).1 rfl⟩

end CrowAgent
