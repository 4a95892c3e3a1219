import CrowAgent.Core.CompanionMessage
import CrowAgent.Core.Gateway
import CrowAgent.Daemon.OrderLimit
import CrowAgent.Daemon.StartRuns
import CrowAgent.Lib.JsonText

/-!
# A first session

A session with a stored run whose chain has not begun can come to its loop when nothing fails and
nobody else acts.  `exists_loop` follows it through its terms, the first events of the chain, the
reconciliation and the cycles that are due, to the risk state that it stores.
-/

namespace CrowAgent

open Coroutine

variable {prims : Primitives} {config : DaemonConfig} {w w' : World} {runId : Uuid} {bound n : Nat}
  {now : OffsetDateTime} {secrets secrets' : List (String × Bytes)} {log : List Said} {σ ε α : Type}
  {locals : σ}

/-! ## A process with nothing in its way -/

/-- The program can run to its end while nobody else acts. -/
def Ends (prims : Primitives) (x : Act calls σ ε α) (ok : α → σ → World → Prop) (locals : σ)
    (w : World) : Prop := x.May (alone prims) ok (fun _ _ => False) locals w

theorem Ends.bind {β : Type} {x : Act calls σ ε α} {f : α → Act calls σ ε β} {ok : β → σ → World → Prop}
    (first : Ends prims x (fun value => Ends prims (f value) ok) locals w) :
    Ends prims (x >>= f) ok locals w := Act.May.bind first

theorem Ends.pure {value : α} {ok : α → σ → World → Prop} (goesOn : ok value locals w) :
    Ends prims (Pure.pure value : Act calls σ ε α) ok locals w := Act.Runs.may Act.Runs.pure goesOn

theorem Ends.runs {x : Act calls σ ε α} {ok : α → σ → World → Prop} (ends : Ends prims x ok locals w) :
    ∃ value locals' w', x.Runs (alone prims) locals w (.ok value) locals' w' ∧
      ok value locals' w' := by
  rcases ends with runs | ⟨op, w', -, never⟩
  · exact runs
  · exact never.elim

/-- The events of the run are those of the log, which are all acknowledged, up to `n` ids are in use,
nothing is in the way of the session, and the clock stands still. -/
structure Unhindered (prims : Primitives) (runId : Uuid) (now : OffsetDateTime)
    (secrets : List (String × Bytes)) (log : List Said) (n : Nat) (w : World) : Prop where
  tape : Tape prims runId log w
  drawn : w.drawn.length ≤ n
  secrets : w.journal.secrets = secrets
  gate : w.gate ≠ .stopped
  clock : w.clock = now

namespace Unhindered

/-- The predicate looks at a part of the world. -/
theorem of_eq (free : Unhindered prims runId now secrets log n w)
    (rows : w'.journal.rows = w.journal.rows) (stored : w'.journal.secrets = secrets')
    (offers : w'.offers = w.offers) (drawn : w'.drawn = w.drawn) (relay : w'.relay = w.relay)
    (gate : w'.gate ≠ .stopped) (clock : w'.clock = now) :
    Unhindered prims runId now secrets' log n w' := by
  have tape := free.tape
  refine ⟨?_, drawn ▸ free.drawn, stored, gate, clock⟩
  exact ⟨tape.delivered.of_rows_eq rows offers (drawn ▸ List.Subset.refl _), rows ▸ tape.own,
    rows ▸ tape.acknowledged, rows ▸ tape.said, drawn ▸ tape.few, relay.trans tape.polled⟩

/-- A secret is stored. -/
theorem secret_eq {journal : EncryptedJournal} (free : Unhindered prims runId now journal.secrets log n w)
    (name : String) : w.journal.secret name = journal.secret name := by
  rw [EncryptedJournal.secret, free.secrets, EncryptedJournal.secret]

/-- The counts of the tables are those of the log. -/
theorem eventCount_eq (free : Unhindered prims runId now secrets log n w) (eventType : String) :
    w.journal.eventCount runId eventType = (log.filter (·.2.1 = eventType)).length := by
  have own := free.tape.own
  have said := free.tape.said
  unfold EncryptedJournal.eventCount
  generalize w.journal.rows = rows at own said ⊢
  clear free
  induction rows generalizing log with
  | nil =>
    obtain rfl : log = [] := List.map_eq_nil_iff.mp said.symm
    rfl
  | cons row rows ih =>
    cases log with
    | nil => cases said
    | cons entry log =>
      rw [List.map_cons, List.map_cons, List.cons.injEq] at said
      have rest := ih (fun row mem => own row (List.mem_cons_of_mem _ mem)) said.2
      rcases Option.map_eq_some_iff.mp said.1 with ⟨event, envelope, rfl⟩
      by_cases type : event.eventType = eventType
      · simp [own row List.mem_cons_self, envelope, type, RunEventEnvelopeV1.said, rest]
      · simp [own row List.mem_cons_self, envelope, type, RunEventEnvelopeV1.said, rest]

variable {ok : α → σ → World → Prop}

/-- A call is answered. -/
theorem ends_ask {op : Op} {ok : op.Res → σ → World → Prop}
    (free : Unhindered prims runId now secrets log n w) (answer : op.Res)
    (begins : World.Begins op w w) (polled : w.relay = .session → World.Polled op w)
    (answers : World.Answers prims op w answer w') (goesOn : ok answer locals w') :
    Ends prims (ask op : Act calls σ ε op.Res) ok locals w :=
  Act.Runs.may (runs_ask op answer begins (polled free.tape.polled) answers) goesOn

/-- The venue answers. -/
theorem ends_askVenue {convert : HyperliquidError → ε} {call : VenueCall}
    {ok : call.Value → σ → World → Prop} (free : Unhindered prims runId now secrets log n w)
    (value : call.Value) (begins : World.Begins (.venue call) w w)
    (goesOn : ∀ w', Unhindered prims runId now secrets log n w' → ok value locals w') :
    Ends prims (askVenue convert call : Act calls σ ε call.Value) ok locals w := by
  have free' : Unhindered prims runId now secrets log n { w with
      queries := call.queries w.journal.rows.length (.ok value) ++ w.queries } :=
    free.of_eq rfl free.secrets rfl rfl rfl free.gate free.clock
  have asks : Ends prims (ask (.venue call) : Act calls σ ε _)
      (fun answer locals w => Ends prims (Act.ofExcept convert answer) ok locals w) locals w :=
    free.ends_ask (.ok value) begins (fun polled _ => polled) rfl
      (Act.Runs.may Act.Runs.pure (goesOn _ free'))
  exact Act.May.bind asks

/-- The control plane answers. -/
theorem ends_askApi {convert : HarnessApiError → ε} {call : ApiCall}
    {ok : call.Value → σ → World → Prop} (free : Unhindered prims runId now secrets log n w)
    (value : call.Value) (goesOn : ok value locals w) :
    Ends prims (askApi convert call : Act calls σ ε call.Value) ok locals w := by
  have asks : Ends prims (ask (.api call) : Act calls σ ε _)
      (fun answer locals w => Ends prims (Act.ofExcept convert answer) ok locals w) locals w :=
    free.ends_ask (.ok value) rfl (fun polled _ => polled) rfl (Act.Runs.may Act.Runs.pure goesOn)
  exact Act.May.bind asks

/-- The clock is read. -/
theorem ends_nowUtc {ok : OffsetDateTime → σ → World → Prop}
    (free : Unhindered prims runId now secrets log n w) (goesOn : ok now locals w) :
    Ends prims (ask .nowUtc : Act calls σ ε OffsetDateTime) ok locals w := by
  have same : w = { w with clock := now } := by rw [← free.clock]
  exact free.ends_ask now rfl (fun polled _ => polled) same goesOn

/-- An id is drawn. -/
theorem ends_draw {ok : Uuid → σ → World → Prop} (few : n < 256)
    (free : Unhindered prims runId now secrets log n w)
    (goesOn : ∀ id w', Unhindered prims runId now secrets log (n + 1) w' → ok id locals w') :
    Ends prims (ask .newV4 : Act calls σ ε Uuid) ok locals w := by
  have tape := free.tape
  rcases exists_fresh_id (free.drawn.trans_lt few) with ⟨id, new⟩
  have free' : Unhindered prims runId now secrets log (n + 1) { w with drawn := id :: w.drawn } := by
    refine ⟨?_, Nat.succ_le_succ free.drawn, free.secrets, free.gate, free.clock⟩
    exact ⟨tape.delivered.of_rows_eq rfl rfl (List.subset_cons_self _ _), tape.own,
      tape.acknowledged, tape.said, tape.few.trans (Nat.le_succ _), tape.polled⟩
  exact free.ends_ask id rfl (fun polled _ => polled) ⟨new, rfl⟩ (goesOn id _ free')

/-- An event is appended. -/
theorem ends_append {writer : DurableRunEventWriter} {cycleId : Option Uuid} {eventType : String}
    {payload privatePayload : Json} {ok : RunEventEnvelopeV1 → σ → World → Prop}
    (works : prims.Works bound) (room : log.length + 1 < bound) (few : n < 256)
    (free : Unhindered prims writer.runId now secrets log n w)
    (goesOn : ∀ event w', Unhindered prims writer.runId now secrets
      (log ++ [(cycleId, eventType, payload)]) (n + 1) w' → ok event locals w') :
    Ends prims (writer.append prims cycleId eventType payload privatePayload : Act calls σ _ _) ok
      locals w := by
  rcases free.tape.runs_append writer cycleId eventType payload privatePayload
    (fun _ _ (never : False) => never.elim) works room (free.drawn.trans_lt few) (fun _ => .refl)
    free.tape.polled with ⟨event, w', runs, after⟩
  refine Act.Runs.may runs (goesOn event w' ⟨after.tape, ?_, ?_, ?_, ?_⟩)
  · rw [after.drawn]
    exact Nat.succ_le_succ free.drawn
  · rw [after.secrets]
    exact free.secrets
  · rw [after.shared]
    exact free.gate
  · rw [after.shared]
    exact free.clock

/-- An event of a session is appended. -/
theorem ends_appendSessionEvent {eventType : String} {payload : Json} {ok : Unit → Unit → World → Prop}
    (works : prims.Works bound) (room : log.length + 1 < bound) (few : n < 256)
    (free : Unhindered prims runId now secrets log n w)
    (goesOn : ∀ w', Unhindered prims runId now secrets (log ++ [(none, eventType, payload)]) (n + 1)
      w' → ok () () w') :
    Ends prims (appendSessionEvent prims config runId eventType payload) ok () w := by
  have appends : Ends prims ((config.writer runId).append prims none eventType payload .null :
      Act calls Unit _ _) (fun _ => ok ()) () w :=
    ends_append works room few free fun _ => goesOn
  refine Ends.bind (Act.May.mapError (Act.May.mono appends ?_ fun _ _ => id))
  exact fun _ _ _ done => Ends.pure done

/-- A book of a cycle, or of a session, is kept. -/
theorem ends_appendEvent {writer : DurableRunEventWriter} {cycleId : Option Uuid} {eventType : String}
    {payload privatePayload : Json} {ok : RunEventEnvelopeV1 → σ → World → Prop}
    (works : prims.Works bound) (room : log.length + 1 < bound) (few : n < 256)
    (free : Unhindered prims writer.runId now secrets log n w)
    (goesOn : ∀ event w', Unhindered prims writer.runId now secrets
      (log ++ [(cycleId, eventType, payload)]) (n + 1) w' → ok event locals w') :
    Ends prims (appendEvent prims writer cycleId eventType payload privatePayload :
      Act calls σ LiveCycleError _) ok locals w :=
  Act.May.mapError (ends_append works room few free goesOn)

end Unhindered

/-! ## The parts of a session -/

/-- What a first session of a run finds and is told. -/
structure FirstSession (prims : Primitives) (config : DaemonConfig) (runId : Uuid)
    (now : OffsetDateTime) (journal : EncryptedJournal) (account : AccountSnapshot)
    (strategy : StrategyBundleV1) (risk : LiveRiskState) (nowMs : UInt64) (expected due : Nat) :
    Prop where
  run : ∃ value, journal.secret (runIdKey config.arenaId) = some value ∧
    (prims.parseUtf8 value).bind prims.parseUuid = some runId
  lease : ∃ value token, journal.secret (leaseKey config.arenaId) = some value ∧
    prims.parseUtf8 value = some token
  settings : journal.secret (settingsKey runId) = none
  version : journal.secret (strategyKey runId) = none
  loads : ∃ value, journal.secret (liveRiskStateKey runId) = some value ∧
    (prims.parseJson value).bind (LiveRiskState.ofJson? prims) = some risk
  early : now.unixNanoseconds < config.manifest.endsAt.unixNanoseconds
  live : config.manifest.mode ≠ .historicalBacktest
  expects : expectedCycleCount config.manifest config.liveArena.decisionCooldownSeconds = .ok expected
  dues : dueCycleCount config.manifest config.liveArena.decisionCooldownSeconds now = .ok due
  goesOn : due < expected
  scheduled : ∀ k ≤ due, ∃ time,
    scheduledCycleAt config.manifest config.liveArena.decisionCooldownSeconds k = .ok time
  model : strategy.modelId = config.liveArena.modelId
  accepts : validateAccountPolicy account config.liveArena.isolatedLeverage = .ok ()
  time : unixMilliseconds now = .ok nowMs

namespace FirstSession

variable {journal : EncryptedJournal} {account : AccountSnapshot} {strategy : StrategyBundleV1}
  {risk : LiveRiskState} {nowMs : UInt64} {expected due : Nat}

/-- The terms of the session. -/
def terms (config : DaemonConfig) (strategy : StrategyBundleV1) (expected : Nat) : SessionTerms where
  decisionCooldownSeconds := config.liveArena.decisionCooldownSeconds
  isolatedLeverage := config.liveArena.isolatedLeverage
  expectedCycles := expected
  strategy

theorem ends_readSecret {σ ε : Type} {locals : σ} {convert : JournalError → ε} {name : String}
    {ok : Option Bytes → σ → World → Prop}
    (free : Unhindered prims runId now journal.secrets log n w) (goesOn : ok (journal.secret name) locals w) :
    Ends prims (askJournal convert (.secret name) : Act calls σ ε _) ok locals w :=
  Act.Runs.may (runs_readSecret (free.secret_eq name)) goesOn

/-- The stored run is acquired. -/
theorem ends_acquireRun {ok : Uuid → Unit → World → Prop}
    (first : FirstSession prims config runId now journal account strategy risk nowMs expected due)
    (free : Unhindered prims runId now journal.secrets log n w) (goesOn : ok runId () w) :
    Ends prims (acquireRun prims config) ok () w := by
  rcases first.run with ⟨id, hasId, isRun⟩
  rcases first.lease with ⟨lease, token, hasLease, isToken⟩
  refine Ends.bind (ends_readSecret free (Ends.bind (ends_readSecret free ?_)))
  rw [hasId, hasLease]
  refine Ends.bind (Act.Runs.may (Act.Runs.ofOption isRun) ?_)
  refine Ends.bind (Act.Runs.may (Act.Runs.ofOption isToken) ?_)
  exact Ends.bind (free.ends_askApi () (Ends.pure goesOn))

/-- The terms of a run without settings of its own are those of the arena. -/
theorem ends_prepareTerms {ok : SessionTerms → Unit → World → Prop}
    (first : FirstSession prims config runId now journal account strategy risk nowMs expected due)
    (free : Unhindered prims runId now journal.secrets [] n w)
    (goesOn : ∀ w', Unhindered prims runId now journal.secrets [] n w' →
      ok (terms config strategy expected) () w') :
    Ends prims (prepareTerms prims config runId) ok () w := by
  have empty : w.journal.rows = [] := List.eq_nil_of_length_eq_zero free.tape.length
  have noEvents : JournalCall.publicEvents.run prims w.journal = (.ok [], w.journal) := by
    rw [JournalCall.run, EncryptedJournal.publicEvents, empty]
    rfl
  have settings : Ends prims (persistedSettings prims runId) (fun settings _ w' =>
      settings = none ∧ w' = w) () w := by
    refine Ends.bind (ends_readSecret free ?_)
    rw [first.settings]
    have reads : Ends prims (askJournal id .publicEvents : Act calls Unit JournalError _)
        (fun events _ w' => events = [] ∧ w' = w) () w :=
      Act.Runs.may (runs_askJournal noEvents) ⟨rfl, rfl⟩
    refine Ends.bind (Act.May.attempt (Act.May.mono reads ?_ fun _ _ => id))
    intro events _ w' done
    rcases done with ⟨rfl, rfl⟩
    exact Ends.pure ⟨rfl, rfl⟩
  refine Ends.bind (Act.May.mono settings ?_ fun _ _ => id)
  intro found _ w₁ done
  rcases done with ⟨rfl, rfl⟩
  refine Ends.bind (Act.Runs.may (Act.Runs.ofExcept first.expects) ?_)
  have version : Ends prims (activeStrategyVersion prims config runId) (fun version _ w' =>
      version = config.liveArena.agentVersionId ∧ w' = w₁) () w₁ := by
    refine Ends.bind (ends_readSecret free ?_)
    rw [first.version]
    exact Ends.pure ⟨rfl, rfl⟩
  refine Ends.bind (Act.May.mono version ?_ fun _ _ => id)
  intro version _ w₂ done
  rcases done with ⟨rfl, rfl⟩
  refine Ends.bind (free.ends_askApi .null (Ends.bind ?_))
  refine free.ends_ask (.ok strategy) rfl (fun polled _ => polled) rfl ?_
  refine Ends.bind (Act.Runs.may (Act.Runs.ofExcept rfl) ?_)
  refine Ends.bind (Act.Runs.may (Act.Runs.rejectIf (not_not.mpr first.model)) ?_)
  refine Ends.bind (Act.Runs.may (Act.Runs.rejectIf first.live) ?_)
  refine Ends.bind (free.ends_askVenue () rfl fun w₃ free₃ => ?_)
  exact Ends.bind (free₃.ends_askVenue () rfl fun w₄ free₄ => Ends.pure (goesOn w₄ free₄))

/-- What the first events of a chain say. -/
def firstLog (config : DaemonConfig) : List Said :=
  [(none, "run_started", config.liveArena.startedPayload)] ++
    (config.liveArena.handoffSnapshot.toList.map fun snapshot => (none, "handoff_snapshot", snapshot)) ++
    [(none, "run_paused", .ofFields [("reason", .string "awaiting_explicit_resume")])]

/-- The chain begins. -/
theorem ends_initializeEventChain {ok : Unit → Unit → World → Prop} (works : prims.Works bound)
    (room : 3 < bound) (few : n + 2 < 256) (free : Unhindered prims runId now secrets [] n w)
    (goesOn : ∀ w', Unhindered prims runId now secrets (firstLog config) (n + 3) w' → ok () () w') :
    Ends prims (initializeEventChain prims config runId) ok () w := by
  have empty : w.journal.rows = [] := List.eq_nil_of_length_eq_zero free.tape.length
  have noHead : (JournalCall.latestEventState runId).run prims w.journal = (.ok none, w.journal) := by
    rw [JournalCall.run, free.tape.oneRun.latestEventState_nil empty]
    rfl
  refine Ends.bind (Act.Runs.may (runs_askJournal noHead) (Ends.bind ?_))
  refine free.ends_appendSessionEvent works (by change 0 + 1 < bound; omega) (by omega) ?_
  intro w₁ free₁
  unfold firstLog at goesOn
  unfold appendHandoff
  cases handoff : config.liveArena.handoffSnapshot with
  | none =>
    rw [handoff] at goesOn
    refine Ends.bind (Ends.pure (free₁.ends_appendSessionEvent works (by change 1 + 1 < bound; omega)
      (by omega) fun w₂ free₂ => goesOn w₂ ?_))
    exact ⟨free₂.tape, free₂.drawn.trans (by omega), free₂.secrets, free₂.gate, free₂.clock⟩
  | some snapshot =>
    rw [handoff] at goesOn
    refine Ends.bind (free₁.ends_appendSessionEvent works (by change 1 + 1 < bound; omega) (by omega)
      fun w₂ free₂ => ?_)
    exact free₂.ends_appendSessionEvent works (by change 2 + 1 < bound; omega) (by omega) goesOn

theorem length_firstLog : (firstLog config).length ≤ 3 := by
  unfold firstLog
  cases config.liveArena.handoffSnapshot with
  | none => exact Nat.le_succ 2
  | some snapshot => exact Nat.le_refl 3

/-- No cycle is among the first events. -/
theorem ends_countCycles {ok : Nat → Unit → World → Prop} {expected : Nat}
    (free : Unhindered prims runId now secrets (firstLog config) n w) (goesOn : ok 0 () w) :
    Ends prims (countCycles runId expected) ok () w := by
  have none : ∀ {eventType}, "run_started" ≠ eventType → "handoff_snapshot" ≠ eventType →
      "run_paused" ≠ eventType → w.journal.eventCount runId eventType = 0 := by
    intro eventType started handoff paused
    rw [free.eventCount_eq]
    unfold firstLog
    cases config.liveArena.handoffSnapshot with
    | none => simp [started, paused]
    | some snapshot => simp [started, handoff, paused]
  have count : ∀ eventType, (JournalCall.eventCount runId eventType).run prims w.journal =
      (.ok (w.journal.eventCount runId eventType), w.journal) := fun _ => rfl
  refine Ends.bind (Act.Runs.may (runs_askJournal (count "cycle_started")) ?_)
  refine Ends.bind (Act.Runs.may (runs_askJournal (count "missed_cycle")) ?_)
  rw [none (by decide) (by decide) (by decide), none (by decide) (by decide) (by decide)]
  refine Ends.bind (Act.Runs.may (Act.Runs.rejectIf (by omega)) ?_)
  exact Ends.bind (Act.Runs.may (Act.Runs.rejectIf (by omega)) (Ends.pure goesOn))

/-- The stored risk state is loaded. -/
theorem ends_sessionRisk {ok : LiveRiskState → Unit → World → Prop}
    (first : FirstSession prims config runId now journal account strategy risk nowMs expected due)
    (free : Unhindered prims runId now journal.secrets log n w) (goesOn : ok risk () w) :
    Ends prims (sessionRisk prims config runId now) ok () w := by
  rcases first.loads with ⟨value, stored, read⟩
  have loads : Ends prims (loadLiveRiskState prims runId : Act calls Unit LiveCycleError _)
      (fun loaded _ w' => loaded = some risk ∧ w' = w) () w := by
    refine Ends.bind (ends_readSecret free ?_)
    rw [stored]
    simp only [read]
    exact Ends.pure ⟨rfl, rfl⟩
  refine Ends.bind (Act.May.mono (Act.May.mapError loads) ?_ fun _ _ never => never)
  intro loaded _ w' done
  rcases done with ⟨rfl, rfl⟩
  exact Ends.pure goesOn

/-- The risk state after the reconciliation. -/
def reconciledRisk (risk : LiveRiskState) (account : AccountSnapshot) (now : OffsetDateTime)
    (nowMs : UInt64) : LiveRiskState :=
  { risk with lastReconciliationMs := nowMs }.update account now.date

/-- The secrets after the reconciliation. -/
def reconciledSecrets (prims : Primitives) (runId : Uuid) (risk : LiveRiskState)
    (journal : EncryptedJournal) : List (String × Bytes) :=
  (journal.putSecret (liveRiskStateKey runId) (risk.encoded prims)).2.secrets

/-- A run is reconciled. -/
theorem ends_reconcileLiveState {ok : String → LiveRiskState → World → Prop} {leverage : UInt8}
    {executionAccount : String} {signingKey : FixedBytes 32} {arenaId : Uuid}
    (works : prims.Works bound) (room : log.length + 4 < bound) (few : n + 3 < 256)
    (accepts : validateAccountPolicy account leverage = .ok ()) (time : unixMilliseconds now = .ok nowMs)
    (free : Unhindered prims runId now journal.secrets log n w)
    (goesOn : ∀ hash log' w', log'.length = log.length + 4 →
      Unhindered prims runId now (reconciledSecrets prims runId
        (reconciledRisk risk account now nowMs) journal) log' (n + 4) w' →
      ok hash (reconciledRisk risk account now nowMs) w') :
    Ends prims (reconcileLiveState prims {
      signingKey, arenaId, runId, executionAccount, isolatedLeverage := leverage }) ok risk w := by
  refine Ends.bind (free.ends_nowUtc (Ends.bind (Act.Runs.may (Act.Runs.ofExcept time) ?_)))
  refine Ends.bind (Act.Runs.may Prog.Runs.done ?_)
  refine Ends.bind (free.ends_askVenue .null rfl fun w₁ free₁ => ?_)
  refine Ends.bind (free₁.ends_askVenue .null rfl fun w₂ free₂ => ?_)
  refine Ends.bind (free₂.ends_askVenue account rfl fun w₃ free₃ => ?_)
  refine Ends.bind (Act.Runs.may (Act.Runs.ofExcept accepts) ?_)
  refine Ends.bind (Act.Runs.may Prog.Runs.done ?_)
  refine Ends.bind (free₃.ends_nowUtc (Ends.bind (Act.Runs.may Prog.Runs.done ?_)))
  have free₄ : Unhindered prims runId now journal.secrets log n { w₃ with
      observed := ⟨runId, now.date, account.equityMicroUsdc⟩ :: w₃.observed } :=
    free₃.of_eq rfl free₃.secrets rfl rfl rfl free₃.gate free₃.clock
  refine Ends.bind (free₃.ends_ask () rfl (fun polled _ => polled) rfl ?_)
  have longer : ∀ (log : List Said) (entry : Said), (log ++ [entry]).length = log.length + 1 :=
    fun _ _ => List.length_append
  refine Ends.bind (Unhindered.ends_appendEvent works (by omega) (by omega) free₄ fun _ w₅ free₅ => ?_)
  refine Ends.bind (Unhindered.ends_appendEvent works (by rw [longer]; omega) (by omega) free₅
    fun _ w₆ free₆ => ?_)
  refine Ends.bind (Unhindered.ends_appendEvent works (by rw [longer, longer]; omega) (by omega) free₆
    fun _ w₇ free₇ => ?_)
  refine Ends.bind (Unhindered.ends_appendEvent works (by rw [longer, longer, longer]; omega)
    (by omega) free₇ fun event w₈ free₈ => ?_)
  have named : liveRiskStateKey runId ≠ "" := append_ne_empty (by decide)
  have stores : Ends prims (storeRisk prims runId) (fun _ locals w' =>
      locals = reconciledRisk risk account now nowMs ∧ w' = { w₈ with journal :=
        (w₈.journal.putSecret (liveRiskStateKey runId)
          ((reconciledRisk risk account now nowMs).encoded prims)).2 })
      (reconciledRisk risk account now nowMs) w₈ := by
    refine Ends.bind (Act.Runs.may Prog.Runs.done ?_)
    exact Act.May.mapError (Act.Runs.may (runs_putSecret named) ⟨rfl, rfl⟩)
  refine Ends.bind (Act.May.mono stores ?_ fun _ _ => id)
  intro _ locals w₉ done
  rcases done with ⟨rfl, rfl⟩
  have rows : (w₈.journal.putSecret (liveRiskStateKey runId)
      ((reconciledRisk risk account now nowMs).encoded prims)).2.rows = w₈.journal.rows := by
    rw [EncryptedJournal.putSecret, if_neg named]
  have stored : (w₈.journal.putSecret (liveRiskStateKey runId)
      ((reconciledRisk risk account now nowMs).encoded prims)).2.secrets =
        reconciledSecrets prims runId (reconciledRisk risk account now nowMs) journal := by
    unfold reconciledSecrets
    rw [EncryptedJournal.putSecret, if_neg named, EncryptedJournal.putSecret, if_neg named]
    dsimp only
    rw [free₈.secrets]
  refine Ends.pure (goesOn _ _ _ ?_ (free₈.of_eq rows stored rfl rfl rfl free₈.gate free₈.clock))
  rw [longer, longer, longer, longer]

/-- The cycles that are due are missed. -/
theorem ends_appendMissedCycles {ok : Unit → Unit → World → Prop} {count completedCycles : Nat}
    (works : prims.Works bound) (room : log.length + count < bound) (few : n + 2 * count < 256)
    (scheduled : ∀ k ≤ completedCycles + count, ∃ time, scheduledCycleAt config.manifest
      config.liveArena.decisionCooldownSeconds k = .ok time)
    (free : Unhindered prims runId now secrets log n w)
    (goesOn : ∀ log' w', log'.length = log.length + count →
      Unhindered prims runId now secrets log' (n + 2 * count) w' → ok () () w') :
    Ends prims (appendMissedCycles prims config runId config.liveArena.decisionCooldownSeconds count
      completedCycles) ok () w := by
  induction count generalizing log n completedCycles w with
  | zero => exact Ends.pure (goesOn log w rfl free)
  | succ count ih =>
    rcases scheduled completedCycles (by omega) with ⟨time, isTime⟩
    refine Ends.bind (Act.Runs.may (Act.Runs.ofExcept isTime) (Ends.bind ?_))
    have misses : Ends prims (appendMissedCycle prims config runId time
        "companion_unavailable_at_boundary") (fun _ _ w' => ∃ log', log'.length = log.length + 1 ∧
          Unhindered prims runId now secrets log' (n + 2) w') () w := by
      refine Ends.bind (free.ends_draw (by omega) fun cycleId w₁ free₁ => ?_)
      have append : ∀ payload, Ends prims ((config.writer runId).append prims (some cycleId)
          "missed_cycle" payload .null : Act calls Unit _ _) (fun _ _ w' => ∃ log',
            log'.length = log.length + 1 ∧ Unhindered prims runId now secrets log' (n + 2) w') () w₁ :=
        fun payload => Unhindered.ends_append works (by omega) (by omega) free₁ fun _ w₂ free₂ =>
          ⟨_, List.length_append, free₂⟩
      refine Ends.bind (Act.May.mapError (Act.May.mono (append _) ?_ fun _ _ => id))
      exact fun _ _ _ done => Ends.pure done
    refine Act.May.mono misses ?_ fun _ _ => id
    intro _ _ w₁ done
    rcases done with ⟨log₁, length₁, free₁⟩
    refine ih (by omega) (by omega) (fun k below => scheduled k (by omega)) free₁ ?_
    intro log₂ w₂ length₂ free₂
    refine goesOn log₂ w₂ (by omega) ?_
    rw [show n + 2 * (count + 1) = n + 2 + 2 * count by omega]
    exact free₂

/-- The gate is opened after the reconciliation, if the chain says so. -/
theorem ends_resumeSession {ok : ExecutionState → Unit → World → Prop} (works : prims.Works bound)
    (room : log.length + 1 < bound) (few : n < 256)
    (free : Unhindered prims runId now secrets log n w)
    (goesOn : ∀ gate log' w', Unhindered prims runId now secrets log' (n + 1) w' → ok gate () w') :
    Ends prims (resumeSession prims config runId) ok () w := by
  rcases free.tape.delivered.chained.publicEvents_isOk with ⟨events, read⟩
  have reads : JournalCall.publicEvents.run prims w.journal = (.ok events, w.journal) := by
    rw [JournalCall.run, read]
    rfl
  refine Ends.bind (Ends.bind (Act.Runs.may (runs_askJournal reads) (Ends.pure ?_)))
  split
  · have opens : Ends prims openGate (fun _ _ w' => Unhindered prims runId now secrets log n w') ()
        w := by
      refine Ends.bind ?_
      refine free.ends_ask ((SharedCall.apply .resume).run w.toControl).1 rfl (fun polled _ => polled)
        ⟨rfl, rfl⟩ ?_
      have shared : Unhindered prims runId now secrets log n (w.shares (.apply .resume)) := by
        refine free.of_eq rfl free.secrets rfl rfl rfl ?_ free.clock
        change (w.gate.apply .resume).2 ≠ .stopped
        cases gate : w.gate with
        | running => exact ExecutionState.noConfusion
        | paused => exact ExecutionState.noConfusion
        | stopped => exact absurd gate free.gate
      cases gate : w.gate with
      | stopped => exact absurd gate free.gate
      | paused =>
        have applied : ((SharedCall.apply .resume).run w.toControl).1 = true := by
          change (w.gate.apply .resume).1 = true
          rw [gate]
          rfl
        rw [applied]
        exact Ends.pure shared
      | running =>
        have applied : ((SharedCall.apply .resume).run w.toControl).1 = false := by
          change (w.gate.apply .resume).1 = false
          rw [gate]
          rfl
        rw [applied]
        refine Ends.bind (shared.ends_ask true rfl (fun polled _ => polled) ⟨?_, rfl⟩ ?_)
        · change true = decide ((w.gate.apply .resume).2 = .running)
          rw [gate]
          rfl
        · exact Act.Runs.may (Act.Runs.rejectIf (by simp)) shared
    refine Ends.bind (Act.May.mono opens ?_ fun _ _ => id)
    intro _ _ w₁ free₁
    refine Ends.bind (free₁.ends_appendSessionEvent works room few fun w₂ free₂ => ?_)
    exact Ends.pure (goesOn _ _ w₂ free₂)
  · have more : Unhindered prims runId now secrets log (n + 1) w :=
      ⟨free.tape, free.drawn.trans (Nat.le_succ n), free.secrets, free.gate, free.clock⟩
    exact Ends.pure (goesOn _ _ w more)

/-- What the reconciliation leaves of a session. -/
theorem ends_reconcileSession {ok : Nat × LiveRiskState → Unit → World → Prop}
    (works : prims.Works bound) (room : 7 + due < bound) (few : n + 4 + 2 * due < 256)
    (first : FirstSession prims config runId now journal account strategy risk nowMs expected due)
    (free : Unhindered prims runId now journal.secrets (firstLog config) n w)
    (goesOn : ∀ log' w', log'.length ≤ 7 + due → Unhindered prims runId now (reconciledSecrets prims
      runId (reconciledRisk risk account now nowMs) journal) log' (n + 4 + 2 * due) w' →
      ok (due, reconciledRisk risk account now nowMs) () w') :
    Ends prims (reconcileSession prims config now runId (terms config strategy expected)) ok () w := by
  have short := @length_firstLog config
  refine Ends.bind (ends_countCycles free (Ends.bind (ends_sessionRisk first free (Ends.bind ?_))))
  refine Act.May.within (Act.May.mapError ?_)
  refine ends_reconcileLiveState works (by omega) (by omega) first.accepts first.time free ?_
  intro hash log₁ w₁ length₁ free₁
  refine Ends.bind (free₁.ends_nowUtc ?_)
  refine Ends.bind (Act.Runs.may (Act.Runs.ofExcept first.dues) ?_)
  have scheduled : ∀ k ≤ 0 + (due - 0), ∃ time, scheduledCycleAt config.manifest
      config.liveArena.decisionCooldownSeconds k = .ok time := fun k below =>
    first.scheduled k (by omega)
  refine Ends.bind (ends_appendMissedCycles works (by omega) (by omega) scheduled free₁ ?_)
  intro log₂ w₂ length₂ free₂
  rw [Nat.sub_zero] at length₂ free₂
  rw [Nat.zero_max]
  exact Ends.pure (goesOn log₂ w₂ (by omega) free₂)

/-- **The session comes to its loop.** -/
theorem ends_startSession (works : prims.Works bound) (room : 8 + due < bound)
    (few : n + 8 + 2 * due < 256)
    (first : FirstSession prims config runId now journal account strategy risk nowMs expected due)
    (free : Unhindered prims runId now journal.secrets [] n w) :
    Ends prims (startSession prims config) (fun turn _ w' => ∃ state, turn = .goesOn state ∧
      state.runId = runId ∧ state.completedCycles = due ∧ w'.journal.secrets = reconciledSecrets prims
        runId (reconciledRisk risk account now nowMs) journal) () w := by
  refine Ends.bind (free.ends_nowUtc (Ends.bind ?_))
  refine Act.Runs.may (Act.Runs.rejectIf (by have := first.early; omega)) ?_
  have opens : JournalCall.openJournal.run prims w.journal = (.ok (), w.journal) := rfl
  refine Ends.bind (Act.Runs.may (runs_askJournal opens) ?_)
  refine Ends.bind (free.ends_askApi () (Ends.bind (ends_acquireRun first free ?_)))
  refine Ends.bind (ends_prepareTerms first free fun w₁ free₁ => ?_)
  refine Ends.bind (ends_initializeEventChain works (by omega) (by omega) free₁ fun w₂ free₂ => ?_)
  refine Ends.bind (ends_reconcileSession works (by omega) (by omega) first free₂ ?_)
  intro log₃ w₃ length₃ free₃
  dsimp only
  rw [if_neg (by exact Nat.not_le.mpr first.goesOn)]
  have streams : Ends prims (connectStream config) (fun _ _ w' => Unhindered prims runId now
      (reconciledSecrets prims runId (reconciledRisk risk account now nowMs) journal) log₃
        (n + 3 + 4 + 2 * due) w') () w₃ := by
    refine Ends.bind (Act.Runs.may (Act.Runs.rejectIf first.live) ?_)
    exact free₃.ends_askVenue () rfl fun w₄ free₄ => free₄
  refine Ends.bind (Act.May.mono streams ?_ fun _ _ => id)
  intro _ _ w₄ free₄
  refine Ends.bind (free₄.ends_askVenue [] rfl fun w₅ free₅ => ?_)
  refine Ends.bind (ends_resumeSession works (by omega) (by omega) free₅ fun gate log₆ w₆ free₆ => ?_)
  have active : Unhindered prims runId now (reconciledSecrets prims runId
      (reconciledRisk risk account now nowMs) journal) log₆ (n + 3 + 4 + 2 * due + 1)
        (w₆.shares (.setActiveRun (some runId))) :=
    free₆.of_eq rfl free₆.secrets rfl rfl rfl free₆.gate free₆.clock
  refine Ends.bind (free₆.ends_ask () rfl (fun polled _ => polled) ⟨rfl, rfl⟩ ?_)
  rcases first.scheduled due le_rfl with ⟨time, isTime⟩
  have waits : Ends prims (durationUntilCycle config.manifest
      config.liveArena.decisionCooldownSeconds due) (fun _ _ w' =>
        w'.journal.secrets = reconciledSecrets prims runId (reconciledRisk risk account now nowMs)
          journal) () (w₆.shares (.setActiveRun (some runId))) := by
    refine Ends.bind (active.ends_nowUtc (Ends.bind ?_))
    exact Act.Runs.may (Act.Runs.ofExcept isTime) (Ends.pure active.secrets)
  refine Ends.bind (Act.May.mono waits ?_ fun _ _ => id)
  exact fun _ _ _ stored => Ends.pure ⟨_, rfl, rfl, rfl, stored⟩

end FirstSession

/-! ## In the daemon -/

/-- **A first session.**  A process whose run has no events yet, and to which nothing stands in the
way, can come to the loop of its session with the cycles that are due, after it stored the risk state
as of the time of the session. -/
theorem exists_loop {refreshToken : String} {account : AccountSnapshot} {strategy : StrategyBundleV1}
    {risk : LiveRiskState} {nowMs : UInt64} {expected due : Nat} (works : prims.Works bound)
    (room : 8 + due < bound) (few : n + 8 + 2 * due < 256) (starting : w.relay = .starting)
    (first : FirstSession prims config runId now (w.connected refreshToken).journal account strategy
      risk nowMs expected due)
    (free : Unhindered prims runId now (w.connected refreshToken).journal.secrets [] n
      (w.connected refreshToken)) :
    ∃ state w', DaemonReaches prims config anything w (.running (.done (.loop state)), w') ∧
      state.runId = runId ∧ state.completedCycles = due ∧
      w'.journal.secret (liveRiskStateKey runId) =
        some ((FirstSession.reconciledRisk risk account now nowMs).encoded prims) := by
  rcases (FirstSession.ends_startSession works room few first free).runs with
    ⟨turn, locals, w', runs, state, rfl, isRun, isDue, stored⟩
  have whole : (startUp prims config).Runs (alone prims) w (.loop state) w' :=
    runs_startUp starting free.gate runs .done
  have reached : Reach (daemon prims config anything) (.running (startUp prims config), w)
      (.running (.done (.loop state)), w') := reach_of_runs (fun _ _ _ => trivial) Prog.only_true whole
  refine ⟨state, w', .trans (.single (.again .start)) reached, isRun, isDue, ?_⟩
  have named : liveRiskStateKey runId ≠ "" := append_ne_empty (by decide)
  have found := @EncryptedJournal.secret_putSecret_self (w.connected refreshToken).journal
    (liveRiskStateKey runId) ((FirstSession.reconciledRisk risk account now nowMs).encoded prims) named
  rw [EncryptedJournal.secret, stored]
  exact found

/-! ## A sample session -/

theorem Int64.toJson_injective : Function.Injective Int64.toJson := by
  intro a b same
  unfold Int64.toJson at same
  split at same
  · split at same
    · injection same with numbers
      injection numbers with values
      rw [← Int64.toInt_inj, ← Int64.toInt_toBitVec, ← Int64.toInt_toBitVec]
      exact congrArg (fun value : UInt64 => value.toBitVec.toInt) values
    · injection same with numbers
      injection numbers
  · split at same
    · injection same with numbers
      injection numbers
    · injection same with numbers
      injection numbers

/-- Different risk states are written differently if different days are. -/
theorem LiveRiskState.encoded_injective (floats : Json.FloatTexts prims.floatText)
    (days : Function.Injective prims.dateJson) (parsed : ∀ day, (prims.dateJson day).Parsed) :
    Function.Injective (LiveRiskState.encoded prims) := by
  intro a b same
  have all : ∀ risk : LiveRiskState, ∀ field ∈ risk.fields prims, Json.Parsed field.2 := by
    intro risk
    simp only [LiveRiskState.fields, List.forall_mem_cons, List.not_mem_nil, IsEmpty.forall_iff,
      implies_true, and_true]
    exact ⟨parsed _, Int64.parsed_toJson _, Int64.parsed_toJson _, .number trivial, .number trivial⟩
  have texts := String.ofList_injective (utf8_injective same)
  have fields := Json.compact_object_injective floats (all a) (all b) texts
  simp only [LiveRiskState.fields, List.cons.injEq, Prod.mk.injEq, true_and, and_true] at fields
  rcases fields with ⟨day, start, peak, orders, last⟩
  have day := days day
  have start := Int64.toJson_injective start
  have peak := Int64.toJson_injective peak
  have orders : a.ordersToday = b.ordersToday := by
    injection orders with numbers
    injection numbers with values
    exact UInt16.toUInt64_inj.mp values
  have last : a.lastReconciliationMs = b.lastReconciliationMs := by
    injection last with numbers
    injection numbers
  cases a
  cases b
  simp_all

/-- A day of 2026, which the samples are of, is written as its year and its day in it. -/
def writeDay (date : Date) : Json :=
  if 20454 ≤ date.day ∧ date.day ≤ 20818 then
    .array [.number (.unsigned 2026), .number (.unsigned (.ofNat (date.day - 20453).toNat))]
  else .array [.bool (0 ≤ date.day), .string (.ofList (Nat.toDigits 10 date.day.natAbs))]

def readDay : Json → Option Date
  | .array [.number (.unsigned 2026), .number (.unsigned day)] => some ⟨20453 + day.toNat⟩
  | _ => none

theorem writeDay_injective : Function.Injective writeDay := by
  intro a b same
  have ofDay : a.day = b.day → a = b := by
    intro equal
    cases a
    cases b
    exact congrArg Date.mk equal
  unfold writeDay at same
  split at same
  · split at same
    · rename_i inA inB
      simp only [Json.array.injEq, List.cons.injEq, Json.number.injEq, JsonNumber.unsigned.injEq,
        and_true, true_and] at same
      have days := congrArg UInt64.toNat same
      have small : ∀ {day : Int}, day ≤ 20818 → (day - 20453).toNat < UInt64.size := by
        intro day below
        unfold UInt64.size
        omega
      rw [UInt64.toNat_ofNat_of_lt' (small inA.2), UInt64.toNat_ofNat_of_lt' (small inB.2)] at days
      exact ofDay (by omega)
    · simp at same
  · split at same
    · simp at same
    · simp only [Json.array.injEq, List.cons.injEq, Json.bool.injEq, Json.string.injEq, and_true,
        String.ofList_inj] at same
      have size := Json.toDigits_injective same.2
      have sign := decide_eq_decide.mp same.1
      exact ofDay (by omega)

/-- The primitives that read, with doubles and days. -/
def dayPrimitives : Primitives :=
  { readingPrimitives with floatText := Json.bitsText, dateJson := writeDay, parseDate := readDay }

theorem dayPrimitives_encoded_injective : Function.Injective (LiveRiskState.encoded dayPrimitives) := by
  refine LiveRiskState.encoded_injective Json.floatTexts_bitsText writeDay_injective ?_
  intro day
  change (writeDay day).Parsed
  unfold writeDay
  split
  · refine .array ?_
    simp only [List.forall_mem_cons, List.not_mem_nil, IsEmpty.forall_iff, implies_true, and_true]
    exact ⟨.number trivial, .number trivial⟩
  · refine .array ?_
    simp only [List.forall_mem_cons, List.not_mem_nil, IsEmpty.forall_iff, implies_true, and_true]
    exact ⟨.bool, .string⟩

/-- And the risk state of the sample run is read. -/
def sessionPrimitives : Primitives :=
  { dayPrimitives with
    parseJson := fun bytes => if bytes = sampleRisk.encoded dayPrimitives then
      some (.ofFields (sampleRisk.fields dayPrimitives)) else none }

theorem sessionPrimitives_parseJson (bytes : Bytes) : sessionPrimitives.parseJson bytes =
    if bytes = sampleRisk.encoded dayPrimitives then
      some (.ofFields (sampleRisk.fields dayPrimitives)) else none := rfl

theorem sessionPrimitives_readsTexts : sessionPrimitives.ReadsTexts := by
  have texts : sessionPrimitives.parseUtf8 = readingPrimitives.parseUtf8 := rfl
  have ids : sessionPrimitives.parseUuid = readingPrimitives.parseUuid := rfl
  refine ⟨fun text => ?_, fun id => ?_⟩
  · rw [texts]
    exact readingPrimitives_readsTexts.parseUtf8 text
  · rw [ids]
    exact readingPrimitives_readsTexts.parseUuid id

theorem sessionPrimitives_works : sessionPrimitives.Works 16 := by
  have hashes : sessionPrimitives.sha256 = countingPrimitives.sha256 := rfl
  have signatures : verifySignature sessionPrimitives = verifySignature countingPrimitives :=
    verifySignature_congr rfl rfl rfl
  refine ⟨fun _ => rfl, fun key digest => ?_, fun a b verified verified' below below' same => ?_⟩
  · rw [signatures]
    exact verifySignature_counting key _ digest
  · exact sequence_of_eventSha256_counting hashes verified verified' below below' same

theorem ofJson?_sampleRisk : LiveRiskState.ofJson? sessionPrimitives
    (.ofFields (sampleRisk.fields dayPrimitives)) = some sampleRisk := by
  decide

theorem sessionPrimitives_reads {value : Bytes} {risk : LiveRiskState}
    (read : (sessionPrimitives.parseJson value).bind (LiveRiskState.ofJson? sessionPrimitives) =
      some risk) : value = sampleRisk.encoded dayPrimitives ∧ risk = sampleRisk := by
  rw [sessionPrimitives_parseJson] at read
  by_cases same : value = sampleRisk.encoded dayPrimitives
  · rw [if_pos same, Option.bind_some, ofJson?_sampleRisk] at read
    exact ⟨same, (Option.some.inj read).symm⟩
  · rw [if_neg same, Option.bind_none] at read
    exact absurd read.symm (Option.some_ne_none risk)

theorem sessionPrimitives_readsRiskStates : sessionPrimitives.ReadsRiskStates := by
  intro state read isRead
  rcases sessionPrimitives_reads isRead with ⟨same, rfl⟩
  exact (dayPrimitives_encoded_injective same).symm

/-- The sample configuration, with a cycle every quarter of an hour. -/
def sessionConfig : DaemonConfig :=
  { sampleConfig with
    liveArena := { sampleConfig.liveArena with decisionCooldownSeconds := 900 } }

/-- A process that was told its run before, a second after the arena has begun. -/
def sessionWorld : World :=
  { startingWorld with
    journal := {
      rows := []
      secrets := [
        (runIdKey sessionConfig.arenaId, utf8 sampleStarted.runId.hyphenated),
        (leaseKey sessionConfig.arenaId, utf8 "lease"),
        (liveRiskStateKey sampleStarted.runId, sampleRisk.encoded sessionPrimitives)] }
    clock := ⟨1767571201000000000, 0⟩ }

/-- Its run and its lease are not under the key of a risk state. -/
theorem sessionConfig_keys : runIdKey sessionConfig.arenaId ≠ liveRiskStateKey runId ∧
    leaseKey sessionConfig.arenaId ≠ liveRiskStateKey runId :=
  ⟨append_ne_append (by decide) (by decide), append_ne_append (by decide) (by decide)⟩

theorem sessionWorld_stores : sessionWorld.journal.secret (liveRiskStateKey sampleStarted.runId) =
    some (sampleRisk.encoded sessionPrimitives) := by
  rcases @sessionConfig_keys sampleStarted.runId with ⟨id, lease⟩
  simp only [EncryptedJournal.secret, sessionWorld, List.find?_cons, decide_eq_false id,
    decide_eq_false lease, decide_true, Option.map_some]

theorem sessionWorld_first : FirstSession sessionPrimitives sessionConfig sampleStarted.runId
    sessionWorld.clock (sessionWorld.connected "").journal sampleAccount (instructed "") sampleRisk
    1767571201000 4 1 where
  run := by
    refine ⟨utf8 sampleStarted.runId.hyphenated, by decide, ?_⟩
    rw [sessionPrimitives_readsTexts.parseUtf8, Option.bind_some]
    exact sessionPrimitives_readsTexts.parseUuid sampleStarted.runId
  lease := by
    refine ⟨utf8 "lease", "lease", by decide, ?_⟩
    exact sessionPrimitives_readsTexts.parseUtf8 "lease"
  settings := by decide
  version := by decide
  loads := by
    have other : liveRiskStateKey sampleStarted.runId ≠ refreshTokenKey := by
      rw [refreshTokenKey_eq]
      exact append_ne_append (by decide) (by decide)
    refine ⟨sampleRisk.encoded sessionPrimitives,
      (EncryptedJournal.secret_putSecret_of_ne other).trans sessionWorld_stores, ?_⟩
    rw [sessionPrimitives_parseJson, if_pos (by rfl), Option.bind_some, ofJson?_sampleRisk]
  early := by decide
  live := by decide
  expects := by decide
  dues := by decide
  goesOn := by decide
  scheduled := by
    intro k below
    rcases Nat.le_one_iff_eq_zero_or_eq_one.mp below with rfl | rfl
    · exact ⟨_, rfl⟩
    · exact ⟨_, rfl⟩
  model := rfl
  accepts := by decide
  time := by decide

theorem sessionWorld_free : Unhindered sessionPrimitives sampleStarted.runId sessionWorld.clock
    (sessionWorld.connected "").journal.secrets [] 0 (sessionWorld.connected "") := by
  have fresh : (sessionWorld.connected "").Fresh := ⟨rfl, rfl⟩
  refine ⟨⟨fresh.delivered, ?_, ?_, rfl, le_rfl, rfl⟩, le_rfl, rfl, by decide, rfl⟩
  · exact List.forall_mem_nil _
  · exact List.forall_mem_nil _

/-- No other risk state is stored. -/
theorem sessionWorld_secret {value : Bytes}
    (stored : sessionWorld.journal.secret (liveRiskStateKey runId) = some value) :
    value = sampleRisk.encoded sessionPrimitives := by
  rcases @sessionConfig_keys runId with ⟨id, lease⟩
  by_cases own : liveRiskStateKey sampleStarted.runId = liveRiskStateKey runId
  · simp only [EncryptedJournal.secret, sessionWorld, List.find?_cons, decide_eq_false id,
      decide_eq_false lease, decide_eq_true own, Option.map_some, Option.some.injEq] at stored
    exact stored.symm
  · simp only [EncryptedJournal.secret, sessionWorld, List.find?_cons, List.find?_nil,
      decide_eq_false id, decide_eq_false lease, decide_eq_false own, Option.map_none] at stored
    cases stored

/-- The sample session comes to its loop, with one cycle missed. -/
theorem exists_sample_loop : ∃ state w',
    DaemonReaches sessionPrimitives sessionConfig anything sessionWorld
      (.running (.done (.loop state)), w') ∧
    state.runId = sampleStarted.runId ∧ state.completedCycles = 1 ∧
    w'.journal.secret (liveRiskStateKey sampleStarted.runId) =
      some ({ sampleRisk with lastReconciliationMs := 1767571201000 }.encoded sessionPrimitives) := by
  have room : 8 + 1 < 16 := by decide
  have few : 0 + 8 + 2 * 1 < 256 := by decide
  have same : FirstSession.reconciledRisk sampleRisk sampleAccount sessionWorld.clock 1767571201000 =
      { sampleRisk with lastReconciliationMs := 1767571201000 } := by decide
  have reached := exists_loop sessionPrimitives_works room few rfl sessionWorld_first sessionWorld_free
  rw [same] at reached
  exact reached

end CrowAgent
