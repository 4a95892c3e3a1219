import CrowAgent.Daemon.Watermarks

/-!
# The ledger of a run's risk

The loss limits of the policy are measured against two equities of the risk state: the highest one and
the first one of the day.  `Ledger` says how a later risk state of a run continues an earlier one.
Under a clock that goes forward every write continues what was stored, whatever fails and however often
a process restarts, and so does what the policy is told (`risk_ledger_kept`).
-/

namespace CrowAgent

open Coroutine

variable {prims : Primitives} {config : DaemonConfig} {w w' : World} {runId : Uuid} {day : Date}
  {risk risk' : LiveRiskState} {observed observed' : List Observation}

/-! ## Ledgers -/

/-- The second risk state of the run continues the first one: its highest equity does not fall and its
day does not go back; on the same day the first equity stays and the orders only add up; and what is new
is the equity of an account that was taken in. -/
structure LiveRiskState.Ledger (observed : List Observation) (runId : Uuid)
    (risk risk' : LiveRiskState) : Prop where
  peak : risk.peakEquityMicroUsdc ≤ risk'.peakEquityMicroUsdc
  peakSeen : risk'.peakEquityMicroUsdc = risk.peakEquityMicroUsdc ∨
    ∃ day, ⟨runId, day, risk'.peakEquityMicroUsdc⟩ ∈ observed
  days : risk.tradingDay.day ≤ risk'.tradingDay.day
  sameDay : risk'.tradingDay = risk.tradingDay →
    risk'.tradingDayStartEquityMicroUsdc = risk.tradingDayStartEquityMicroUsdc ∧
      risk.ordersToday ≤ risk'.ordersToday
  newDay : risk'.tradingDay ≠ risk.tradingDay →
    ⟨runId, risk'.tradingDay, risk'.tradingDayStartEquityMicroUsdc⟩ ∈ observed

namespace LiveRiskState.Ledger

theorem refl : risk.Ledger observed runId risk where
  peak := Int64.le_refl _
  peakSeen := .inl rfl
  days := le_refl _
  sameDay := fun _ => ⟨rfl, UInt16.le_refl _⟩
  newDay := fun moved => absurd rfl moved

theorem mono (ledger : risk.Ledger observed runId risk') (grows : observed ⊆ observed') :
    risk.Ledger observed' runId risk' where
  peak := ledger.peak
  peakSeen := ledger.peakSeen.imp_right fun seen => seen.imp fun _ mem => grows mem
  days := ledger.days
  sameDay := ledger.sameDay
  newDay := fun moved => grows (ledger.newDay moved)

/-- Days are what they count. -/
theorem day_ext {day day' : Date} (same : day.day = day'.day) : day = day' := by
  cases day
  cases day'
  exact congrArg Date.mk same

theorem trans {between : LiveRiskState} (first : risk.Ledger observed runId between)
    (second : between.Ledger observed runId risk') : risk.Ledger observed runId risk' where
  peak := Int64.le_trans first.peak second.peak
  peakSeen := by
    rcases second.peakSeen with same | seen
    · rw [same]
      exact first.peakSeen
    · exact .inr seen
  days := first.days.trans second.days
  sameDay := by
    intro same
    -- No day lies between two days that are the same.
    have middle : between.tradingDay = risk.tradingDay :=
      day_ext (le_antisymm (second.days.trans (le_of_eq (congrArg Date.day same))) first.days)
    rcases first.sameDay middle with ⟨start, orders⟩
    rcases second.sameDay (same.trans middle.symm) with ⟨start', orders'⟩
    exact ⟨start'.trans start, UInt16.le_trans orders orders'⟩
  newDay := by
    intro moved
    by_cases same : risk'.tradingDay = between.tradingDay
    · have earlier : between.tradingDay ≠ risk.tradingDay := fun equal => moved (same.trans equal)
      rw [same, (second.sameDay same).1]
      exact first.newDay earlier
    · exact second.newDay same

/-- An account of the day, or of a later one, is taken in. -/
theorem update {account : AccountSnapshot} (later : risk.tradingDay.day ≤ day.day)
    (taken : ⟨runId, day, account.equityMicroUsdc⟩ ∈ observed) :
    risk.Ledger observed runId (risk.update account day) := by
  have peak : (risk.update account day).peakEquityMicroUsdc =
      if risk.peakEquityMicroUsdc ≤ account.equityMicroUsdc then account.equityMicroUsdc
      else risk.peakEquityMicroUsdc := by
    unfold LiveRiskState.update
    split <;> rfl
  have today : (risk.update account day).tradingDay = day := LiveRiskState.tradingDay_update
  refine ⟨?_, ?_, later.trans (le_of_eq (congrArg Date.day today.symm)), ?_, ?_⟩
  · rw [peak]
    split
    · assumption
    · exact Int64.le_refl _
  · rw [peak]
    split
    · exact .inr ⟨day, taken⟩
    · exact .inl rfl
  · intro same
    have unmoved : ¬risk.tradingDay ≠ day := fun moved => moved (today ▸ same.symm)
    unfold LiveRiskState.update
    rw [if_neg unmoved]
    exact ⟨rfl, UInt16.le_refl _⟩
  · intro same
    have moved : risk.tradingDay ≠ day := fun equal => same (today.trans equal.symm)
    rw [today]
    unfold LiveRiskState.update
    rw [if_pos moved]
    exact taken

/-- An order is counted. -/
theorem countOrder : risk.Ledger observed runId risk.countOrder := by
  refine ⟨Int64.le_refl _, .inl rfl, le_refl _, fun _ => ⟨rfl, ?_⟩, fun moved => absurd rfl moved⟩
  unfold LiveRiskState.countOrder
  dsimp only
  split
  · rename_i room
    rw [UInt16.le_iff_toNat_le, UInt16.toNat_add]
    have sum : (risk.ordersToday.toNat + UInt16.toNat 1) % 2 ^ 16 = risk.ordersToday.toNat + 1 :=
      Nat.mod_eq_of_lt room
    omega
  · exact UInt16.le_refl _

theorem reconciled {lastReconciliationMs : UInt64} :
    risk.Ledger observed runId { risk with lastReconciliationMs } :=
  ⟨Int64.le_refl _, .inl rfl, le_refl _, fun _ => ⟨rfl, UInt16.le_refl _⟩, fun moved => absurd rfl moved⟩

end LiveRiskState.Ledger

/-! ## The contract -/

/-- The risk state of the run is stored. -/
def World.StoresRisk (prims : Primitives) (runId : Uuid) (risk : LiveRiskState) (w : World) : Prop :=
  w.journal.secret (liveRiskStateKey runId) = some (risk.encoded prims)

/-- Different risk states are written differently. -/
def Primitives.WritesRiskStates (prims : Primitives) : Prop :=
  Function.Injective (LiveRiskState.encoded prims)

theorem World.StoresRisk.unique (writes : prims.WritesRiskStates)
    (first : w.StoresRisk prims runId risk) (second : w.StoresRisk prims runId risk') :
    risk = risk' := writes (Option.some.inj (first.symm.trans second))

/-- Under the keys of risk states there are risk states of days that have come. -/
structure World.KeepsLedgers (prims : Primitives) (w : World) : Prop where
  utc : w.clock.offsetSeconds = 0
  stored : ∀ runId value, w.journal.secret (liveRiskStateKey runId) = some value →
    ∃ risk : LiveRiskState, value = risk.encoded prims ∧ risk.tradingDay.day ≤ w.clock.date.day

/-- The risk state continues the stored one, and its day has come. -/
structure World.Continues (prims : Primitives) (runId : Uuid) (risk : LiveRiskState) (w : World) :
    Prop where
  ledger : ∀ stored, w.StoresRisk prims runId stored → stored.Ledger w.observed runId risk
  come : risk.tradingDay.day ≤ w.clock.date.day

/-- The same, of a risk state in a cycle of the day. -/
structure World.ContinuesOn (prims : Primitives) (runId : Uuid) (day : Date) (risk : LiveRiskState)
    (w : World) : Prop where
  ledger : ∀ stored, w.StoresRisk prims runId stored → stored.Ledger w.observed runId risk
  before : risk.tradingDay.day ≤ day.day
  come : day.day ≤ w.clock.date.day

theorem World.ContinuesOn.continues (continues : w.ContinuesOn prims runId day risk) :
    w.Continues prims runId risk := ⟨continues.ledger, continues.before.trans continues.come⟩

/-- What is written, and what the policy is told, continues what is stored. -/
structure World.ContinuesAt (prims : Primitives) (op : Op) (w : World) : Prop where
  puts : ∀ runId value, op = .journal (.putSecret (liveRiskStateKey runId) value) →
    ∃ risk : LiveRiskState, value = risk.encoded prims ∧ w.Continues prims runId risk
  deletes : ∀ runId, op ≠ .journal (.deleteSecret (liveRiskStateKey runId))
  judges : ∀ runId context, op = .judges runId context →
    ∃ risk : LiveRiskState, risk.Shown context ∧ w.Continues prims runId risk

namespace World.KeepsLedgers

theorem of_secrets (keeps : w.KeepsLedgers prims) (forward : w.Forward w')
    (secrets : ∀ runId, w'.journal.secret (liveRiskStateKey runId) =
      w.journal.secret (liveRiskStateKey runId)) : w'.KeepsLedgers prims where
  utc := forward.utc
  stored := by
    intro runId value secret
    rcases keeps.stored runId value ((secrets runId).symm.trans secret) with ⟨risk, same, come⟩
    exact ⟨risk, same, come.trans (forward.day_le keeps.utc)⟩

theorem beside (keeps : w.KeepsLedgers prims) (beside : Beside w w') (forward : w.Forward w') :
    w'.KeepsLedgers prims :=
  keeps.of_secrets forward fun _ => beside.secret liveRiskStateKey_not_command

end World.KeepsLedgers

/-- The contract of the ledgers. -/
def ledgers (prims : Primitives) : Contract calls World :=
  .ofSystem (forwardSystem prims) (World.KeepsLedgers prims) (World.ContinuesAt prims)
    fun keeps acts => keeps.beside acts.1 acts.2

theorem ledgers_ofWorld : OfWorld prims (ledgers prims) :=
  ⟨fun begins => begins.1, fun answers => answers.1⟩

/-- What writes no risk state and tells the policy nothing. -/
def Op.LeavesLedgers (op : Op) : Prop :=
  op.Within linkEffects ∧ ∀ runId context, op ≠ .judges runId context

theorem Op.LeavesLedgers.allowed {op : Op} (leaves : op.LeavesLedgers) :
    w.ContinuesAt prims op := by
  rcases leaves with ⟨within, other⟩
  refine ⟨?_, ?_, fun runId context same => absurd same (other runId context)⟩
  · intro runId value same
    subst same
    exact absurd rfl (within runId)
  · intro runId same
    subst same
    exact within runId rfl

/-- What lasts while notes grow, the clock goes forward and no risk state is written. -/
theorem ledgers_preserves {J : World → Prop}
    (lasts : ∀ {w w'}, w.clock.offsetSeconds = 0 → w.Forward w' → w.observed ⊆ w'.observed →
      (∀ runId, w'.journal.secret (liveRiskStateKey runId) =
        w.journal.secret (liveRiskStateKey runId)) → J w → J w') :
    (ledgers prims).Preserves Op.LeavesLedgers J where
  rely := by
    intro w w' keeps holds (acts : Relation.ReflTransGen (forwardSystem prims).env w w')
    refine System.steps_keep ?_ ?_ keeps holds acts
    · exact fun keeps acts => keeps.beside acts.1 acts.2
    · intro w w' keeps holds acts
      exact lasts (World.KeepsLedgers.utc keeps) acts.2 acts.1.grows.observed
        (fun _ => acts.1.secret liveRiskStateKey_not_command) holds
  pre := fun leaves _ _ => leaves.allowed
  begins := by
    intro op w w' _ keeps holds begins
    have secrets : ∀ runId, w'.journal.secret (liveRiskStateKey runId) =
        w.journal.secret (liveRiskStateKey runId) := fun _ => by
      rw [World.Begins.journal begins.1]
    exact ⟨World.KeepsLedgers.of_secrets keeps begins.2 secrets,
      lasts (World.KeepsLedgers.utc keeps) begins.2 (World.Begins.grows begins.1).observed secrets
        holds⟩
  answers := by
    intro op w w' answer leaves keeps holds answers
    have secrets : ∀ runId, w'.journal.secret (liveRiskStateKey runId) =
        w.journal.secret (liveRiskStateKey runId) := fun runId =>
      World.Answers.secret_of_within answers.1.2 leaves.1 fun written => written runId rfl
    exact ⟨World.KeepsLedgers.of_secrets keeps answers.2 secrets,
      lasts (World.KeepsLedgers.utc keeps) answers.2 (World.Answers.grows answers.1.2).observed secrets
        holds⟩

theorem ledgers_preserves_true : (ledgers prims).Preserves Op.LeavesLedgers fun _ => True :=
  ledgers_preserves fun _ _ _ _ => id

/-- A date that has come. -/
theorem ledgers_preserves_come :
    (ledgers prims).Preserves Op.LeavesLedgers fun w => day.day ≤ w.clock.date.day :=
  ledgers_preserves fun utc forward _ _ come => come.trans (forward.day_le utc)

theorem continues_preserves :
    (ledgers prims).Preserves Op.LeavesLedgers (World.Continues prims runId risk) :=
  ledgers_preserves fun utc forward grows secrets continues =>
    ⟨fun stored secret => (continues.ledger stored ((secrets runId).symm.trans secret)).mono grows,
      continues.come.trans (forward.day_le utc)⟩

theorem continuesOn_preserves :
    (ledgers prims).Preserves Op.LeavesLedgers (World.ContinuesOn prims runId day risk) :=
  ledgers_preserves fun utc forward grows secrets continues =>
    ⟨fun stored secret => (continues.ledger stored ((secrets runId).symm.trans secret)).mono grows,
      continues.before, continues.come.trans (forward.day_le utc)⟩

/-- What the daemon does but for its accounts and their risk states. -/
def ledgerEffects : Effects := { linkEffects with weighs := fun _ => False }

theorem ledgerEffects_manages : ledgerEffects.Manages config := by
  have manages := @linkEffects_manages config
  exact ⟨manages.events, manages.id, manages.lease, manages.strategy, manages.settings, manages.shared⟩

theorem Op.Within.leavesLedgers {op : Op} (within : op.Within ledgerEffects) : op.LeavesLedgers := by
  constructor
  · have le : ledgerEffects.Le linkEffects := ⟨id, id, fun never => never.elim, id, id, id⟩
    exact within.mono le
  · intro runId context same
    subst same
    exact within.elim

/-! ## The steps -/

section Steps

variable {α : Type} {day : Date} {J : LiveRiskState → World → Prop}

/-- An account is taken in. -/
theorem continuesOn_observes {account : AccountSnapshot} (keeps : w.KeepsLedgers prims)
    (continues : w.ContinuesOn prims runId day risk) :
    (ledgers prims).Calls (.observes runId day account.equityMicroUsdc)
      (fun _ => World.ContinuesOn prims runId day (risk.update account day)) w := by
  have leaves : (Op.observes runId day account.equityMicroUsdc).LeavesLedgers :=
    ⟨trivial, fun _ _ => Op.noConfusion⟩
  refine Contract.calls_sync rfl leaves.allowed (fun begins => ?_) fun begins answers => ?_
  · rw [World.Begins.eq_of_sync begins.1 rfl]
    exact keeps
  · rename_i w₁ answer w'
    obtain rfl := World.Begins.eq_of_sync begins.1 rfl
    have grown := (continuesOn_preserves.answers leaves keeps continues answers)
    refine ⟨grown.1, ?_⟩
    have taken : ⟨runId, day, account.equityMicroUsdc⟩ ∈ w'.observed := by
      rw [show w' = _ from answers.1.2]
      exact List.mem_cons_self
    refine ⟨fun stored secret => ?_, ?_, grown.2.come⟩
    · exact (grown.2.ledger stored secret).trans (.update continues.before taken)
    · exact le_of_eq (congrArg Date.day LiveRiskState.tradingDay_update)

/-- A risk state that continues the stored one is stored. -/
theorem wp_putRisk_continues {σ ε : Type} {locals : σ} {convert : JournalError → ε}
    (writes : prims.WritesRiskStates) (keeps : w.KeepsLedgers prims)
    (continues : w.Continues prims runId risk) :
    (askJournal convert (.putSecret (liveRiskStateKey runId) (risk.encoded prims)) :
      Act calls σ ε Unit).wp (ledgers prims)
      (fun _ locals' w' => locals' = locals ∧ w'.clock = w.clock ∧
        ∀ stored, w'.StoresRisk prims runId stored → stored = risk)
      (fun error _ _ => ∃ cause, error = convert cause) locals w := by
  have allowed : w.ContinuesAt prims
      (.journal (.putSecret (liveRiskStateKey runId) (risk.encoded prims))) := by
    refine ⟨?_, ?_, ?_⟩
    · intro other value same
      injection same with same
      injection same with names values
      obtain rfl := liveRiskStateKey_injective names
      exact ⟨risk, values.symm, continues⟩
    · intro other same
      injection same with same
      cases same
    · intro other context same
      cases same
  refine ledgers_ofWorld.wp_askJournal allowed keeps ?_ ?_
  · intro _ journal put
    have found := EncryptedJournal.secret_of_putSecret put
    refine ⟨⟨keeps.utc, ?_⟩, rfl, rfl, ?_⟩
    · intro other value read
      by_cases same : other = runId
      · subst same
        exact ⟨risk, (Option.some.inj (found.symm.trans read)).symm, continues.come⟩
      · have names : liveRiskStateKey other ≠ liveRiskStateKey runId := fun equal =>
          same (liveRiskStateKey_injective equal)
        have kept := @EncryptedJournal.secret_putSecret_of_ne w.journal _ _ (risk.encoded prims) names
        have ran : w.journal.putSecret (liveRiskStateKey runId) (risk.encoded prims) =
          (.ok (), journal) := put
        rw [ran] at kept
        exact keeps.stored other value (kept.symm.trans read)
    · exact fun stored secret => writes (Option.some.inj (secret.symm.trans found))
  · intro error journal failed
    have same : journal = w.journal := by
      rcases failed with same | put
      · exact same
      · exact EncryptedJournal.putSecret_error put
    rw [same]
    exact ⟨keeps, error, rfl⟩

theorem continuesOn_stores (writes : prims.WritesRiskStates) (keeps : w.KeepsLedgers prims)
    (continues : w.ContinuesOn prims runId day risk) :
    (storeRisk prims runId).wp (ledgers prims)
      (fun _ locals w => locals = risk ∧ w.ContinuesOn prims runId day risk) Fatal risk w := by
  refine Act.wp_bind.mpr (Act.wp_get.mpr (Act.wp_mapError.mpr (Act.wp_mono keeps
    (wp_putRisk_continues writes keeps continues.continues) ?_ ?_)))
  · intro _ locals w' _ done
    rcases done with ⟨same, clock, only⟩
    refine ⟨same, fun stored secret => ?_, continues.before, clock ▸ continues.come⟩
    rw [only stored secret]
    exact .refl
  · intro error locals w' _ failed failure same
    rcases failed with ⟨cause, rfl⟩
    cases same

/-- A part of a session or a cycle that leaves the ledgers alone. -/
theorem wp_leaves {x : Act calls LiveRiskState LiveCycleError α}
    (preserves : (ledgers prims).Preserves Op.LeavesLedgers (J risk)) (only : x.Only Op.LeavesLedgers)
    (steady : x.Steady) (keeps : w.KeepsLedgers prims) (holds : J risk w) :
    x.wp (ledgers prims) (fun _ locals w => locals = risk ∧ J risk w) (AfterError J) risk w :=
  Act.wp_mono keeps (Act.wp_rests preserves only steady keeps holds) (fun _ _ _ _ => id)
    fun _ _ _ _ done _ _ => done.1 ▸ done.2

theorem only_askVenue_leaves {σ : Type} {call : VenueCall}
    (within : (Op.venue call).Within linkEffects) :
    (askVenue .venue call : Act calls σ LiveCycleError call.Value).Only Op.LeavesLedgers :=
  Act.Only.bind (Act.Only.perform ⟨within, fun _ _ => Op.noConfusion⟩) fun _ => .ofExcept

/-- What the venue settled is asked for, and the watermark moves. -/
theorem wp_askWindow_leaves {executionAccount : String} {isolatedLeverage : UInt8} {upTo : UInt64}
    {rest : Json → Json → AccountSnapshot → Act calls LiveRiskState LiveCycleError α}
    {ok : α → LiveRiskState → World → Prop}
    (preserves : ∀ {risk}, (ledgers prims).Preserves Op.LeavesLedgers (J risk))
    (moves : ∀ {w}, J risk w → J { risk with lastReconciliationMs := upTo } w)
    (keeps : w.KeepsLedgers prims) (holds : J risk w)
    (goesOn : ∀ {fills funding account w}, w.KeepsLedgers prims →
      J { risk with lastReconciliationMs := upTo } w →
        (rest fills funding account).wp (ledgers prims) ok (AfterError J)
          { risk with lastReconciliationMs := upTo } w) :
    (do
      let fills ← askVenue .venue (.fillsSince executionAccount risk.lastReconciliationMs upTo)
      let funding ← askVenue .venue (.fundingSince executionAccount risk.lastReconciliationMs upTo)
      let account ← askVenue .venue (.accountSnapshot executionAccount)
      Act.ofExcept id (validateAccountPolicy account isolatedLeverage)
      modify ({ · with lastReconciliationMs := upTo })
      rest fills funding account : Act calls LiveRiskState LiveCycleError α).wp
      (ledgers prims) ok (AfterError J) risk w := by
  refine Act.wp_bind.mpr (Act.wp_mono keeps (wp_leaves preserves
    (only_askVenue_leaves (by exact ⟨⟨.ofNat 16 0⟩, trivial⟩)) steady_askVenue keeps holds) ?_
    fun _ _ _ _ => id)
  intro fills locals w₁ keeps₁ done
  rcases done with ⟨rfl, holds₁⟩
  refine Act.wp_bind.mpr (Act.wp_mono keeps₁ (wp_leaves preserves
    (only_askVenue_leaves (by exact ⟨⟨.ofNat 16 0⟩, trivial⟩)) steady_askVenue keeps₁ holds₁) ?_
    fun _ _ _ _ => id)
  intro funding locals w₂ keeps₂ done
  rcases done with ⟨rfl, holds₂⟩
  refine Act.wp_bind.mpr (Act.wp_mono keeps₂ (wp_leaves preserves
    (only_askVenue_leaves (by trivial)) steady_askVenue keeps₂ holds₂) ?_ fun _ _ _ _ => id)
  intro account locals w₃ keeps₃ done
  rcases done with ⟨rfl, holds₃⟩
  refine Act.wp_bind.mpr (Act.wp_ofExcept.mpr ?_)
  split
  · exact Act.wp_bind.mpr (Act.wp_modify.mpr (goesOn keeps₃ (moves holds₃)))
  · exact fun _ _ => holds₃

theorem only_appendEvent_leaves {writer : DurableRunEventWriter} {cycleId : Option Uuid}
    {eventType : String} {payload privatePayload : Json} :
    (appendEvent prims writer cycleId eventType payload privatePayload :
      Act calls LiveRiskState LiveCycleError RunEventEnvelopeV1).Only Op.LeavesLedgers := by
  have within : (appendEvent prims writer cycleId eventType payload privatePayload :
      Act calls LiveRiskState LiveCycleError RunEventEnvelopeV1).Only (Op.Within ledgerEffects) :=
    only_appendEvent (by trivial)
  exact within.mono fun _ => Op.Within.leavesLedgers

/-- An account is taken in, told and stored. -/
theorem wp_recordAccount {writer : DurableRunEventWriter} {cycleId : Option Uuid}
    {account : AccountSnapshot} {fills funding reconciliation portfolio : Json}
    {rest : RunEventEnvelopeV1 → α} (writes : prims.WritesRiskStates) (keeps : w.KeepsLedgers prims)
    (continues : w.ContinuesOn prims writer.runId day risk) :
    (do
      modify (·.update account day)
      ask (.observes writer.runId day account.equityMicroUsdc)
      let _ ← appendEvent prims writer cycleId "fill" fills .null
      let _ ← appendEvent prims writer cycleId "funding" funding .null
      let _ ← appendEvent prims writer cycleId "reconciliation" reconciliation .null
      let finalEvent ← appendEvent prims writer cycleId "portfolio_snapshot" portfolio .null
      storeRisk prims writer.runId
      return rest finalEvent : Act calls LiveRiskState LiveCycleError α).wp (ledgers prims)
      (fun _ => World.ContinuesOn prims writer.runId day)
      (AfterError (World.ContinuesOn prims writer.runId day)) risk w := by
  have appends : ∀ {eventType payload risk w}, w.KeepsLedgers prims →
      w.ContinuesOn prims writer.runId day risk →
      (appendEvent prims writer cycleId eventType payload .null :
        Act calls LiveRiskState LiveCycleError RunEventEnvelopeV1).wp (ledgers prims)
        (fun _ locals w => locals = risk ∧ w.ContinuesOn prims writer.runId day risk)
        (AfterError (World.ContinuesOn prims writer.runId day)) risk w := fun keeps continues =>
    wp_leaves continuesOn_preserves only_appendEvent_leaves steady_appendEvent keeps continues
  refine Act.wp_bind.mpr (Act.wp_modify.mpr (Act.wp_bind.mpr (wp_ask.mpr
    ((continuesOn_observes keeps continues).mono ?_))))
  intro _ w₁ keeps₁ continues₁
  refine Act.wp_bind.mpr (Act.wp_mono keeps₁ (appends keeps₁ continues₁) ?_ fun _ _ _ _ => id)
  intro _ locals w₂ keeps₂ done
  rcases done with ⟨rfl, continues₂⟩
  refine Act.wp_bind.mpr (Act.wp_mono keeps₂ (appends keeps₂ continues₂) ?_ fun _ _ _ _ => id)
  intro _ locals w₃ keeps₃ done
  rcases done with ⟨rfl, continues₃⟩
  refine Act.wp_bind.mpr (Act.wp_mono keeps₃ (appends keeps₃ continues₃) ?_ fun _ _ _ _ => id)
  intro _ locals w₄ keeps₄ done
  rcases done with ⟨rfl, continues₄⟩
  refine Act.wp_bind.mpr (Act.wp_mono keeps₄ (appends keeps₄ continues₄) ?_ fun _ _ _ _ => id)
  intro _ locals w₅ keeps₅ done
  rcases done with ⟨rfl, continues₅⟩
  refine Act.wp_bind.mpr (Act.wp_mono keeps₅ (continuesOn_stores writes keeps₅ continues₅) ?_
    fun _ _ _ _ fatal => fatal.afterError)
  intro _ locals w₆ _ done
  rcases done with ⟨rfl, continues₆⟩
  exact Act.wp_pure.mpr continues₆

/-- A session brings its run up to date. -/
theorem continues_reconciles {session : SessionAccount} (writes : prims.WritesRiskStates)
    (keeps : w.KeepsLedgers prims) (continues : w.Continues prims session.runId risk) :
    (reconcileLiveState prims session).wp (ledgers prims)
      (fun _ => World.Continues prims session.runId) (fun _ _ _ => True) risk w := by
  have preserves : ∀ {risk}, (ledgers prims).Preserves Op.LeavesLedgers
      (World.Continues prims session.runId risk) := continues_preserves
  have reads : (ask .nowUtc : Act calls LiveRiskState LiveCycleError OffsetDateTime).Only
      Op.LeavesLedgers := Act.Only.perform ⟨trivial, fun _ _ => Op.noConfusion⟩
  refine Act.wp_bind.mpr (Act.wp_mono keeps (wp_leaves preserves reads steady_ask keeps continues) ?_
    fun _ _ _ _ _ => trivial)
  intro now locals w₁ keeps₁ done
  rcases done with ⟨rfl, continues₁⟩
  refine Act.wp_bind.mpr (Act.wp_ofExcept.mpr ?_)
  split
  · rename_i reconcileAt _
    refine Act.wp_bind.mpr (Act.wp_get.mpr (Act.wp_mono keeps₁ (wp_askWindow_leaves
      (J := World.Continues prims session.runId) preserves (fun continues => ⟨fun stored secret => (continues.ledger stored secret).trans .reconciled,
        continues.come⟩) keeps₁ continues₁ ?_) (fun _ _ _ _ => id) fun _ _ _ _ _ => trivial))
    intro fills funding account w₂ keeps₂ continues₂
    have idles := (@preserves { locals with lastReconciliationMs := reconcileAt }).mono
      fun _ => Op.Within.leavesLedgers
    refine Act.wp_bind.mpr (Act.wp_mono keeps₂ (wp_nowUtc ledgers_ofWorld idles keeps₂ continues₂) ?_
      fun _ _ _ _ => False.elim)
    intro today locals₃ w₃ keeps₃ done
    rcases done with ⟨rfl, continues₃, rfl⟩
    have today₃ : w₃.ContinuesOn prims session.runId w₃.clock.date
        { locals with lastReconciliationMs := reconcileAt } :=
      ⟨continues₃.ledger, continues₃.come, le_refl _⟩
    refine Act.wp_mono keeps₃ (@wp_recordAccount _ _ _ _ _ session.writer _ _ _ _ _ _ _ writes keeps₃
      today₃) ?_ ?_
    · exact fun _ _ _ _ continues => continues.continues
    · exact fun _ _ _ _ failed failure same => (failed failure same).continues
  · trivial

/-- What the venue settled after an order is taken in. -/
theorem continuesOn_settles {cycle : LiveCycle} {cycleId : Uuid} {now : OffsetDateTime}
    {symbol : String} {submission : VenueSubmission} (writes : prims.WritesRiskStates)
    (keeps : w.KeepsLedgers prims) (continues : w.ContinuesOn prims cycle.runId now.date risk) :
    (cycle.settle prims cycleId now symbol submission).wp (ledgers prims)
      (fun _ => World.ContinuesOn prims cycle.runId now.date)
      (AfterError (World.ContinuesOn prims cycle.runId now.date)) risk w := by
  have preserves : ∀ {risk}, (ledgers prims).Preserves Op.LeavesLedgers
      (World.ContinuesOn prims cycle.runId now.date risk) := continuesOn_preserves
  have reads : (ask .nowUtc : Act calls LiveRiskState LiveCycleError OffsetDateTime).Only
      Op.LeavesLedgers := Act.Only.perform ⟨trivial, fun _ _ => Op.noConfusion⟩
  refine Act.wp_bind.mpr (Act.wp_mono keeps (wp_leaves preserves only_appendEvent_leaves
    steady_appendEvent keeps continues) ?_ fun _ _ _ _ => id)
  intro _ locals w₁ keeps₁ done
  rcases done with ⟨rfl, continues₁⟩
  refine Act.wp_bind.mpr (Act.wp_mono keeps₁ (wp_leaves preserves reads steady_ask keeps₁ continues₁)
    ?_ fun _ _ _ _ => id)
  intro reconciledAt locals w₂ keeps₂ done
  rcases done with ⟨rfl, continues₂⟩
  refine Act.wp_bind.mpr (Act.wp_ofExcept.mpr ?_)
  split
  · rename_i reconcileAt _
    refine Act.wp_bind.mpr (Act.wp_get.mpr (wp_askWindow_leaves
      (J := World.ContinuesOn prims cycle.runId now.date) preserves
      (fun continues => ⟨fun stored secret => (continues.ledger stored secret).trans .reconciled,
        continues.before, continues.come⟩) keeps₂ continues₂ ?_))
    intro fills funding account w₃ keeps₃ continues₃
    exact @wp_recordAccount _ _ _ _ _ cycle.writer _ _ _ _ _ _ _ writes keeps₃ continues₃
  · exact fun _ _ => continues₂

/-- An order is counted before it is handed to the venue. -/
theorem continuesOn_dispatches {cycle : LiveCycle} {cycleId : Uuid} {order : OrderDecision}
    (writes : prims.WritesRiskStates) (keeps : w.KeepsLedgers prims)
    (continues : w.ContinuesOn prims cycle.runId day risk) :
    (cycle.dispatch prims cycleId order).wp (ledgers prims)
      (fun _ => World.ContinuesOn prims cycle.runId day)
      (AfterError (World.ContinuesOn prims cycle.runId day)) risk w := by
  have preserves : ∀ {risk}, (ledgers prims).Preserves Op.LeavesLedgers
      (World.ContinuesOn prims cycle.runId day risk) := continuesOn_preserves
  have draws : (ask .newV4 : Act calls LiveRiskState LiveCycleError Uuid).Only Op.LeavesLedgers :=
    Act.Only.perform ⟨trivial, fun _ _ => Op.noConfusion⟩
  refine Act.wp_bind.mpr (Act.wp_mono keeps (wp_leaves preserves only_appendEvent_leaves
    steady_appendEvent keeps continues) ?_ fun _ _ _ _ => id)
  intro policyEvent locals w₁ keeps₁ done
  rcases done with ⟨rfl, continues₁⟩
  refine Act.wp_bind.mpr (Act.wp_mono keeps₁ (wp_leaves preserves draws steady_ask keeps₁ continues₁)
    ?_ fun _ _ _ _ => id)
  intro orderId locals w₂ keeps₂ done
  rcases done with ⟨rfl, continues₂⟩
  refine Act.wp_bind.mpr (Act.wp_mono keeps₂ (wp_leaves preserves only_appendEvent_leaves
    steady_appendEvent keeps₂ continues₂) ?_ fun _ _ _ _ => id)
  intro _ locals w₃ keeps₃ done
  rcases done with ⟨rfl, continues₃⟩
  have counted : w₃.ContinuesOn prims cycle.runId day locals.countOrder :=
    ⟨fun stored secret => (continues₃.ledger stored secret).trans .countOrder, continues₃.before,
      continues₃.come⟩
  refine Act.wp_bind.mpr (Act.wp_modify.mpr (Act.wp_bind.mpr (Act.wp_mono keeps₃
    (continuesOn_stores writes keeps₃ counted) ?_ fun _ _ _ _ fatal => fatal.afterError)))
  intro _ locals₄ w₄ keeps₄ done
  rcases done with ⟨rfl, continues₄⟩
  refine Act.wp_mono keeps₄ (wp_leaves preserves
    (only_askVenue_leaves (by exact ⟨cycle.runId, trivial⟩)) steady_askVenue keeps₄ continues₄) ?_
    fun _ _ _ _ => id
  exact fun _ _ _ _ done => done.1 ▸ done.2

end Steps

/-! ## Sessions -/

/-- The stored risk state of a run is what a session goes on with. -/
theorem continues_loads (reads : prims.ReadsRiskStates) (writes : prims.WritesRiskStates)
    {now : OffsetDateTime} (keeps : w.KeepsLedgers prims) (come : now.date.day ≤ w.clock.date.day) :
    (sessionRisk prims config runId now).wp (ledgers prims)
      (fun risk _ => World.Continues prims runId risk) (fun _ _ _ => True) () w := by
  have allowed : w.ContinuesAt prims (.journal (.secret (liveRiskStateKey runId))) :=
    Op.LeavesLedgers.allowed ⟨trivial, fun _ _ => Op.noConfusion⟩
  refine Act.wp_bind.mpr (Act.wp_mapError.mpr (Act.wp_bind.mpr
    (ledgers_ofWorld.wp_readJournal (fun _ => rfl) allowed keeps ?_ fun _ => trivial)))
  intro value found
  obtain rfl : w.journal.secret (liveRiskStateKey runId) = value := Except.ok.inj found
  cases secret : w.journal.secret (liveRiskStateKey runId) with
  | none =>
    have missing : (ledgers prims).Preserves Op.LeavesLedgers fun w =>
        w.journal.secret (liveRiskStateKey runId) = none ∧ now.date.day ≤ w.clock.date.day :=
      ledgers_preserves fun utc forward _ secrets missing =>
        ⟨(secrets runId).trans missing.1, missing.2.trans (forward.day_le utc)⟩
    have leaves : ∀ {α : Type} {x : Act calls Unit LiveRunError α} {w : World},
        x.Only Op.LeavesLedgers → w.KeepsLedgers prims →
        (w.journal.secret (liveRiskStateKey runId) = none ∧ now.date.day ≤ w.clock.date.day) →
        x.wp (ledgers prims) (fun _ _ w => w.journal.secret (liveRiskStateKey runId) = none ∧
          now.date.day ≤ w.clock.date.day) (fun _ _ _ => True) () w := fun only keeps holds =>
      Act.wp_mono keeps (Act.wp_preserves missing only keeps holds)
        (fun _ _ _ _ => id) fun _ _ _ _ _ => trivial
    have observes : ∀ equity, (ask (.observes runId now.date equity) :
        Act calls Unit LiveRunError Unit).Only Op.LeavesLedgers := fun _ =>
      Act.Only.perform ⟨trivial, fun _ _ => Op.noConfusion⟩
    have asks : (askVenue .venue (.accountSnapshot config.liveArena.executionAccount) :
        Act calls Unit LiveRunError AccountSnapshot).Only Op.LeavesLedgers :=
      Act.Only.bind (Act.Only.perform ⟨trivial, fun _ _ => Op.noConfusion⟩) fun _ => .ofExcept
    refine Act.wp_pure.mpr (Act.wp_bind.mpr (Act.wp_mono keeps (leaves asks keeps ⟨secret, come⟩) ?_
      fun _ _ _ _ => id))
    intro account _ w₁ keeps₁ missing₁
    refine Act.wp_bind.mpr (Act.wp_mono keeps₁ (leaves .rejectIf keeps₁ missing₁) ?_ fun _ _ _ _ => id)
    intro _ _ w₂ keeps₂ missing₂
    refine Act.wp_bind.mpr (Act.wp_mono keeps₂ (leaves .ofExcept keeps₂ missing₂) ?_
      fun _ _ _ _ => id)
    intro lastReconciliationMs _ w₃ keeps₃ missing₃
    refine Act.wp_bind.mpr (Act.wp_mono keeps₃ (leaves (observes _) keeps₃ missing₃) ?_
      fun _ _ _ _ => id)
    intro _ _ w₄ keeps₄ missing₄
    have first : w₄.Continues prims runId {
        tradingDay := now.date
        tradingDayStartEquityMicroUsdc := account.equityMicroUsdc
        peakEquityMicroUsdc := account.equityMicroUsdc
        ordersToday := 0
        lastReconciliationMs } := by
      refine ⟨fun stored secret => ?_, missing₄.2⟩
      cases missing₄.1.symm.trans secret
    refine Act.wp_bind.mpr (Act.wp_mapError.mpr (Act.wp_mono keeps₄
      (wp_putRisk_continues writes keeps₄ first) ?_ fun _ _ _ _ _ => trivial))
    intro _ _ w₅ _ done
    rcases done with ⟨-, clock, only⟩
    refine Act.wp_pure.mpr ⟨fun stored secret => ?_, ?_⟩
    · rw [only stored secret]
      exact .refl
    · rw [clock]
      exact first.come
  | some value =>
    cases read : (prims.parseJson value).bind (LiveRiskState.ofJson? prims) with
    | none =>
      simp only [read]
      exact Act.wp_throw.mpr trivial
    | some state =>
      simp only [read]
      refine Act.wp_pure.mpr (Act.wp_pure.mpr ?_)
      rcases keeps.stored runId value secret with ⟨stored, rfl, before⟩
      rw [reads stored state read]
      refine ⟨fun other found => ?_, before⟩
      rw [writes (Option.some.inj (secret.symm.trans found))]
      exact .refl

/-- What is shown of the sessions of the daemon. -/
theorem ledgers_rule (reads : prims.ReadsRiskStates) (writes : prims.WritesRiskStates) :
    RiskRule prims config (ledgers prims) ledgerEffects
      (fun now w => now.date.day ≤ w.clock.date.day) (World.Continues prims)
      (World.ContinuesOn prims) where
  manages := ledgerEffects_manages
  selects := trivial
  tokens := fun runId same => @liveRiskStateKey_not_command runId (same ▸ .tokens)
  idles := ledgers_preserves_true.mono fun _ => Op.Within.leavesLedgers
  read := fun _ => le_refl _
  timed := ledgers_preserves_come.mono fun _ => Op.Within.leavesLedgers
  keeps := continues_preserves.mono fun _ => Op.Within.leavesLedgers
  drops := fun keeps =>
    (ledgers_preserves_true.mono fun _ => Op.Within.leavesLedgers).calls (by trivial) keeps trivial
  cycles := by
    intro cycle _
    have idle : ∀ {risk}, (ledgers prims).Preserves (Op.Within ledgerEffects)
        (World.Continues prims cycle.runId risk) :=
      continues_preserves.mono fun _ => Op.Within.leavesLedgers
    have plain : ∀ {day risk}, (ledgers prims).Preserves (Op.Within ledgerEffects)
        (World.ContinuesOn prims cycle.runId day risk) :=
      continuesOn_preserves.mono fun _ => Op.Within.leavesLedgers
    refine {
      appends := fun _ _ => trivial
      idle
      plain
      starts := ?_
      observes := fun account keeps continues => continuesOn_observes keeps continues
      judges := ?_
      stores := ?_
      permitted := fun keeps continues => plain.calls (by exact ⟨cycle.runId, trivial⟩) keeps continues
      dispatches := fun keeps continues _ _ => continuesOn_dispatches writes keeps continues
      settles := fun keeps continues => continuesOn_settles writes keeps continues
      ends := ?_
      breaks := fun keeps => (ledgers_preserves_true.mono fun _ => Op.Within.leavesLedgers).calls
        (by exact ⟨cycle.runId, trivial⟩) keeps trivial }
    · intro cycleId now risk w keeps continues clock
      subst clock
      have today : w.ContinuesOn prims cycle.runId w.clock.date risk :=
        ⟨continues.ledger, continues.come, le_refl _⟩
      exact plain.calls (by trivial) keeps today
    · intro day risk context w keeps continues shown
      have allowed : w.ContinuesAt prims (.judges cycle.runId context) := by
        refine ⟨fun _ _ => Op.noConfusion, fun _ => Op.noConfusion, ?_⟩
        intro runId context' same
        injection same with names contexts
        subst names
        subst contexts
        exact ⟨risk, shown, continues.continues⟩
      refine Contract.calls_sync rfl allowed (fun begins => ?_) fun begins answers => ?_
      · rw [World.Begins.eq_of_sync begins.1 rfl]
        exact keeps
      · obtain rfl := World.Begins.eq_of_sync begins.1 rfl
        obtain ⟨-, same⟩ := answers.1
        subst same
        exact ⟨keeps, continues⟩
    · intro day risk w keeps continues
      refine Act.wp_mono keeps (continuesOn_stores writes keeps continues) ?_ ?_
      · exact fun _ _ _ _ done => done.1 ▸ done.2
      · exact fun _ _ _ _ fatal => fatal.afterError
    · intro day risk w keeps continues
      exact idle.calls (by exact ⟨cycle.runId, trivial⟩) keeps continues.continues
  loads := fun keeps come => continues_loads reads writes keeps come
  reconciles := fun keeps continues => continues_reconciles writes keeps continues
  trades := fun keeps continues =>
    (continues_preserves.mono fun _ => Op.Within.leavesLedgers).calls (by trivial) keeps continues

theorem ledgers_meets (reads : prims.ReadsRiskStates) (writes : prims.WritesRiskStates) :
    (daemon prims config anything).MeetsWhen clockForward (ledgers prims) (fun _ _ => True)
      (RiskRule.Between (World.Continues prims)) :=
  forward_meets (fun keeps acts => keeps.beside acts.1 acts.2) (ledgers_rule reads writes)
    fun keeps => ⟨keeps.utc, keeps.stored⟩

/-! ## Runs -/

variable {a b : Config calls World Stage}

/-- A step of the daemon leaves the stored risk state of a run alone, or continues it. -/
theorem ledger_of_step (called : Config.Called (ledgers prims) a)
    (step : Step (daemon prims config anything) a b) (stored : a.2.StoresRisk prims runId risk) :
    ∃ risk', b.2.StoresRisk prims runId risk' ∧ risk.Ledger b.2.observed runId risk' := by
  rcases riskState_of_step ledgers_ofWorld
    (fun _ allowed => World.ContinuesAt.deletes allowed runId rfl) called step with
    same | ⟨value, allowed, secret⟩
  · exact ⟨risk, same.trans stored, .refl⟩
  · rcases World.ContinuesAt.puts allowed runId value rfl with ⟨risk', rfl, continues⟩
    exact ⟨risk', secret, (continues.ledger risk stored).mono (grows_of_step step).observed⟩

/-- **The ledger of a run.**  Under a clock that goes forward, whatever fails and however often a
process restarts: every later risk state of a run that is stored, and every one that the policy is
told of, continues each stored one. -/
theorem risk_ledger_kept (reads : prims.ReadsRiskStates) (writes : prims.WritesRiskStates)
    {w₀ : World} (start : w₀.KeepsLedgers prims)
    (reached : ReachWhen (daemon prims config anything) clockForward (.running (.done .start), w₀) a)
    (later : ReachWhen (daemon prims config anything) clockForward a b)
    (first : a.2.StoresRisk prims runId risk) :
    (∀ risk', b.2.StoresRisk prims runId risk' → risk.Ledger b.2.observed runId risk') ∧
      ∀ context next, b.1 = .running (.call (.judges runId context) next) →
        ∃ risk' : LiveRiskState, risk'.Shown context ∧ risk.Ledger b.2.observed runId risk' := by
  have meets := @ledgers_meets prims config reads writes
  have between : RiskRule.Between (World.Continues prims) .start w₀ := trivial
  have safe : ∀ {c}, ReachWhen (daemon prims config anything) clockForward
      (.running (.done .start), w₀) c →
      Config.Safe (ledgers prims) (RiskRule.Between (World.Continues prims)) c := fun reached =>
    (meets.sound_between (show (ledgers prims).inv w₀ from start) between reached).1
  have called : ∀ {c}, ReachWhen (daemon prims config anything) clockForward
      (.running (.done .start), w₀) c → Config.Called (ledgers prims) c := by
    intro c reached
    cases reached with
    | refl => trivial
    | tail before step => exact meets.called (safe before) step.1 step.2
  have kept : ∃ risk', b.2.StoresRisk prims runId risk' ∧ risk.Ledger b.2.observed runId risk' := by
    induction later with
    | refl => exact ⟨risk, first, .refl⟩
    | @tail c d before step ih =>
      rcases ih with ⟨between, stored, ledger⟩
      rcases ledger_of_step (called (reached.trans before)) step.1 stored with
        ⟨risk', stored', ledger'⟩
      exact ⟨risk', stored', (ledger.mono (grows_of_step step.1).observed).trans ledger'⟩
  rcases kept with ⟨found, stored, ledger⟩
  constructor
  · intro risk' stored'
    obtain rfl := stored.unique writes stored'
    exact ledger
  · intro context next judges
    rcases b with ⟨thread, w⟩
    subst judges
    have allowed := (safe (reached.trans later)).pre
    rcases World.ContinuesAt.judges allowed runId context rfl with ⟨risk', shown, continues⟩
    exact ⟨risk', shown, ledger.trans (continues.ledger found stored)⟩

/-- The theorem at a process that ends after it was started. -/
theorem sample_ledger_kept : ∃ w' : World,
    w'.StoresRisk sessionPrimitives sampleStarted.runId sampleRisk ∧
    ∀ risk', w'.StoresRisk sessionPrimitives sampleStarted.runId risk' →
      sampleRisk.Ledger w'.observed sampleStarted.runId risk' := by
  have start : sessionWorld.KeepsLedgers sessionPrimitives :=
    ⟨rfl, fun _ _ stored => ⟨sampleRisk, sessionWorld_secret stored, by decide⟩⟩
  have begun : clockForward (.running (.done .start), sessionWorld)
      (.running (startUp sessionPrimitives sessionConfig), sessionWorld) := ⟨le_refl _, rfl⟩
  have ended : clockForward (.running (startUp sessionPrimitives sessionConfig), sessionWorld)
      (.running (.done .start), sessionWorld.restarted) := ⟨le_refl _, rfl⟩
  have later : ReachWhen (daemon sessionPrimitives sessionConfig anything) clockForward
      (.running (.done .start), sessionWorld) (.running (.done .start), sessionWorld.restarted) :=
    .tail (.single ⟨.again .start, begun⟩) ⟨.crash ⟨rfl, trivial, _, .between _, rfl⟩, ended⟩
  have first : sessionWorld.StoresRisk sessionPrimitives sampleStarted.runId sampleRisk :=
    sessionWorld_stores
  have writes : sessionPrimitives.WritesRiskStates := dayPrimitives_encoded_injective
  refine ⟨sessionWorld.restarted, first, ?_⟩
  exact (risk_ledger_kept sessionPrimitives_readsRiskStates writes start .refl later first).1

end CrowAgent
