import CrowAgent.Core.CycleRuns
import CrowAgent.Daemon.CompanionReplay
import CrowAgent.Daemon.RiskSessions

/-!
# The limit of orders on a day

The policy lets an order through only while the risk state has counted fewer than the manifest allows
on a day, and the count is stored before the order is handed to the venue.  `Counted` is the invariant
behind `orders_of_day_bounded`: whatever fails and however often a process restarts, the stored risk
state of a run that has ordered counts its orders, as long as the clock goes forward.
-/

namespace CrowAgent

open Coroutine

variable {prims : Primitives} {config : DaemonConfig} {w w' : World} {runId : Uuid} {day : Date}
  {risk : LiveRiskState}

/-! ## Counting -/

/-- The run and the day of the cycle that started last; the latest mark comes first. -/
def currentCycle : List Mark → Option (Uuid × Date)
  | [] => none
  | .cycle runId _ day :: _ => some (runId, day)
  | _ :: older => currentCycle older

/-- How many orders were handed to the venue by cycles of the run that started on the day. -/
def ordersOn (runId : Uuid) (day : Date) : List Mark → Nat
  | [] => 0
  | .submitted _ _ :: older =>
    ordersOn runId day older + if currentCycle older = some (runId, day) then 1 else 0
  | _ :: older => ordersOn runId day older

/-- Only an order counts. -/
theorem ordersOn_cons {mark : Mark} {marks : List Mark}
    (other : ∀ order clientOrderId, mark ≠ .submitted order clientOrderId) :
    ordersOn runId day (mark :: marks) = ordersOn runId day marks := by
  cases mark with
  | submitted order clientOrderId => exact absurd rfl (other order clientOrderId)
  | _ => rfl

/-- The risk state counts the orders of its day, and no order is from a later day; its day is not
after the bound. -/
def LiveRiskState.Covers (risk : LiveRiskState) (runId : Uuid) (bound : Date) (marks : List Mark) :
    Prop :=
  ∀ day, 0 < ordersOn runId day marks → risk.tradingDay.day ≤ bound.day ∧
    (day.day < risk.tradingDay.day ∨
      day = risk.tradingDay ∧ ordersOn runId day marks ≤ risk.ordersToday.toNat)

namespace LiveRiskState.Covers

variable {bound bound' : Date} {marks : List Mark}

theorem mono (covers : risk.Covers runId bound marks) (later : bound.day ≤ bound'.day) :
    risk.Covers runId bound' marks := fun day ordered =>
  ⟨(covers day ordered).1.trans later, (covers day ordered).2⟩

theorem cons {mark : Mark} (covers : risk.Covers runId bound marks)
    (other : ∀ order clientOrderId, mark ≠ .submitted order clientOrderId) :
    risk.Covers runId bound (mark :: marks) := by
  intro day
  rw [ordersOn_cons other]
  exact covers day

/-- The account of a day that is not before the others starts its count anew. -/
theorem update {account : AccountSnapshot} (covers : risk.Covers runId day marks) :
    (risk.update account day).Covers runId day marks := by
  intro earlier ordered
  rcases covers earlier ordered with ⟨before, counted⟩
  unfold LiveRiskState.update
  split
  · rename_i moved
    have different : risk.tradingDay.day ≠ day.day := fun same => moved (by
      rcases risk with ⟨⟨_⟩⟩
      rcases day with ⟨_⟩
      exact congrArg Date.mk same)
    refine ⟨le_refl _, .inl ?_⟩
    rcases counted with older | ⟨rfl, -⟩
    · exact older.trans_le before
    · exact lt_of_le_of_ne before different
  · exact ⟨before, counted⟩

theorem reconciled {lastReconciliationMs : UInt64} (covers : risk.Covers runId bound marks) :
    { risk with lastReconciliationMs }.Covers runId bound marks := covers

/-- A counted order of the day can be handed to the venue. -/
theorem submit {order : OrderDecision} {clientOrderId : String}
    (covers : risk.Covers runId bound marks) (today : risk.tradingDay = day)
    (before : day.day ≤ bound.day) (current : currentCycle marks = some (runId, day))
    (spare : ordersOn runId day marks < risk.ordersToday.toNat) :
    risk.Covers runId bound (.submitted order clientOrderId :: marks) := by
  intro earlier ordered
  refine ⟨today ▸ before, ?_⟩
  by_cases same : earlier = day
  · subst same
    refine .inr ⟨today.symm, ?_⟩
    rw [ordersOn, if_pos current]
    exact spare
  · have other : currentCycle marks ≠ some (runId, earlier) := by
      rw [current]
      intro equal
      exact same (Prod.mk.inj (Option.some.inj equal)).2.symm
    rw [ordersOn, if_neg other] at ordered ⊢
    exact (covers earlier ordered).2

end LiveRiskState.Covers

/-! ## The invariant -/

/-- No day has more orders than the manifest allows, and the stored risk state of a run that has
ordered counts its orders. -/
structure World.Counted (prims : Primitives) (config : DaemonConfig) (w : World) : Prop where
  utc : w.clock.offsetSeconds = 0
  limit : ∀ runId day, ordersOn runId day w.marks ≤ config.manifest.riskRules.maxOrdersDay.toNat
  stored : ∀ runId day, 0 < ordersOn runId day w.marks → ∃ risk : LiveRiskState,
    w.journal.secret (liveRiskStateKey runId) = some (risk.encoded prims) ∧
      risk.Covers runId w.clock.date w.marks

namespace World.Counted

/-- What is no order, and writes no risk state, changes nothing of it. -/
theorem of_marks (counted : w.Counted prims config) (forward : w.Forward w')
    (orders : ∀ runId day, ordersOn runId day w'.marks = ordersOn runId day w.marks)
    (secrets : ∀ runId, w'.journal.secret (liveRiskStateKey runId) =
      w.journal.secret (liveRiskStateKey runId)) : w'.Counted prims config where
  utc := forward.utc
  limit := fun runId day => (orders runId day).trans_le (counted.limit runId day)
  stored := by
    intro runId day ordered
    rw [orders] at ordered
    rcases counted.stored runId day ordered with ⟨risk, stored, covers⟩
    refine ⟨risk, (secrets runId).trans stored, ?_⟩
    intro other
    rw [orders]
    exact covers.mono (forward.day_le counted.utc) other

/-- Nor does what happens beside a session. -/
theorem beside (counted : w.Counted prims config) (beside : Beside w w') (forward : w.Forward w') :
    w'.Counted prims config := by
  refine counted.of_marks forward (fun runId day => by rw [beside.keeps.marks]) fun runId => ?_
  have key : IsSessionKey config (liveRiskStateKey runId) := .risk runId
  exact beside.secret key.not_command

/-- A risk state that counts the orders of the run can be stored. -/
theorem store {journal : EncryptedJournal} (counted : w.Counted prims config)
    (covers : risk.Covers runId w.clock.date w.marks)
    (put : w.journal.putSecret (liveRiskStateKey runId) (risk.encoded prims) = (.ok (), journal)) :
    { w with journal }.Counted prims config where
  utc := counted.utc
  limit := counted.limit
  stored := by
    intro other day ordered
    by_cases same : other = runId
    · subst same
      exact ⟨risk, EncryptedJournal.secret_of_putSecret put, covers⟩
    · rcases counted.stored other day ordered with ⟨before, stored, covered⟩
      refine ⟨before, ?_, covered⟩
      have names : liveRiskStateKey other ≠ liveRiskStateKey runId := fun equal =>
        same (liveRiskStateKey_injective equal)
      have kept := @EncryptedJournal.secret_putSecret_of_ne w.journal _ _ (risk.encoded prims) names
      rw [put] at kept
      exact kept.trans stored

end World.Counted

/-! ## The contract -/

/-- The risk state of a run between two cycles. -/
def CountedRisk (runId : Uuid) (risk : LiveRiskState) (w : World) : Prop :=
  risk.Covers runId w.clock.date w.marks

/-- The risk state of a run in a cycle of the day. -/
structure CountedInCycle (runId : Uuid) (day : Date) (risk : LiveRiskState) (w : World) : Prop where
  current : currentCycle w.marks = some (runId, day)
  before : day.day ≤ w.clock.date.day
  covers : risk.Covers runId day w.marks

theorem CountedInCycle.counted (inCycle : CountedInCycle runId day risk w) :
    CountedRisk runId risk w := inCycle.covers.mono inCycle.before

/-- A mark that is no order. -/
theorem World.Counted.note {mark : Mark} (counted : w.Counted prims config)
    (other : ∀ order clientOrderId, mark ≠ .submitted order clientOrderId)
    (forward : w.Forward (w.note mark)) : (w.note mark).Counted prims config :=
  counted.of_marks forward (fun _ _ => ordersOn_cons other) fun _ => rfl

/-! ## The steps -/

section Steps

variable {cycle : LiveCycle} {cycleId : Uuid} {α : Type}

end Steps

/-! ## Sessions -/

section Sessions

variable {α : Type}

/-- What is read of a stored risk state is the state that was stored. -/
def Primitives.ReadsRiskStates (prims : Primitives) : Prop :=
  ∀ state read : LiveRiskState,
    (prims.parseJson (state.encoded prims)).bind (LiveRiskState.ofJson? prims) = some read →
      read = state

end Sessions

/-! ## The daemon -/

end CrowAgent
