import CrowAgent.Daemon.Chains

/-!
# Rules for the risk state

A live cycle works on the risk state of its session, and what most results about that state look at is
a few of its steps: the accounts it takes in, the orders it counts, the queries that move its watermark,
and its writes to the journal.  `CycleRule` is what has to be shown of these, and
`CycleRule.wp_executeLiveCycle` is the rule for a cycle.
-/

namespace CrowAgent

open Coroutine FixedWidth

variable {prims : Primitives} {effects : Effects} {σ ε ε' α : Type} {w w' : World}

/-! ## Steady parts -/

theorem steady_ask {op : Op} : (ask op : Act calls σ ε op.Res).Steady := .perform

theorem steady_askJournal {convert : JournalError → ε} {call : JournalCall} :
    (askJournal convert call : Act calls σ ε call.Value).Steady :=
  .bind steady_ask fun _ => .ofExcept

theorem steady_askVenue {convert : HyperliquidError → ε} {call : VenueCall} :
    (askVenue convert call : Act calls σ ε call.Value).Steady :=
  .bind steady_ask fun _ => .ofExcept

theorem steady_deliver {event : RunEventEnvelopeV1} :
    (DurableRunEventWriter.deliver event : Act calls σ _ _).Steady :=
  .bind (.bind steady_ask fun _ => .ofExcept) fun _ => .bind steady_askJournal fun _ => .pure

theorem steady_deliverAll {acknowledged : Nat} {events : List RunEventEnvelopeV1} :
    (DurableRunEventWriter.deliverAll acknowledged events : Act calls σ _ _).Steady := by
  induction events generalizing acknowledged with
  | nil => exact .pure
  | cons event events ih => exact .bind steady_deliver fun _ => ih

theorem steady_append {writer : DurableRunEventWriter} {cycleId : Option Uuid} {eventType : String}
    {payload privatePayload : Json} :
    (writer.append prims cycleId eventType payload privatePayload : Act calls σ _ _).Steady := by
  apply Act.Steady.bind (.bind steady_askJournal fun _ => steady_deliverAll)
  intro _
  apply Act.Steady.bind steady_askJournal
  intro latest
  apply Act.Steady.bind steady_ask
  intro occurredAt
  apply Act.Steady.bind steady_ask
  intro eventId
  apply Act.Steady.bind .ofExcept
  intro event
  apply Act.Steady.bind steady_askJournal
  intro _
  exact .bind steady_deliver fun _ => .pure

theorem steady_appendEvent {writer : DurableRunEventWriter} {cycleId : Option Uuid}
    {eventType : String} {payload privatePayload : Json} :
    (appendEvent prims writer cycleId eventType payload privatePayload : Act calls σ _ _).Steady :=
  .mapError steady_append

theorem steady_storeRisk {runId : Uuid} : (storeRisk prims runId).Steady :=
  .bind .get fun _ => .mapError steady_askJournal

theorem only_appendEvent {writer : DurableRunEventWriter} {cycleId : Option Uuid}
    {eventType : String} {payload privatePayload : Json}
    (appends : effects.events writer.runId eventType) :
    (appendEvent prims writer cycleId eventType payload privatePayload : Act calls σ _ _).Only
      (Op.Within effects) := (only_append appends).mapError

/-- The clock is read, and shows what it was read as. -/
theorem wp_nowUtc {c : Contract calls World} {locals : σ} {I : σ → World → Prop}
    (ofWorld : OfWorld prims c) (preserves : c.Preserves (Op.Within effects) (I locals))
    (inv : c.inv w) (holds : I locals w) :
    (ask .nowUtc : Act calls σ ε OffsetDateTime).wp c
      (fun now locals' w => locals' = locals ∧ I locals' w ∧ w.clock = now) (fun _ _ _ => False)
      locals w := by
  have within : Op.nowUtc.Within effects := trivial
  refine wp_ask.mpr (Contract.calls_sync rfl (preserves.pre within inv holds)
    (fun begins => (preserves.begins within inv holds begins).1) ?_)
  intro w₁ now w' begins answers
  rcases preserves.begins within inv holds begins with ⟨inv₁, holds₁⟩
  rcases preserves.answers within inv₁ holds₁ answers with ⟨inv', holds'⟩
  obtain rfl : w' = { w₁ with clock := now } := (ofWorld.answers answers).2
  exact ⟨inv', rfl, holds', rfl⟩

theorem LiveRiskState.tradingDay_update {risk : LiveRiskState} {account : AccountSnapshot}
    {today : Date} : (risk.update account today).tradingDay = today := by
  unfold LiveRiskState.update
  split
  · rfl
  · rename_i same
    exact not_not.mp same

/-! ## The rule -/

/-- What holds after an error: the session goes on only after an error of the model. -/
def AfterError (I : LiveRiskState → World → Prop) (error : LiveCycleError) (risk : LiveRiskState)
    (w : World) : Prop := ∀ failure, error = .runtime failure → I risk w

/-- The error is none of the model. -/
def LiveCycleError.IsFatal (error : LiveCycleError) : Prop := ∀ failure, error ≠ .runtime failure

/-- The session ends. -/
def Fatal (error : LiveCycleError) (_ : LiveRiskState) (_ : World) : Prop := error.IsFatal

/-- Nothing has to hold after such an error. -/
theorem Fatal.afterError {I : LiveRiskState → World → Prop} {error : LiveCycleError}
    {risk : LiveRiskState} (fatal : Fatal error risk w) : AfterError I error risk w :=
  fun failure same => absurd same (fatal failure)

/-- The events of a cycle but the ones that record what the venue settled. -/
def decisionEvents : List String :=
  ["cycle_started", "book_snapshot", "candle_closed", "portfolio_snapshot", "cycle_failed",
    "inference_receipt", "proposal", "policy_outcome", "order_submitted", "venue_acknowledgement",
    "reconciliation"]

/-- What the policy is told of a risk state. -/
structure LiveRiskState.Shown (risk : LiveRiskState) (context : PolicyContext) : Prop where
  start : context.portfolio.tradingDayStartEquityMicroUsdc = risk.tradingDayStartEquityMicroUsdc
  peak : context.portfolio.peakEquityMicroUsdc = risk.peakEquityMicroUsdc
  orders : context.portfolio.ordersToday = risk.ordersToday

/-- What is shown of the steps of a cycle that concern the risk state: `H` holds of it between two
cycles, and `I` in a cycle of the day. -/
structure CycleRule (prims : Primitives) (cycle : LiveCycle) (c : Contract calls World)
    (effects : Effects) (H : LiveRiskState → World → Prop)
    (I : Date → LiveRiskState → World → Prop) : Prop where
  appends : ∀ type ∈ decisionEvents, effects.events cycle.runId type
  idle : ∀ {risk}, c.Preserves (Op.Within effects) (H risk)
  plain : ∀ {day risk}, c.Preserves (Op.Within effects) (I day risk)
  starts : ∀ {cycleId now risk w}, c.inv w → H risk w → w.clock = now →
    c.Calls (.cycleStarts cycle.runId cycleId now.date) (fun _ => I now.date risk) w
  observes : ∀ {day risk w} (account : AccountSnapshot), c.inv w → I day risk w →
    c.Calls (.observes cycle.runId day account.equityMicroUsdc)
      (fun _ => I day (risk.update account day)) w
  judges : ∀ {day risk context w}, c.inv w → I day risk w → risk.Shown context →
    c.Calls (.judges cycle.runId context) (fun _ => I day risk) w
  stores : ∀ {day risk w}, c.inv w → I day risk w →
    (storeRisk prims cycle.runId).wp c (fun _ => I day) (AfterError (I day)) risk w
  permitted : ∀ {day risk w}, c.inv w → I day risk w → c.Calls .orderPermitted (fun _ => I day risk) w
  dispatches : ∀ {day risk cycleId order w}, c.inv w → I day risk w → risk.tradingDay = day →
    risk.ordersToday.toNat < cycle.manifest.riskRules.maxOrdersDay.toNat →
      (cycle.dispatch prims cycleId order).wp c (fun _ => I day) (AfterError (I day)) risk w
  settles : ∀ {now : OffsetDateTime} {risk cycleId symbol submission w}, c.inv w →
    I now.date risk w → (cycle.settle prims cycleId now symbol submission).wp c
      (fun _ => I now.date) (AfterError (I now.date)) risk w
  ends : ∀ {day risk w}, c.inv w → I day risk w → c.Calls .cycleEnds (fun _ => H risk) w
  breaks : ∀ {w}, c.inv w → c.Calls .cycleEnds (fun _ _ => True) w

namespace CycleRule

variable {cycle : LiveCycle} {cycleId : Uuid} {c : Contract calls World}
  {H : LiveRiskState → World → Prop} {I : Date → LiveRiskState → World → Prop} {day : Date}
  {risk : LiveRiskState}

/-- A steady part of a cycle. -/
theorem holds (rule : CycleRule prims cycle c effects H I)
    {x : Act calls LiveRiskState LiveCycleError α} (only : x.Only (Op.Within effects))
    (steady : x.Steady) (inv : c.inv w) (holds : I day risk w) :
    x.wp c (fun _ locals w => locals = risk ∧ I day locals w) (AfterError (I day)) risk w := by
  have kept : x.wp c (fun _ => I day) (fun _ => I day) risk w :=
    Act.wp_holds rule.plain only steady inv holds
  refine Act.wp_mono inv (Act.wp_steady steady kept) (fun _ _ _ _ => id) ?_
  exact fun _ _ _ _ done _ _ => done.2

theorem wp_append (rule : CycleRule prims cycle c effects H I) {eventType : String} {payload : Json}
    (mem : eventType ∈ decisionEvents) (inv : c.inv w) (holds : I day risk w) :
    (cycle.append prims cycleId eventType payload).wp c
      (fun _ locals w => locals = risk ∧ I day locals w) (AfterError (I day)) risk w :=
  rule.holds (only_appendEvent (rule.appends _ mem)) steady_appendEvent inv holds

/-- Checked arithmetic goes on with its result. -/
theorem wp_ofExec (rule : CycleRule prims cycle c effects H I) {convert : ε' → ε}
    {result : Exec ε' α} (inv : c.inv w) (holds : I day risk w) :
    (ofExec convert result : Act calls LiveRiskState ε α).wp c
      (fun value locals w => locals = risk ∧ I day locals w ∧ result = .ok value)
      (fun _ locals w => locals = risk ∧ I day locals w) risk w := by
  unfold ofExec
  split
  · exact Act.wp_pure.mpr ⟨rfl, holds, rfl⟩
  · exact Act.wp_throw.mpr ⟨rfl, holds⟩
  · have panics : (ask .panic : Act calls LiveRiskState ε Empty).wp c (fun _ => I day)
        (fun _ => I day) risk w := Act.wp_holds rule.plain (only_ask (by trivial)) steady_ask inv holds
    refine Act.wp_bind.mpr (Act.wp_mono inv (Act.wp_steady steady_ask panics) ?_ fun _ _ _ _ => id)
    exact fun never => never.elim

/-- An account is taken in. -/
theorem wp_refreshAccount (rule : CycleRule prims cycle c effects H I) (inv : c.inv w)
    (holds : I day risk w) :
    (cycle.refreshAccount day).wp c (fun _ locals w => I day locals w ∧ locals.tradingDay = day)
      (AfterError (I day)) risk w := by
  refine Act.wp_bind.mpr (Act.wp_mono inv
    (rule.holds (only_askVenue (by trivial)) steady_askVenue inv holds) ?_ fun _ _ _ _ => id)
  intro account locals w₁ inv₁ done
  rcases done with ⟨rfl, holds₁⟩
  refine Act.wp_bind.mpr (Act.wp_ofExcept.mpr ?_)
  split
  · refine Act.wp_bind.mpr (Act.wp_modify.mpr (Act.wp_bind.mpr (wp_ask.mpr ?_)))
    exact (rule.observes account inv₁ holds₁).mono fun _ _ _ holds₂ => Act.wp_pure.mpr
      ⟨holds₂, LiveRiskState.tradingDay_update⟩
  · exact fun _ _ => holds₁

theorem wp_observe (rule : CycleRule prims cycle c effects H I) {now : OffsetDateTime}
    (inv : c.inv w) (holds : I now.date risk w) :
    (cycle.observe now).wp c (fun evidence locals w => evidence.now = now ∧ I now.date locals w)
      (AfterError (I now.date)) risk w := by
  refine Act.wp_bind.mpr (Act.wp_ofExcept.mpr ?_)
  split
  · refine Act.wp_bind.mpr (Act.wp_mono inv (rule.wp_refreshAccount inv holds) ?_ fun _ _ _ _ => id)
    intro account locals w₁ inv₁ done
    refine Act.wp_bind.mpr (Act.wp_mono inv₁
      (rule.holds (only_askVenue (by trivial)) steady_askVenue inv₁ done.1) ?_ fun _ _ _ _ => id)
    intro snapshots locals' w₂ inv₂ done
    rcases done with ⟨rfl, holds₂⟩
    refine Act.wp_bind.mpr (Act.wp_get.mpr (Act.wp_bind.mpr (Act.wp_mono inv₂
      (rule.wp_ofExec inv₂ holds₂) ?_ fun _ _ _ _ done _ _ => done.2)))
    intro portfolios locals'' w₃ inv₃ done
    rcases done with ⟨rfl, holds₃, -⟩
    refine Act.wp_bind.mpr (Act.wp_mono inv₃
      (rule.holds (only_askVenue (by trivial)) steady_askVenue inv₃ holds₃) ?_ fun _ _ _ _ => id)
    exact fun candles _ w₄ _ done => Act.wp_pure.mpr ⟨rfl, done.2⟩
  · exact fun _ _ => holds

theorem wp_recordEvidence (rule : CycleRule prims cycle c effects H I) {evidence : CycleEvidence}
    (inv : c.inv w) (holds : I day risk w) :
    (cycle.recordEvidence prims cycleId evidence).wp c
      (fun _ locals w => locals = risk ∧ I day locals w) (AfterError (I day)) risk w := by
  have appends : ∀ {type payload}, type ∈ decisionEvents →
      (cycle.append prims cycleId type payload).Only (Op.Within effects) := fun mem =>
    only_appendEvent (rule.appends _ mem)
  refine rule.holds ?_ ?_ inv holds
  · refine (appends (by decide)).bind fun _ => (appends (by decide)).bind fun _ => ?_
    exact (appends (by decide)).bind fun _ => (appends (by decide)).bind fun _ => .pure
  · refine steady_appendEvent.bind fun _ => steady_appendEvent.bind fun _ => ?_
    exact steady_appendEvent.bind fun _ => steady_appendEvent.bind fun _ => .pure

theorem wp_recordReceipts (rule : CycleRule prims cycle c effects H I) {receipts : List Uuid}
    (inv : c.inv w) (holds : I day risk w) :
    (cycle.recordReceipts prims cycleId receipts).wp c
      (fun _ locals w => locals = risk ∧ I day locals w) (AfterError (I day)) risk w := by
  induction receipts generalizing w with
  | nil => exact Act.wp_pure.mpr ⟨rfl, holds⟩
  | cons receipt receipts ih =>
    refine Act.wp_bind.mpr (Act.wp_mono inv (rule.wp_append (by decide) inv holds) ?_
      fun _ _ _ _ => id)
    intro _ locals w₁ inv₁ done
    rcases done with ⟨rfl, holds₁⟩
    exact ih inv₁ holds₁

/-- The model is asked, and the risk state is stored when it fails. -/
theorem wp_askModel (rule : CycleRule prims cycle c effects H I) {evidence : CycleEvidence}
    (inv : c.inv w) (holds : I day risk w) :
    (cycle.askModel prims cycleId evidence).wp c (fun _ => I day) (AfterError (I day)) risk w := by
  refine Act.wp_bind.mpr (Act.wp_get.mpr (Act.wp_bind.mpr (Act.wp_mono inv
    (rule.holds (only_ask (by trivial)) steady_ask inv holds) ?_ fun _ _ _ _ => id)))
  intro answer locals w₁ inv₁ done
  rcases done with ⟨rfl, holds₁⟩
  cases answer with
  | error error =>
    refine Act.wp_bind.mpr (Act.wp_mono inv₁ (rule.wp_append (by decide) inv₁ holds₁) ?_
      fun _ _ _ _ => id)
    intro _ locals' w₂ inv₂ done
    rcases done with ⟨rfl, holds₂⟩
    refine Act.wp_bind.mpr (Act.wp_mono inv₂ (rule.stores inv₂ holds₂) ?_ fun _ _ _ _ => id)
    exact fun _ _ _ _ holds₃ => Act.wp_throw.mpr fun _ _ => holds₃
  | ok outcome =>
    refine Act.wp_bind.mpr (Act.wp_mono inv₁ (rule.wp_recordReceipts inv₁ holds₁) ?_
      fun _ _ _ _ => id)
    intro _ locals' w₂ inv₂ done
    rcases done with ⟨rfl, holds₂⟩
    refine Act.wp_bind.mpr (Act.wp_mono inv₂ (rule.holds
      (only_appendEvent (rule.appends _ (by decide))) steady_appendEvent inv₂ holds₂) ?_
      fun _ _ _ _ => id)
    exact fun _ _ _ _ done => Act.wp_pure.mpr done.2

theorem wp_conclude (rule : CycleRule prims cycle c effects H I) {symbol : String}
    {policyAllowed : Bool} {payload : Json} (inv : c.inv w) (holds : I day risk w) :
    (cycle.conclude prims cycleId symbol policyAllowed payload).wp c (fun _ => I day)
      (AfterError (I day)) risk w := by
  refine Act.wp_bind.mpr (Act.wp_mono inv (rule.wp_append (by decide) inv holds) ?_
    fun _ _ _ _ => id)
  intro _ locals w₁ inv₁ done
  rcases done with ⟨rfl, holds₁⟩
  refine Act.wp_bind.mpr (Act.wp_mono inv₁ (rule.stores inv₁ holds₁) ?_ fun _ _ _ _ => id)
  exact fun _ _ _ _ holds₂ => Act.wp_pure.mpr holds₂

/-- The policy looks at a proposal, and an order comes out of it only below the limit of orders. -/
theorem wp_evaluate (rule : CycleRule prims cycle c effects H I) {now : OffsetDateTime}
    {proposal : Proposal} (inv : c.inv w) (holds : I now.date risk w) :
    (cycle.evaluate prims cycleId now proposal).wp c
      (fun result locals w => I now.date locals w ∧ locals.tradingDay = now.date ∧
        ∀ order, result = .ok order →
          locals.ordersToday.toNat < cycle.manifest.riskRules.maxOrdersDay.toNat)
      (AfterError (I now.date)) risk w := by
  refine Act.wp_bind.mpr (Act.wp_mono inv (rule.wp_refreshAccount inv holds) ?_ fun _ _ _ _ => id)
  intro account locals w₁ inv₁ done
  rcases done with ⟨holds₁, today⟩
  refine Act.wp_bind.mpr (Act.wp_mono inv₁
    (rule.holds (only_ask (by trivial)) steady_ask inv₁ holds₁) ?_ fun _ _ _ _ => id)
  intro dispatchAt locals₂ w₂ inv₂ done
  rcases done with ⟨rfl, holds₂⟩
  refine Act.wp_bind.mpr (Act.wp_mono inv₂
    (rule.holds Act.Only.ofExcept Act.Steady.ofExcept inv₂ holds₂) ?_ fun _ _ _ _ => id)
  intro nowMs locals₃ w₃ inv₃ done
  rcases done with ⟨rfl, holds₃⟩
  refine Act.wp_bind.mpr (Act.wp_mono inv₃
    (rule.holds (only_askVenue (by trivial)) steady_askVenue inv₃ holds₃) ?_ fun _ _ _ _ => id)
  intro snapshot locals₄ w₄ inv₄ done
  rcases done with ⟨rfl, holds₄⟩
  refine Act.wp_bind.mpr (Act.wp_mono inv₄ (rule.wp_append (by decide) inv₄ holds₄) ?_
    fun _ _ _ _ => id)
  intro _ locals₅ w₅ inv₅ done
  rcases done with ⟨rfl, holds₅⟩
  refine Act.wp_bind.mpr (Act.wp_mono inv₅
    (rule.holds Act.Only.ofExcept Act.Steady.ofExcept inv₅ holds₅) ?_ fun _ _ _ _ => id)
  intro marketable locals₆ w₆ inv₆ done
  rcases done with ⟨rfl, holds₆⟩
  refine Act.wp_bind.mpr (Act.wp_get.mpr (Act.wp_bind.mpr (Act.wp_mono inv₆
    (rule.wp_ofExec inv₆ holds₆) ?_ fun _ _ _ _ done _ _ => done.2)))
  intro portfolio locals₇ w₇ inv₇ done
  rcases done with ⟨rfl, holds₇, portfolioOk⟩
  refine Act.wp_bind.mpr (Act.wp_mono inv₇
    (rule.holds Act.Only.ofExcept Act.Steady.ofExcept inv₇ holds₇) ?_ fun _ _ _ _ => id)
  intro startingCapital locals₈ w₈ inv₈ done
  rcases done with ⟨rfl, holds₈⟩
  refine Act.wp_bind.mpr (Act.wp_mono inv₈
    (rule.holds Act.Only.ofExcept Act.Steady.ofExcept inv₈ holds₈) ?_ fun _ _ _ _ => id)
  intro reference locals₉ w₉ inv₉ done
  rcases done with ⟨rfl, holds₉⟩
  have shown : ∀ {context : PolicyContext}, context.portfolio = portfolio →
      locals₉.Shown context := by
    intro context same
    rcases bind_eq_ok.mp portfolioOk with ⟨position, -, made⟩
    obtain rfl := Except.ok.inj made
    exact ⟨by rw [same], by rw [same], by rw [same]⟩
  refine Act.wp_bind.mpr (wp_ask.mpr ((rule.judges inv₉ holds₉ (shown rfl)).mono ?_))
  intro _ w₁₀ inv₁₀ holds₁₀
  refine Act.wp_attempt.mpr (Act.wp_mono inv₁₀ (rule.wp_ofExec inv₁₀ holds₁₀) ?_ ?_)
  · intro order locals₁₁ w₁₁ _ done
    rcases done with ⟨rfl, holds₁₁, evaluated⟩
    refine ⟨holds₁₁, today, fun _ _ => ?_⟩
    have limit := (approved_of_evaluateProposal evaluated).limits.orders
    rwa [(shown rfl).orders] at limit
  · intro error locals₁₁ w₁₁ _ done
    rcases done with ⟨rfl, holds₁₁⟩
    exact ⟨holds₁₁, today, nofun⟩

/-- The cycle on its day. -/
theorem wp_run (rule : CycleRule prims cycle c effects H I) {now : OffsetDateTime} (inv : c.inv w)
    (holds : I now.date risk w) :
    (cycle.run prims cycleId now).wp c (fun _ => I now.date) (AfterError (I now.date)) risk w := by
  refine Act.wp_bind.mpr (Act.wp_mono inv (rule.wp_observe inv holds) ?_ fun _ _ _ _ => id)
  intro evidence locals₁ w₁ inv₁ done
  rcases done with ⟨sameTime, holds₁⟩
  refine Act.wp_bind.mpr (Act.wp_mono inv₁ (rule.wp_recordEvidence inv₁ holds₁) ?_
    fun _ _ _ _ => id)
  intro _ locals₂ w₂ inv₂ done
  rcases done with ⟨rfl, holds₂⟩
  refine Act.wp_bind.mpr (Act.wp_mono inv₂ (rule.wp_askModel inv₂ holds₂) ?_ fun _ _ _ _ => id)
  intro outcome locals₃ w₃ inv₃ holds₃
  cases outcome.proposal with
  | none => exact rule.wp_conclude inv₃ holds₃
  | some proposal =>
    dsimp only
    rw [sameTime]
    refine Act.wp_bind.mpr (Act.wp_mono inv₃ (rule.wp_evaluate inv₃ holds₃) ?_ fun _ _ _ _ => id)
    intro result locals₄ w₄ inv₄ done
    rcases done with ⟨holds₄, today, below⟩
    cases result with
    | error error => exact rule.wp_conclude inv₄ holds₄
    | ok order =>
      refine Act.wp_bind.mpr (wp_ask.mpr ((rule.permitted inv₄ holds₄).mono ?_))
      intro permitted w₅ inv₅ holds₅
      cases permitted with
      | false => exact rule.wp_conclude inv₅ holds₅
      | true =>
        refine Act.wp_bind.mpr (Act.wp_mono inv₅ (rule.dispatches inv₅ holds₅ today (below order rfl)) ?_
          fun _ _ _ _ => id)
        exact fun submission _ _ inv₆ holds₆ => rule.settles inv₆ holds₆

/-- **A cycle.**  What holds of the risk state between two cycles holds again after a cycle that the
session goes on after. -/
theorem wp_executeLiveCycle (rule : CycleRule prims cycle c effects H I) (ofWorld : OfWorld prims c)
    (inv : c.inv w) (holds : H risk w) :
    (executeLiveCycle prims cycle).wp c (fun _ => H) (AfterError H) risk w := by
  have asks : ∀ {op : Op} {w : World}, op.Within effects → c.inv w → H risk w →
      (ask op : Act calls LiveRiskState LiveCycleError op.Res).wp c
        (fun _ locals w => locals = risk ∧ H locals w) (AfterError H) risk w := by
    intro op w within inv holds
    have kept : (ask op : Act calls LiveRiskState LiveCycleError op.Res).wp c (fun _ => H)
        (fun _ => H) risk w := Act.wp_holds rule.idle (only_ask within) steady_ask inv holds
    refine Act.wp_mono inv (Act.wp_steady steady_ask kept) (fun _ _ _ _ => id) ?_
    exact fun _ _ _ _ done _ _ => done.2
  refine Act.wp_bind.mpr (Act.wp_mono inv (asks (by trivial) inv holds) ?_ fun _ _ _ _ => id)
  intro cycleId locals w₁ inv₁ done
  rcases done with ⟨rfl, holds₁⟩
  refine Act.wp_bind.mpr (Act.wp_mono inv₁ (wp_nowUtc ofWorld rule.idle inv₁ holds₁) ?_
    fun _ _ _ _ => False.elim)
  intro now locals' w₂ inv₂ done
  rcases done with ⟨rfl, holds₂, clock⟩
  refine Act.wp_bind.mpr (wp_ask.mpr ((rule.starts inv₂ holds₂ clock).mono ?_))
  intro _ w₃ inv₃ holds₃
  refine Act.wp_bind.mpr (Act.wp_attempt.mpr (Act.wp_mono inv₃ (rule.wp_run inv₃ holds₃) ?_ ?_))
  · intro result locals₄ w₄ inv₄ holds₄
    refine Act.wp_bind.mpr (wp_ask.mpr ((rule.ends inv₄ holds₄).mono ?_))
    exact fun _ _ _ holds₅ => Act.wp_ofExcept.mpr holds₅
  · intro error locals₄ w₄ inv₄ after
    by_cases failed : ∃ failure, error = .runtime failure
    · rcases failed with ⟨failure, rfl⟩
      refine Act.wp_bind.mpr (wp_ask.mpr ((rule.ends inv₄ (after failure rfl)).mono ?_))
      exact fun _ _ _ holds₅ => Act.wp_ofExcept.mpr fun _ _ => holds₅
    · refine Act.wp_bind.mpr (wp_ask.mpr ((rule.breaks inv₄).mono ?_))
      exact fun _ _ _ _ => Act.wp_ofExcept.mpr fun failure same => absurd ⟨failure, same⟩ failed

end CycleRule

end CrowAgent
