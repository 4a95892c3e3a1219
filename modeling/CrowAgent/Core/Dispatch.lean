import CrowAgent.Core.LiveCycle
import CrowAgent.Core.Recording

/-!
# Orders are recorded before they are dispatched

`wp_run` is the specification of a live cycle: the venue is handed an order only when
`World.MayDispatch` holds of it, and when others leave a running gate alone between the check and
the order (`Calm`), only while the gate is running.
-/

namespace CrowAgent

open Coroutine FixedWidth
open DurableRunEventWriter (KeepsAcknowledged keepsAcknowledged)

variable {prims : Primitives} {scope : Scope} {σ ε ε' α β : Type}

/-! ## What has to be recorded -/

/-- The event of the cycle is journaled with a receipt. -/
structure Record.HasEvent (prims : Primitives) (r : Record) (runId cycleId : Uuid)
    (eventType : String) (payload : Json) (event : RunEventEnvelopeV1) : Prop where
  acknowledged : ∃ receipt, r.Acknowledged prims event receipt
  runId : event.runId = runId
  cycleId : event.cycleId = some cycleId
  eventType : event.eventType = eventType
  payload : event.payload = payload

/-- The order is journaled, it quotes an earlier approval of the same cycle, and the stored risk
state counts it. -/
structure Record.Orders (prims : Primitives) (r : Record) (runId cycleId : Uuid)
    (order : OrderDecision) (clientOrderId : String) : Prop where
  submitted : ∃ policy submitted,
    r.HasEvent prims runId cycleId "policy_outcome" (approvedPayload order) policy ∧
      r.HasEvent prims runId cycleId "order_submitted"
        (dispatchingPayload order clientOrderId policy.eventSha256) submitted ∧
      policy.sequence.toNat < submitted.sequence.toNat
  counted : ∃ (risk : LiveRiskState) (proposal : Proposal) (context : PolicyContext),
    r.journal.secret (liveRiskStateKey runId) = some (risk.encoded prims) ∧
      evaluateProposal proposal context = .ok order ∧
      risk.ordersToday.toNat = context.portfolio.ordersToday.toNat + 1

/-- The cycle in course was told that it may order, and has handed nothing to the venue yet. -/
def Record.MayOrder (r : Record) (runId cycleId : Uuid) : Prop :=
  ∃ day older, r.marks = .permitted true :: .cycle runId cycleId day :: older

/-- What holds whenever an order is handed to the venue. -/
def Record.MayDispatch (prims : Primitives) (r : Record) (order : OrderDecision)
    (clientOrderId : String) : Prop :=
  ∃ runId cycleId, r.MayOrder runId cycleId ∧ r.Orders prims runId cycleId order clientOrderId

/-- A cycle was told that it may order, and neither ordered nor ended since. -/
def Record.Open (r : Record) : Prop := ∃ older, r.marks = .permitted true :: older

theorem Record.MayOrder.isOpen {r : Record} {runId cycleId : Uuid}
    (mayOrder : r.MayOrder runId cycleId) : r.Open := by
  obtain ⟨day, older, marks⟩ := mayOrder
  exact ⟨_, marks⟩

/-- Others leave a running gate alone while a cycle may order. -/
def Calm (env : World → World → Prop) : Prop :=
  ∀ w w', env w w' → w.Open → w.gate = .running → w'.gate = .running

/-! ## The phases that only record -/

theorem records_ofExec {convert : ε' → ε} {result : Exec ε' α} :
    Records prims scope (ofExec convert result : Act calls σ ε α) := by
  unfold ofExec
  split
  · exact .pure
  · exact .throw
  · exact (Records.ask (by trivial)).bind fun never => never.elim

theorem records_appendEvent {writer : DurableRunEventWriter} {cycleId : Option Uuid}
    {eventType : String} {payload privatePayload : Json}
    (appends : scope.events writer.runId eventType) :
    Records prims scope (appendEvent prims writer cycleId eventType payload privatePayload :
      Act calls σ _ _) :=
  (DurableRunEventWriter.records_append appends).mapError

theorem records_storeRisk {runId : Uuid} (stores : scope.keys (liveRiskStateKey runId)) :
    Records prims scope (storeRisk prims runId) :=
  Records.get.bind fun _ => (Records.askJournal (by exact stores)).mapError

/-- The events of a reconciliation. -/
def reconciliationEvents : List String :=
  ["fill", "funding", "reconciliation", "portfolio_snapshot"]

theorem records_reconcileLiveState {session : SessionAccount}
    (stores : scope.keys (liveRiskStateKey session.runId)) (weighs : scope.weighs session.runId)
    (appends : ∀ type ∈ reconciliationEvents, scope.events session.runId type) :
    Records prims scope (reconcileLiveState prims session) := by
  apply (Records.ask (by trivial)).bind
  intro now
  apply Records.ofExcept.bind
  intro reconcileAt
  apply Records.get.bind
  intro risk
  apply (Records.askVenue (by exact ⟨_, weighs⟩)).bind
  intro fills
  apply (Records.askVenue (by exact ⟨_, weighs⟩)).bind
  intro funding
  apply (Records.askVenue (by trivial)).bind
  intro account
  apply Records.ofExcept.bind
  intro _
  apply Records.modify.bind
  intro _
  apply (Records.ask (by trivial)).bind
  intro today
  apply Records.modify.bind
  intro _
  apply (Records.ask (by exact weighs)).bind
  intro _
  apply (records_appendEvent (appends _ (by decide))).bind
  intro _
  apply (records_appendEvent (appends _ (by decide))).bind
  intro _
  apply (records_appendEvent (appends _ (by decide))).bind
  intro _
  apply (records_appendEvent (appends _ (by decide))).bind
  intro finalEvent
  apply (records_storeRisk stores).bind
  intro _
  exact .pure

namespace LiveCycle

variable {cycle : LiveCycle} {cycleId : Uuid}

/-- The events of a cycle. -/
def events : List String :=
  ["cycle_started", "book_snapshot", "candle_closed", "portfolio_snapshot", "cycle_failed",
    "inference_receipt", "proposal", "policy_outcome", "order_submitted", "venue_acknowledgement",
    "fill", "funding", "reconciliation"]

/-- Everything a cycle records is in scope. -/
structure Within (scope : Scope) (cycle : LiveCycle) : Prop where
  stores : scope.keys (liveRiskStateKey cycle.runId)
  weighs : scope.weighs cycle.runId
  appends : ∀ type ∈ events, scope.events cycle.runId type

theorem within_all : Within .all cycle := ⟨trivial, trivial, fun _ _ => trivial⟩

theorem records_append {eventType : String} {payload : Json} (within : Within scope cycle)
    (mem : eventType ∈ events) : Records prims scope (cycle.append prims cycleId eventType payload) :=
  records_appendEvent (within.appends eventType mem)

theorem records_refreshAccount {today : Date} (weighs : scope.weighs cycle.runId) :
    Records prims scope (cycle.refreshAccount today) := by
  apply (Records.askVenue (by trivial)).bind
  intro account
  apply Records.ofExcept.bind
  intro _
  exact Records.modify.bind fun _ => (Records.ask (by exact weighs)).bind fun _ => .pure

theorem records_observe {now : OffsetDateTime} (weighs : scope.weighs cycle.runId) :
    Records prims scope (cycle.observe now) := by
  apply Records.ofExcept.bind
  intro nowMs
  apply (records_refreshAccount weighs).bind
  intro account
  apply (Records.askVenue (by trivial)).bind
  intro snapshots
  apply Records.get.bind
  intro risk
  apply records_ofExec.bind
  intro portfolios
  exact (Records.askVenue (by trivial)).bind fun _ => .pure

theorem records_recordEvidence {evidence : CycleEvidence} (within : Within scope cycle) :
    Records prims scope (cycle.recordEvidence prims cycleId evidence) := by
  apply (records_append within (by decide)).bind
  intro _
  apply (records_append within (by decide)).bind
  intro _
  apply (records_append within (by decide)).bind
  intro _
  exact (records_append within (by decide)).bind fun _ => .pure

theorem records_recordReceipts {receipts : List Uuid} (within : Within scope cycle) :
    Records prims scope (cycle.recordReceipts prims cycleId receipts) := by
  induction receipts with
  | nil => exact .pure
  | cons receipt receipts ih => exact (records_append within (by decide)).bind fun _ => ih

theorem records_askModel {evidence : CycleEvidence} (within : Within scope cycle) :
    Records prims scope (cycle.askModel prims cycleId evidence) := by
  apply Records.get.bind
  intro risk
  apply (Records.ask (by trivial)).bind
  intro answer
  cases answer with
  | error error =>
    apply (records_append within (by decide)).bind
    intro _
    exact (records_storeRisk within.stores).bind fun _ => .throw
  | ok outcome =>
    apply (records_recordReceipts within).bind
    intro _
    exact (records_appendEvent (within.appends _ (by decide))).bind fun _ => .pure

theorem records_conclude {symbol : String} {policyAllowed : Bool} {payload : Json}
    (within : Within scope cycle) :
    Records prims scope (cycle.conclude prims cycleId symbol policyAllowed payload) := by
  apply (records_append within (by decide)).bind
  intro _
  exact (records_storeRisk within.stores).bind fun _ => .pure

theorem records_settle {now : OffsetDateTime} {symbol : String} {submission : VenueSubmission}
    (within : Within scope cycle) :
    Records prims scope (cycle.settle prims cycleId now symbol submission) := by
  apply (records_append within (by decide)).bind
  intro _
  apply (Records.ask (by trivial)).bind
  intro settledAt
  apply Records.ofExcept.bind
  intro reconcileAt
  apply Records.get.bind
  intro risk
  apply (Records.askVenue (by exact ⟨_, within.weighs⟩)).bind
  intro fills
  apply (Records.askVenue (by exact ⟨_, within.weighs⟩)).bind
  intro funding
  apply (Records.askVenue (by trivial)).bind
  intro reconciled
  apply Records.ofExcept.bind
  intro _
  apply Records.modify.bind
  intro _
  apply Records.modify.bind
  intro _
  apply (Records.ask (by exact within.weighs)).bind
  intro _
  apply (records_append within (by decide)).bind
  intro _
  apply (records_append within (by decide)).bind
  intro _
  apply (records_append within (by decide)).bind
  intro _
  apply (records_append within (by decide)).bind
  intro _
  exact (records_storeRisk within.stores).bind fun _ => .pure

theorem records_evaluate {now : OffsetDateTime} {proposal : Proposal} (within : Within scope cycle) :
    Records prims scope (cycle.evaluate prims cycleId now proposal) := by
  apply (records_refreshAccount within.weighs).bind
  intro account
  apply (Records.ask (by trivial)).bind
  intro dispatchAt
  apply Records.ofExcept.bind
  intro nowMs
  apply (Records.askVenue (by trivial)).bind
  intro snapshot
  apply (records_append within (by decide)).bind
  intro _
  apply Records.ofExcept.bind
  intro marketable
  apply Records.get.bind
  intro risk
  apply records_ofExec.bind
  intro portfolio
  apply Records.ofExcept.bind
  intro startingCapital
  apply Records.ofExcept.bind
  intro reference
  exact (Records.ask (by exact within.weighs)).bind fun _ => records_ofExec.attempt

end LiveCycle

/-! ## The order -/

section Contract

variable {env : World → World → Prop} {quiet : ∀ w w', env w w' → KeepsRecord w w'}
  {submit : OrderDecision → String → World → Prop} {w w' : World} {risk : LiveRiskState}

/-- What recording keeps for the order to come. -/
structure KeepsOrder (env : World → World → Prop) (w w' : World) : Prop where
  marks : w'.marks = w.marks
  acknowledged : KeepsAcknowledged w w'
  gate : Calm env → w.Open → w.gate = .running → w'.gate = .running

namespace KeepsOrder

theorem hasEvent {runId cycleId : Uuid} {eventType : String} {payload : Json}
    {event : RunEventEnvelopeV1} (keeps : KeepsOrder env w w')
    (has : w.HasEvent prims runId cycleId eventType payload event) :
    w'.HasEvent prims runId cycleId eventType payload event := by
  obtain ⟨⟨receipt, row, mem, stores, received⟩, run, cycle, type, same⟩ := has
  refine ⟨⟨receipt, row, keeps.acknowledged row mem ?_, stores, received⟩, run, cycle, type, same⟩
  rw [received]
  rfl

theorem isOpen (keeps : KeepsOrder env w w') (isOpen : w.Open) : w'.Open := by
  obtain ⟨older, marks⟩ := isOpen
  exact ⟨older, keeps.marks.trans marks⟩

theorem mayOrder {runId cycleId : Uuid} (keeps : KeepsOrder env w w')
    (mayOrder : w.MayOrder runId cycleId) : w'.MayOrder runId cycleId := by
  obtain ⟨day, older, marks⟩ := mayOrder
  exact ⟨day, older, keeps.marks.trans marks⟩

end KeepsOrder

/-- Any number of calm steps leaves a running gate alone. -/
theorem Calm.steps (calm : Calm env) (quiet : ∀ w w', env w w' → KeepsRecord w w')
    (steps : Relation.ReflTransGen env w w') (isOpen : w.Open) (running : w.gate = .running) :
    w'.gate = .running := by
  induction steps with
  | refl => exact running
  | @tail b c before step ih =>
    refine calm b c step ?_ ih
    obtain ⟨older, marks⟩ := isOpen
    exact ⟨older, (KeepsRecord.of_steps quiet before).marks.trans marks⟩

/-- The frame of acknowledged rows, at the contract of this section. -/
theorem acknowledged :
    (delivery prims env quiet submit).Keeps (fun _ => True) KeepsAcknowledged := keepsAcknowledged

/-- The frame of a recording program. -/
theorem keepsOrder (scope : Scope) : (delivery prims env quiet submit).Keeps (Op.IsPlain scope)
    (KeepsOrder env) where
  refl := fun _ => ⟨rfl, fun _ mem _ => mem, fun _ _ running => running⟩
  trans := fun first second => ⟨second.marks.trans first.marks,
    fun row mem acked => second.acknowledged row (first.acknowledged row mem acked) acked,
    fun calm isOpen running =>
      second.gate calm (first.isOpen isOpen) (first.gate calm isOpen running)⟩
  rely := fun steps =>
    ⟨(KeepsRecord.of_steps quiet steps).marks, acknowledged.rely steps,
      fun calm => calm.steps quiet steps⟩
  begins := fun {op w w'} plain inv begins => by
    obtain ⟨marks, control⟩ := World.Begins.plain begins plain
    refine ⟨marks, fun row mem _ => ?_, fun _ _ running => ?_⟩
    · rw [World.Begins.journal begins]
      exact mem
    · rw [control]
      exact running
  answers := fun {op w w' answer} plain inv answers => by
    obtain ⟨marks, control⟩ := World.Answers.plain answers.2 plain
    refine ⟨marks, acknowledged.answers trivial inv answers, fun _ _ running => ?_⟩
    rw [control]
    exact running

/-- What a recording program keeps. -/
theorem Records.keeps {x : Act calls σ ε α} (records : Records prims scope x) {locals : σ}
    (inv : w.Delivered prims) :
    x.wp (delivery prims env quiet submit) (fun _ _ => KeepsOrder env w)
      (fun _ _ => KeepsOrder env w) locals w :=
  Act.wp_mono inv (Act.wp_keeps (keepsOrder scope) records.only inv (records.meets inv))
    (fun _ _ _ _ done => done.1) fun _ _ _ _ done => done.1

/-- An event a cycle appends is journaled with a receipt when the call returns. -/
theorem LiveCycle.wp_append {cycle : LiveCycle} {cycleId : Uuid} {eventType : String}
    {payload : Json} (inv : w.Delivered prims) :
    (cycle.append prims cycleId eventType payload).wp (delivery prims env quiet submit)
      (fun result risk' w' => risk' = risk ∧ KeepsOrder env w w' ∧ ∃ event receipt,
        result = event.withServerReceipt receipt ∧
        w'.HasEvent prims cycle.runId cycleId eventType payload event ∧
        ∀ type earlier (before : RunEventEnvelopeV1),
          w.HasEvent prims cycle.runId cycleId type earlier before →
            before.sequence.toNat < event.sequence.toNat)
      (fun _ _ _ => True) risk w := by
  refine Act.wp_mapError.mpr (Act.wp_mono inv (Act.wp_keeps (keepsOrder .all)
    (DurableRunEventWriter.only_append trivial) inv (DurableRunEventWriter.wp_append inv)) ?_
    fun _ _ _ _ _ => trivial)
  intro result risk' w' inv' done
  obtain ⟨keeps, rfl, appended⟩ := done
  obtain ⟨event, receipt, eventId, sequence, previous, same, acknowledged, fields, above⟩ :=
    appended.acknowledged
  refine ⟨rfl, keeps, event, receipt, same, ⟨⟨receipt, acknowledged⟩, fields.runId, fields.cycleId,
    fields.eventType, fields.payload⟩, ?_⟩
  intro type earlier before has
  obtain ⟨⟨receipt', row, mem, stores, received⟩, run, -, -, -⟩ := has
  have ofRun : row ∈ w.rowsOf cycle.writer.runId := by
    refine Record.Delivered.mem_rowsOf.mpr ⟨mem, ?_⟩
    rw [stores.runId, run]
    rfl
  have bound := above row ofRun (by rw [received]; rfl)
  rw [stores.sequence] at bound
  exact_mod_cast bound

/-- Go on after a recording program. -/
theorem Records.wp_then {x : Act calls σ ε α} {f : α → Act calls σ ε β} {locals : σ}
    {ok : β → σ → World → Prop} (records : Records prims .all x)
    (inv : w.Delivered prims)
    (rest : ∀ value locals' w', w'.Delivered prims → KeepsOrder env w w' →
      (f value).wp (delivery prims env quiet submit) ok (fun _ _ _ => True) locals' w') :
    (x >>= f).wp (delivery prims env quiet submit) ok (fun _ _ _ => True) locals w :=
  Act.wp_bind.mpr (Act.wp_mono inv (records.keeps inv) rest fun _ _ _ _ _ => trivial)

theorem wp_ofExec {convert : ε' → ε} {result : Exec ε' α} {locals : σ}
    {ok : α → σ → World → Prop} {err : ε → σ → World → Prop} (inv : w.Delivered prims)
    (onOk : ∀ value, result = .ok value → ok value locals w)
    (onErr : ∀ error, err error locals w) :
    (ofExec convert result : Act calls σ ε α).wp (delivery prims env quiet submit) ok err locals
      w := by
  unfold ofExec
  split
  · exact Act.wp_pure.mpr (onOk _ rfl)
  · exact Act.wp_throw.mpr (onErr _)
  · exact Act.wp_bind.mpr (wp_ask.mpr (calls_sync rfl inv trivial fun never => never.elim))

/-- The policy approved the order at the count of the risk state. -/
def ApprovedAt (order : OrderDecision) (risk : LiveRiskState) : Prop :=
  ∃ proposal context, evaluateProposal proposal context = .ok order ∧
    context.portfolio.ordersToday = risk.ordersToday

theorem portfolioState_ordersToday {account : AccountSnapshot} {symbol : String}
    {portfolio : PortfolioState}
    (ok : (portfolioState account risk symbol : Exec ε PortfolioState) = .ok portfolio) :
    portfolio.ordersToday = risk.ordersToday := by
  unfold portfolioState at ok
  obtain ⟨position, -, same⟩ := FixedWidth.bind_eq_ok.mp ok
  cases same
  rfl

namespace LiveCycle

variable {cycle : LiveCycle} {cycleId : Uuid}

/-- What evaluation returns an order on. -/
theorem wp_evaluate {now : OffsetDateTime} {proposal : Proposal} (inv : w.Delivered prims) :
    (cycle.evaluate prims cycleId now proposal).wp (delivery prims env quiet submit)
      (fun result risk' _ => ∀ order, result = .ok order → ApprovedAt order risk')
      (fun _ _ _ => True) risk w := by
  refine (records_refreshAccount trivial).wp_then inv fun account risk₁ w₁ inv₁ _ => ?_
  refine (Records.ask (by trivial)).wp_then inv₁ fun dispatchAt risk₂ w₂ inv₂ _ => ?_
  refine Records.ofExcept.wp_then inv₂ fun nowMs risk₃ w₃ inv₃ _ => ?_
  refine (Records.askVenue (by trivial)).wp_then inv₃ fun snapshot risk₄ w₄ inv₄ _ => ?_
  refine (records_append within_all (by decide)).wp_then inv₄ fun event risk₅ w₅ inv₅ _ => ?_
  refine Records.ofExcept.wp_then inv₅ fun marketable risk₆ w₆ inv₆ _ => ?_
  refine Act.wp_bind.mpr (Act.wp_get.mpr (Act.wp_bind.mpr
    (wp_ofExec inv₆ ?_ fun _ => trivial)))
  intro portfolio exact
  refine Act.wp_bind.mpr (Act.wp_ofExcept.mpr ?_)
  cases cycle.startingCapital with
  | error error => trivial
  | ok startingCapital =>
    refine Act.wp_bind.mpr (Act.wp_ofExcept.mpr ?_)
    cases snapshot.book.opposingTopPriceMicroUsdc proposal.side with
    | error error => trivial
    | ok reference =>
      refine Act.wp_bind.mpr (wp_ask.mpr (calls_sync rfl inv₆ trivial fun _ w₇ _ inv₇ => ?_))
      refine Act.wp_attempt.mpr (wp_ofExec inv₇ ?_ ?_)
      · intro order approved other same
        cases same
        exact ⟨_, _, approved, portfolioState_ordersToday exact⟩
      · intro error order same
        cases same

/-- What a cycle knows of its order before it records it. -/
structure Ready (env : World → World → Prop) (cycle : LiveCycle) (cycleId : Uuid)
    (order : OrderDecision) (risk : LiveRiskState) (w : World) : Prop where
  mayOrder : w.MayOrder cycle.runId cycleId
  gate : Calm env → w.gate = .running
  approved : ApprovedAt order risk

theorem Ready.keeps {order : OrderDecision} (ready : Ready env cycle cycleId order risk w)
    (keeps : KeepsOrder env w w') : Ready env cycle cycleId order risk w' :=
  ⟨keeps.mayOrder ready.mayOrder,
    fun calm => keeps.gate calm ready.mayOrder.isOpen (ready.gate calm), ready.approved⟩

/-- A stored secret is found under its name. -/
theorem secret_putSecret {journal : EncryptedJournal} {name : String} {value : Bytes}
    (ok : (journal.putSecret name value).1 = .ok ()) :
    (journal.putSecret name value).2.secret name = some value := by
  unfold EncryptedJournal.putSecret at ok ⊢
  split
  · rename_i empty
    rw [if_pos empty] at ok
    cases ok
  · simp [EncryptedJournal.secret]

/-- An approved count leaves room for one more. -/
theorem countOrder_of_approved {order : OrderDecision} (approved : ApprovedAt order risk) :
    ∃ (proposal : Proposal) (context : PolicyContext), evaluateProposal proposal context = .ok order ∧
      risk.countOrder.ordersToday.toNat = context.portfolio.ordersToday.toNat + 1 := by
  obtain ⟨proposal, context, ok, same⟩ := approved
  refine ⟨proposal, context, ok, ?_⟩
  have below := (approved_of_evaluateProposal ok).limits.orders
  have bound := context.rules.maxOrdersDay.toNat_lt
  rw [same] at below ⊢
  have room : risk.ordersToday.toNat + 1 < 2 ^ 16 := by omega
  unfold LiveRiskState.countOrder
  rw [if_pos room, UInt16.toNat_add]
  exact Nat.mod_eq_of_lt room

/-- The order is recorded before it is handed to the venue. -/
theorem wp_dispatch {order : OrderDecision} (inv : w.Delivered prims)
    (ready : Ready env cycle cycleId order risk w)
    (allowed : ∀ order clientOrderId w, w.MayDispatch prims order clientOrderId →
      (Calm env → w.gate = .running) → submit order clientOrderId w) :
    (cycle.dispatch prims cycleId order).wp (delivery prims env quiet submit)
      (fun _ _ _ => True) (fun _ _ _ => True) risk w := by
  refine Act.wp_bind.mpr (Act.wp_mono inv (wp_append inv) ?_ fun _ _ _ _ _ => trivial)
  intro result risk₁ w₁ inv₁ recorded
  obtain ⟨rfl, keeps₁, policy, receipt, rfl, hasPolicy, -⟩ := recorded
  have ready₁ := ready.keeps keeps₁
  refine Act.wp_bind.mpr (wp_ask.mpr (calls_sync rfl inv₁ trivial ?_))
  intro id w₂ drawn inv₂
  have keeps₂ : KeepsOrder env w₁ w₂ := by
    rw [drawn.2]
    exact ⟨rfl, fun _ mem _ => mem, fun _ _ running => running⟩
  have hasPolicy₂ := keeps₂.hasEvent hasPolicy
  refine Act.wp_bind.mpr (Act.wp_mono inv₂ (wp_append inv₂) ?_ fun _ _ _ _ _ => trivial)
  intro result risk₃ w₃ inv₃ recorded
  obtain ⟨rfl, keeps₃, submitted, receipt', rfl, hasSubmitted, above⟩ := recorded
  have ready₃ := (ready₁.keeps keeps₂).keeps keeps₃
  have hasPolicy₃ := keeps₃.hasEvent hasPolicy₂
  refine Act.wp_bind.mpr (Act.wp_modify.mpr (Act.wp_bind.mpr (Act.wp_bind.mpr
    (Act.wp_get.mpr (Act.wp_mapError.mpr (wp_askJournal inv₃ trivial ?_ fun _ _ _ => trivial))))))
  intro _ w₄ result after inv₄
  have stored : w₄.journal.secret (liveRiskStateKey cycle.runId) =
      some (risk₃.countOrder.encoded prims) := by
    rw [after]
    exact secret_putSecret result
  have keeps₄ : KeepsOrder env w₃ w₄ := by
    rw [after]
    refine ⟨rfl, fun row mem _ => ?_, fun _ _ running => running⟩
    simp only [JournalCall.run, EncryptedJournal.rows_putSecret]
    exact mem
  have ready₄ := ready₃.keeps keeps₄
  obtain ⟨proposal, context, approved, counted⟩ := countOrder_of_approved ready₃.approved
  have orders : w₄.Orders prims cycle.runId cycleId order id.simple :=
    ⟨⟨policy, submitted, keeps₄.hasEvent hasPolicy₃, keeps₄.hasEvent hasSubmitted,
      above _ _ policy hasPolicy₂⟩, ⟨_, proposal, context, stored, approved, counted⟩⟩
  have may : submit order id.simple w₄ :=
    allowed order id.simple w₄ ⟨cycle.runId, cycleId, ready₄.mayOrder, orders⟩ ready₄.gate
  refine Act.wp_bind.mpr (wp_ask.mpr (calls_await rfl inv₄ may ?_))
  intro _ _ answer _ _ _ _ _
  refine Act.wp_ofExcept.mpr ?_
  cases answer <;> trivial

/-- **A cycle.**  It hands the venue an order only when the order is recorded, and with calm others
only while the gate is running. -/
theorem wp_run {older : List Mark} {now : OffsetDateTime} {day : Date} (inv : w.Delivered prims)
    (started : w.marks = .cycle cycle.runId cycleId day :: older)
    (allowed : ∀ order clientOrderId w, w.MayDispatch prims order clientOrderId →
      (Calm env → w.gate = .running) → submit order clientOrderId w) :
    (cycle.run prims cycleId now).wp (delivery prims env quiet submit)
      (fun _ _ _ => True) (fun _ _ _ => True) risk w := by
  refine (records_observe trivial).wp_then inv fun evidence risk₁ w₁ inv₁ keeps₁ => ?_
  refine (records_recordEvidence within_all).wp_then inv₁ fun _ risk₂ w₂ inv₂ keeps₂ => ?_
  refine (records_askModel within_all).wp_then inv₂ fun outcome risk₃ w₃ inv₃ keeps₃ => ?_
  cases outcome.proposal with
  | none => exact (records_conclude within_all).meets inv₃
  | some proposal =>
    refine Act.wp_bind.mpr (Act.wp_mono inv₃ (Act.wp_keeps (keepsOrder .all)
      (records_evaluate within_all).only inv₃ (wp_evaluate inv₃)) ?_ fun _ _ _ _ _ => trivial)
    intro result risk₄ w₄ inv₄ evaluated
    obtain ⟨keeps₄, approved⟩ := evaluated
    have marks : w₄.marks = .cycle cycle.runId cycleId day :: older := by
      rw [keeps₄.marks, keeps₃.marks, keeps₂.marks, keeps₁.marks, started]
    cases result with
    | error error => exact (records_conclude within_all).meets inv₄
    | ok order =>
      refine Act.wp_bind.mpr (wp_ask.mpr (calls_sync rfl inv₄ trivial ?_))
      intro permitted w₅ answers inv₅
      obtain ⟨answer, noted⟩ := answers
      cases permitted with
      | false => exact (records_conclude within_all).meets inv₅
      | true =>
        have running : w₄.gate = .running := of_decide_eq_true answer.symm
        have ready : Ready env cycle cycleId order risk₄ w₅ := by
          rw [noted]
          exact ⟨⟨day, older, congrArg (Mark.permitted true :: ·) marks⟩, fun _ => running,
            approved order rfl⟩
        refine Act.wp_bind.mpr (Act.wp_mono inv₅ (wp_dispatch inv₅ ready allowed) ?_
          fun _ _ _ _ _ => trivial)
        intro submission risk₆ w₆ inv₆ _
        exact (records_settle within_all).meets inv₆

end LiveCycle

/-- A live cycle with its notes. -/
theorem wp_executeLiveCycle {cycle : LiveCycle} (inv : w.Delivered prims)
    (allowed : ∀ order clientOrderId w, w.MayDispatch prims order clientOrderId →
      (Calm env → w.gate = .running) → submit order clientOrderId w) :
    (executeLiveCycle prims cycle).wp (delivery prims env quiet submit)
      (fun _ _ _ => True) (fun _ _ _ => True) risk w := by
  refine Act.wp_bind.mpr (wp_ask.mpr (calls_sync rfl inv trivial ?_))
  intro cycleId w₀ _ inv₀
  refine Act.wp_bind.mpr (wp_ask.mpr (calls_sync rfl inv₀ trivial ?_))
  intro now w₁ _ inv₁
  refine Act.wp_bind.mpr (wp_ask.mpr (calls_sync rfl inv₁ trivial ?_))
  intro _ w₂ noted inv₂
  have started : w₂.marks = .cycle cycle.runId cycleId now.date :: w₁.marks := by
    rw [show w₂ = _ from noted]
    rfl
  refine Act.wp_bind.mpr (Act.wp_attempt.mpr (Act.wp_mono inv₂
    (LiveCycle.wp_run inv₂ started allowed) ?_ ?_))
  · intro result risk₃ w₃ inv₃ _
    refine Act.wp_bind.mpr (wp_ask.mpr (calls_sync rfl inv₃ trivial ?_))
    intro _ w₄ _ _
    exact Act.wp_ofExcept.mpr trivial
  · intro error risk₃ w₃ inv₃ _
    refine Act.wp_bind.mpr (wp_ask.mpr (calls_sync rfl inv₃ trivial ?_))
    intro _ w₄ _ _
    exact Act.wp_ofExcept.mpr trivial

end Contract

end CrowAgent
