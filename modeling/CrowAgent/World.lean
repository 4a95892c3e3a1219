import CrowAgent.Core.Journal
import CrowAgent.Core.Runtime
import CrowAgent.Daemon.Gate
import CrowAgent.Lib.Act

/-!
# The world of the agent

The programs of the agent act on a journal, on the services behind the network, and on the state
they share with the tasks that take the owner's commands.  `Op` lists the calls they make,
`World` what the calls act on, and `World.Begins` and `World.Answers` say how.

* A journal call has the result that the tables decide, or an error of the database or the cipher.
* The event sink may store an event and still report a failure; a receipt is only returned for an
  event that was stored.
* Everything else that comes from outside is arbitrary.
* A call the session waits for is answered only while `run_relay` polls the session.
* `marks`, `queries`, `observed`, `clock`, `issued`, `accepted`, `passed`, `reached`, `moves`,
  `changes` and `lastTick` are notes for the results of this development; no program reads them.
-/

namespace CrowAgent

open Coroutine

/-! ## Calls -/

/-- Calls of the encrypted journal. -/
inductive JournalCall : Type
  | openJournal
  | append (event : RunEventEnvelopeV1) (privatePayload : Json)
  | latestEventState (runId : Uuid)
  | eventCount (runId : Uuid) (eventType : String)
  | pendingEvents (runId : Uuid)
  | publicEvents
  | acknowledgeEvent (eventId : Uuid) (serverReceipt : String)
  | putSecret (name : String) (value : Bytes)
  | secret (name : String)
  | deleteSecret (name : String)

namespace JournalCall

def Value : JournalCall → Type
  | openJournal => Unit
  | append _ _ => Unit
  | latestEventState _ => Option (UInt64 × String)
  | eventCount _ _ => Nat
  | pendingEvents _ => List RunEventEnvelopeV1
  | publicEvents => List RunEventEnvelopeV1
  | acknowledgeEvent _ _ => Unit
  | putSecret _ _ => Unit
  | secret _ => Option Bytes
  | deleteSecret _ => Unit

/-- What the tables make of a call. -/
def run (prims : Primitives) (journal : EncryptedJournal) :
    (call : JournalCall) → Except JournalError call.Value × EncryptedJournal
  | openJournal => (.ok (), journal)
  | append event privatePayload => journal.append prims event privatePayload
  | latestEventState runId => (journal.latestEventState runId, journal)
  | eventCount runId eventType => (.ok (journal.eventCount runId eventType), journal)
  | pendingEvents runId => (journal.pendingEvents prims runId, journal)
  | publicEvents => (journal.publicEvents prims, journal)
  | acknowledgeEvent eventId serverReceipt => journal.acknowledgeEvent eventId serverReceipt
  | putSecret name value => journal.putSecret name value
  | secret name => (.ok (journal.secret name), journal)
  | deleteSecret name => journal.deleteSecret name

end JournalCall

inductive HarnessApiError : Type
  | origin
  | authorization
  | request
  | status
  | response
  deriving DecidableEq, Repr

structure StartHarnessRunV1 : Type where
  arenaId : Uuid
  agentVersionId : Uuid
  executionAccount : String
  clientRelease : String
  decisionCooldownSeconds : UInt32
  isolatedLeverage : UInt8
  handoffSnapshot : Option Json

structure StartedHarnessRunV1 : Type where
  runId : Uuid
  leaseToken : String

/-- Calls of the harness API, besides the event sink. -/
inductive ApiCall : Type
  | withAccessToken
  | startRun (request : StartHarnessRunV1)
  | renewLease (runId : Uuid) (leaseToken : String)
  /-- The encrypted strategy of a version. -/
  | agentVersion (versionId : Uuid)
  | switchRunStrategy (runId agentVersionId : Uuid)

def ApiCall.Value : ApiCall → Type
  | withAccessToken => Unit
  | startRun _ => StartedHarnessRunV1
  | renewLease _ _ => Unit
  | agentVersion _ => Json
  | switchRunStrategy _ _ => Unit

/-- Calls of the venue and of its stream of books. -/
inductive VenueCall : Type
  | connect (mode : ArenaMode)
  | configureIsolatedLeverage (executionAccount : String) (leverage : UInt8)
  | accountSnapshot (executionAccount : String)
  | marketSnapshots (books : List BookSnapshot) (nowMs : UInt64)
  | freshMarketSnapshot (symbol : String) (nowMs : UInt64)
  | recentCandles (startTimeMs endTimeMs : UInt64)
  | submitIoc (order : OrderDecision) (clientOrderId : String)
  | fillsSince (executionAccount : String) (startTimeMs endTimeMs : UInt64)
  | fundingSince (executionAccount : String) (startTimeMs endTimeMs : UInt64)
  | connectStream (mode : ArenaMode)
  | reconcileStream

namespace VenueCall

def Value : VenueCall → Type
  | connect _ => Unit
  | configureIsolatedLeverage _ _ => Unit
  | accountSnapshot _ => AccountSnapshot
  | marketSnapshots _ _ => List (String × MarketSnapshot)
  | freshMarketSnapshot _ _ => MarketSnapshot
  | recentCandles _ _ => Json
  | submitIoc _ _ => VenueSubmission
  | fillsSince _ _ _ => Json
  | fundingSince _ _ _ => Json
  | connectStream _ => Unit
  | reconcileStream => List BookSnapshot

def awaits : VenueCall → Bool
  | connectStream _ => false
  | _ => true

end VenueCall

/-- What the live session did, as far as orders go. -/
inductive Mark : Type
  /-- A live cycle has its id and starts on the day. -/
  | cycle (runId cycleId : Uuid) (day : Date)
  /-- The cycle asked whether it may order, and what it was told. -/
  | permitted (answer : Bool)
  /-- An order is handed to the venue. -/
  | submitted (order : OrderDecision) (clientOrderId : String)
  /-- The cycle is over. -/
  | ended
  deriving DecidableEq, Repr

/-- A question about what the venue settled in the past. -/
inductive QueryKind : Type
  | fills
  | funding
  deriving DecidableEq, Repr

/-- A query of the venue's past that was answered. -/
structure Query : Type where
  kind : QueryKind
  startTimeMs : UInt64
  endTimeMs : UInt64
  result : Json
  /-- How many events the journal held. -/
  events : Nat

/-- What is noted of an answer of the venue. -/
def VenueCall.queries (events : Nat) :
    (call : VenueCall) → Except HyperliquidError call.Value → List Query
  | .fillsSince _ startTimeMs endTimeMs, .ok fills =>
    [⟨.fills, startTimeMs, endTimeMs, fills, events⟩]
  | .fundingSince _ startTimeMs endTimeMs, .ok funding =>
    [⟨.funding, startTimeMs, endTimeMs, funding, events⟩]
  | _, _ => []

/-- An account that the risk state of a run took in. -/
structure Observation : Type where
  runId : Uuid
  day : Date
  equityMicroUsdc : Int64
  deriving DecidableEq, Repr

/-- What the session's loop wakes up for. -/
inductive Tick : Type
  | lease
  | lifecycle
  | cycle
  | snapshot (next : Except HyperliquidError BookSnapshot)

inductive Op : Type
  | journal (call : JournalCall)
  /-- `Uuid::new_v4`. -/
  | newV4
  /-- `OffsetDateTime::now_utc`. -/
  | nowUtc
  /-- `RunEventSink::append_event`. -/
  | appendEvent (event : RunEventEnvelopeV1)
  | api (call : ApiCall)
  /-- `open_agent_version`. -/
  | openAgentVersion (envelope : Json)
  | venue (call : VenueCall)
  /-- `GatewayClient::with_access_token`. -/
  | gatewayClient
  /-- `AgentRuntime::execute_cycle`. -/
  | executeCycle (context : CycleContext)
  /-- The closure that lets a cycle order: the gate is running. -/
  | orderPermitted
  | shared (call : SharedCall)
  /-- `ExecutionGate::apply` for a remote command. -/
  | applyRemote (command : RemoteCommandV1)
  /-- The session's `select!`. -/
  | select
  /-- `tokio::time::sleep`. -/
  | sleep
  /-- The first rotation of the device tokens, until it succeeds. -/
  | rotate
  /-- A live cycle has its id and starts on the day. -/
  | cycleStarts (runId cycleId : Uuid) (day : Date)
  | cycleEnds
  /-- The risk state of the run takes in an account. -/
  | observes (runId : Uuid) (day : Date) (equityMicroUsdc : Int64)
  /-- The policy looks at a proposal. -/
  | judges (runId : Uuid) (context : PolicyContext)
  /-- A cycle of the session begins, under the terms of the session. -/
  | trades (runId : Uuid) (settings : RunSettingsV1) (strategy : StrategyBundleV1)
  /-- A checked operation of the source overflowed, and the task makes no further call. -/
  | panic
  /-- `run_relay` returns an error, and the process ends. -/
  | exit

namespace Op

def Res : Op → Type
  | journal call => Except JournalError call.Value
  | newV4 => Uuid
  | nowUtc => OffsetDateTime
  | appendEvent _ => Except Unit String
  | api call => Except HarnessApiError call.Value
  | openAgentVersion _ => Except Unit StrategyBundleV1
  | venue call => Except HyperliquidError call.Value
  | gatewayClient => Except Unit Unit
  | executeCycle _ => Except RuntimeError CycleOutcome
  | orderPermitted => Bool
  | shared call => call.Value
  | applyRemote _ => Bool
  | select => Tick
  | sleep => Unit
  | rotate => String
  | cycleStarts _ _ _ => Unit
  | cycleEnds => Unit
  | observes _ _ _ => Unit
  | judges _ _ => Unit
  | trades _ _ _ => Unit
  | panic => Empty
  | exit => Empty

/-- The calls a task gives way for. -/
def awaits : Op → Bool
  | appendEvent _ | executeCycle _ | select | sleep | rotate => true
  | api call => match call with
    | .withAccessToken => false
    | _ => true
  | venue call => call.awaits
  | _ => false

end Op

/-- The calls of the agent. -/
def calls : Signature where
  Op := Op
  Res := Op.Res
  awaits := Op.awaits

/-- Call an operation. -/
def ask {σ ε : Type} (op : Op) : Act calls σ ε op.Res := @Act.perform calls σ ε op

@[simp] theorem wp_ask {W σ ε : Type} {c : Contract calls W} {op : Op} {locals : σ} {w : W}
    {ok : op.Res → σ → W → Prop} {err : ε → σ → W → Prop} :
    (ask op : Act calls σ ε op.Res).wp c ok err locals w ↔
      c.Calls op (fun answer w => ok answer locals w) w := Act.wp_perform

/-! ## The world -/

/-- An event that was sent to the sink. -/
structure Offer : Type where
  event : RunEventEnvelopeV1
  stored : Bool

/-- The part of the world that runs are recorded in. -/
structure Record : Type where
  journal : EncryptedJournal
  /-- The events sent to the sink, oldest first. -/
  offers : List Offer
  /-- The random ids in use. -/
  drawn : List Uuid
  /-- Latest first. -/
  marks : List Mark
  /-- Latest first. -/
  queries : List Query
  /-- Latest first. -/
  observed : List Observation

/-- `run_relay` between two awaits. -/
inductive RelayPhase : Type
  /-- It rotates its first tokens. -/
  | starting
  /-- It polls a relay session, and the live session if there is one. -/
  | session
  /-- It rotates its tokens. -/
  | rotating
  /-- It waits before it connects again. -/
  | backoff
  deriving DecidableEq, Repr

/-- `RemoteCommandDelivery`. -/
structure RemoteCommandDelivery : Type where
  command : RemoteCommandV1
  controllerPublicKey : String

/-- `WireEnvelope`; its payload as what it deserialises to as a delivered command, if it does. -/
structure WireEnvelope : Type where
  protocol : String
  kind : String
  id : String
  payload : Option RemoteCommandDelivery

/-- What the owner, or someone else, sends to the daemon. -/
inductive Command : Type
  | companion (request : CompanionRequestV1)
  | relay (envelope : WireEnvelope)

/-- A remote command that came to the gate, with the active run and the time it was checked at. -/
structure Reached : Type where
  command : RemoteCommandV1
  activeRun : Option Uuid
  now : OffsetDateTime
  deriving DecidableEq

/-- The part of the world that the tasks of a daemon share. -/
structure Shared : Type extends Control where
  relay : RelayPhase
  /-- The time that was last read. -/
  clock : OffsetDateTime
  /-- Oldest first. -/
  issued : List Command
  /-- The commands that were answered as accepted, by their place in `issued`; latest first. -/
  accepted : List (Nat × RemoteAction)
  /-- The companion requests that passed the checks of their HMAC and their nonce; latest first. -/
  passed : List CompanionRequestV1
  /-- Latest first. -/
  reached : List Reached
  /-- The states that the owner's commands moved the gate to, those of a resume that waited for its
  strategy included; latest first. -/
  moves : List ExecutionState
  /-- The requests for other settings or for another strategy that were answered as accepted; latest
  first. -/
  changes : List CompanionRequestV1
  /-- What the session's loop woke up for, and the gate at that time. -/
  lastTick : Option (Tick × ExecutionState)

structure World : Type extends Record, Shared

/-- The moves of a gate with one that may have been made. -/
def noteMove (before after : ExecutionState) (moves : List ExecutionState) : List ExecutionState :=
  if after = before then moves else after :: moves

@[simp] theorem noteMove_self {state : ExecutionState} {moves : List ExecutionState} :
    noteMove state state moves = moves := if_pos rfl

/-- What a call of the session adds to the moves: before a run is active it opens the gate on its
own, and later for the owner. -/
def SharedCall.noteMoves (control : Control) (moves : List ExecutionState) :
    SharedCall → List ExecutionState
  | .apply action =>
    if control.activeRun.isSome then noteMove control.gate (control.gate.apply action).2 moves
    else moves
  | _ => moves

namespace World

/-- The errors a journal call can end in whatever the tables hold. -/
def isFault : JournalError → Prop
  | .database | .crypto | .payload => True
  | .event | .sequence => False

def note (w : World) (mark : Mark) : World := { w with marks := mark :: w.marks }

/-- A call of the shared state is answered. -/
def shares (w : World) (call : SharedCall) : World := { w with
  toControl := (call.run w.toControl).2
  moves := call.noteMoves w.toControl w.moves }

/-- A call is made. -/
def Begins (op : Op) (w w' : World) : Prop :=
  match op with
  | .appendEvent event => ∃ stored, w' = { w with offers := w.offers ++ [⟨event, stored⟩] }
  | .venue (.submitIoc order clientOrderId) => w' = w.note (.submitted order clientOrderId)
  | _ => w' = w

/-- A call is answered. -/
def Answers (prims : Primitives) (op : Op) (w : World) (answer : op.Res) (w' : World) : Prop :=
  match op, answer with
  | .journal call, answer =>
    (answer = (call.run prims w.journal).1 ∧
        w' = { w with journal := (call.run prims w.journal).2 }) ∨
      (∃ error, isFault error ∧ answer = .error error ∧ w' = w)
  | .newV4, id => id ∉ w.drawn ∧ w' = { w with drawn := id :: w.drawn }
  | .nowUtc, time => w' = { w with clock := time }
  | .appendEvent event, answer =>
    w' = w ∧ ((∃ receipt, answer = .ok receipt) → w.offers.getLast? = some ⟨event, true⟩)
  | .orderPermitted, answer =>
    answer = decide (w.gate = .running) ∧ w' = w.note (.permitted answer)
  | .shared call, answer =>
    answer = (call.run w.toControl).1 ∧ w' = w.shares call
  | .applyRemote command, answer =>
    answer = (w.gate.apply command.action).1 ∧
      w' = { w with
        gate := (w.gate.apply command.action).2
        reached := ⟨command, w.activeRun, w.clock⟩ :: w.reached
        moves := noteMove w.gate (w.gate.apply command.action).2 w.moves }
  | .venue call, answer =>
    w' = { w with queries := call.queries w.journal.rows.length answer ++ w.queries }
  | .select, tick => w' = { w with lastTick := some (tick, w.gate) }
  | .rotate, _ => w' = { w with relay := .session }
  | .cycleStarts runId cycleId day, _ => w' = w.note (.cycle runId cycleId day)
  | .cycleEnds, _ => w' = w.note .ended
  | .observes runId day equityMicroUsdc, _ =>
    w' = { w with observed := ⟨runId, day, equityMicroUsdc⟩ :: w.observed }
  | _, _ => w' = w

/-- When the answer of a call can be taken. -/
def Polled (op : Op) (w : World) : Prop :=
  match op with
  | .rotate => w.relay = .starting
  | op => op.awaits = true → w.relay = .session

/-- The system the agent's programs run in, next to what others do. -/
def system (prims : Primitives) (env : World → World → Prop) : System calls World where
  begin := Begins
  answer := fun op w answer w' => Polled op w ∧ Answers prims op w answer w'
  env

end World

end CrowAgent
