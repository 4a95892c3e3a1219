import CrowAgent.Daemon.Commands
import CrowAgent.Daemon.Session

/-!
# The daemon

`run_relay` rotates its first tokens, starts a live session, and polls it next to a relay session;
the listener of the companion runs beside it.  All of them run in one task, so what does not wait
runs at one go.

`daemon` is the machine of this.  Its programs are those of the live session, `DaemonEvent` lists
what else happens while the session waits, and its crashes end the process and start another one on
the same journal.  `permits` says which calls, events and restarts a run may have.
-/

namespace CrowAgent

open Coroutine

variable {prims : Primitives} {config : DaemonConfig}

/-! ## The live session of a process -/

/-- Where `run_relay` is with its live session. -/
inductive Stage : Type
  | start
  | loop (state : LiveRunState)
  /-- The session is over; the run that it stopped, if it did. -/
  | over (stopped : Option Uuid)

/-- `REFRESH_TOKEN_SECRET`. -/
def refreshTokenKey : String := "device-refresh-token"

def request (op : Op) : Prog calls op.Res := @Prog.perform calls op

/-- `run_relay` drops a session that stopped its run. -/
def sessionStopped (runId : Uuid) : Prog calls Stage := do
  request (.shared (.setLive (.over (some runId))))
  return .over (some runId)

/-- `run_relay` drops a session that failed. -/
def sessionFailed (error : LiveRunError) : Prog calls Stage := do
  request (.shared (.setLastError error.failureCode))
  request (.shared .storePaused)
  request (.shared (.setLive (.over none)))
  return .over none

/-- What `run_relay` does with the end of the part before the loop, or of a turn. -/
def afterTurn : Except LiveRunError Turn → Prog calls Stage
  | .ok (.goesOn state) => .done (.loop state)
  | .ok (.stopped runId) => sessionStopped runId
  | .error error => sessionFailed error

/-- The first tokens, and the live session up to its loop. -/
def startUp (prims : Primitives) (config : DaemonConfig) : Prog calls Stage := do
  let refreshToken : String ← request .rotate
  match ← request (.journal (.putSecret refreshTokenKey (utf8 refreshToken))) with
  | .error _ => do
    let never : Empty ← request .exit
    never.elim
  | .ok _ => do
    let current : ExecutionState ← request (.shared .label)
    if current = .stopped then
      request (.shared (.setLive (.over none)))
      return .over none
    else
      request (.shared (.setLive .running))
      ((startSession prims config).start ()).bind fun ended => afterTurn ended.1

/-- A turn of the loop of the session. -/
def loopOnce (prims : Primitives) (config : DaemonConfig) (state : LiveRunState) :
    Prog calls Stage :=
  ((tick prims config state).start ()).bind fun ended => afterTurn ended.1

/-- `run_relay` goes on without a live session. -/
def withoutSession (stopped : Option Uuid) : Prog calls Stage := do
  request .sleep
  return .over stopped

/-- What follows on a stage. -/
inductive NextProgram (prims : Primitives) (config : DaemonConfig) : Stage → Prog calls Stage → Prop
  | start : NextProgram prims config .start (startUp prims config)
  | loop (state : LiveRunState) : NextProgram prims config (.loop state) (loopOnce prims config state)
  | over (stopped : Option Uuid) : NextProgram prims config (.over stopped) (withoutSession stopped)

/-! ## What happens beside it -/

/-- The request asks for other settings, or for another strategy. -/
def CompanionRequestV1.AsksChange (request : CompanionRequestV1) : Prop :=
  request.action = .updateSettings ∨ request.action = .resume ∧ request.strategy.isSome

instance {request : CompanionRequestV1} : Decidable request.AsksChange := instDecidableOr

namespace World

/-- The daemon with the result of the `i`-th command, a companion request. -/
def takeCompanion (prims : Primitives) (config : DaemonConfig) (w : World) (i : Nat)
    (request : CompanionRequestV1) : World :=
  let applied := applyCompanionRequest prims config.companionSecret request w.toControl
  { w with
    toControl := applied.2
    passed :=
      if request.Passes prims config.companionSecret w.toControl then request :: w.passed
      else w.passed
    accepted :=
      match applied.1.toOption, request.action.remote? with
      | some response, some action =>
        if response.accepted then (i, action) :: w.accepted else w.accepted
      | _, _ => w.accepted
    moves := noteMove w.gate applied.2.gate w.moves
    changes :=
      match applied.1.toOption with
      | some response =>
        if response.accepted ∧ request.AsksChange then request :: w.changes else w.changes
      | none => w.changes }

/-- The `i`-th command, a remote one, is answered with an acknowledgement. -/
def noteAcknowledged (w : World) (i : Nat) (envelope : WireEnvelope)
    (answer : Option OutboundEnvelope) : World :=
  match answer, envelope.payload with
  | some _, some delivery => { w with accepted := (i, delivery.command.action) :: w.accepted }
  | _, _ => w

/-- A relay session ends with an error, and nothing is decided until the next one. -/
def relayEnded (w : World) : World := { w with gate := .paused, relay := .backoff }

/-- The world in which the next process starts. -/
def restarted (w : World) : World := { w with
  toControl := .new
  relay := .starting
  lastTick := none }

end World

/-- A relay asks the daemon to shut down. -/
def WireEnvelope.isShutdown (envelope : WireEnvelope) : Prop :=
  envelope.protocol = harnessProtocolV1 ∧ envelope.kind = "shutdown"

/-- What happens beside the live session. -/
inductive DaemonEvent : Type
  /-- A command is made, by the owner or by someone else. -/
  | issue (command : Command)
  /-- The `i`-th command comes over the local socket. -/
  | companion (i : Nat)
  /-- The `i`-th command comes over the relay. -/
  | relay (i : Nat)
  /-- It comes over the relay and is refused, which ends the relay session. -/
  | relayRefuses (i : Nat)
  | relayFails
  | reconnects
  /-- The tokens of a relay session expire. -/
  | expires
  | rotationFails
  | rotates (refreshToken : String)

/-- The event ends a relay session, or a rotation of the tokens, with an error. -/
def DaemonEvent.Fails : DaemonEvent → Prop
  | .relayRefuses _ | .relayFails | .rotationFails => True
  | _ => False

/-- The event brings the `i`-th command over the relay. -/
def DaemonEvent.Relays (event : DaemonEvent) (i : Nat) : Prop :=
  event = .relay i ∨ event = .relayRefuses i

theorem DaemonEvent.Relays.unique {event : DaemonEvent} {i j : Nat} (first : event.Relays i)
    (second : event.Relays j) : i = j := by
  rcases first with rfl | rfl <;> rcases second with same | same <;> cases same <;> rfl

/-- The system a relay message is taken in: nobody else acts. -/
def alone (prims : Primitives) : System calls World := World.system prims fun _ _ => False

/-- The `i`-th command is on its way to a connected relay session. -/
def World.Receives (w : World) (i : Nat) (envelope : WireEnvelope) : Prop :=
  w.relay = .session ∧ w.issued[i]? = some (.relay envelope) ∧ ¬envelope.isShutdown

/-- What the events do. -/
inductive Happens (prims : Primitives) (config : DaemonConfig) : DaemonEvent → World → World → Prop
  | issue (command : Command) (w : World) :
      Happens prims config (.issue command) w { w with issued := w.issued ++ [command] }
  | companion {i : Nat} {request : CompanionRequestV1} {w : World}
      (sent : w.issued[i]? = some (.companion request)) :
      Happens prims config (.companion i) w (w.takeCompanion prims config i request)
  | relay {i : Nat} {envelope : WireEnvelope} {answer : Option OutboundEnvelope} {w w' : World}
      (receives : w.Receives i envelope)
      (taken : (applyRelayMessage prims envelope config.deviceId w.activeRun).Runs (alone prims) () w
        (.ok answer) () w') :
      Happens prims config (.relay i) w (w'.noteAcknowledged i envelope answer)
  | relayRefused {i : Nat} {envelope : WireEnvelope} {error : DaemonError} {w w' : World}
      (receives : w.Receives i envelope)
      (refused : (applyRelayMessage prims envelope config.deviceId w.activeRun).Runs (alone prims) ()
        w (.error error) () w') :
      Happens prims config (.relayRefuses i) w w'.relayEnded
  | relayFails {w : World} (connected : w.relay = .session) :
      Happens prims config .relayFails w w.relayEnded
  | reconnects {w : World} (waited : w.relay = .backoff) :
      Happens prims config .reconnects w { w with relay := .session }
  | expires {w : World} (connected : w.relay = .session) :
      Happens prims config .expires w { w with relay := .rotating }
  | rotationFails {w : World} (rotating : w.relay = .rotating) :
      Happens prims config .rotationFails w { w with gate := .paused }
  | rotates {refreshToken : String} {w : World} (rotating : w.relay = .rotating) :
      Happens prims config (.rotates refreshToken) w { w with
        journal := (w.journal.putSecret refreshTokenKey (utf8 refreshToken)).2
        relay := .session }

/-- The process ends, maybe in the middle of a message of the relay. -/
inductive Dies (prims : Primitives) (config : DaemonConfig) : World → World → Prop
  | between (w : World) : Dies prims config w w
  | amid {i : Nat} {envelope : WireEnvelope} {op : Op} {w w' : World}
      (receives : w.Receives i envelope)
      (taken : (applyRelayMessage prims envelope config.deviceId w.activeRun).LeadsTo (alone prims)
        () w op w') : Dies prims config w w'

/-! ## The machine -/

/-- What a run of the daemon consists of, next to the answers of its calls. -/
inductive Happening : Type
  | call (op : Op)
  | event (event : DaemonEvent)
  | restart

/-- The daemon, in the runs whose happenings are permitted. -/
def daemon (prims : Primitives) (config : DaemonConfig) (permits : Happening → World → Prop) :
    Machine calls World Stage where
  begin := fun op w w' => permits (.call op) w ∧ World.Begins op w w'
  answer := fun op w answer w' => World.Polled op w ∧ World.Answers prims op w answer w'
  env := fun w w' => ∃ event, permits (.event event) w ∧ Happens prims config event w w'
  again := NextProgram prims config
  crash := fun stage w w' => stage = .start ∧ permits .restart w ∧
    ∃ last, Dies prims config w last ∧ w' = last.restarted

/-- Everything may happen. -/
def anything : Happening → World → Prop := fun _ _ => True

/-- Everything but a restart. -/
def oneProcess : Happening → World → Prop
  | .restart, _ => False
  | _, _ => True

/-- A configuration that the daemon reaches, from the start of a process. -/
def DaemonReaches (prims : Primitives) (config : DaemonConfig) (permits : Happening → World → Prop)
    (w : World) : Config calls World Stage → Prop :=
  Reach (daemon prims config permits) (.running (.done .start), w)

end CrowAgent
