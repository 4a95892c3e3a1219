import CrowAgent.Core.Companion
import CrowAgent.Protocol.RemoteCommand

/-!
# The execution gate

The state that the tasks of a daemon share: the gate that decides whether the live session may
order, the active run, what was queued for the session, and the last failure.  Every function here
runs without giving way to others.
-/

namespace CrowAgent

inductive ExecutionState : Type
  | running
  | paused
  | stopped
  deriving DecidableEq, Repr

namespace ExecutionState

/-- `ExecutionGate::label`. -/
def label : ExecutionState → String
  | .running => "running"
  | .paused => "paused"
  | .stopped => "stopped"

/-- `ExecutionGate::apply`: whether the action is accepted, and the state after it. -/
def apply (state : ExecutionState) : RemoteAction → Bool × ExecutionState
  | .pause => (true, .paused)
  | .resume => if state = .paused then (true, .running) else (false, state)
  | .stop => (true, .stopped)

/-- A refused action changes nothing. -/
theorem apply_refused {state : ExecutionState} {action : RemoteAction}
    (refused : (state.apply action).1 = false) : (state.apply action).2 = state := by
  cases action with
  | pause => cases refused
  | resume => cases state <;> first | rfl | cases refused
  | stop => cases refused

/-- Only an accepted resume leads to `running`. -/
theorem eq_resume_of_apply_running {state : ExecutionState} {action : RemoteAction}
    (different : state ≠ .running) (running : (state.apply action).2 = .running) :
    action = .resume ∧ (state.apply action).1 = true := by
  cases action with
  | pause => cases running
  | stop => cases running
  | resume => cases state <;> first | exact ⟨rfl, rfl⟩ | exact absurd rfl different | cases running

end ExecutionState

/-- The live session of a daemon, as `run_relay` holds it. -/
inductive LiveSession : Type
  /-- The first access token is still awaited. -/
  | awaited
  | running
  /-- It has ended, having stopped the run if there is one. -/
  | over (stopped : Option Uuid)
  deriving DecidableEq, Repr

/-- What the tasks of a daemon share. -/
structure Control : Type where
  gate : ExecutionState
  activeRun : Option Uuid
  pendingStrategy : Option StrategyBundleV1
  pendingSettings : Option RunSettingsV1
  lastError : Option String
  /-- The largest nonce of a companion request so far. -/
  highestNonce : UInt64
  live : LiveSession

namespace Control

/-- The state a daemon starts in. -/
def new : Control where
  gate := .paused
  activeRun := none
  pendingStrategy := none
  pendingSettings := none
  lastError := none
  highestNonce := 0
  live := .awaited

end Control

/-- What the live session and `run_relay` do with the shared state. -/
inductive SharedCall : Type
  | label
  | isRunning
  | apply (action : RemoteAction)
  /-- The direct store of the paused state. -/
  | storePaused
  | setActiveRun (run : Option Uuid)
  | pendingStrategy
  | clearPendingStrategy
  | pendingSettings
  | clearPendingSettings
  | setLastError (code : String)
  | setLive (live : LiveSession)

namespace SharedCall

def Value : SharedCall → Type
  | label => ExecutionState
  | isRunning => Bool
  | apply _ => Bool
  | storePaused => Unit
  | setActiveRun _ => Unit
  | pendingStrategy => Option StrategyBundleV1
  | clearPendingStrategy => Unit
  | pendingSettings => Option RunSettingsV1
  | clearPendingSettings => Unit
  | setLastError _ => Unit
  | setLive _ => Unit

def run (control : Control) : (call : SharedCall) → call.Value × Control
  | label => (control.gate, control)
  | isRunning => (decide (control.gate = .running), control)
  | apply action =>
    ((control.gate.apply action).1, { control with gate := (control.gate.apply action).2 })
  | storePaused => ((), { control with gate := .paused })
  | setActiveRun activeRun => ((), { control with activeRun })
  | pendingStrategy => (control.pendingStrategy, control)
  | clearPendingStrategy => ((), { control with pendingStrategy := none })
  | pendingSettings => (control.pendingSettings, control)
  | clearPendingSettings => ((), { control with pendingSettings := none })
  | setLastError code => ((), { control with lastError := some code })
  | setLive live => ((), { control with live })

end SharedCall

end CrowAgent
