import CrowAgent.Desktop.CredentialVault
import CrowAgent.Lib.FixedWidth

/-!
# The sidecar of the desktop

Status polls launch the companion when no generation owns its slot, and a start of an arena replaces
it under the transition lock.  The slot and the handle of the child are two locks, and a process is
spawned between them.  `one_sidecar` says that the handle is that of the only process that runs as
long as no launch stores its child over that of a running process, and `two_sidecars` has schedules in
which one does.
-/

namespace CrowAgent

open FixedWidth Threads

structure CompanionSlot : Type where
  generation : UInt64 := 0
  spawned : Bool := false
  deriving DecidableEq, Repr

def claimCompanionSlot (slot : CompanionSlot) :
    Except DesktopError (Option UInt64 × CompanionSlot) :=
  if slot.spawned then .ok (none, slot)
  else
    match checkedAddU64 slot.generation 1 with
    | some generation => .ok (some generation, { generation, spawned := true })
    | none => .error .companion

def reserveCompanionSlot (slot : CompanionSlot) : Except DesktopError (UInt64 × CompanionSlot) :=
  match checkedAddU64 slot.generation 1 with
  | some generation => .ok (generation, { generation, spawned := true })
  | none => .error .companion

def releaseCompanionSlot (slot : CompanionSlot) (generation : UInt64) : Bool × CompanionSlot :=
  if slot.generation ≠ generation then (false, slot) else (true, { slot with spawned := false })

def invalidateCompanionSlot (slot : CompanionSlot) : Except DesktopError CompanionSlot :=
  match checkedAddU64 slot.generation 1 with
  | some generation => .ok { generation, spawned := false }
  | none => .error .companion

/-- A process that was spawned for a generation. -/
structure Sidecar : Type where
  generation : UInt64
  alive : Bool := true
  /-- A task waits for its end. -/
  watched : Bool := false
  deriving DecidableEq, Repr

/-- The parts of the state a launch uses, and the processes that were spawned so far. -/
structure DesktopState : Type where
  companionSlot : CompanionSlot := {}
  /-- The process whose handle is stored. -/
  companionChild : Option Nat := none
  companionTransitionLock : Bool := false
  sidecars : List Sidecar := []
  deriving DecidableEq, Repr

namespace DesktopState

def spawn (state : DesktopState) (generation : UInt64) : DesktopState :=
  { state with sidecars := state.sidecars ++ [{ generation }] }

def kill (state : DesktopState) (process : Nat) : DesktopState :=
  { state with
    sidecars := state.sidecars.modify process fun sidecar => { sidecar with alive := false } }

/-- The handle is taken, and its process killed. -/
def killChild (state : DesktopState) : DesktopState :=
  match state.companionChild with
  | some process => { state.kill process with companionChild := none }
  | none => state

/-- The handle is stored, and a task waits for the end of its process. -/
def storeChild (state : DesktopState) (process : Nat) : DesktopState :=
  { state with
    companionChild := some process
    sidecars := state.sidecars.modify process fun sidecar => { sidecar with watched := true } }

def release (state : DesktopState) (generation : UInt64) : DesktopState :=
  { state with companionSlot := (releaseCompanionSlot state.companionSlot generation).2 }

/-- A call that holds the transition lock lets go of it. -/
def leave (state : DesktopState) (transition : Bool) : DesktopState :=
  if transition then { state with companionTransitionLock := false } else state

/-- A process that was neither killed nor has terminated. -/
def Live (state : DesktopState) (process : Nat) : Prop :=
  ∃ sidecar, state.sidecars[process]? = some sidecar ∧ sidecar.alive = true

/-- Whether the process whose handle is stored runs. -/
def childRuns (state : DesktopState) : Bool :=
  (state.companionChild.bind (state.sidecars[·]?)).any (·.alive)

end DesktopState

/-- A call of one of the three functions. -/
inductive CompanionFunction : Type
  | launchCompanion
  | launchDesktopRun
  | stopOwnedCompanion
  deriving DecidableEq, Repr

/-- How far a call has come. -/
inductive CompanionCall : Type
  | called (function : CompanionFunction)
  /-- `launch_desktop_run` with the transition lock, before and after its reservation. -/
  | reserving
  | reserved (generation : UInt64)
  /-- `stop_owned_companion` with the transition lock, before and after it has invalidated the slot. -/
  | invalidating
  | invalidated
  /-- A launch that owns a generation; the flag says whether it holds the transition lock. -/
  | launching (transition : Bool) (generation : UInt64)
  | spawned (transition : Bool) (generation : UInt64) (process : Nat)
  | failed (transition : Bool) (generation : UInt64)
  | returned
  deriving DecidableEq, Repr

/-- The next critical section of a call, or what it does between two of them.  Where it depends on the
credentials, the operating system or the pipe of the child, `succeeds` decides. -/
def DesktopState.act (state : DesktopState) (call : CompanionCall) (succeeds : Bool) :
    Option (DesktopState × CompanionCall) :=
  match call with
  | .called .launchCompanion =>
    if succeeds then
      match claimCompanionSlot state.companionSlot with
      | .ok (some generation, slot) =>
        some ({ state with companionSlot := slot }, .launching false generation)
      | .ok (none, _) => some (state, .returned)
      | .error _ => some (state, .returned)
    else some (state, .returned)
  | .called .launchDesktopRun =>
    if state.companionTransitionLock then none
    else some ({ state with companionTransitionLock := true }, .reserving)
  | .reserving =>
    if succeeds then
      match reserveCompanionSlot state.companionSlot with
      | .ok (generation, slot) => some ({ state with companionSlot := slot }, .reserved generation)
      | .error _ => some (state.leave true, .returned)
    else some (state.leave true, .returned)
  | .reserved generation => some (state.killChild, .launching true generation)
  | .called .stopOwnedCompanion =>
    if state.companionTransitionLock then none
    else some ({ state with companionTransitionLock := true }, .invalidating)
  | .invalidating =>
    match invalidateCompanionSlot state.companionSlot with
    | .ok slot => some ({ state with companionSlot := slot }, .invalidated)
    | .error _ => some (state, .invalidated)
  | .invalidated => some (state.killChild.leave true, .returned)
  | .launching transition generation =>
    if succeeds then
      some (state.spawn generation, .spawned transition generation state.sidecars.length)
    else some (state, .failed transition generation)
  | .spawned transition generation process =>
    -- The child takes its credentials and its handle is stored, or it is killed.
    if succeeds then some ((state.storeChild process).leave transition, .returned)
    else some (state.kill process, .failed transition generation)
  | .failed transition generation => some ((state.release generation).leave transition, .returned)
  | .returned => none

inductive SidecarEvent : Type
  | terminates (process : Nat)
  /-- The task that waits for the end of a process hears of it.  An error event of a process that
  runs, which the task takes for its end as well, is not among these events. -/
  | reported (process : Nat)
  deriving DecidableEq, Repr

def DesktopState.happen (state : DesktopState) : SidecarEvent → Option DesktopState
  | .terminates process =>
    state.sidecars[process]?.bind fun sidecar =>
      if sidecar.alive then some (state.kill process) else none
  | .reported process =>
    state.sidecars[process]?.bind fun sidecar =>
      if !sidecar.alive && sidecar.watched then
        some { state.release sidecar.generation with
          sidecars := state.sidecars.modify process fun sidecar => { sidecar with watched := false } }
      else none

/-- Any number of calls, and the ends of the processes. -/
def companions : System DesktopState CompanionCall CompanionFunction Bool SidecarEvent where
  begins := .called
  act := DesktopState.act
  happen := DesktopState.happen

abbrev CompanionPool : Type := Pool DesktopState CompanionCall

abbrev CompanionAction : Type := Action CompanionFunction Bool SidecarEvent

/-- A launch that is about to store its child finds no handle of a running process. -/
def storesFreely (pool : CompanionPool) (action : CompanionAction) : Bool :=
  match action with
  | .act index true =>
    match pool.threads[index]? with
    | some (.spawned _ _ _) => !pool.shared.childRuns
    | _ => true
  | _ => true

/-- The only process that runs is the one whose handle is stored, once all calls have returned; and
the end of a process of an older generation does not change the slot. -/
structure OneSidecar (pool : CompanionPool) : Prop where
  one : (∀ call ∈ pool.threads, call = .returned) → ∀ process process',
    pool.shared.Live process → pool.shared.Live process' → process = process'
  held : (∀ call ∈ pool.threads, call = .returned) → ∀ process, pool.shared.Live process →
    pool.shared.companionChild = some process
  stale : ∀ process sidecar after, pool.shared.sidecars[process]? = some sidecar →
    sidecar.generation < pool.shared.companionSlot.generation →
    companions.step pool (.happen (.reported process)) = some after →
    after.shared.companionSlot = pool.shared.companionSlot

/-! ## Processes -/

namespace DesktopState

variable {state : DesktopState} {process other : Nat}

theorem live_kill : (state.kill process).Live other ↔ process ≠ other ∧ state.Live other := by
  simp only [Live, kill, List.getElem?_modify]
  by_cases same : process = other
  · simp [same]
  · simp [same]

theorem live_storeChild : (state.storeChild process).Live other ↔ state.Live other := by
  simp only [Live, storeChild, List.getElem?_modify]
  by_cases same : process = other
  · simp [same]
  · simp [same]

theorem live_killChild :
    state.killChild.Live other ↔ state.companionChild ≠ some other ∧ state.Live other := by
  unfold killChild
  split
  · rename_i process isChild
    rw [isChild, ne_eq, Option.some_inj]
    exact live_kill
  · rename_i noChild
    rw [noChild]
    simp

theorem companionChild_killChild : state.killChild.companionChild = none := by
  unfold killChild
  split
  · rfl
  · assumption

theorem live_release {generation : UInt64} :
    (state.release generation).Live other ↔ state.Live other := Iff.rfl

@[simp] theorem live_leave {transition : Bool} :
    (state.leave transition).Live other ↔ state.Live other := by
  cases transition with
  | false => rfl
  | true => rfl

@[simp] theorem companionChild_leave {transition : Bool} :
    (state.leave transition).companionChild = state.companionChild := by
  cases transition with
  | false => rfl
  | true => rfl

theorem live_spawn {generation : UInt64} (live : (state.spawn generation).Live other) :
    other = state.sidecars.length ∨ state.Live other := by
  obtain ⟨sidecar, here, alive⟩ := live
  rw [spawn] at here
  rcases Nat.lt_or_ge other state.sidecars.length with below | above
  · rw [List.getElem?_append_left below] at here
    exact .inr ⟨sidecar, here, alive⟩
  · have fits := (List.getElem?_eq_some_iff.mp here).1
    rw [List.length_append, List.length_singleton] at fits
    exact .inl (by omega)

/-- The handle of a running process. -/
theorem childRuns_of_live (isChild : state.companionChild = some process)
    (live : state.Live process) : state.childRuns = true := by
  obtain ⟨sidecar, here, alive⟩ := live
  rw [childRuns, isChild, Option.bind_some, here, Option.any_some, alive]

end DesktopState

/-- The process that a call has spawned and not stored. -/
def CompanionCall.process? : CompanionCall → Option Nat
  | .spawned _ _ process => some process
  | _ => none

/-- What a step of a call does to the processes and the handle. -/
inductive Moves (state : DesktopState) : CompanionCall → Bool → DesktopState → CompanionCall → Prop
  | quiet {call call' : CompanionCall} {succeeds : Bool} {state' : DesktopState}
      (live : ∀ process, state'.Live process → state.Live process)
      (child : state'.companionChild = state.companionChild) (idle : call.process? = none) :
      Moves state call succeeds state' call'
  | kills {call call' : CompanionCall} {succeeds : Bool} {state' : DesktopState}
      (live : ∀ process, state'.Live process →
        state.companionChild ≠ some process ∧ state.Live process)
      (idle : call.process? = none) : Moves state call succeeds state' call'
  | spawns {transition : Bool} {generation : UInt64} {succeeds : Bool} {state' : DesktopState}
      (live : ∀ process, state'.Live process →
        process = state.sidecars.length ∨ state.Live process)
      (child : state'.companionChild = state.companionChild) :
      Moves state (.launching transition generation) succeeds state'
        (.spawned transition generation state.sidecars.length)
  | stores {transition : Bool} {generation : UInt64} {process : Nat} {state' : DesktopState}
      (live : ∀ other, state'.Live other → state.Live other)
      (child : state'.companionChild = some process) :
      Moves state (.spawned transition generation process) true state' .returned
  | gives {transition : Bool} {generation : UInt64} {process : Nat} {succeeds : Bool}
      {state' : DesktopState} {call' : CompanionCall}
      (live : ∀ other, state'.Live other → process ≠ other ∧ state.Live other)
      (child : state'.companionChild = state.companionChild) :
      Moves state (.spawned transition generation process) succeeds state' call'

/-- **Inversion.** -/
theorem moves_of_act {state state' : DesktopState} {call call' : CompanionCall} {succeeds : Bool}
    (acted : state.act call succeeds = some (state', call')) :
    Moves state call succeeds state' call' := by
  cases call with
  | called function =>
    cases function with
    | launchCompanion =>
      simp only [DesktopState.act] at acted
      split at acted
      · split at acted
        · cases acted
          exact .quiet (fun _ live => live) rfl rfl
        · cases acted
          exact .quiet (fun _ live => live) rfl rfl
        · cases acted
          exact .quiet (fun _ live => live) rfl rfl
      · cases acted
        exact .quiet (fun _ live => live) rfl rfl
    | launchDesktopRun =>
      simp only [DesktopState.act] at acted
      split at acted
      · cases acted
      · cases acted
        exact .quiet (fun _ live => live) rfl rfl
    | stopOwnedCompanion =>
      simp only [DesktopState.act] at acted
      split at acted
      · cases acted
      · cases acted
        exact .quiet (fun _ live => live) rfl rfl
  | reserving =>
    simp only [DesktopState.act] at acted
    split at acted
    · split at acted
      · cases acted
        exact .quiet (fun _ live => live) rfl rfl
      · cases acted
        exact .quiet (fun _ live => live) rfl rfl
    · cases acted
      exact .quiet (fun _ live => live) rfl rfl
  | reserved generation =>
    cases acted
    exact .kills (fun _ live => DesktopState.live_killChild.mp live) rfl
  | invalidating =>
    simp only [DesktopState.act] at acted
    split at acted
    · cases acted
      exact .quiet (fun _ live => live) rfl rfl
    · cases acted
      exact .quiet (fun _ live => live) rfl rfl
  | invalidated =>
    cases acted
    exact .kills (fun _ live => DesktopState.live_killChild.mp live) rfl
  | launching transition generation =>
    cases succeeds with
    | true =>
      cases acted
      exact .spawns (fun _ live => DesktopState.live_spawn live) rfl
    | false =>
      cases acted
      exact .quiet (fun _ live => live) rfl rfl
  | spawned transition generation process =>
    cases succeeds with
    | true =>
      cases acted
      exact .stores (fun _ live =>
        DesktopState.live_storeChild.mp (DesktopState.live_leave.mp live))
        DesktopState.companionChild_leave
    | false =>
      cases acted
      exact .gives (fun _ live => DesktopState.live_kill.mp live) rfl
  | failed transition generation =>
    cases acted
    exact .quiet (fun _ live => DesktopState.live_release.mp (DesktopState.live_leave.mp live))
      DesktopState.companionChild_leave rfl
  | returned => cases acted

/-! ## One sidecar -/

/-- Every process that runs has its handle stored or is held by the call that has spawned it. -/
def SidecarsAccounted (pool : CompanionPool) : Prop :=
  ∀ process, pool.shared.Live process → pool.shared.companionChild = some process ∨
    ∃ call ∈ pool.threads, call.process? = some process

/-- A process that another call holds is held after a step. -/
theorem exists_mem_set {calls : List CompanionCall} {index process : Nat}
    {call call' : CompanionCall} (here : calls[index]? = some call)
    (held : ∃ other ∈ calls, other.process? = some process) (idle : call.process? ≠ some process) :
    ∃ other ∈ calls.set index call', other.process? = some process := by
  obtain ⟨other, mem, isHeld⟩ := held
  obtain ⟨place, there⟩ := List.mem_iff_getElem?.mp mem
  have apart : index ≠ place := by
    intro same
    subst same
    obtain rfl := Option.some.inj (here.symm.trans there)
    exact idle isHeld
  refine ⟨other, List.mem_of_getElem? (i := place) ?_, isHeld⟩
  rw [List.getElem?_set_ne apart, there]

/-- What happens to the processes starts none and leaves the handle. -/
theorem live_of_happen {state state' : DesktopState} {event : SidecarEvent}
    (happened : state.happen event = some state') :
    (∀ process, state'.Live process → state.Live process) ∧
      state'.companionChild = state.companionChild := by
  cases event with
  | terminates process =>
    obtain ⟨sidecar, -, happened⟩ := Option.bind_eq_some_iff.mp happened
    split at happened
    · cases happened
      exact ⟨fun _ live => (DesktopState.live_kill.mp live).2, rfl⟩
    · cases happened
  | reported process =>
    obtain ⟨sidecar, -, happened⟩ := Option.bind_eq_some_iff.mp happened
    split at happened
    · cases happened
      refine ⟨fun other live => ?_, rfl⟩
      obtain ⟨sidecar', here, alive⟩ := live
      rw [List.getElem?_modify] at here
      obtain ⟨before, isBefore, rfl⟩ := Option.map_eq_some_iff.mp here
      refine ⟨before, isBefore, ?_⟩
      split at alive
      · exact alive
      · exact alive
    · cases happened

/-- **Step.**  Every process stays accounted for when no child is stored over a running process. -/
theorem SidecarsAccounted.step {before after : CompanionPool} {action : CompanionAction}
    (accounted : SidecarsAccounted before) (freely : storesFreely before action = true)
    (stepped : companions.step before action = some after) : SidecarsAccounted after := by
  cases action with
  | start function =>
    obtain rfl := Option.some.inj stepped
    intro process live
    rcases accounted process live with child | held
    · exact .inl child
    · obtain ⟨call, mem, isHeld⟩ := held
      exact .inr ⟨call, List.mem_append_left _ mem, isHeld⟩
  | act index succeeds =>
    obtain ⟨call, state, call', here, acted, rfl⟩ := step_act_eq_some.mp stepped
    have bound := (List.getElem?_eq_some_iff.mp here).1
    cases moves_of_act acted with
    | quiet live child idle =>
      intro process isLive
      rcases accounted process (live process isLive) with isChild | held
      · exact .inl (child.trans isChild)
      · exact .inr (exists_mem_set here held (by simp [idle]))
    | kills live idle =>
      intro process isLive
      obtain ⟨notChild, wasLive⟩ := live process isLive
      rcases accounted process wasLive with isChild | held
      · exact absurd isChild notChild
      · exact .inr (exists_mem_set here held (by simp [idle]))
    | spawns live child =>
      intro process isLive
      rcases live process isLive with rfl | wasLive
      · exact .inr ⟨_, List.mem_set bound _, rfl⟩
      · rcases accounted process wasLive with isChild | held
        · exact .inl (child.trans isChild)
        · exact .inr (exists_mem_set here held nofun)
    | @stores transition generation own _ live child =>
      intro process isLive
      have wasLive := live process isLive
      by_cases same : own = process
      · exact .inl (child.trans (congrArg some same))
      · rcases accounted process wasLive with isChild | held
        · have runs := DesktopState.childRuns_of_live isChild wasLive
          rw [storesFreely, here] at freely
          simp [runs] at freely
        · exact .inr (exists_mem_set here held fun isOwn => same (Option.some.inj isOwn))
    | @gives transition generation own _ _ _ live child =>
      intro process isLive
      obtain ⟨other, wasLive⟩ := live process isLive
      rcases accounted process wasLive with isChild | held
      · exact .inl (child.trans isChild)
      · exact .inr (exists_mem_set here held fun isOwn => other (Option.some.inj isOwn))
  | happen event =>
    obtain ⟨state, happened, rfl⟩ := Option.map_eq_some_iff.mp stepped
    obtain ⟨live, child⟩ := live_of_happen happened
    intro process isLive
    rcases accounted process (live process isLive) with isChild | held
    · exact .inl (child.trans isChild)
    · exact .inr held

/-- The end of a process changes the slot of its own generation only. -/
theorem companionSlot_of_reported {state state' : DesktopState} {process : Nat} {sidecar : Sidecar}
    (here : state.sidecars[process]? = some sidecar)
    (happened : state.happen (.reported process) = some state') :
    state'.companionSlot = if state.companionSlot.generation = sidecar.generation then
      { state.companionSlot with spawned := false } else state.companionSlot := by
  rw [DesktopState.happen, here, Option.bind_some] at happened
  split at happened
  · cases happened
    by_cases own : state.companionSlot.generation = sidecar.generation
    · simp [DesktopState.release, releaseCompanionSlot, own]
    · simp [DesktopState.release, releaseCompanionSlot, own]
  · cases happened

/-- **One sidecar.**  As long as no launch stores its child over that of a running process, the only
process that runs once all calls have returned is the one whose handle is stored; and the end of a
process of an older generation never frees the slot. -/
theorem one_sidecar {pool : CompanionPool}
    (reaches : companions.Reaches (storesFreely · · = true) ⟨{}, []⟩ pool) : OneSidecar pool := by
  have accounted : SidecarsAccounted pool := by
    refine Reaches.invariant (P := SidecarsAccounted) ?_ ?_ reaches
    · intro process live
      obtain ⟨sidecar, here, -⟩ := live
      cases here
    · intro before action after freely stepped accounted
      exact accounted.step freely stepped
  have held : (∀ call ∈ pool.threads, call = .returned) → ∀ process, pool.shared.Live process →
      pool.shared.companionChild = some process := by
    intro returned process live
    rcases accounted process live with child | inCall
    · exact child
    · obtain ⟨call, mem, isHeld⟩ := inCall
      rw [returned call mem] at isHeld
      cases isHeld
  refine ⟨fun returned process process' live live' => ?_, held, ?_⟩
  · have same := (held returned process live).symm.trans (held returned process' live')
    exact Option.some.inj same
  · intro process sidecar after here older stepped
    obtain ⟨state, happened, rfl⟩ := Option.map_eq_some_iff.mp stepped
    rw [companionSlot_of_reported here happened, if_neg]
    intro same
    rw [same] at older
    exact UInt64.lt_irrefl _ older

/-- A poll launches the companion, and then a start of an arena replaces it. -/
def replacedSchedule : List CompanionAction :=
  [.start .launchCompanion, .act 0 true, .act 0 true, .act 0 true, .start .launchDesktopRun,
    .act 1 true, .act 1 true, .act 1 true, .act 1 true, .act 1 true]

theorem one_sidecar_replaced :
    ∃ pool : CompanionPool, pool.threads = [.returned, .returned] ∧ pool.shared.Live 1 ∧
      OneSidecar pool := by
  let sidecars : List Sidecar := [⟨1, false, true⟩, ⟨2, true, true⟩]
  have ran : companions.run (storesFreely · · = true) ⟨{}, []⟩ replacedSchedule =
      some ⟨⟨⟨2, true⟩, some 1, false, sidecars⟩, [.returned, .returned]⟩ := by decide
  exact ⟨_, rfl, ⟨⟨2, true, true⟩, rfl, rfl⟩, one_sidecar (reaches_of_run ran)⟩

/-! ## Two sidecars -/

/-- A start of an arena reserves the slot and takes no child, the poll that has spawned one stores it,
and the start stores its own over it. -/
def overtakenSchedule : List CompanionAction :=
  [.start .launchCompanion, .start .launchDesktopRun, .act 0 true, .act 0 true, .act 1 true,
    .act 1 true, .act 1 true, .act 0 true, .act 1 true, .act 1 true]

/-- A stop invalidates the slot, a poll stores a new child over the running one, and the stop takes
and kills the new one. -/
def stoppedSchedule : List CompanionAction :=
  [.start .launchCompanion, .act 0 true, .act 0 true, .act 0 true, .start .stopOwnedCompanion,
    .start .launchCompanion, .act 1 true, .act 1 true, .act 2 true, .act 2 true, .act 2 true,
    .act 1 true]

/-- **Two sidecars.**  After the one schedule two processes run, and after the other one runs whose
handle is lost. -/
theorem two_sidecars :
    (∃ pool, companions.Reaches (fun _ _ => True) ⟨{}, []⟩ pool ∧
        (∀ call ∈ pool.threads, call = .returned) ∧ pool.shared.Live 0 ∧ pool.shared.Live 1 ∧
        ¬OneSidecar pool) ∧
      ∃ pool, companions.Reaches (fun _ _ => True) ⟨{}, []⟩ pool ∧
        (∀ call ∈ pool.threads, call = .returned) ∧ pool.shared.Live 0 ∧
        pool.shared.companionChild = none ∧ ¬OneSidecar pool := by
  constructor
  · have ran : companions.run (fun _ _ => True) ⟨{}, []⟩ overtakenSchedule =
        some ⟨⟨⟨2, true⟩, some 1, false, [⟨1, true, true⟩, ⟨2, true, true⟩]⟩,
          [.returned, .returned]⟩ := by decide
    have first : DesktopState.Live ⟨⟨2, true⟩, some 1, false,
        [⟨1, true, true⟩, ⟨2, true, true⟩]⟩ 0 := ⟨_, rfl, rfl⟩
    refine ⟨_, reaches_of_run ran, by simp, first, ⟨_, rfl, rfl⟩, fun one => ?_⟩
    have held := one.held (by simp) 0 first
    cases held
  · have ran : companions.run (fun _ _ => True) ⟨{}, []⟩ stoppedSchedule =
        some ⟨⟨⟨3, true⟩, none, false, [⟨1, true, true⟩, ⟨3, false, true⟩]⟩,
          [.returned, .returned, .returned]⟩ := by decide
    have first : DesktopState.Live ⟨⟨3, true⟩, none, false,
        [⟨1, true, true⟩, ⟨3, false, true⟩]⟩ 0 := ⟨_, rfl, rfl⟩
    refine ⟨_, reaches_of_run ran, by simp, first, rfl, fun one => ?_⟩
    have held := one.held (by simp) 0 first
    cases held

end CrowAgent
