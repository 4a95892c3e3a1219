import Mathlib.Data.List.Basic
import Mathlib.Logic.Relation

/-!
# Threads over a shared state

A `System` says what a thread does in its next critical section, with a choice that is made for it,
and what happens to the shared state besides.  A schedule orders these steps in any way, and new
threads may start at any time.  `Reaches.invariant` is the rule for what holds of the whole pool, and
`Keeps.reaches` the rule for what holds of the state and of each thread by itself, whatever the others
do.
-/

namespace Threads

variable {σ τ κ χ ε : Type}

structure System (σ τ κ χ ε : Type) : Type where
  /-- A thread that makes a call. -/
  begins : κ → τ
  /-- The next step of a thread, if it can take one. -/
  act : σ → τ → χ → Option (σ × τ)
  happen : σ → ε → Option σ

/-- The shared state, and the threads in the order they were started in. -/
structure Pool (σ τ : Type) : Type where
  shared : σ
  threads : List τ
  deriving DecidableEq

inductive Action (κ χ ε : Type) : Type
  | start (call : κ)
  | act (index : Nat) (choice : χ)
  | happen (event : ε)

namespace System

variable (system : System σ τ κ χ ε)

def step (pool : Pool σ τ) : Action κ χ ε → Option (Pool σ τ)
  | .start call => some { pool with threads := pool.threads ++ [system.begins call] }
  | .act index choice =>
    pool.threads[index]?.bind fun thread =>
      (system.act pool.shared thread choice).map fun (shared, thread) =>
        ⟨shared, pool.threads.set index thread⟩
  | .happen event => (system.happen pool.shared event).map fun shared => { pool with shared }

/-- The pool after a schedule of permitted steps. -/
def run (permitted : Pool σ τ → Action κ χ ε → Prop)
    [∀ pool action, Decidable (permitted pool action)] (pool : Pool σ τ) :
    List (Action κ χ ε) → Option (Pool σ τ)
  | [] => some pool
  | action :: rest =>
    if permitted pool action then
      (system.step pool action).bind fun next => run permitted next rest
    else none

/-- What a pool comes to by steps that are permitted. -/
def Reaches (permitted : Pool σ τ → Action κ χ ε → Prop) : Pool σ τ → Pool σ τ → Prop :=
  Relation.ReflTransGen fun before after =>
    ∃ action, permitted before action ∧ system.step before action = some after

end System

variable {system : System σ τ κ χ ε} {permitted : Pool σ τ → Action κ χ ε → Prop}
  {start pool : Pool σ τ}

/-- A schedule leads where its run ends. -/
theorem reaches_of_run [∀ pool action, Decidable (permitted pool action)]
    {actions : List (Action κ χ ε)} (ran : system.run permitted start actions = some pool) :
    system.Reaches permitted start pool := by
  induction actions generalizing start with
  | nil =>
    obtain rfl := Option.some.inj ran
    exact .refl
  | cons action rest ih =>
    rw [System.run] at ran
    split at ran
    · rename_i isPermitted
      obtain ⟨next, stepped, ran⟩ := Option.bind_eq_some_iff.mp ran
      exact .head ⟨action, isPermitted, stepped⟩ (ih ran)
    · cases ran

/-- The next step of a thread. -/
theorem step_act_eq_some {index : Nat} {choice : χ} :
    system.step start (.act index choice) = some pool ↔
      ∃ thread shared thread', start.threads[index]? = some thread ∧
        system.act start.shared thread choice = some (shared, thread') ∧
        pool = ⟨shared, start.threads.set index thread'⟩ := by
  rw [System.step, Option.bind_eq_some_iff]
  constructor
  · intro stepped
    obtain ⟨thread, here, stepped⟩ := stepped
    obtain ⟨⟨shared, thread'⟩, acted, rfl⟩ := Option.map_eq_some_iff.mp stepped
    exact ⟨thread, shared, thread', here, acted, rfl⟩
  · intro stepped
    obtain ⟨thread, shared, thread', here, acted, rfl⟩ := stepped
    exact ⟨thread, here, Option.map_eq_some_iff.mpr ⟨_, acted, rfl⟩⟩

/-- **Invariant rule.**  What every permitted step keeps holds wherever the pool comes. -/
theorem Reaches.invariant {P : Pool σ τ → Prop} (first : P start)
    (keeps : ∀ before action after, permitted before action →
      system.step before action = some after → P before → P after)
    (reaches : system.Reaches permitted start pool) : P pool := by
  induction reaches with
  | refl => exact first
  | tail _ stepped ih =>
    obtain ⟨action, isPermitted, stepped⟩ := stepped
    exact keeps _ action _ isPermitted stepped ih

/-- What holds of the state and of each thread is kept by a thread's own steps, by those of the other
threads, and by what happens besides. -/
structure Keeps (system : System σ τ κ χ ε) (permitted : Pool σ τ → Action κ χ ε → Prop)
    (I : σ → Prop) (J : σ → τ → Prop) : Prop where
  begins : ∀ shared call, I shared → J shared (system.begins call)
  acts : ∀ (pool : Pool σ τ) (index : Nat) (choice : χ) (thread : τ) (shared : σ) (thread' : τ),
    permitted pool (.act index choice) → pool.threads[index]? = some thread →
    system.act pool.shared thread choice = some (shared, thread') → I pool.shared →
    J pool.shared thread → I shared ∧ J shared thread' ∧
      ∀ other, J pool.shared other → J shared other
  happens : ∀ (pool : Pool σ τ) (event : ε) (shared : σ), permitted pool (.happen event) →
    system.happen pool.shared event = some shared → I pool.shared →
    I shared ∧ ∀ other, J pool.shared other → J shared other

/-- **Rule for each thread.** -/
theorem Keeps.reaches {I : σ → Prop} {J : σ → τ → Prop} (keeps : Keeps system permitted I J)
    (shared : I start.shared) (each : ∀ thread ∈ start.threads, J start.shared thread)
    (reaches : system.Reaches permitted start pool) :
    I pool.shared ∧ ∀ thread ∈ pool.threads, J pool.shared thread := by
  refine Reaches.invariant
    (P := fun pool => I pool.shared ∧ ∀ thread ∈ pool.threads, J pool.shared thread)
    ⟨shared, each⟩ ?_ reaches
  intro before action after isPermitted stepped holds
  obtain ⟨shared, each⟩ := holds
  cases action with
  | start call =>
    obtain rfl := Option.some.inj stepped
    refine ⟨shared, fun thread mem => ?_⟩
    rcases List.mem_append.mp mem with earlier | last
    · exact each thread earlier
    · rw [List.mem_singleton.mp last]
      exact keeps.begins _ call shared
  | act index choice =>
    obtain ⟨thread, shared', thread', here, acted, rfl⟩ := step_act_eq_some.mp stepped
    obtain ⟨kept, own, others⟩ := keeps.acts before index choice thread shared' thread' isPermitted
      here acted shared (each thread (List.mem_of_getElem? here))
    refine ⟨kept, fun other mem => ?_⟩
    rcases List.mem_or_eq_of_mem_set mem with mem | rfl
    · exact others other (each other mem)
    · exact own
  | happen event =>
    obtain ⟨shared', happened, rfl⟩ := Option.map_eq_some_iff.mp stepped
    obtain ⟨kept, others⟩ := keeps.happens before event shared' isPermitted happened shared
    exact ⟨kept, fun other mem => others other (each other mem)⟩

end Threads
