import CrowAgent.Lib.Threads
import Mathlib.Data.List.Perm.Basic

/-!
# What threads own

A resource is with one thread or in the shared state: a lock that is taken or free, a value that a
thread was given and has yet to put down.  No step makes a second one of it, so a thread that owns a
resource knows that no other thread does (`total_le_one`), and what it knows of the shared state is
kept by the steps that only the owner of the resource can take.  `KeepsOwned.reaches` is the rule for
this.
-/

namespace Threads

variable {σ τ κ χ ε ρ : Type}

/-- Which resources a thread owns, and how many of each are in the shared state. -/
structure Resources (ρ σ τ : Type) : Type where
  owns : ρ → τ → Bool
  left : ρ → σ → Nat

namespace Resources

variable (resources : Resources ρ σ τ)

/-- How many there are of a resource. -/
def total (resource : ρ) (pool : Pool σ τ) : Nat :=
  pool.threads.countP (resources.owns resource) + resources.left resource pool.shared

/-- What a thread owns is nowhere else: neither in the shared state nor with the other thread. -/
def Apart (shared : σ) (thread other : τ) : Prop :=
  ∀ resource, resources.owns resource thread = true →
    resources.left resource shared = 0 ∧ resources.owns resource other = false

/-- A step of a thread makes no second one of a resource. -/
def Conserves (shared shared' : σ) (thread thread' : τ) : Prop :=
  ∀ resource, (resources.owns resource thread').toNat + resources.left resource shared' ≤
    (resources.owns resource thread).toNat + resources.left resource shared

variable {resources} {pool : Pool σ τ} {index : Nat} {thread thread' other : τ} {shared : σ}
  {resource : ρ}

/-- The threads are one of them and the others. -/
theorem perm_others (here : pool.threads[index]? = some thread) :
    pool.threads.Perm (thread :: pool.threads.eraseIdx index) := by
  rcases List.getElem?_eq_some_iff.mp here with ⟨inside, rfl⟩
  exact (List.getElem_cons_eraseIdx_perm inside).symm

theorem countP_cons {α : Type} (item : α) (items : List α) (p : α → Bool) :
    (item :: items).countP p = (p item).toNat + items.countP p := by
  rw [List.countP_cons, Nat.add_comm]
  cases p item <;> rfl

theorem total_of_thread (here : pool.threads[index]? = some thread) :
    resources.total resource pool = (resources.owns resource thread).toNat +
      (pool.threads.eraseIdx index).countP (resources.owns resource) +
        resources.left resource pool.shared := by
  rw [total, (perm_others here).countP_eq, countP_cons]

theorem total_of_act (here : pool.threads[index]? = some thread) :
    resources.total resource ⟨shared, pool.threads.set index thread'⟩ =
      (resources.owns resource thread').toNat +
        (pool.threads.eraseIdx index).countP (resources.owns resource) +
          resources.left resource shared := by
  rcases List.getElem?_eq_some_iff.mp here with ⟨inside, -⟩
  rw [total, (List.set_perm_cons_eraseIdx inside thread').countP_eq, countP_cons]

/-- Where there is one of each resource, each of two threads owns what the other does not. -/
theorem apart_of_total (single : ∀ resource, resources.total resource pool ≤ 1)
    (here : pool.threads[index]? = some thread) (mem : other ∈ pool.threads.eraseIdx index) :
    resources.Apart pool.shared thread other ∧ resources.Apart pool.shared other thread := by
  have count : ∀ resource, resources.owns resource other = true →
      0 < (pool.threads.eraseIdx index).countP (resources.owns resource) := fun resource owned =>
    List.countP_pos_iff.mpr ⟨other, mem, owned⟩
  have one : ∀ resource, (resources.owns resource thread).toNat +
      (pool.threads.eraseIdx index).countP (resources.owns resource) +
        resources.left resource pool.shared ≤ 1 :=
    fun resource => total_of_thread here ▸ single resource
  refine ⟨fun resource owned => ?_, fun resource owned => ?_⟩
  · have only := one resource
    rw [owned, Bool.toNat_true] at only
    refine ⟨by omega, Bool.eq_false_iff.mpr fun owned' => ?_⟩
    have more := count resource owned'
    omega
  · have only := one resource
    have more := count resource owned
    refine ⟨by omega, Bool.eq_false_iff.mpr fun owned' => ?_⟩
    rw [owned', Bool.toNat_true] at only
    omega

/-- A thread owns what is not left in the shared state. -/
theorem left_eq_zero (single : ∀ resource, resources.total resource pool ≤ 1)
    (here : pool.threads[index]? = some thread) (owned : resources.owns resource thread = true) :
    resources.left resource pool.shared = 0 := by
  have only := total_of_thread here ▸ single resource
  rw [owned, Bool.toNat_true] at only
  omega

end Resources

/-- What holds of the state, and of each thread as long as it owns its resources, is kept by a thread's
own steps, by those that another thread can take, and by what happens besides. -/
structure KeepsOwned (system : System σ τ κ χ ε) (permitted : Pool σ τ → Action κ χ ε → Prop)
    (resources : Resources ρ σ τ) (I : σ → Prop) (J : σ → τ → Prop) : Prop where
  begins : ∀ call, (∀ resource, resources.owns resource (system.begins call) = false) ∧
    ∀ shared, I shared → J shared (system.begins call)
  acts : ∀ {pool : Pool σ τ} {index : Nat} {choice : χ} {thread : τ} {shared : σ} {thread' : τ},
    permitted pool (.act index choice) →
    (∀ resource, resources.owns resource thread = true → resources.left resource pool.shared = 0) →
    system.act pool.shared thread choice = some (shared, thread') → I pool.shared →
    J pool.shared thread → I shared ∧ J shared thread' ∧
      resources.Conserves pool.shared shared thread thread' ∧
      ∀ other, resources.Apart pool.shared thread other → resources.Apart pool.shared other thread →
        J pool.shared other → J shared other
  happens : ∀ {pool : Pool σ τ} {event : ε} {shared : σ}, permitted pool (.happen event) →
    system.happen pool.shared event = some shared → I pool.shared →
    I shared ∧ (∀ resource, resources.left resource shared ≤ resources.left resource pool.shared) ∧
      ∀ other, J pool.shared other → J shared other

/-- **Rule for what threads own.** -/
theorem KeepsOwned.reaches {system : System σ τ κ χ ε}
    {permitted : Pool σ τ → Action κ χ ε → Prop} {resources : Resources ρ σ τ} {I : σ → Prop}
    {J : σ → τ → Prop} {start pool : Pool σ τ} (keeps : KeepsOwned system permitted resources I J)
    (shared : I start.shared) (none : start.threads = [])
    (single : ∀ resource, resources.left resource start.shared ≤ 1)
    (reaches : system.Reaches permitted start pool) :
    I pool.shared ∧ (∀ resource, resources.total resource pool ≤ 1) ∧
      ∀ thread ∈ pool.threads, J pool.shared thread := by
  refine Reaches.invariant
    (P := fun pool => I pool.shared ∧ (∀ resource, resources.total resource pool ≤ 1) ∧
      ∀ thread ∈ pool.threads, J pool.shared thread) ?_ ?_ reaches
  · rw [none]
    refine ⟨shared, fun resource => ?_, List.forall_mem_nil _⟩
    rw [Resources.total, none, List.countP_nil, Nat.zero_add]
    exact single resource
  intro before action after isPermitted stepped holds
  rcases holds with ⟨shared, single, each⟩
  cases action with
  | start call =>
    obtain rfl := Option.some.inj stepped
    rcases keeps.begins call with ⟨owns, begins⟩
    refine ⟨shared, fun resource => ?_, fun thread mem => ?_⟩
    · simpa [Resources.total, owns] using single resource
    · rcases List.mem_append.mp mem with earlier | last
      · exact each thread earlier
      · rw [List.mem_singleton.mp last]
        exact begins _ shared
  | act index choice =>
    rcases step_act_eq_some.mp stepped with ⟨thread, shared', thread', here, acted, rfl⟩
    rcases keeps.acts isPermitted (fun _ => Resources.left_eq_zero single here) acted shared
      (each thread (List.mem_of_getElem? here)) with ⟨kept, own, conserves, stays⟩
    refine ⟨kept, fun resource => ?_, fun other mem => ?_⟩
    · have one := Resources.total_of_thread here ▸ single resource
      have less := conserves resource
      rw [Resources.total_of_act here]
      omega
    · rcases List.getElem?_eq_some_iff.mp here with ⟨inside, -⟩
      have perm := List.set_perm_cons_eraseIdx inside thread'
      rcases List.mem_cons.mp (perm.subset mem) with rfl | rest
      · exact own
      · have whole := (Resources.perm_others here).symm.subset (List.mem_cons_of_mem _ rest)
        rcases Resources.apart_of_total single here rest with ⟨apart, apart'⟩
        exact stays other apart apart' (each other whole)
  | happen event =>
    rcases Option.map_eq_some_iff.mp stepped with ⟨shared', happened, rfl⟩
    rcases keeps.happens isPermitted happened shared with ⟨kept, fewer, others⟩
    refine ⟨kept, fun resource => ?_, fun other mem => others other (each other mem)⟩
    exact Nat.le_trans (Nat.add_le_add_left (fewer resource) _) (single resource)

end Threads
