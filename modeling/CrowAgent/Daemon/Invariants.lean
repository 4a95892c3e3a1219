import CrowAgent.Daemon.Happenings

/-!
# Invariants of the daemon

`Kept` is what has to be shown of an invariant that the calls of a process keep one by one, and
`Kept.reaches` says that it then holds wherever the daemon comes.  Where an invariant needs more than
single calls, `wp_startUp` is the rule for the start of a process.
-/

namespace CrowAgent

open Coroutine

variable {prims : Primitives} {config : DaemonConfig} {permits : Happening → World → Prop}
  {effects : Effects} {I : World → Prop}

/-! ## Invariants of single calls -/

/-- An invariant that every call with the effects, every event and every restart keeps. -/
structure Kept (prims : Primitives) (config : DaemonConfig) (permits : Happening → World → Prop)
    (effects : Effects) (I : World → Prop) : Prop where
  process : effects.Process config
  begins : ∀ {op : Op} {w w' : World}, op.Within effects → I w → World.Begins op w w' → I w'
  answers : ∀ {op : Op} {w w' : World} {answer : op.Res}, op.Within effects → I w →
    World.Answers prims op w answer w' → I w'
  happens : ∀ {event : DaemonEvent} {w w' : World}, permits (.event event) w → I w →
    Happens prims config event w w' → I w'
  dies : ∀ {w w' : World}, permits .restart w → I w → Dies prims config w w' → I w'.restarted

namespace Kept

/-- The contract of a kept invariant. -/
def contract (kept : Kept prims config permits effects I) : Contract calls World :=
  .ofSystem (daemon prims config permits).toSystem I (fun op _ => op.Within effects)
    fun inv ⟨_, permitted, happens⟩ => kept.happens permitted inv happens

theorem preserves (kept : Kept prims config permits effects I) :
    kept.contract.Preserves (Op.Within effects) fun _ => True where
  rely := fun _ _ _ => trivial
  pre := fun within _ _ => within
  begins := fun within inv _ begins => ⟨kept.begins within inv begins.2, trivial⟩
  answers := fun within inv _ answers => ⟨kept.answers within inv answers.2, trivial⟩

theorem meets (kept : Kept prims config permits effects I) :
    (daemon prims config permits).Meets kept.contract fun _ _ => True where
  system := rfl
  again := fun inv _ next => wp_preserves kept.preserves (next.only kept.process) inv trivial
  crash := by
    rintro stage w w' inv ⟨-, permitted, last, dies, rfl⟩
    exact ⟨kept.dies permitted inv dies, trivial⟩

/-- **Invariants.**  A kept invariant holds in every configuration the daemon reaches. -/
theorem reaches (kept : Kept prims config permits effects I) {w₀ : World}
    {config' : Config calls World Stage} (start : I w₀)
    (reached : DaemonReaches prims config permits w₀ config') : I config'.2 :=
  (kept.meets.sound_between (show kept.contract.inv w₀ from start) trivial reached).inv

end Kept

/-! ## The programs of a process -/

section Programs

variable {c : Contract calls World} {L : Stage → World → Prop} {w : World}

theorem wp_request {op : Op} {Q : op.Res → World → Prop} :
    (request op).wp c Q w ↔ c.Calls op Q w := wp_perform

/-- The rule for the start of a process, by what holds until it has looked at the gate. -/
theorem wp_startUp (ofWorld : OfWorld prims c) {J : World → Prop}
    (keeps : c.Preserves (Op.Within startEffects) J) (inv : c.inv w) (holds : J w)
    (stopped : ∀ {w}, c.inv w → J w → w.gate = .stopped →
      c.Calls (.shared (.setLive (.over none))) (fun _ => L (.over none)) w)
    (live : ∀ {w}, c.inv w → J w → w.gate ≠ .stopped → c.Calls (.shared (.setLive .running))
      (fun _ => ((startSession prims config).start ()).wp c
        fun ended => (afterTurn ended.1).wp c L) w) :
    (startUp prims config).wp c L w := by
  have asks : ∀ {op : Op} {w : World}, op.Within startEffects → c.inv w → J w →
      (request op).wp c (fun _ => J) w := fun within inv holds =>
    wp_preserves keeps (only_request within) inv holds
  refine Coroutine.wp_bind.mpr (Coroutine.wp_mono inv (asks trivial inv holds) ?_)
  intro refreshToken w₁ inv₁ holds₁
  refine Coroutine.wp_bind.mpr (Coroutine.wp_mono inv₁ (asks rfl inv₁ holds₁) ?_)
  intro stored w₂ inv₂ holds₂
  cases stored with
  | error error =>
    refine Coroutine.wp_bind.mpr (Coroutine.wp_mono inv₂ (asks trivial inv₂ holds₂) ?_)
    exact fun never => never.elim
  | ok _ =>
    refine Coroutine.wp_bind.mpr (wp_request.mpr (ofWorld.calls_shared
      (keeps.pre (by exact rfl) inv₂ holds₂) inv₂ fun _ => ⟨inv₂, ?_⟩))
    change Prog.wp c (if w₂.gate = .stopped then _ else _) L w₂
    split
    · rename_i isStopped
      exact Coroutine.wp_bind.mpr (wp_request.mpr (stopped inv₂ holds₂ isStopped))
    · rename_i notStopped
      refine Coroutine.wp_bind.mpr (wp_request.mpr ((live inv₂ holds₂ notStopped).mono ?_))
      exact fun _ _ _ session => Coroutine.wp_bind.mpr session

end Programs

end CrowAgent
