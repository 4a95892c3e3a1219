import CrowAgent.Lib.Coroutine

/-!
# What a machine comes to

A machine that is left alone answers the calls of its task until the task ends.  `Inevitable` says
that this happens however the calls are answered, and that the end is as wanted;
`Config.Safe.inevitable` derives it from a contract when every call can be answered.
-/

namespace Coroutine

variable {sig : Signature} {W α : Type} {machine : Machine sig W α} {Q : α → W → Prop}

/-- A step of the task itself: nobody else acts and nothing is lost. -/
inductive Advance (machine : Machine sig W α) : Config sig W α → Config sig W α → Prop
  | issue {op : sig.Op} {next : sig.Res op → Prog sig α} {w w' : W}
      (begins : machine.begin op w w') :
      Advance machine (.running (.call op next), w) (.waiting op next, w')
  | resume {op : sig.Op} {next : sig.Res op → Prog sig α} {w w' : W} {answer : sig.Res op}
      (answers : machine.answer op w answer w') :
      Advance machine (.waiting op next, w) (.running (next answer), w')
  | again {value : α} {prog : Prog sig α} {w : W} (follows : machine.again value prog) :
      Advance machine (.running (.done value), w) (.running prog, w)

/-- The machine can take these steps. -/
theorem Advance.step {a b : Config sig W α} (advance : Advance machine a b) : Step machine a b := by
  cases advance with
  | issue begins => exact .issue begins
  | resume answers => exact .resume answers
  | again follows => exact .again follows

theorem Contract.meanwhile_refl (c : Contract sig W) {op : sig.Op} {w : W} :
    c.Meanwhile op w w := by
  unfold Contract.Meanwhile
  split
  · exact c.rely_refl w
  · rfl

/-- However the task goes on by itself, it comes to an end with `Q`. -/
inductive Inevitable (machine : Machine sig W α) (Q : α → W → Prop) : Config sig W α → Prop
  | done {value : α} {w : W} (holds : Q value w) : Inevitable machine Q (.running (.done value), w)
  | step {config : Config sig W α} (goes : ∃ next, Advance machine config next)
      (all : ∀ next, Advance machine config next → Inevitable machine Q next) :
      Inevitable machine Q config

/-- Where nothing follows the end, it is as wanted. -/
theorem Inevitable.of_done {value : α} {w : W}
    (inevitable : Inevitable machine Q (.running (.done value), w))
    (halts : ∀ prog, ¬machine.again value prog) : Q value w := by
  cases inevitable with
  | done holds => exact holds
  | step goes all =>
    obtain ⟨next, advance⟩ := goes
    cases advance with
    | again follows => exact absurd follows (halts _)

/-- What is inevitable happens together with what a contract says of the end. -/
theorem Inevitable.exists_end {c : Contract sig W} {L : α → W → Prop} {config : Config sig W α}
    (inevitable : Inevitable machine Q config) (same : machine.toSystem = c.sys)
    (halts : ∀ value prog w, L value w → ¬machine.again value prog)
    (safe : Config.Safe c L config) : ∃ value w, Q value w ∧ L value w := by
  induction inevitable with
  | done holds => exact ⟨_, _, holds, safe.2⟩
  | step goes all ih =>
    obtain ⟨next, advance⟩ := goes
    refine ih next advance ?_
    cases advance with
    | issue begins => exact safe.2.2 _ (same ▸ begins)
    | resume answers => exact safe.2 _ c.meanwhile_refl safe.1 _ _ (same ▸ answers)
    | again follows => exact absurd follows (halts _ _ _ safe.2)

/-- Every call can be made and is answered. -/
structure System.Responds (sys : System sig W) : Prop where
  begins : ∀ op w, ∃ w', sys.begin op w w'
  answers : ∀ op w, ∃ answer w', sys.answer op w answer w'

variable {c : Contract sig W} {L : α → W → Prop}

section

variable (same : machine.toSystem = c.sys) (responds : c.sys.Responds)
  (ends : ∀ value w, c.inv w → L value w → Inevitable machine Q (.running (.done value), w))

include same responds

/-- A call comes to what its answers come to. -/
theorem inevitable_waiting {op : sig.Op} {next : sig.Res op → Prog sig α} {w : W} (inv : c.inv w)
    (answered : c.Answered op (fun answer w' => c.inv w' →
      Inevitable machine Q (.running (next answer), w')) w) :
    Inevitable machine Q (.waiting op next, w) := by
  refine .step ?_ fun config advance => ?_
  · obtain ⟨answer, w', answers⟩ := responds.answers op w
    exact ⟨_, .resume (same ▸ answers)⟩
  · cases advance with
    | resume answers =>
      obtain ⟨inv', goes⟩ := answered w c.meanwhile_refl inv _ _ (same ▸ answers)
      exact goes inv'

include ends

/-- A program comes to what its ends come to. -/
theorem inevitable_running {p : Prog sig α} {w : W} (inv : c.inv w) (wp : p.wp c L w) :
    Inevitable machine Q (.running p, w) := by
  induction p generalizing w with
  | done value => exact ends value w inv wp
  | call op next ih =>
    refine .step ?_ fun config advance => ?_
    · obtain ⟨w', begins⟩ := responds.begins op w
      exact ⟨_, .issue (same ▸ begins)⟩
    · cases advance with
      | issue begins =>
        obtain ⟨inv', answered⟩ := wp.2 _ (same ▸ begins)
        exact inevitable_waiting same responds inv'
          (answered.mono fun answer w' _ wp' inv'' => ih answer inv'' wp')

/-- **Completion.**  What a contract says of a configuration comes to pass. -/
theorem Config.Safe.inevitable {config : Config sig W α} (safe : Config.Safe c L config) :
    Inevitable machine Q config := by
  obtain ⟨thread, w⟩ := config
  cases thread with
  | running p => exact inevitable_running same responds ends safe.1 safe.2
  | waiting op next =>
    refine inevitable_waiting same responds safe.1 ?_
    exact safe.2.mono fun answer w' inv wp _ => inevitable_running same responds ends inv wp

end

end Coroutine
