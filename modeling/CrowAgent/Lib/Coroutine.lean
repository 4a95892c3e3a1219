import Mathlib.Logic.Relation

/-!
# Coroutines

A `Prog` calls operations of a signature and goes on with their answers.  A `System` says what the
calls do to a world, and what others do to it while a task waits for an answer that it gave way for.
A `Machine` runs programs one after the other and can lose the one it is in at any step.

* `Prog.wp`: the weakest precondition of a program under a `Contract`, which fixes an invariant of
  the world, what others may change (`rely`), and what has to hold when an operation is called.
* `wp_bind`, `wp_mono`, `wp_keeps`, `wp_preserves`: the rules that proofs about programs are put
  together from.
* `Machine.MeetsWhen.sound`: what the programs of a machine are proved to do in the runs whose steps
  meet a condition holds in every configuration these runs reach.
-/

namespace Coroutine

structure Signature : Type 1 where
  Op : Type
  Res : Op → Type
  /-- Whether the caller gives way to others until the answer comes. -/
  awaits : Op → Bool

/-- A program that calls operations and goes on with their answers. -/
inductive Prog (sig : Signature) (α : Type) : Type
  | done (value : α)
  | call (op : sig.Op) (next : sig.Res op → Prog sig α)

variable {sig : Signature} {W α β : Type}

namespace Prog

def bind : Prog sig α → (α → Prog sig β) → Prog sig β
  | .done value, f => f value
  | .call op next, f => .call op fun answer => (next answer).bind f

instance : Monad (Prog sig) where
  pure := .done
  bind := Prog.bind

/-- Call an operation and return its answer. -/
def perform (op : sig.Op) : Prog sig (sig.Res op) := .call op .done

@[simp] theorem pure_eq (value : α) : (pure value : Prog sig α) = .done value := rfl

@[simp] theorem bind_eq (p : Prog sig α) (f : α → Prog sig β) : p >>= f = p.bind f := rfl

end Prog

/-- The program calls no operation but the ones of `P`. -/
def Prog.Only (P : sig.Op → Prop) : Prog sig α → Prop
  | .done _ => True
  | .call op next => P op ∧ ∀ answer, (next answer).Only P

theorem Prog.Only.bind {P : sig.Op → Prop} {p : Prog sig α} {f : α → Prog sig β}
    (first : p.Only P) (second : ∀ value, (f value).Only P) : (p.bind f).Only P := by
  induction p with
  | done value => exact second value
  | call op next ih => exact ⟨first.1, fun answer => ih answer (first.2 answer)⟩

theorem Prog.Only.mono {P P' : sig.Op → Prop} {p : Prog sig α} (only : p.Only P)
    (imp : ∀ op, P op → P' op) : p.Only P' := by
  induction p with
  | done value => trivial
  | call op next ih => exact ⟨imp op only.1, fun answer => ih answer (only.2 answer)⟩

/-- Every program calls some operations. -/
theorem Prog.only_true {p : Prog sig α} : p.Only fun _ => True := by
  induction p with
  | done value => trivial
  | call op next ih => exact ⟨trivial, ih⟩

/-- Every value the program ends in has the property. -/
def Prog.Yields (R : α → Prop) : Prog sig α → Prop
  | .done value => R value
  | .call _ next => ∀ answer, (next answer).Yields R

theorem Prog.Yields.bind {R : α → Prop} {R' : β → Prop} {p : Prog sig α} {f : α → Prog sig β}
    (first : p.Yields R) (second : ∀ value, R value → (f value).Yields R') :
    (p.bind f).Yields R' := by
  induction p with
  | done value => exact second value first
  | call op next ih => exact fun answer => ih answer (first answer)

/-- Every program ends in some values. -/
theorem Prog.yields_true {p : Prog sig α} : p.Yields fun _ => True := by
  induction p with
  | done value => trivial
  | call op next ih => exact ih

theorem Prog.Yields.mono {R R' : α → Prop} {p : Prog sig α} (yields : p.Yields R)
    (imp : ∀ value, R value → R' value) : p.Yields R' := by
  induction p with
  | done value => exact imp value yields
  | call op next ih => exact fun answer => ih answer (yields answer)

/-- What goes on after a value knows what the value is like. -/
theorem Prog.Only.bind_yields {P : sig.Op → Prop} {R : α → Prop} {p : Prog sig α}
    {f : α → Prog sig β} (first : p.Only P) (yields : p.Yields R)
    (second : ∀ value, R value → (f value).Only P) : (p.bind f).Only P := by
  induction p with
  | done value => exact second value yields
  | call op next ih => exact ⟨first.1, fun answer => ih answer (first.2 answer) (yields answer)⟩

/-! ## Running programs -/

/-- What operations do to a world. -/
structure System (sig : Signature) (W : Type) : Type where
  /-- The call is made. -/
  begin : sig.Op → W → W → Prop
  /-- The call is answered. -/
  answer : (op : sig.Op) → W → sig.Res op → W → Prop
  /-- What others do in between. -/
  env : W → W → Prop

/-- A task between two steps. -/
inductive Thread (sig : Signature) (α : Type) : Type
  | running (prog : Prog sig α)
  | waiting (op : sig.Op) (next : sig.Res op → Prog sig α)

/-- A system with a task that runs one program after the other. -/
structure Machine (sig : Signature) (W α : Type) : Type extends System sig W where
  /-- The programs that can follow one that is done. -/
  again : α → Prog sig α → Prop
  /-- The task is lost and starts over. -/
  crash : α → W → W → Prop

abbrev Config (sig : Signature) (W α : Type) : Type := Thread sig α × W

inductive Step (machine : Machine sig W α) : Config sig W α → Config sig W α → Prop
  | issue {op : sig.Op} {next : sig.Res op → Prog sig α} {w w' : W}
      (begins : machine.begin op w w') :
      Step machine (.running (.call op next), w) (.waiting op next, w')
  | resume {op : sig.Op} {next : sig.Res op → Prog sig α} {w w' : W} {answer : sig.Res op}
      (answers : machine.answer op w answer w') :
      Step machine (.waiting op next, w) (.running (next answer), w')
  | others {op : sig.Op} {next : sig.Res op → Prog sig α} {w w' : W}
      (awaits : sig.awaits op = true) (acts : machine.env w w') :
      Step machine (.waiting op next, w) (.waiting op next, w')
  | again {value : α} {prog : Prog sig α} {w : W} (follows : machine.again value prog) :
      Step machine (.running (.done value), w) (.running prog, w)
  | crash {thread : Thread sig α} {value : α} {w w' : W} (crashes : machine.crash value w w') :
      Step machine (thread, w) (.running (.done value), w')

abbrev Reach (machine : Machine sig W α) : Config sig W α → Config sig W α → Prop :=
  Relation.ReflTransGen (Step machine)

/-- The task calls no operation but the ones of `P`. -/
def Thread.Only (P : sig.Op → Prop) : Thread sig α → Prop
  | .running prog => prog.Only P
  | .waiting op next => P op ∧ ∀ answer, (next answer).Only P

/-- It goes on to do so when the programs of the machine do. -/
theorem Step.only {machine : Machine sig W α} {P : sig.Op → Prop}
    (programs : ∀ {value prog}, machine.again value prog → prog.Only P) {a b : Config sig W α}
    (only : a.1.Only P) (step : Step machine a b) : b.1.Only P := by
  cases step with
  | issue begins => exact only
  | resume answers => exact only.2 _
  | others awaits acts => exact only
  | again follows => exact programs follows
  | crash crashes => exact trivial

/-- What the machine can reach by steps that meet a condition. -/
abbrev ReachWhen (machine : Machine sig W α) (condition : Config sig W α → Config sig W α → Prop) :
    Config sig W α → Config sig W α → Prop :=
  Relation.ReflTransGen fun a b => Step machine a b ∧ condition a b

/-! ## Runs of one program -/

/-- What can happen between a call and its answer. -/
def System.Between (sys : System sig W) (op : sig.Op) (w w' : W) : Prop :=
  if sig.awaits op then Relation.ReflTransGen sys.env w w' else w' = w

/-- The program can run to its end and return the value. -/
inductive Prog.Runs (sys : System sig W) : Prog sig α → W → α → W → Prop
  | done {value : α} {w : W} : Runs sys (.done value) w value w
  | call {op : sig.Op} {next : sig.Res op → Prog sig α} {answer : sig.Res op} {value : α}
      {w w₁ w₂ w₃ w' : W} (begins : sys.begin op w w₁) (between : sys.Between op w₁ w₂)
      (answers : sys.answer op w₂ answer w₃) (rest : Runs sys (next answer) w₃ value w') :
      Runs sys (.call op next) w value w'

/-- Runs compose. -/
theorem Prog.Runs.bind {sys : System sig W} {p : Prog sig α} {f : α → Prog sig β} {value : α}
    {result : β} {w w' w'' : W} (first : p.Runs sys w value w')
    (second : (f value).Runs sys w' result w'') : (p.bind f).Runs sys w result w'' := by
  induction first with
  | done => exact second
  | call begins between answers _ ih => exact .call begins between answers (ih second)

theorem Reach.others {machine : Machine sig W α} {op : sig.Op} {next : sig.Res op → Prog sig α}
    {w w' : W} (between : machine.Between op w w') :
    Reach machine (.waiting op next, w) (.waiting op next, w') := by
  unfold System.Between at between
  split at between
  · rename_i awaits
    induction between with
    | refl => exact .refl
    | tail _ acts ih => exact ih.tail (.others awaits acts)
  · rw [between]

/-- A machine can take the runs of its program. -/
theorem Prog.Runs.reach {machine : Machine sig W β} {p : Prog sig α} {f : α → Prog sig β}
    {value : α} {w w' : W} (runs : p.Runs machine.toSystem w value w') :
    Reach machine (.running (p.bind f), w) (.running (f value), w') := by
  induction runs with
  | done => exact .refl
  | call begins between answers _ ih =>
    exact ((Relation.ReflTransGen.single (.issue begins)).trans
      ((Reach.others between).tail (.resume answers))).trans ih

/-- So it comes to the end of the program. -/
theorem Prog.Runs.reach_done {machine : Machine sig W α} {p : Prog sig α} {value : α} {w w' : W}
    (runs : p.Runs machine.toSystem w value w') :
    Reach machine (.running p, w) (.running (.done value), w') := by
  induction runs with
  | done => exact .refl
  | call begins between answers _ ih =>
    exact ((Relation.ReflTransGen.single (.issue begins)).trans
      ((Reach.others between).tail (.resume answers))).trans ih

/-- The program can run up to a call of the operation. -/
inductive Prog.LeadsTo (sys : System sig W) : Prog sig α → W → sig.Op → W → Prop
  | here {op : sig.Op} {next : sig.Res op → Prog sig α} {w : W} : LeadsTo sys (.call op next) w op w
  | call {op op' : sig.Op} {next : sig.Res op → Prog sig α} {answer : sig.Res op}
      {w w₁ w₂ w₃ w' : W} (begins : sys.begin op w w₁) (between : sys.Between op w₁ w₂)
      (answers : sys.answer op w₂ answer w₃) (rest : LeadsTo sys (next answer) w₃ op' w') :
      LeadsTo sys (.call op next) w op' w'

/-- A call of the first program is a call of the whole. -/
theorem Prog.LeadsTo.bind {sys : System sig W} {p : Prog sig α} {f : α → Prog sig β} {op : sig.Op}
    {w w' : W} (leads : p.LeadsTo sys w op w') : (p.bind f).LeadsTo sys w op w' := by
  induction leads with
  | here => exact .here
  | call begins between answers _ ih => exact .call begins between answers ih

/-- So is a call of the second program, after a run of the first. -/
theorem Prog.Runs.leadsTo {sys : System sig W} {p : Prog sig α} {f : α → Prog sig β} {value : α}
    {op : sig.Op} {w w' w'' : W} (first : p.Runs sys w value w')
    (second : (f value).LeadsTo sys w' op w'') : (p.bind f).LeadsTo sys w op w'' := by
  induction first with
  | done => exact second
  | call begins between answers _ ih => exact .call begins between answers (ih second)

/-- A system lets the calls `P` happen that another one has, and what others do in it. -/
structure System.Extends (P : sig.Op → Prop) (sys sys' : System sig W) : Prop where
  begins : ∀ {op w w'}, P op → sys.begin op w w' → sys'.begin op w w'
  answers : ∀ {op w w'} {answer : sig.Res op}, sys.answer op w answer w' →
    sys'.answer op w answer w'
  acts : ∀ {w w'}, sys.env w w' → sys'.env w w'

namespace System.Extends

variable {P : sig.Op → Prop} {sys sys' : System sig W} {p : Prog sig α} {op : sig.Op} {w w' : W}

theorem between (ext : sys.Extends P sys') (between : sys.Between op w w') :
    sys'.Between op w w' := by
  unfold System.Between at between ⊢
  split at between
  · rename_i awaits
    rw [if_pos awaits]
    exact Relation.ReflTransGen.mono (fun _ _ => ext.acts) _ _ between
  · rename_i sync
    rw [if_neg sync]
    exact between

/-- A run happens in the larger system. -/
theorem runs (ext : sys.Extends P sys') (only : p.Only P) {value : α}
    (runs : p.Runs sys w value w') : p.Runs sys' w value w' := by
  induction runs with
  | done => exact .done
  | call begun between answered _ ih =>
    exact .call (ext.begins only.1 begun) (ext.between between) (ext.answers answered)
      (ih (only.2 _))

/-- So does a run up to a call. -/
theorem leadsTo (ext : sys.Extends P sys') (only : p.Only P) (leads : p.LeadsTo sys w op w') :
    p.LeadsTo sys' w op w' := by
  induction leads with
  | here => exact .here
  | call begun between answered _ ih =>
    exact .call (ext.begins only.1 begun) (ext.between between) (ext.answers answered)
      (ih (only.2 _))

end System.Extends

/-- A machine can take its program up to the call. -/
theorem Prog.LeadsTo.reach (machine : Machine sig W α) {p : Prog sig α} {op : sig.Op} {w w' : W}
    (leads : p.LeadsTo machine.toSystem w op w') :
    ∃ next, Reach machine (.running p, w) (.running (.call op next), w') := by
  induction leads with
  | here => exact ⟨_, .refl⟩
  | call begins between answers _ ih =>
    obtain ⟨next, reached⟩ := ih
    exact ⟨next, ((Relation.ReflTransGen.single (.issue begins)).trans
      ((Reach.others between).tail (.resume answers))).trans reached⟩

/-! ## Weakest preconditions -/

/-- What the proofs about the programs of a system agree on. -/
structure Contract (sig : Signature) (W : Type) : Type where
  sys : System sig W
  /-- Holds of the world between any two steps. -/
  inv : W → Prop
  /-- Holds whenever the operation is called. -/
  pre : sig.Op → W → Prop
  /-- How others may change the world. -/
  rely : W → W → Prop
  rely_refl : ∀ w, rely w w
  rely_trans : ∀ {a b c}, rely a b → rely b c → rely a c
  env_rely : ∀ {w w'}, inv w → sys.env w w' → rely w w' ∧ inv w'

namespace Contract

variable (c : Contract sig W)

/-- What can happen between a call and its answer. -/
def Meanwhile (op : sig.Op) (w w' : W) : Prop :=
  if sig.awaits op then c.rely w w' else w' = w

/-- Any answer from here on keeps the invariant and leads to `Q`. -/
def Answered (op : sig.Op) (Q : sig.Res op → W → Prop) (w : W) : Prop :=
  ∀ w₁, c.Meanwhile op w w₁ → c.inv w₁ → ∀ answer w₂, c.sys.answer op w₁ answer w₂ →
    c.inv w₂ ∧ Q answer w₂

/-- A call of the operation is allowed, keeps the invariant, and any answer leads to `Q`. -/
def Calls (op : sig.Op) (Q : sig.Res op → W → Prop) (w : W) : Prop :=
  c.pre op w ∧ ∀ w₁, c.sys.begin op w w₁ → c.inv w₁ ∧ c.Answered op Q w₁

/-- A relation that every step keeps to while only the operations `P` are called. -/
structure Keeps (P : sig.Op → Prop) (R : W → W → Prop) : Prop where
  refl : ∀ w, R w w
  trans : ∀ {a b c}, R a b → R b c → R a c
  rely : ∀ {w w'}, c.rely w w' → R w w'
  begins : ∀ {op w w'}, P op → c.inv w → c.sys.begin op w w' → R w w'
  answers : ∀ {op w w'} {answer : sig.Res op}, P op → c.inv w → c.sys.answer op w answer w' → R w w'

end Contract

variable {c : Contract sig W}

/-- **Weakest precondition.**  Every call of the program is allowed, and `Q` holds at its end. -/
def Prog.wp (c : Contract sig W) : Prog sig α → (α → W → Prop) → W → Prop
  | .done value, Q => Q value
  | .call op next, Q => c.Calls op fun answer => (next answer).wp c Q

@[simp] theorem wp_done {Q : α → W → Prop} {w : W} {value : α} :
    (Prog.done value : Prog sig α).wp c Q w ↔ Q value w := Iff.rfl

theorem wp_perform {op : sig.Op} {Q : sig.Res op → W → Prop} {w : W} :
    (Prog.perform op).wp c Q w ↔ c.Calls op Q w := Iff.rfl

theorem Contract.Answered.mono {op : sig.Op} {Q Q' : sig.Res op → W → Prop} {w : W}
    (answered : c.Answered op Q w) (imp : ∀ answer w', c.inv w' → Q answer w' → Q' answer w') :
    c.Answered op Q' w := by
  intro w₁ between inv answer w₂ answers
  obtain ⟨inv', ok⟩ := answered w₁ between inv answer w₂ answers
  exact ⟨inv', imp answer w₂ inv' ok⟩

theorem Contract.Calls.mono {op : sig.Op} {Q Q' : sig.Res op → W → Prop} {w : W}
    (calls : c.Calls op Q w) (imp : ∀ answer w', c.inv w' → Q answer w' → Q' answer w') :
    c.Calls op Q' w := by
  refine ⟨calls.1, fun w₁ begins => ?_⟩
  obtain ⟨inv, answered⟩ := calls.2 w₁ begins
  exact ⟨inv, answered.mono imp⟩

/-- The rule for a call that others cannot act in. -/
theorem Contract.calls_sync {op : sig.Op} {Q : sig.Res op → W → Prop} {w : W}
    (sync : sig.awaits op = false) (allowed : c.pre op w)
    (begins : ∀ {w'}, c.sys.begin op w w' → c.inv w')
    (ok : ∀ {w₁ answer w'}, c.sys.begin op w w₁ → c.sys.answer op w₁ answer w' →
      c.inv w' ∧ Q answer w') : c.Calls op Q w := by
  refine ⟨allowed, fun w₁ begun => ⟨begins begun, ?_⟩⟩
  intro w₂ between _ answer w₃ answers
  unfold Contract.Meanwhile at between
  rw [if_neg (by simp [sync])] at between
  exact ok begun (between ▸ answers)

/-- The rule for a call that others can act in. -/
theorem Contract.calls_await {op : sig.Op} {Q : sig.Res op → W → Prop} {w : W}
    (await : sig.awaits op = true) (allowed : c.pre op w)
    (begins : ∀ {w'}, c.sys.begin op w w' → c.inv w')
    (ok : ∀ {w₁ w₂ answer w'}, c.sys.begin op w w₁ → c.rely w₁ w₂ → c.inv w₂ →
      c.sys.answer op w₂ answer w' → c.inv w' ∧ Q answer w') : c.Calls op Q w := by
  refine ⟨allowed, fun w₁ begun => ⟨begins begun, ?_⟩⟩
  intro w₂ between inv₂ answer w₃ answers
  unfold Contract.Meanwhile at between
  rw [if_pos await] at between
  exact ok begun between inv₂ answers

/-- The rule of consequence. -/
theorem wp_mono {p : Prog sig α} {Q Q' : α → W → Prop} {w : W} (inv : c.inv w)
    (wp : p.wp c Q w) (imp : ∀ value w', c.inv w' → Q value w' → Q' value w') :
    p.wp c Q' w := by
  induction p generalizing w with
  | done value => exact imp value w inv wp
  | call op next ih =>
    exact wp.mono fun answer w' inv' wp' => ih answer inv' wp'

/-- The rule of composition. -/
theorem wp_bind {p : Prog sig α} {f : α → Prog sig β} {Q : β → W → Prop} {w : W} :
    (p.bind f).wp c Q w ↔ p.wp c (fun value => (f value).wp c Q) w := by
  induction p generalizing w with
  | done value => rfl
  | call op next ih =>
    simp only [Prog.bind, Prog.wp]
    rw [funext₂ fun answer w' => propext (ih answer)]

/-- A postcondition can be weakened. -/
theorem wp_imp {p : Prog sig α} {Q Q' : α → W → Prop} {w : W} (wp : p.wp c Q w)
    (imp : ∀ value w', Q value w' → Q' value w') : p.wp c Q' w := by
  induction p generalizing w with
  | done value => exact imp value w wp
  | call op next ih => exact Contract.Calls.mono wp fun answer _ _ wp' => ih answer wp'

/-- The postcondition can say what the value is like. -/
theorem wp_yields {R : α → Prop} {p : Prog sig α} (yields : p.Yields R) {Q : α → W → Prop} {w : W}
    (wp : p.wp c Q w) : p.wp c (fun value w' => R value ∧ Q value w') w := by
  induction p generalizing w with
  | done value => exact ⟨yields, wp⟩
  | call op next ih =>
    exact Contract.Calls.mono wp fun answer _ _ wp' => ih answer (yields answer) wp'

/-- What holds at the end for two reasons holds for both. -/
theorem wp_and {p : Prog sig α} {Q Q' : α → W → Prop} {w : W} (first : p.wp c Q w)
    (second : p.wp c Q' w) : p.wp c (fun value w' => Q value w' ∧ Q' value w') w := by
  induction p generalizing w with
  | done value => exact ⟨first, second⟩
  | call op next ih =>
    refine ⟨first.1, fun w₁ begins => ⟨(first.2 w₁ begins).1, fun w₂ between inv answer w₃ answers =>
      ?_⟩⟩
    obtain ⟨inv₃, ends⟩ := (first.2 w₁ begins).2 w₂ between inv answer w₃ answers
    obtain ⟨-, ends'⟩ := (second.2 w₁ begins).2 w₂ between inv answer w₃ answers
    exact ⟨inv₃, ih answer ends ends'⟩

/-- Calls keep to what every step keeps to. -/
theorem Contract.Calls.keeps {P : sig.Op → Prop} {R : W → W → Prop} (keeps : c.Keeps P R)
    {op : sig.Op} (only : P op) {Q : sig.Res op → W → Prop} {w : W} (inv : c.inv w)
    (calls : c.Calls op Q w) : c.Calls op (fun answer w' => R w w' ∧ Q answer w') w := by
  refine ⟨calls.1, fun w₁ begins => ?_⟩
  obtain ⟨inv₁, answered⟩ := calls.2 w₁ begins
  refine ⟨inv₁, fun w₂ between inv₂ answer w₃ answers => ?_⟩
  obtain ⟨inv₃, ok⟩ := answered w₂ between inv₂ answer w₃ answers
  have waits : R w₁ w₂ := by
    unfold Contract.Meanwhile at between
    split at between
    · exact keeps.rely between
    · rw [between]
      exact keeps.refl w₁
  exact ⟨inv₃, keeps.trans (keeps.begins only inv begins)
    (keeps.trans waits (keeps.answers only inv₂ answers)), ok⟩

/-- **Frame.**  A program keeps to what the steps of the operations it calls keep to. -/
theorem wp_keeps {P : sig.Op → Prop} {R : W → W → Prop} (keeps : c.Keeps P R) {p : Prog sig α}
    (only : p.Only P) {Q : α → W → Prop} {w : W} (inv : c.inv w) (wp : p.wp c Q w) :
    p.wp c (fun value w' => R w w' ∧ Q value w') w := by
  induction p generalizing w with
  | done value => exact ⟨keeps.refl w, wp⟩
  | call op next ih =>
    refine (Contract.Calls.keeps keeps only.1 inv wp).mono ?_
    intro answer w' inv' after
    obtain ⟨before, wp'⟩ := after
    refine wp_mono inv' (ih answer (only.2 answer) inv' wp') ?_
    intro value w'' _ after
    exact ⟨keeps.trans before after.1, after.2⟩

/-- A local invariant: it lets a program call the operations `P`, and neither they nor others break
it. -/
structure Contract.Preserves (c : Contract sig W) (P : sig.Op → Prop) (I : W → Prop) : Prop where
  rely : ∀ {w w'}, c.inv w → I w → c.rely w w' → I w'
  pre : ∀ {op w}, P op → c.inv w → I w → c.pre op w
  begins : ∀ {op w w'}, P op → c.inv w → I w → c.sys.begin op w w' → c.inv w' ∧ I w'
  answers : ∀ {op w w'} {answer : sig.Res op}, P op → c.inv w → I w →
    c.sys.answer op w answer w' → c.inv w' ∧ I w'

/-- It lets a program call fewer operations. -/
theorem Contract.Preserves.mono {P P' : sig.Op → Prop} {I : W → Prop} (preserves : c.Preserves P I)
    (imp : ∀ op, P' op → P op) : c.Preserves P' I where
  rely := preserves.rely
  pre := fun only => preserves.pre (imp _ only)
  begins := fun only => preserves.begins (imp _ only)
  answers := fun only => preserves.answers (imp _ only)

/-- Two local invariants are one. -/
theorem Contract.Preserves.and {P : sig.Op → Prop} {I I' : W → Prop} (first : c.Preserves P I)
    (second : c.Preserves P I') : c.Preserves P fun w => I w ∧ I' w where
  rely := fun inv holds changed => ⟨first.rely inv holds.1 changed, second.rely inv holds.2 changed⟩
  pre := fun only inv holds => first.pre only inv holds.1
  begins := fun only inv holds begins =>
    have kept := first.begins only inv holds.1 begins
    ⟨kept.1, kept.2, (second.begins only inv holds.2 begins).2⟩
  answers := fun only inv holds answers =>
    have kept := first.answers only inv holds.1 answers
    ⟨kept.1, kept.2, (second.answers only inv holds.2 answers).2⟩

/-- **Local invariants.**  A program that calls nothing but the operations `P` keeps an invariant
that lets it. -/
theorem wp_preserves {P : sig.Op → Prop} {I : W → Prop} (preserves : c.Preserves P I)
    {p : Prog sig α} (only : p.Only P) {w : W} (inv : c.inv w) (holds : I w) :
    p.wp c (fun _ => I) w := by
  induction p generalizing w with
  | done value => exact holds
  | call op next ih =>
    refine ⟨preserves.pre only.1 inv holds, fun w₁ begins => ?_⟩
    obtain ⟨inv₁, holds₁⟩ := preserves.begins only.1 inv holds begins
    refine ⟨inv₁, fun w₂ between inv₂ answer w₃ answers => ?_⟩
    have holds₂ : I w₂ := by
      unfold Contract.Meanwhile at between
      split at between
      · exact preserves.rely inv₁ holds₁ between
      · rw [between]
        exact holds₁
    obtain ⟨inv₃, holds₃⟩ := preserves.answers only.1 inv₂ holds₂ answers
    exact ⟨inv₃, ih answer (only.2 answer) inv₃ holds₃⟩

/-- So does a call. -/
theorem Contract.Preserves.calls {P : sig.Op → Prop} {I : W → Prop} (preserves : c.Preserves P I)
    {op : sig.Op} (only : P op) {w : W} (inv : c.inv w) (holds : I w) :
    c.Calls op (fun _ => I) w := by
  have performs : (Prog.perform op : Prog sig (sig.Res op)).Only P := ⟨only, fun _ => trivial⟩
  exact wp_perform.mp (wp_preserves preserves performs inv holds)

/-- Others keep to what they may do, however many steps they take. -/
theorem Contract.rely_of_steps {w w' : W} (inv : c.inv w)
    (steps : Relation.ReflTransGen c.sys.env w w') : c.rely w w' ∧ c.inv w' := by
  induction steps with
  | refl => exact ⟨c.rely_refl w, inv⟩
  | tail _ step ih =>
    obtain ⟨changed, inv'⟩ := c.env_rely ih.2 step
    exact ⟨c.rely_trans ih.1 changed, inv'⟩

theorem Contract.meanwhile_of_between {op : sig.Op} {w w' : W} (inv : c.inv w)
    (between : c.sys.Between op w w') : c.Meanwhile op w w' ∧ c.inv w' := by
  unfold System.Between at between
  unfold Contract.Meanwhile
  split at between
  · rename_i awaits
    rw [if_pos awaits]
    exact c.rely_of_steps inv between
  · rename_i sync
    rw [if_neg sync]
    exact ⟨between, between ▸ inv⟩

/-- What is proved of a program holds at the end of each of its runs. -/
theorem Prog.Runs.wp {p : Prog sig α} {Q : α → W → Prop} {value : α} {w w' : W}
    (runs : p.Runs c.sys w value w') (inv : c.inv w) (wp : p.wp c Q w) : c.inv w' ∧ Q value w' := by
  induction runs with
  | done => exact ⟨inv, wp⟩
  | @call op next answer value w w₁ w₂ w₃ w' begins between answers _ ih =>
    obtain ⟨inv₁, answered⟩ := wp.2 w₁ begins
    obtain ⟨meanwhile, inv₂⟩ := c.meanwhile_of_between inv₁ between
    obtain ⟨inv₃, rest⟩ := answered w₂ meanwhile inv₂ answer w₃ answers
    exact ih inv₃ rest

/-- What is proved of a program holds wherever its runs lead. -/
theorem Prog.LeadsTo.wp {p : Prog sig α} {Q : α → W → Prop} {op : sig.Op} {w w' : W}
    (leads : p.LeadsTo c.sys w op w') (inv : c.inv w) (wp : p.wp c Q w) :
    c.inv w' ∧ c.pre op w' := by
  induction leads with
  | here => exact ⟨inv, wp.1⟩
  | @call op op' next answer w w₁ w₂ w₃ w' begins between answers _ ih =>
    obtain ⟨inv₁, answered⟩ := wp.2 w₁ begins
    obtain ⟨meanwhile, inv₂⟩ := c.meanwhile_of_between inv₁ between
    obtain ⟨inv₃, rest⟩ := answered w₂ meanwhile inv₂ answer w₃ answers
    exact ih inv₃ rest

/-- The contract of a system whose others keep the invariant, and may do what they do. -/
def Contract.ofSystem (sys : System sig W) (inv : W → Prop) (pre : sig.Op → W → Prop)
    (stable : ∀ {w w'}, inv w → sys.env w w' → inv w') : Contract sig W where
  sys
  inv
  pre
  rely := Relation.ReflTransGen sys.env
  rely_refl := fun _ => .refl
  rely_trans := fun first second => first.trans second
  env_rely := fun inv acts => ⟨.single acts, stable inv acts⟩

/-- What each step of others keeps under an invariant, all of their steps keep. -/
theorem System.steps_keep {sys : System sig W} {inv I : W → Prop}
    (stable : ∀ {w w'}, inv w → sys.env w w' → inv w')
    (keeps : ∀ {w w'}, inv w → I w → sys.env w w' → I w') {w w' : W} (holds : inv w) (local' : I w)
    (steps : Relation.ReflTransGen sys.env w w') : I w' := by
  have both : inv w' ∧ I w' := by
    induction steps with
    | refl => exact ⟨holds, local'⟩
    | tail _ acts ih => exact ⟨stable ih.1 acts, keeps ih.1 ih.2 acts⟩
  exact both.2

/-! ## Soundness -/

/-- What a contract says of a configuration, `L` being what holds between two programs. -/
def Config.Safe (c : Contract sig W) (L : α → W → Prop) : Config sig W α → Prop
  | (.running p, w) => c.inv w ∧ p.wp c L w
  | (.waiting op next, w) => c.inv w ∧ c.Answered op (fun answer => (next answer).wp c L) w

/-- What holds while a call waits for its answer. -/
def Config.During (during : sig.Op → W → Prop) : Config sig W α → Prop
  | (.running _, _) => True
  | (.waiting op _, w) => during op w

/-- The programs of a machine meet a contract in the runs whose steps meet a condition. -/
structure Machine.MeetsWhen (machine : Machine sig W α)
    (condition : Config sig W α → Config sig W α → Prop) (c : Contract sig W)
    (during : sig.Op → W → Prop) (L : α → W → Prop) : Prop where
  begins : ∀ {op} {next : sig.Res op → Prog sig α} {w w'}, machine.begin op w w' →
    condition (.running (.call op next), w) (.waiting op next, w') → c.sys.begin op w w'
  answers : ∀ {op} {next : sig.Res op → Prog sig α} {answer w w'}, machine.answer op w answer w' →
    condition (.waiting op next, w) (.running (next answer), w') → c.sys.answer op w answer w'
  others : ∀ {op} {next : sig.Res op → Prog sig α} {w w'}, machine.env w w' →
    condition (.waiting op next, w) (.waiting op next, w') → c.sys.env w w'
  waits : ∀ {op w w'}, c.inv w → c.pre op w → c.sys.begin op w w' → during op w'
  lasts : ∀ {op w w'}, c.inv w → during op w → c.sys.env w w' → during op w'
  again : ∀ {value prog w}, c.inv w → L value w → machine.again value prog → prog.wp c L w
  crash : ∀ {thread value w w'}, Config.Safe c L (thread, w) → Config.During during (thread, w) →
    machine.crash value w w' → condition (thread, w) (.running (.done value), w') →
    c.inv w' ∧ L value w'

variable {machine : Machine sig W α} {L : α → W → Prop} {during : sig.Op → W → Prop}
  {condition : Config sig W α → Config sig W α → Prop}

theorem Config.Safe.inv {config : Config sig W α} (safe : Config.Safe c L config) :
    c.inv config.2 := by
  obtain ⟨thread, w⟩ := config
  cases thread with
  | running p => exact safe.1
  | waiting op next => exact safe.1

/-- A call that is about to be made is allowed. -/
theorem Config.Safe.pre {op : sig.Op} {next : sig.Res op → Prog sig α} {w : W}
    (safe : Config.Safe c L (.running (.call op next), w)) : c.pre op w := safe.2.1

/-- **Step.**  Every step that meets the condition keeps what the contract says. -/
theorem Machine.MeetsWhen.step (meets : machine.MeetsWhen condition c during L)
    {a b : Config sig W α} (safe : Config.Safe c L a) (waiting : Config.During during a)
    (step : Step machine a b) (meant : condition a b) :
    Config.Safe c L b ∧ Config.During during b := by
  cases step with
  | issue begins =>
    have began := meets.begins begins meant
    obtain ⟨inv, wp⟩ := safe
    exact ⟨wp.2 _ began, meets.waits inv wp.1 began⟩
  | @resume op next w w' answer answers =>
    obtain ⟨inv, answered⟩ := safe
    refine ⟨answered w ?_ inv answer w' (meets.answers answers meant), trivial⟩
    unfold Contract.Meanwhile
    split
    · exact c.rely_refl w
    · rfl
  | @others op next w w' awaits acts =>
    have acts := meets.others acts meant
    obtain ⟨inv, answered⟩ := safe
    obtain ⟨changed, inv'⟩ := c.env_rely inv acts
    refine ⟨⟨inv', fun w₁ between => answered w₁ ?_⟩, meets.lasts inv waiting acts⟩
    simp only [Contract.Meanwhile, awaits, if_true] at between ⊢
    exact c.rely_trans changed between
  | again follows => exact ⟨⟨safe.1, meets.again safe.1 safe.2 follows⟩, trivial⟩
  | crash crashes => exact ⟨meets.crash safe waiting crashes meant, trivial⟩

/-- **Soundness.**  What the programs of a machine are proved to do holds in every configuration
that the machine reaches by steps that meet the condition. -/
theorem Machine.MeetsWhen.sound (meets : machine.MeetsWhen condition c during L)
    {start config : Config sig W α} (safe : Config.Safe c L start)
    (waiting : Config.During during start) (reached : ReachWhen machine condition start config) :
    Config.Safe c L config ∧ Config.During during config := by
  induction reached with
  | refl => exact ⟨safe, waiting⟩
  | tail _ step ih => exact meets.step ih.1 ih.2 step.1 step.2

/-- A machine that starts between two programs. -/
theorem Machine.MeetsWhen.sound_between (meets : machine.MeetsWhen condition c during L) {value : α}
    {w : W} {config : Config sig W α} (inv : c.inv w) (between : L value w)
    (reached : ReachWhen machine condition (.running (.done value), w) config) :
    Config.Safe c L config ∧ Config.During during config := by
  have start : Config.Safe c L (.running (.done value), w) := ⟨inv, between⟩
  exact meets.sound start trivial reached

/-- The programs of a machine meet a contract in all runs. -/
structure Machine.Meets (machine : Machine sig W α) (c : Contract sig W) (L : α → W → Prop) :
    Prop where
  system : machine.toSystem = c.sys
  again : ∀ {value prog w}, c.inv w → L value w → machine.again value prog → prog.wp c L w
  crash : ∀ {value w w'}, c.inv w → machine.crash value w w' → c.inv w' ∧ L value w'

theorem Machine.Meets.toWhen (meets : machine.Meets c L) :
    machine.MeetsWhen (fun _ _ => True) c (fun _ _ => True) L where
  begins := fun begins _ => meets.system ▸ begins
  answers := fun answers _ => meets.system ▸ answers
  others := fun acts _ => meets.system ▸ acts
  waits := fun _ _ _ => trivial
  lasts := fun _ _ _ => trivial
  again := meets.again
  crash := fun safe _ crashes _ => meets.crash safe.inv crashes

/-- What holds in all runs. -/
theorem Machine.Meets.sound (meets : machine.Meets c L) {start config : Config sig W α}
    (safe : Config.Safe c L start) (reached : Reach machine start config) :
    Config.Safe c L config := by
  have any : ReachWhen machine (fun _ _ => True) start config :=
    Relation.ReflTransGen.mono (fun _ _ step => ⟨step, trivial⟩) _ _ reached
  refine (meets.toWhen.sound safe ?_ any).1
  obtain ⟨thread, w⟩ := start
  cases thread <;> trivial

/-- A machine that starts between two programs. -/
theorem Machine.Meets.sound_between (meets : machine.Meets c L) {value : α} {w : W}
    {config : Config sig W α} (inv : c.inv w) (between : L value w)
    (reached : Reach machine (.running (.done value), w) config) : Config.Safe c L config := by
  have start : Config.Safe c L (.running (.done value), w) := ⟨inv, between⟩
  exact meets.sound start reached

/-! ## Calls that give way to nobody -/

/-- A call that gives way to nobody waits in the world that it was allowed in. -/
def Config.Called (c : Contract sig W) : Config sig W α → Prop
  | (.running _, _) => True
  | (.waiting op _, w) => sig.awaits op = false → ∃ w₀, c.inv w₀ ∧ c.pre op w₀ ∧ c.sys.begin op w₀ w

/-- **Step.**  Every step leads to such calls. -/
theorem Machine.Meets.called (meets : machine.Meets c L) {a b : Config sig W α}
    (safe : Config.Safe c L a) (step : Step machine a b) : Config.Called c b := by
  cases step with
  | issue begins => exact fun _ => ⟨_, safe.1, safe.2.1, meets.system ▸ begins⟩
  | resume answers => trivial
  | others awaits acts =>
    intro sync
    rw [awaits] at sync
    cases sync
  | again follows => trivial
  | crash crashes => trivial

/-- **Step.**  So does every step that meets the condition. -/
theorem Machine.MeetsWhen.called (meets : machine.MeetsWhen condition c during L)
    {a b : Config sig W α} (safe : Config.Safe c L a) (step : Step machine a b)
    (meant : condition a b) : Config.Called c b := by
  cases step with
  | issue begins => exact fun _ => ⟨_, safe.1, safe.2.1, meets.begins begins meant⟩
  | resume answers => trivial
  | others awaits acts =>
    intro sync
    rw [awaits] at sync
    cases sync
  | again follows => trivial
  | crash crashes => trivial

end Coroutine
