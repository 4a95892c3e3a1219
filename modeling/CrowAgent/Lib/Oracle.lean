import CrowAgent.Lib.Act

/-!
# Programs that an oracle answers

An oracle answers each call from the calls that came before it.  It stands for an outside that may
answer anything, where nothing else happens in between.
-/

namespace Coroutine

/-- A call with its answer. -/
structure Exchange (sig : Signature) : Type where
  op : sig.Op
  answer : sig.Res op

abbrev Oracle (sig : Signature) : Type := List (Exchange sig) → (op : sig.Op) → sig.Res op

variable {sig : Signature} {α β ε ε' : Type} (oracle : Oracle sig)

/-- The value the program ends in, and the calls up to there in their order. -/
def Prog.consult : Prog sig α → List (Exchange sig) → α × List (Exchange sig)
  | .done value, history => (value, history)
  | .call op next, history =>
    (next (oracle history op)).consult (history ++ [⟨op, oracle history op⟩])

theorem Prog.consult_bind (p : Prog sig α) (f : α → Prog sig β) (history : List (Exchange sig)) :
    (p.bind f).consult oracle history =
      (f (p.consult oracle history).1).consult oracle (p.consult oracle history).2 := by
  induction p generalizing history with
  | done value => rfl
  | call op next ih => exact ih _ _

namespace Act

variable {ok : α → List (Exchange sig) → Prop} {err : ε → List (Exchange sig) → Prop}
  {history : List (Exchange sig)}

/-- The result of a program without local variables. -/
def consult (x : Act sig Unit ε α) (history : List (Exchange sig)) :
    Except ε α × List (Exchange sig) :=
  (((x.start ()).consult oracle history).1.1, ((x.start ()).consult oracle history).2)

/-- What holds at the end of the program, in a value or in an error. -/
def Ends (x : Act sig Unit ε α) (ok : α → List (Exchange sig) → Prop)
    (err : ε → List (Exchange sig) → Prop) (history : List (Exchange sig)) : Prop :=
  match x.consult oracle history with
  | (.ok value, history) => ok value history
  | (.error error, history) => err error history

theorem ends_pure {value : α} :
    (pure value : Act sig Unit ε α).Ends oracle ok err history ↔ ok value history := Iff.rfl

theorem ends_throw {error : ε} :
    (throw error : Act sig Unit ε α).Ends oracle ok err history ↔ err error history := Iff.rfl

theorem consult_bind (x : Act sig Unit ε α) (f : α → Act sig Unit ε β) :
    (x >>= f).consult oracle history =
      match x.consult oracle history with
      | (.ok value, history) => (f value).consult oracle history
      | (.error error, history) => (.error error, history) := by
  have unfolded : (x >>= f).start () = (x.start ()).bind fun result =>
      match result with
      | (.ok value, locals) => (f value).start locals
      | (.error error, locals) => .done (.error error, locals) := by
    change (x.start ()).bind _ = (x.start ()).bind _
    congr 1
    funext ⟨result, locals⟩
    cases result <;> rfl
  unfold consult
  rw [unfolded, Prog.consult_bind]
  cases (x.start ()).consult oracle history with
  | mk final after =>
    obtain ⟨result, locals⟩ := final
    cases result <;> rfl

/-- The rule of composition. -/
theorem ends_bind {x : Act sig Unit ε α} {f : α → Act sig Unit ε β}
    {ok : β → List (Exchange sig) → Prop} :
    (x >>= f).Ends oracle ok err history ↔
      x.Ends oracle (fun value history => (f value).Ends oracle ok err history) err history := by
  unfold Ends
  rw [consult_bind]
  cases x.consult oracle history with
  | mk result after => cases result <;> rfl

theorem ends_perform {op : sig.Op} {ok : sig.Res op → List (Exchange sig) → Prop} :
    (perform op : Act sig Unit ε (sig.Res op)).Ends oracle ok err history ↔
      ok (oracle history op) (history ++ [⟨op, oracle history op⟩]) := Iff.rfl

theorem ends_ofExcept {convert : ε' → ε} {result : Except ε' α} :
    (ofExcept convert result : Act sig Unit ε α).Ends oracle ok err history ↔
      match result with
      | .ok value => ok value history
      | .error error => err (convert error) history := by
  cases result <;> rfl

theorem ends_ofOption {error : ε} {value : Option α} :
    (ofOption error value : Act sig Unit ε α).Ends oracle ok err history ↔
      match value with
      | some value => ok value history
      | none => err error history := by
  cases value <;> rfl

theorem ends_rejectIf {condition : Prop} [Decidable condition] {error : ε}
    {ok : Unit → List (Exchange sig) → Prop} :
    (rejectIf condition error : Act sig Unit ε Unit).Ends oracle ok err history ↔
      if condition then err error history else ok () history := by
  unfold rejectIf
  split <;> rfl

/-- The rule of consequence. -/
theorem Ends.mono {x : Act sig Unit ε α} {ok' : α → List (Exchange sig) → Prop}
    {err' : ε → List (Exchange sig) → Prop} (ends : x.Ends oracle ok err history)
    (value : ∀ value history, ok value history → ok' value history)
    (error : ∀ error history, err error history → err' error history) :
    x.Ends oracle ok' err' history := by
  unfold Ends at ends ⊢
  cases result : x.consult oracle history with
  | mk final after =>
    rw [result] at ends
    cases final with
    | ok final => exact value final after ends
    | error final => exact error final after ends

end Act

end Coroutine
