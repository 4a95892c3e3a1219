import Mathlib.Init

/-!
# Loops that run until they are left

The body of a `while` loop either leaves it with a value or goes round again, and it may stop with
an error of its own.  `rounds` goes round a given number of times at most: `rounds_of_le` says that
more rounds change nothing once the loop has been left, and `exists_rounds` is the rule of total
correctness.
-/

namespace WhileLoop

/-- What one round of a loop comes to. -/
inductive Turn (σ α : Type) : Type
  | again (state : σ)
  | leave (value : α)
  deriving DecidableEq, Repr

variable {ε σ α : Type} {body : σ → Except ε (Turn σ α)} {fuel more : Nat} {state next : σ}
  {value : α}

/-- Go round at most `fuel` times; `none` when the loop has not been left by then. -/
def rounds (body : σ → Except ε (Turn σ α)) : Nat → σ → Except ε (Option α)
  | 0, _ => .ok none
  | fuel + 1, state =>
    match body state with
    | .ok (.again next) => rounds body fuel next
    | .ok (.leave value) => .ok (some value)
    | .error e => .error e

theorem rounds_again (turn : body state = .ok (.again next)) :
    rounds body (fuel + 1) state = rounds body fuel next := by
  rw [rounds, turn]

theorem rounds_leave (turn : body state = .ok (.leave value)) :
    rounds body (fuel + 1) state = .ok (some value) := by
  rw [rounds, turn]

/-- A loop that has been left stays left. -/
theorem rounds_of_le (left : rounds body fuel state = .ok (some value)) (le : fuel ≤ more) :
    rounds body more state = .ok (some value) := by
  induction fuel generalizing state more with
  | zero => cases left
  | succ fuel ih =>
    obtain ⟨more, rfl⟩ : ∃ rest, more = rest + 1 := ⟨more - 1, by omega⟩
    cases turn : body state with
    | error e =>
      rw [rounds, turn] at left
      cases left
    | ok turned =>
      cases turned with
      | again next =>
        rw [rounds_again turn] at left ⊢
        exact ih left (by omega)
      | leave value' =>
        rw [rounds_leave turn] at left ⊢
        exact left

/-- **Total correctness.**  A body that keeps the invariant and lowers the rank whenever it goes
round again leaves the loop, in fewer rounds than the fuel. -/
theorem exists_rounds {I : σ → Prop} {Q : α → Prop} {rank : σ → Nat}
    (turns : ∀ state, I state →
      (∃ next, body state = .ok (.again next) ∧ I next ∧ rank next < rank state) ∨
        ∃ value, body state = .ok (.leave value) ∧ Q value)
    (inv : I state) (enough : rank state < fuel) :
    ∃ value, rounds body fuel state = .ok (some value) ∧ Q value := by
  induction fuel generalizing state with
  | zero => omega
  | succ fuel ih =>
    rcases turns state inv with ⟨next, turn, inv, lower⟩ | ⟨value, turn, holds⟩
    · rw [rounds_again turn]
      exact ih inv (by omega)
    · exact ⟨value, rounds_leave turn, holds⟩

end WhileLoop
