import Mathlib.Data.List.Induction
import Mathlib.Data.List.Basic

/-!
# Grammars of logs

A grammar reads a log letter by letter and gets stuck at a letter that may not come.  What a log led
to depends on its letters alone, so an invariant of the letters (`Grammar.after_induction`) holds of
every log the grammar reads.
-/

structure Grammar (Q α : Type) : Type where
  start : Q
  next : Q → α → Option Q

namespace Grammar

variable {Q α : Type} {g : Grammar Q α} {log rest : List α} {letter : α} {q q' : Q}

/-- Where the letters of a log lead from a state. -/
def read (g : Grammar Q α) : Q → List α → Option Q
  | q, [] => some q
  | q, letter :: rest => (g.next q letter).bind fun q' => g.read q' rest

/-- Where a log leads. -/
def after (g : Grammar Q α) (log : List α) : Option Q := g.read g.start log

/-- Each letter of the log may come where it comes. -/
def Accepts (g : Grammar Q α) (log : List α) : Prop := (g.after log).isSome

instance : DecidablePred g.Accepts := fun log => inferInstanceAs (Decidable ((g.after log).isSome))

theorem read_append : g.read q (log ++ rest) = (g.read q log).bind fun q' => g.read q' rest := by
  induction log generalizing q with
  | nil => rfl
  | cons letter log ih =>
    rw [List.cons_append, read, read]
    cases g.next q letter with
    | none => rfl
    | some q' => exact ih

theorem after_nil : g.after [] = some g.start := rfl

theorem after_snoc : g.after (log ++ [letter]) = (g.after log).bind fun q => g.next q letter := by
  rw [after, read_append]
  refine congrArg _ (funext fun q => ?_)
  rw [read]
  cases g.next q letter <;> rfl

theorem after_snoc_of_next (read : g.after log = some q) (next : g.next q letter = some q') :
    g.after (log ++ [letter]) = some q' := by
  rw [after_snoc, read]
  exact next

/-- A log that was read can be read up to any of its letters. -/
theorem exists_next (accepts : g.Accepts (log ++ letter :: rest)) :
    ∃ q q', g.after log = some q ∧ g.next q letter = some q' ∧
      g.after (log ++ [letter]) = some q' := by
  unfold Accepts after at accepts
  rw [read_append] at accepts
  cases before : g.read g.start log with
  | none =>
    rw [before] at accepts
    cases accepts
  | some q =>
    cases next : g.next q letter with
    | none =>
      rw [before, Option.bind_some, read, next] at accepts
      cases accepts
    | some q' => exact ⟨q, q', before, next, after_snoc_of_next before next⟩

/-- The rule of induction: what holds at the start and is kept by each letter holds of every log. -/
theorem after_induction {I : List α → Q → Prop} (nil : I [] g.start)
    (snoc : ∀ {log q letter q'}, I log q → g.next q letter = some q' → I (log ++ [letter]) q')
    (read : g.after log = some q) : I log q := by
  induction log using List.reverseRecOn generalizing q with
  | nil =>
    obtain rfl := Option.some.inj read
    exact nil
  | append_singleton log letter ih =>
    have accepts : g.Accepts (log ++ [letter]) := Option.isSome_iff_exists.mpr ⟨q, read⟩
    rcases exists_next accepts with ⟨before, q', led, next, after⟩
    obtain rfl := Option.some.inj (after.symm.trans read)
    exact snoc (ih led) next

end Grammar
