import Mathlib.Algebra.BigOperators.Group.List.Basic
import Mathlib.Algebra.Order.BigOperators.Group.List
import Mathlib.Algebra.Order.Ring.Int

/-!
# Fixed windows

A limit on what is admitted in each window, where a new window opens only when the last one is over.
Times and weights are natural numbers.

* `Metered`: what such windows give, without the state that counts.
* `Metered.weight_le`: an interval shorter than a window meets at most two of them.
* `Counts`: the state that counts, with a rule for each thing that can happen to it.
-/

namespace FixedWindow

/-- Something admitted: the window it is counted in, when, and how much. -/
structure Admission : Type where
  window : ℕ
  time : ℕ
  weight : ℕ
  deriving DecidableEq, Repr

/-- The weight of the admissions with a property. -/
def weight (p : Admission → Bool) (admitted : List Admission) : ℕ :=
  ((admitted.filter p).map (·.weight)).sum

variable {p q r : Admission → Bool} {a b : Admission} {admitted : List Admission}
  {period limit openedAt used time amount now : ℕ}

@[simp] theorem weight_nil : weight p [] = 0 := rfl

theorem weight_cons :
    weight p (a :: admitted) = (if p a then a.weight else 0) + weight p admitted := by
  unfold weight
  cases holds : p a <;> simp [holds]

theorem weight_append_singleton :
    weight p (admitted ++ [a]) = weight p admitted + if p a then a.weight else 0 := by
  unfold weight
  cases holds : p a <;> simp [List.filter_append, holds]

theorem weight_eq_zero (none : ∀ a ∈ admitted, p a = false) : weight p admitted = 0 := by
  unfold weight
  rw [List.filter_eq_nil_iff.mpr fun a mem => by simp [none a mem]]
  rfl

/-- What two properties cover is no more than both together. -/
theorem weight_le_add (covered : ∀ a ∈ admitted, p a = true → q a = true ∨ r a = true) :
    weight p admitted ≤ weight q admitted + weight r admitted := by
  induction admitted with
  | nil => exact Nat.zero_le _
  | cons a admitted ih =>
    have rest := ih fun b mem => covered b (List.mem_cons_of_mem a mem)
    have head := covered a List.mem_cons_self
    rw [weight_cons, weight_cons, weight_cons]
    cases holds : p a with
    | false => simp only [Bool.false_eq_true, if_false]; omega
    | true =>
      rcases head holds with inQ | inR
      · simp only [inQ, if_true]
        omega
      · simp only [inR, if_true]
        omega

theorem weight_mono (covered : ∀ a ∈ admitted, p a = true → q a = true) :
    weight p admitted ≤ weight q admitted := by
  have le := weight_le_add (r := fun _ => false) fun a mem holds => .inl (covered a mem holds)
  rwa [weight_eq_zero (p := fun _ => false) fun _ _ => rfl] at le

/-! ## Metered admissions -/

/-- Admissions lie in their windows, windows lie a period apart, and none exceeds the limit. -/
structure Metered (period limit : ℕ) (admitted : List Admission) : Prop where
  inside : ∀ a ∈ admitted, a.window ≤ a.time ∧ a.time < a.window + period
  spaced : ∀ a ∈ admitted, ∀ b ∈ admitted, a.window < b.window → a.window + period ≤ b.window
  bounded : ∀ window, weight (·.window = window) admitted ≤ limit

/-- **Two windows.**  An interval shorter than a period meets at most two windows. -/
theorem Metered.weight_le (metered : Metered period limit admitted) {start stop : ℕ}
    (short : stop < start + period) :
    weight (fun a => start ≤ a.time ∧ a.time ≤ stop) admitted ≤ 2 * limit := by
  by_cases two : ∃ a ∈ admitted, ∃ b ∈ admitted, start ≤ a.time ∧ b.time ≤ stop ∧
      a.time ≤ stop ∧ start ≤ b.time ∧ a.window < b.window
  · obtain ⟨a, memA, b, memB, afterA, beforeB, beforeA, afterB, apart⟩ := two
    -- a third window would lie before, between or after these two
    have covered : ∀ c ∈ admitted, decide (start ≤ c.time ∧ c.time ≤ stop) = true →
        decide (c.window = a.window) = true ∨ decide (c.window = b.window) = true := by
      intro c memC within
      have within := of_decide_eq_true within
      have insideA := metered.inside a memA
      have insideB := metered.inside b memB
      have insideC := metered.inside c memC
      have ab := metered.spaced a memA b memB apart
      have ac := metered.spaced a memA c memC
      have ca := metered.spaced c memC a memA
      have bc := metered.spaced b memB c memC
      have cb := metered.spaced c memC b memB
      rw [decide_eq_true_iff, decide_eq_true_iff]
      omega
    have le := weight_le_add covered
    have boundA := metered.bounded a.window
    have boundB := metered.bounded b.window
    omega
  · cases within : admitted.filter (fun a => start ≤ a.time ∧ a.time ≤ stop) with
    | nil =>
      rw [weight, within]
      exact Nat.zero_le _
    | cons a rest =>
      have memA : a ∈ admitted.filter (fun a => start ≤ a.time ∧ a.time ≤ stop) :=
        within ▸ List.mem_cons_self
      have isA := List.mem_filter.mp memA
      have timeA := of_decide_eq_true isA.2
      have covered : ∀ c ∈ admitted, decide (start ≤ c.time ∧ c.time ≤ stop) = true →
          decide (c.window = a.window) = true := by
        intro c memC timeC
        have timeC := of_decide_eq_true timeC
        refine decide_eq_true ?_
        rcases Nat.lt_trichotomy c.window a.window with before | same | after
        · exact absurd ⟨c, memC, a, isA.1, timeC.1, timeA.2, timeC.2, timeA.1, before⟩ two
        · exact same
        · exact absurd ⟨a, isA.1, c, memC, timeA.1, timeC.2, timeA.2, timeC.1, after⟩ two
      have le := weight_mono covered
      have bound := metered.bounded a.window
      omega

/-! ## The state that counts -/

/-- The open window and what is used of it, beside what was admitted. -/
structure Counts (period limit openedAt used : ℕ) (admitted : List Admission) : Prop where
  metered : Metered period limit admitted
  reached : ∀ a ∈ admitted, a.window = openedAt ∨ a.window + period ≤ openedAt
  isUsed : weight (·.window = openedAt) admitted = used
  fits : used ≤ limit

theorem Counts.start (period limit openedAt : ℕ) : Counts period limit openedAt 0 [] where
  metered := ⟨nofun, nofun, fun _ => Nat.zero_le _⟩
  reached := nofun
  isUsed := rfl
  fits := Nat.zero_le _

/-- A new window opens when the last one is over. -/
theorem Counts.reopen (counts : Counts period limit openedAt used admitted) (positive : 0 < period)
    (ended : openedAt + period ≤ now) : Counts period limit now 0 admitted where
  metered := counts.metered
  reached := fun a mem => .inr (by have := counts.reached a mem; omega)
  isUsed := weight_eq_zero fun a mem => by
    have := counts.reached a mem
    exact decide_eq_false (by omega)
  fits := Nat.zero_le _

/-- What fits is admitted in the open window. -/
theorem Counts.charge (counts : Counts period limit openedAt used admitted)
    (opened : openedAt ≤ time) (within : time < openedAt + period) (fits : used + amount ≤ limit) :
    Counts period limit openedAt (used + amount) (admitted ++ [⟨openedAt, time, amount⟩]) where
  metered := by
    refine ⟨?_, ?_, fun window => ?_⟩
    · simp only [List.forall_mem_append, List.forall_mem_singleton]
      exact ⟨counts.metered.inside, opened, within⟩
    · simp only [List.forall_mem_append, List.forall_mem_singleton]
      refine ⟨fun a memA => ⟨counts.metered.spaced a memA, fun before => ?_⟩,
        fun b memB before => ?_, fun same => absurd same (lt_irrefl _)⟩
      · have := counts.reached a memA
        omega
      · have := counts.reached b memB
        omega
    · rw [weight_append_singleton]
      by_cases same : openedAt = window
      · subst same
        rw [counts.isUsed, if_pos (decide_eq_true rfl)]
        exact fits
      · rw [if_neg (by simp [same])]
        exact counts.metered.bounded window
  reached := by
    simp only [List.forall_mem_append, List.forall_mem_singleton]
    exact ⟨counts.reached, .inl trivial⟩
  isUsed := by
    rw [weight_append_singleton, counts.isUsed, if_pos (decide_eq_true rfl)]
  fits := fits

end FixedWindow
