import Mathlib.Data.List.Induction

/-!
# Loops that may stop

A loop over a list folds a state through a step that may stop with an error (`List.foldlM` in
`Except`).  The rules here say what holds of every state such a loop reaches: `invariant` for one
run, with the items passed so far, `stops` for the step a failing run ends at, and `congr` for two
runs whose steps agree.
-/

namespace Loop

variable {ε σ α β : Type} {step : σ → α → Except ε σ}

/-- The state a loop has reached after its first items. -/
def Reaches (step : σ → α → Except ε σ) (start : σ) (items : List α) (state : σ) : Prop :=
  items.foldlM step start = .ok state

theorem bind_eq_ok {x : Except ε α} {f : α → Except ε β} {b : β} :
    x >>= f = .ok b ↔ ∃ a, x = .ok a ∧ f a = .ok b := by
  cases x with
  | error e => simp [bind, Except.bind]
  | ok a => simp [bind, Except.bind]

theorem bind_eq_error {x : Except ε α} {f : α → Except ε β} {e : ε} :
    x >>= f = .error e ↔ x = .error e ∨ ∃ a, x = .ok a ∧ f a = .error e := by
  cases x with
  | error e => simp [bind, Except.bind]
  | ok a => simp [bind, Except.bind]

@[simp] theorem reaches_nil {start state : σ} : Reaches step start [] state ↔ start = state := by
  simp [Reaches, pure, Except.pure]

theorem reaches_cons {start state : σ} {item : α} {rest : List α} :
    Reaches step start (item :: rest) state ↔
      ∃ middle, step start item = .ok middle ∧ Reaches step middle rest state := by
  rw [Reaches, List.foldlM_cons, bind_eq_ok]
  rfl

/-- A loop goes on from the state it has reached. -/
theorem reaches_append {start state : σ} {front back : List α} :
    Reaches step start (front ++ back) state ↔
      ∃ middle, Reaches step start front middle ∧ Reaches step middle back state := by
  rw [Reaches, List.foldlM_append, bind_eq_ok]
  rfl

theorem reaches_concat {start state : σ} {front : List α} {item : α} :
    Reaches step start (front ++ [item]) state ↔
      ∃ middle, Reaches step start front middle ∧ step middle item = .ok state := by
  simp only [reaches_append, reaches_cons, reaches_nil, exists_eq_right]

/-- The state of a loop before an item it passes. -/
theorem Reaches.before {start state : σ} {items : List α} {index : Nat} {item : α}
    (reaches : Reaches step start items state) (here : items[index]? = some item) :
    ∃ before after, Reaches step start (items.take index) before ∧
      step before item = .ok after ∧ Reaches step after (items.drop (index + 1)) state := by
  obtain ⟨fits, rfl⟩ := List.getElem?_eq_some_iff.mp here
  rw [← List.take_append_drop index items, reaches_append] at reaches
  obtain ⟨before, first, rest⟩ := reaches
  rw [List.drop_eq_getElem_cons fits, reaches_cons] at rest
  obtain ⟨after, stepped, rest⟩ := rest
  exact ⟨before, after, first, stepped, rest⟩

/-- **Invariant rule.**  What holds at the start and is kept by every step holds of every state on
the way to the end.  A step may use where the loop comes from and where it goes to. -/
theorem invariant_at {P : List α → σ → Prop} {start state : σ} {items : List α} (first : P [] start)
    (keeps : ∀ passed item left before after, items = passed ++ item :: left →
      Reaches step start passed before → step before item = .ok after →
      Reaches step after left state → P passed before → P (passed ++ [item]) after)
    {passed left : List α} {middle : σ} (split : items = passed ++ left)
    (reached : Reaches step start passed middle) (rest : Reaches step middle left state) :
    P passed middle := by
  induction passed using List.reverseRecOn generalizing left middle with
  | nil => exact reaches_nil.mp reached ▸ first
  | append_singleton passed item ih =>
    obtain ⟨before, earlier, stepped⟩ := reaches_concat.mp reached
    have split : items = passed ++ item :: left := by simpa using split
    exact keeps passed item left before middle split earlier stepped rest
      (ih split earlier (reaches_cons.mpr ⟨middle, stepped, rest⟩))

/-- The invariant rule for the state a loop ends in. -/
theorem invariant {P : List α → σ → Prop} {start state : σ} {items : List α} (first : P [] start)
    (keeps : ∀ passed item left before after, items = passed ++ item :: left →
      P passed before → step before item = .ok after → P (passed ++ [item]) after)
    (reaches : Reaches step start items state) : P items state :=
  invariant_at first
    (fun passed item left before after split _ stepped _ holds =>
      keeps passed item left before after split holds stepped)
    (List.append_nil items).symm reaches (reaches_nil.mpr rfl)

/-- A relation that every step takes one further relates the two ends. -/
theorem preserved {R : σ → σ → Prop} (refl : ∀ s, R s s) (trans : ∀ {a b c}, R a b → R b c → R a c)
    {items : List α} (steps : ∀ item ∈ items, ∀ before after, step before item = .ok after →
      R before after) {start state : σ} (reaches : Reaches step start items state) :
    R start state := by
  induction items generalizing start with
  | nil => exact reaches_nil.mp reaches ▸ refl start
  | cons item rest ih =>
    obtain ⟨middle, stepped, reaches⟩ := reaches_cons.mp reaches
    exact trans (steps item List.mem_cons_self start middle stepped)
      (ih (fun other mem => steps other (List.mem_cons_of_mem _ mem)) reaches)

/-- A loop that fails has reached the state its step fails in. -/
theorem stops {start : σ} {items : List α} {e : ε} (fails : items.foldlM step start = .error e) :
    ∃ index item before, items[index]? = some item ∧ Reaches step start (items.take index) before ∧
      step before item = .error e := by
  induction items generalizing start with
  | nil => simp [pure, Except.pure] at fails
  | cons item rest ih =>
    rw [List.foldlM_cons, bind_eq_error] at fails
    rcases fails with here | ⟨middle, stepped, later⟩
    · exact ⟨0, item, start, rfl, reaches_nil.mpr rfl, here⟩
    · obtain ⟨index, other, before, there, reaches, fails⟩ := ih later
      exact ⟨index + 1, other, before, there, reaches_cons.mpr ⟨middle, stepped, reaches⟩, fails⟩

/-- A loop fails at an item its step fails at. -/
theorem fails_of_step {start before : σ} {items : List α} {index : Nat} {item : α} {e : ε}
    (here : items[index]? = some item) (reaches : Reaches step start (items.take index) before)
    (fails : step before item = .error e) : items.foldlM step start = .error e := by
  obtain ⟨fits, rfl⟩ := List.getElem?_eq_some_iff.mp here
  rw [← List.take_append_drop index items, List.foldlM_append, bind_eq_error]
  refine .inr ⟨before, reaches, ?_⟩
  rw [List.drop_eq_getElem_cons fits, List.foldlM_cons, bind_eq_error]
  exact .inl fails

/-- A traversal that succeeds has one result for each item. -/
theorem mapM_eq_ok {f : α → Except ε β} {items : List α} {results : List β}
    (ok : items.mapM f = .ok results) : results.length = items.length ∧
      ∀ (index : Nat) (result : β), results[index]? = some result →
        ∃ item, items[index]? = some item ∧ f item = .ok result := by
  induction items generalizing results with
  | nil =>
    obtain rfl : [] = results := by simpa [pure, Except.pure] using ok
    exact ⟨rfl, fun _ _ here => by cases here⟩
  | cons item items ih =>
    rw [List.mapM_cons] at ok
    obtain ⟨first, isFirst, ok⟩ := bind_eq_ok.mp ok
    obtain ⟨rest, isRest, ok⟩ := bind_eq_ok.mp ok
    obtain rfl := Except.ok.inj ok
    obtain ⟨length, each⟩ := ih isRest
    refine ⟨congrArg Nat.succ length, fun index result here => ?_⟩
    cases index with
    | zero => exact ⟨item, rfl, isFirst.trans (congrArg Except.ok (Option.some.inj here))⟩
    | succ index => exact each index result here

/-- A traversal succeeds when every item has a result. -/
theorem exists_mapM {f : α → Except ε β} {items : List α}
    (each : ∀ item ∈ items, ∃ result, f item = .ok result) :
    ∃ results, items.mapM f = .ok results := by
  induction items with
  | nil => exact ⟨[], rfl⟩
  | cons item items ih =>
    obtain ⟨first, isFirst⟩ := each item List.mem_cons_self
    obtain ⟨rest, isRest⟩ := ih fun other mem => each other (List.mem_cons_of_mem _ mem)
    refine ⟨first :: rest, ?_⟩
    rw [List.mapM_cons, isFirst]
    exact bind_eq_ok.mpr ⟨first, rfl, bind_eq_ok.mpr ⟨rest, isRest, rfl⟩⟩

/-- A loop none of whose steps stops ends in the state of the fold. -/
theorem foldlM_of_steps {next : σ → α → σ} {start : σ} {items : List α}
    (steps : ∀ item ∈ items, ∀ state, step state item = .ok (next state item)) :
    items.foldlM step start = .ok (items.foldl next start) := by
  induction items generalizing start with
  | nil => rfl
  | cons item items ih =>
    rw [List.foldlM_cons, steps item List.mem_cons_self]
    exact ih fun other mem => steps other (List.mem_cons_of_mem _ mem)

/-- Two loops over items their step cannot tell apart reach the same state. -/
theorem congr {start : σ} {items items' : List α} (length : items.length = items'.length)
    (same : ∀ (index : Nat) (item item' : α) (s : σ), items[index]? = some item →
      items'[index]? = some item' → step s item = step s item') :
    items.foldlM step start = items'.foldlM step start := by
  induction items generalizing items' start with
  | nil => rw [List.length_eq_zero_iff.mp length.symm]
  | cons item rest ih =>
    cases items' with
    | nil => cases length
    | cons item' rest' =>
      rw [List.foldlM_cons, List.foldlM_cons, same 0 item item' start rfl rfl]
      refine congrArg _ (funext fun middle => ih (Nat.succ.inj length) ?_)
      intro index a b s isA isB
      exact same (index + 1) a b s isA isB

end Loop
