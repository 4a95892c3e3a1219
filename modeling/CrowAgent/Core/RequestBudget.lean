import CrowAgent.Core.Hyperliquid
import CrowAgent.Lib.FixedWindow

/-!
# Request budget

The weight of the requests that a venue client sends, counted in windows of a minute.  A window
opens at the first call after the last one is over, so requests at the end of one window and at the
start of the next lie close together.

Instants are nanoseconds of the monotonic clock.

* `consume_meters`: what is admitted in any interval shorter than a minute, at any times.
-/

namespace CrowAgent

open FixedWidth FixedWindow

def restWeightPerMinute : UInt16 := 1000

/-- `Duration::from_mins(1)`. -/
def oneMinute : Nat := 60000000000

structure RequestBudgetState : Type where
  openedAt : Nat
  used : UInt16
  deriving DecidableEq, Repr

def RequestBudgetState.new (now : Nat) : RequestBudgetState := { openedAt := now, used := 0 }

/-- A call of `consume`: its weight and what the clock reads, when `elapsed` asks it and when a new
window does. -/
structure BudgetCall : Type where
  weight : UInt16
  elapsedAt : Nat
  now : Nat
  deriving DecidableEq, Repr

variable {state : RequestBudgetState} {call : BudgetCall} {calls : List BudgetCall}
  {opened last : Nat} {taken : List Admission}

/-- A minute has passed since the window opened. -/
def RequestBudgetState.isOver (state : RequestBudgetState) (call : BudgetCall) : Bool :=
  oneMinute ≤ call.elapsedAt - state.openedAt

def RequestBudgetState.reopen (state : RequestBudgetState) (call : BudgetCall) :
    RequestBudgetState :=
  if state.isOver call then { openedAt := call.now, used := 0 } else state

/-- One call, under the lock; nothing in it can poison the lock. -/
def RequestBudgetState.consume (state : RequestBudgetState) (call : BudgetCall) :
    Except HyperliquidError Unit × RequestBudgetState :=
  let state := state.reopen call
  if restWeightPerMinute < saturatingAddU16 state.used call.weight then (.error .rateLimit, state)
  else (.ok (), { state with used := state.used + call.weight })

/-! ## Calls one after the other -/

/-- The clock does not run backwards. -/
def ClockOrdered : Nat → List BudgetCall → Prop
  | _, [] => True
  | last, call :: calls =>
    last ≤ call.elapsedAt ∧ call.elapsedAt ≤ call.now ∧ ClockOrdered call.now calls

instance : ∀ last calls, Decidable (ClockOrdered last calls)
  | _, [] => inferInstanceAs (Decidable True)
  | last, call :: calls =>
    have : Decidable (ClockOrdered call.now calls) := instDecidableClockOrdered call.now calls
    inferInstanceAs (Decidable (last ≤ call.elapsedAt ∧ call.elapsedAt ≤ call.now ∧
      ClockOrdered call.now calls))

/-- The last reading of the clock before the weight is counted. -/
def RequestBudgetState.countedAt (state : RequestBudgetState) (call : BudgetCall) : Nat :=
  if state.isOver call then call.now else call.elapsedAt

def RequestBudgetState.after (state : RequestBudgetState) (calls : List BudgetCall) :
    RequestBudgetState :=
  calls.foldl (fun state call => (state.consume call).2) state

/-- The calls that return `Ok`: their windows, times and weights. -/
def RequestBudgetState.admitted : RequestBudgetState → List BudgetCall → List Admission
  | _, [] => []
  | state, call :: calls =>
    match state.consume call with
    | (.ok (), next) =>
      ⟨next.openedAt, state.countedAt call, call.weight.toNat⟩ :: next.admitted calls
    | (.error _, next) => next.admitted calls

/-! ## One call -/

/-- A call is refused and counts nothing, or its weight fits and is added without overflow. -/
theorem RequestBudgetState.consume_cases (state : RequestBudgetState) (call : BudgetCall) :
    state.consume call = (.error .rateLimit, state.reopen call) ∨
      (state.reopen call).used.toNat + call.weight.toNat ≤ restWeightPerMinute.toNat ∧
        ((state.reopen call).used + call.weight).toNat =
          (state.reopen call).used.toNat + call.weight.toNat ∧
        state.consume call = (.ok (),
          { state.reopen call with used := (state.reopen call).used + call.weight }) := by
  have limit : restWeightPerMinute.toNat = 1000 := rfl
  have sum := toNat_saturatingAddU16 (state.reopen call).used call.weight
  unfold consume
  by_cases exceeds : restWeightPerMinute < saturatingAddU16 (state.reopen call).used call.weight
  · left
    dsimp only
    rw [if_pos exceeds]
  · right
    have fits : (saturatingAddU16 (state.reopen call).used call.weight).toNat ≤ 1000 :=
      UInt16.le_iff_toNat_le.mp (UInt16.not_lt.mp exceeds)
    refine ⟨by omega, ?_, ?_⟩
    · rw [UInt16.toNat_add, Nat.mod_eq_of_lt (by omega)]
    · dsimp only
      rw [if_neg exceeds]

/-- What was admitted is counted in the open window, which opened before the clock's last reading. -/
structure Budgeted (last : Nat) (state : RequestBudgetState) (taken : List Admission) : Prop where
  counts : Counts oneMinute restWeightPerMinute.toNat state.openedAt state.used.toNat taken
  opened : state.openedAt ≤ last

theorem Budgeted.new (opened : Nat) : Budgeted opened (.new opened) [] where
  counts := .start _ _ _
  opened := le_refl _

/-- A call starts in a window that is open at the time it is counted. -/
theorem Budgeted.reopen (budgeted : Budgeted last state taken) (later : last ≤ call.elapsedAt)
    (ordered : call.elapsedAt ≤ call.now) :
    Budgeted call.now (state.reopen call) taken ∧
      (state.reopen call).openedAt ≤ state.countedAt call ∧
      state.countedAt call < (state.reopen call).openedAt + oneMinute := by
  have minute : oneMinute = 60000000000 := rfl
  have opened := budgeted.opened
  unfold RequestBudgetState.reopen RequestBudgetState.countedAt
  cases ended : state.isOver call with
  | true =>
    have passed : oneMinute ≤ call.elapsedAt - state.openedAt := of_decide_eq_true ended
    have closed : state.openedAt + oneMinute ≤ call.now := by omega
    simp only [if_true]
    exact ⟨⟨budgeted.counts.reopen (by omega) closed, le_refl _⟩, le_refl _,
      Nat.lt_add_of_pos_right (by omega)⟩
  | false =>
    have passed : ¬oneMinute ≤ call.elapsedAt - state.openedAt := of_decide_eq_false ended
    simp only [Bool.false_eq_true, if_false]
    exact ⟨⟨budgeted.counts, by omega⟩, by omega, by omega⟩

/-! ## Runs -/

/-- **Run.**  The calls that follow are admitted in windows of the limit. -/
theorem Budgeted.metered (budgeted : Budgeted last state taken)
    (ordered : ClockOrdered last calls) :
    Metered oneMinute restWeightPerMinute.toNat (taken ++ state.admitted calls) := by
  induction calls generalizing last state taken with
  | nil =>
    rw [RequestBudgetState.admitted, List.append_nil]
    exact budgeted.counts.metered
  | cons call calls ih =>
    obtain ⟨later, now, rest⟩ := ordered
    obtain ⟨fresh, started, before⟩ := budgeted.reopen later now
    rw [RequestBudgetState.admitted]
    rcases state.consume_cases call with refused | ⟨fits, sum, counted⟩
    · rw [refused]
      exact ih fresh rest
    · rw [counted]
      have charge := fresh.counts.charge started before fits
      rw [← sum] at charge
      have charged : Budgeted call.now
          { state.reopen call with used := (state.reopen call).used + call.weight } _ :=
        ⟨charge, fresh.opened⟩
      have next := ih charged rest
      rwa [List.append_assoc, List.singleton_append] at next

/-- **Budget.**  At any times, what is admitted in an interval shorter than a minute is at most twice
the limit, what is admitted in one window is at most the limit, and no addition overflows. -/
theorem consume_meters (ordered : ClockOrdered opened calls) :
    (∀ start stop, stop < start + oneMinute →
      weight (fun a => start ≤ a.time ∧ a.time ≤ stop)
        ((RequestBudgetState.new opened).admitted calls) ≤ 2 * restWeightPerMinute.toNat) ∧
      (∀ window, weight (·.window = window) ((RequestBudgetState.new opened).admitted calls) ≤
        restWeightPerMinute.toNat) ∧
      ∀ before call after, calls = before ++ call :: after →
        (((RequestBudgetState.new opened).after before).consume call).1 = .ok () →
          (((RequestBudgetState.new opened).after before).reopen call).used.toNat +
            call.weight.toNat < 2 ^ 16 := by
  have metered := (Budgeted.new opened).metered ordered
  rw [List.nil_append] at metered
  refine ⟨fun start stop short => metered.weight_le short, metered.bounded, ?_⟩
  intro before call after _ ok
  have limit : restWeightPerMinute.toNat = 1000 := rfl
  rcases RequestBudgetState.consume_cases _ call with refused | ⟨fits, -, -⟩
  · rw [refused] at ok
    cases ok
  · omega

/-- The whole limit just before a window is over and again when the next one opens. -/
def edgeCalls : List BudgetCall :=
  [⟨1000, 59999999999, 59999999999⟩, ⟨1000, 60000000000, 60000000000⟩]

theorem consume_meters_edgeCalls :
    weight (fun a => 59000000000 ≤ a.time ∧ a.time ≤ 61000000000)
      ((RequestBudgetState.new 0).admitted edgeCalls) ≤ 2 * restWeightPerMinute.toNat :=
  (@consume_meters edgeCalls 0 (by decide)).1 _ _ (by decide)

/-- Within two seconds, twice the limit. -/
theorem weight_edgeCalls :
    ¬∀ opened calls, ClockOrdered opened calls → ∀ start stop, stop < start + oneMinute →
      weight (fun a => start ≤ a.time ∧ a.time ≤ stop)
        ((RequestBudgetState.new opened).admitted calls) ≤ restWeightPerMinute.toNat := by
  intro limited
  have edge := limited 0 edgeCalls (by decide) 59000000000 61000000000 (by decide)
  exact absurd edge (by decide)

end CrowAgent
