import CrowAgent.Daemon.Session
import Mathlib.Algebra.Order.Ring.Int
import Mathlib.Tactic.Linarith

/-!
# The schedule of a run

A run decides at the start of the arena and every cooldown after it, while the boundary leaves room
for a whole cooldown before the end.

* `dueCycleCount_schedule`: what is due at a time are the boundaries that have come, and a session
  that starts again journals exactly those that it missed.
-/

namespace CrowAgent

open Coroutine

/-! ## Boundaries -/

/-- A time of the crate: its years have at most six digits. -/
def OffsetDateTime.InRange (time : OffsetDateTime) : Prop :=
  time.unixNanoseconds.natAbs < 10 ^ 15 * 10 ^ 9

instance (time : OffsetDateTime) : Decidable time.InRange :=
  inferInstanceAs (Decidable (_ < _))

/-- The time of a cycle. -/
def boundary (manifest : ArenaManifestV1) (decisionCooldownSeconds : UInt32) (cycleIndex : Nat) :
    OffsetDateTime :=
  { manifest.startsAt with
    unixNanoseconds := manifest.startsAt.unixNanoseconds +
      decisionCooldownSeconds.toNat * cycleIndex * 10 ^ 9 }

/-- The arena starts before it ends, and has room for the cooldown. -/
structure Scheduled (manifest : ArenaManifestV1) (decisionCooldownSeconds : UInt32) : Prop where
  startsInRange : manifest.startsAt.InRange
  endsInRange : manifest.endsAt.InRange
  starts : manifest.startsAt.unixNanoseconds < manifest.endsAt.unixNanoseconds
  cooldown : 0 < decisionCooldownSeconds
  room : manifest.startsAt.unixNanoseconds + decisionCooldownSeconds.toNat * 10 ^ 9 ≤
    manifest.endsAt.unixNanoseconds

/-- The numbers below a bound in a range. -/
theorem countP_range_lt (count bound : Nat) :
    (List.range count).countP (· < bound) = min count bound := by
  induction count with
  | zero => simp
  | succ count ih =>
    rw [List.range_succ, List.countP_append, ih, List.countP_singleton]
    split_ifs with below <;> rw [decide_eq_true_iff] at below <;> omega

section Schedule

variable {manifest : ArenaManifestV1} {decisionCooldownSeconds : UInt32} {now : OffsetDateTime}

/-- The number of cooldowns of the arena. -/
def cycleTotal (manifest : ArenaManifestV1) (decisionCooldownSeconds : UInt32) : Nat :=
  ((manifest.endsAt.unixNanoseconds - manifest.startsAt.unixNanoseconds) / 10 ^ 9 /
    decisionCooldownSeconds.toNat).toNat

/-- The arena has its cycles. -/
theorem expectedCycleCount_eq (scheduled : Scheduled manifest decisionCooldownSeconds) :
    expectedCycleCount manifest decisionCooldownSeconds =
      .ok (cycleTotal manifest decisionCooldownSeconds) := by
  have positive : 0 < decisionCooldownSeconds.toNat := UInt32.lt_iff_toNat_lt.mp scheduled.cooldown
  have room := scheduled.room
  have isDuration : wholeSeconds manifest.startsAt manifest.endsAt =
      (manifest.endsAt.unixNanoseconds - manifest.startsAt.unixNanoseconds) / 10 ^ 9 :=
    Int.tdiv_eq_ediv_of_nonneg (by omega)
  unfold expectedCycleCount cycleTotal
  rw [isDuration, if_neg (by omega), Int.tdiv_eq_ediv_of_nonneg (by omega)]

/-- A cycle of the arena starts a cooldown before the end. -/
theorem boundary_lt {cycleIndex : Nat} (scheduled : Scheduled manifest decisionCooldownSeconds)
    (inside : cycleIndex < cycleTotal manifest decisionCooldownSeconds) :
    (boundary manifest decisionCooldownSeconds cycleIndex).unixNanoseconds +
      decisionCooldownSeconds.toNat * 10 ^ 9 ≤ manifest.endsAt.unixNanoseconds := by
  have positive : 0 < decisionCooldownSeconds.toNat := UInt32.lt_iff_toNat_lt.mp scheduled.cooldown
  unfold cycleTotal at inside
  rw [Int.lt_toNat, ← Int.add_one_le_iff, Int.le_ediv_iff_mul_le (by omega),
    Int.le_ediv_iff_mul_le (by decide)] at inside
  unfold boundary
  dsimp only
  linarith

/-- It is scheduled there. -/
theorem scheduledCycleAt_eq {cycleIndex : Nat}
    (scheduled : Scheduled manifest decisionCooldownSeconds)
    (inside : cycleIndex < cycleTotal manifest decisionCooldownSeconds) :
    scheduledCycleAt manifest decisionCooldownSeconds cycleIndex =
      .ok (boundary manifest decisionCooldownSeconds cycleIndex) := by
  have positive : 0 < decisionCooldownSeconds.toNat := UInt32.lt_iff_toNat_lt.mp scheduled.cooldown
  have before := boundary_lt scheduled inside
  have starts := scheduled.startsInRange
  have ends := scheduled.endsInRange
  unfold OffsetDateTime.InRange at starts ends
  unfold boundary at before
  dsimp only at before
  have fits : decisionCooldownSeconds.toNat * cycleIndex < 2 ^ 63 := by
    zify
    omega
  have index : cycleIndex ≤ decisionCooldownSeconds.toNat * cycleIndex :=
    Nat.le_mul_of_pos_left _ positive
  exact if_neg (by omega)

/-- The boundaries that have come at a time. -/
def dueBoundaries (manifest : ArenaManifestV1) (decisionCooldownSeconds : UInt32)
    (now : OffsetDateTime) : Nat :=
  (List.range (cycleTotal manifest decisionCooldownSeconds)).countP fun cycleIndex =>
    (boundary manifest decisionCooldownSeconds cycleIndex).unixNanoseconds ≤ now.unixNanoseconds

/-- A boundary has come when enough whole cooldowns have passed. -/
theorem boundary_le_iff {cycleIndex : Nat} (cooldown : 0 < decisionCooldownSeconds) :
    (boundary manifest decisionCooldownSeconds cycleIndex).unixNanoseconds ≤ now.unixNanoseconds ↔
      cycleIndex < ((now.unixNanoseconds - manifest.startsAt.unixNanoseconds) / 10 ^ 9 /
        decisionCooldownSeconds.toNat + 1).toNat := by
  have positive : 0 < decisionCooldownSeconds.toNat := UInt32.lt_iff_toNat_lt.mp cooldown
  rw [Int.lt_toNat, Int.lt_add_one_iff, Int.le_ediv_iff_mul_le (by omega),
    Int.le_ediv_iff_mul_le (by decide)]
  unfold boundary
  dsimp only
  constructor <;> intro le <;> linarith

theorem dueBoundaries_eq (cooldown : 0 < decisionCooldownSeconds) :
    dueBoundaries manifest decisionCooldownSeconds now =
      min (cycleTotal manifest decisionCooldownSeconds)
        ((now.unixNanoseconds - manifest.startsAt.unixNanoseconds) / 10 ^ 9 /
          decisionCooldownSeconds.toNat + 1).toNat := by
  rw [← countP_range_lt, dueBoundaries]
  exact List.countP_congr fun cycleIndex _ => by
    rw [decide_eq_true_iff, decide_eq_true_iff, boundary_le_iff cooldown]

/-- What is due at a time are the boundaries that have come. -/
theorem dueCycleCount_eq (scheduled : Scheduled manifest decisionCooldownSeconds) :
    dueCycleCount manifest decisionCooldownSeconds now =
      .ok (dueBoundaries manifest decisionCooldownSeconds now) := by
  have positive : 0 < decisionCooldownSeconds.toNat :=
    UInt32.lt_iff_toNat_lt.mp scheduled.cooldown
  have ordered := scheduled.starts
  rw [dueBoundaries_eq scheduled.cooldown]
  simp only [dueCycleCount, expectedCycleCount_eq scheduled, bind, Except.bind, pure, Except.pure,
    throw, throwThe, MonadExceptOf.throw]
  by_cases early : now.unixNanoseconds < manifest.startsAt.unixNanoseconds
  · have before : (now.unixNanoseconds - manifest.startsAt.unixNanoseconds) / 10 ^ 9 /
        decisionCooldownSeconds.toNat < 0 := by
      rw [Int.ediv_lt_iff_lt_mul (by omega)]
      omega
    rw [if_pos early, Int.toNat_of_nonpos (by omega), Nat.min_zero]
  rw [if_neg early]
  -- The time that counts is the earlier of now and the end.
  have stopped : ∀ stop : OffsetDateTime,
      manifest.startsAt.unixNanoseconds ≤ stop.unixNanoseconds →
      wholeSeconds manifest.startsAt stop / decisionCooldownSeconds.toNat =
        (stop.unixNanoseconds - manifest.startsAt.unixNanoseconds) / 10 ^ 9 /
          decisionCooldownSeconds.toNat ∧
      0 ≤ (stop.unixNanoseconds - manifest.startsAt.unixNanoseconds) / 10 ^ 9 /
        decisionCooldownSeconds.toNat := by
    intro stop started
    have nonneg : 0 ≤ (stop.unixNanoseconds - manifest.startsAt.unixNanoseconds) / 10 ^ 9 := by
      omega
    rw [wholeSeconds, Int.tdiv_eq_ediv_of_nonneg (by omega)]
    exact ⟨rfl, Int.ediv_nonneg nonneg (by omega)⟩
  by_cases closes : now.unixNanoseconds ≤ manifest.endsAt.unixNanoseconds
  · obtain ⟨isDue, nonneg⟩ := stopped now (not_lt.mp early)
    rw [if_pos closes, isDue, if_neg (by omega), min_comm]
  · obtain ⟨isDue, nonneg⟩ := stopped manifest.endsAt ordered.le
    have later : (manifest.endsAt.unixNanoseconds - manifest.startsAt.unixNanoseconds) / 10 ^ 9 /
          decisionCooldownSeconds.toNat ≤
        (now.unixNanoseconds - manifest.startsAt.unixNanoseconds) / 10 ^ 9 /
          decisionCooldownSeconds.toNat :=
      Int.ediv_le_ediv (by omega) (by omega)
    have isCycles : cycleTotal manifest decisionCooldownSeconds =
        ((manifest.endsAt.unixNanoseconds - manifest.startsAt.unixNanoseconds) / 10 ^ 9 /
          decisionCooldownSeconds.toNat).toNat := rfl
    rw [if_neg closes, isDue, if_neg (by omega), isCycles]
    congr 1
    omega

/-- More boundaries come with time. -/
theorem dueBoundaries_mono {later : OffsetDateTime}
    (le : now.unixNanoseconds ≤ later.unixNanoseconds) :
    dueBoundaries manifest decisionCooldownSeconds now ≤
      dueBoundaries manifest decisionCooldownSeconds later :=
  List.countP_mono_left fun cycleIndex _ come => by
    rw [decide_eq_true_iff] at come ⊢
    exact come.trans le

/-! ## Catching up -/

/-- The missed cycles are journaled one after the other, each at its boundary. -/
theorem appendMissedCycles_eq {prims : Primitives} {config : DaemonConfig} {runId : Uuid}
    {count completedCycles : Nat} (scheduled : Scheduled config.manifest decisionCooldownSeconds)
    (inside : completedCycles + count ≤ cycleTotal config.manifest decisionCooldownSeconds) :
    (appendMissedCycles prims config runId decisionCooldownSeconds count completedCycles :
      Act calls Unit LiveRunError Unit) =
      (List.range' completedCycles count).forM fun cycleIndex =>
        appendMissedCycle prims config runId
          (boundary config.manifest decisionCooldownSeconds cycleIndex)
          "companion_unavailable_at_boundary" := by
  induction count generalizing completedCycles with
  | zero => rfl
  | succ count ih =>
    rw [appendMissedCycles, scheduledCycleAt_eq scheduled (by omega), ih (by omega)]
    rfl

end Schedule

/-- **Schedule.**  For an arena with room for a cooldown, the boundaries of its cycles lie before
its end; at any time those are due that have come, more with time; and a session that starts again
journals exactly the due boundaries from the first one that was not completed. -/
theorem dueCycleCount_schedule {manifest : ArenaManifestV1} {decisionCooldownSeconds : UInt32}
    (scheduled : Scheduled manifest decisionCooldownSeconds) :
    ∃ expected, expectedCycleCount manifest decisionCooldownSeconds = .ok expected ∧
      (∀ cycleIndex < expected,
        scheduledCycleAt manifest decisionCooldownSeconds cycleIndex =
          .ok (boundary manifest decisionCooldownSeconds cycleIndex) ∧
        (boundary manifest decisionCooldownSeconds cycleIndex).unixNanoseconds <
          manifest.endsAt.unixNanoseconds) ∧
      ∃ due : OffsetDateTime → Nat,
        (∀ now, dueCycleCount manifest decisionCooldownSeconds now = .ok (due now) ∧
          due now = (List.range expected).countP fun cycleIndex =>
            (boundary manifest decisionCooldownSeconds cycleIndex).unixNanoseconds ≤
              now.unixNanoseconds) ∧
        (∀ now later : OffsetDateTime, now.unixNanoseconds ≤ later.unixNanoseconds →
          due now ≤ due later) ∧
        (∀ now cycleIndex, cycleIndex < due now ↔ cycleIndex < expected ∧
          (boundary manifest decisionCooldownSeconds cycleIndex).unixNanoseconds ≤
            now.unixNanoseconds) ∧
        ∀ (prims : Primitives) (config : DaemonConfig) (runId : Uuid) (now : OffsetDateTime)
          (completedCycles : Nat), config.manifest = manifest → completedCycles ≤ due now →
          appendMissedCycles prims config runId decisionCooldownSeconds
              (due now - completedCycles) completedCycles =
            (List.range' completedCycles (due now - completedCycles)).forM fun cycleIndex =>
              appendMissedCycle prims config runId
                (boundary manifest decisionCooldownSeconds cycleIndex)
                "companion_unavailable_at_boundary" := by
  have isDue := fun now => @dueBoundaries_eq manifest decisionCooldownSeconds now scheduled.cooldown
  refine ⟨_, expectedCycleCount_eq scheduled, fun cycleIndex inside =>
    ⟨scheduledCycleAt_eq scheduled inside, ?_⟩, dueBoundaries manifest decisionCooldownSeconds,
    fun now => ⟨dueCycleCount_eq scheduled, rfl⟩, fun now later le => dueBoundaries_mono le, ?_, ?_⟩
  · have positive : 0 < decisionCooldownSeconds.toNat :=
      UInt32.lt_iff_toNat_lt.mp scheduled.cooldown
    have before := boundary_lt scheduled inside
    omega
  · intro now cycleIndex
    rw [isDue, lt_min_iff, boundary_le_iff scheduled.cooldown]
  · rintro prims config runId now completedCycles rfl le
    refine appendMissedCycles_eq scheduled ?_
    have few : dueBoundaries config.manifest decisionCooldownSeconds now ≤
        cycleTotal config.manifest decisionCooldownSeconds := by
      rw [isDue]
      exact min_le_left _ _
    omega

/-- An arena of half an hour that starts and ends between seconds. -/
def halfHourManifest : ArenaManifestV1 where
  arenaId := ⟨.ofNat 16 1⟩
  manifestVersion := 1
  mode := .hyperliquidTestnet
  startsAt := ⟨1785331800500000000, 0⟩
  endsAt := ⟨1785333600750000000, 0⟩
  eligibleModels := ["crow-qwen3-5-27b"]
  requiredClientVersion := "0.1.10"
  startingCapitalMicroUsdc := 1000000000
  riskRules := .default
  execution := { halfSpreadBps := 2, slippageBps := 3, takerFeeBps := 5 }
  ticket := { enabled := false, asset := "" }

theorem scheduled_halfHourManifest : Scheduled halfHourManifest 900 where
  startsInRange := by decide
  endsInRange := by decide
  starts := by decide
  cooldown := by decide
  room := by decide

/-- No fewer boundaries are due at its end than at its start. -/
theorem dueCycleCount_schedule_halfHour :
    ∃ due : OffsetDateTime → Nat,
      dueCycleCount halfHourManifest 900 halfHourManifest.endsAt =
        .ok (due halfHourManifest.endsAt) ∧
      due halfHourManifest.startsAt ≤ due halfHourManifest.endsAt := by
  obtain ⟨_, _, _, due, isDue, mono, _⟩ := dueCycleCount_schedule scheduled_halfHourManifest
  exact ⟨due, (isDue _).1, mono _ _ scheduled_halfHourManifest.starts.le⟩

end CrowAgent
