import CrowAgent.Daemon.RemoteNonces

/-!
# Replay of companion requests

The listener takes a companion request once, because of the largest nonce so far.  That nonce is kept
by the process only, while the key of the requests lasts: what has passed before a restart passes
again after it.
-/

namespace CrowAgent

open Coroutine

variable {prims : Primitives} {config : DaemonConfig} {w w' : World}

/-- What passed was authentic, and its nonce was above the one a process starts with. -/
def World.PassesVerified (prims : Primitives) (secret : FixedBytes 32) (w : World) : Prop :=
  ∀ request ∈ w.passed, request.verify prims secret = .ok () ∧ 0 < request.nonce

theorem World.PassesVerified.of_eq {secret : FixedBytes 32} (kept : w.PassesVerified prims secret)
    (passed : w'.passed = w.passed) : w'.PassesVerified prims secret := by
  rw [World.PassesVerified, passed]
  exact kept

/-- What passed has nonces up to the largest one, and nothing passed twice. -/
structure World.PassesOnce (w : World) : Prop where
  once : w.passed.Nodup
  below : ∀ request ∈ w.passed, request.nonce ≤ w.highestNonce

theorem World.PassesOnce.of_eq (kept : w.PassesOnce) (passed : w'.passed = w.passed)
    (highest : w'.highestNonce = w.highestNonce) : w'.PassesOnce :=
  ⟨passed ▸ kept.once, passed ▸ highest ▸ kept.below⟩

/-- A request that passes becomes the one with the largest nonce. -/
theorem applyCompanionRequest_highestNonce {secret : FixedBytes 32} {request : CompanionRequestV1}
    {control : Control} (passes : request.Passes prims secret control) :
    (applyCompanionRequest prims secret request control).2.highestNonce = request.nonce := by
  obtain ⟨response, applied, -⟩ := applyCompanionRequest_of_passes passes
  rw [applied, Control.clearError_eq]
  have acted := Control.acted { control with highestNonce := request.nonce } request
  generalize { control with highestNonce := request.nonce }.applyAction request = after at acted
  cases acted <;> rfl

/-- Everything. -/
def Effects.all : Effects where
  events := fun _ _ => True
  keys := fun _ => True
  weighs := fun _ => True
  shared := fun _ => True
  cycles := fun _ => True
  selects := True

theorem Effects.all_process : Effects.all.Process config where
  events := fun _ _ => trivial
  keys := fun _ => trivial
  weighs := fun _ => trivial
  shared := fun _ => trivial
  cycles := fun _ => trivial
  selects := trivial
  tokens := trivial
  drops := fun _ => trivial

/-- A process restarts only before a request has passed. -/
def unusedRestarts : Happening → World → Prop
  | .restart, w => w.highestNonce = 0
  | _, _ => True

/-- What has passed after a request came over the socket. -/
theorem World.passed_takeCompanion {i : Nat} {request : CompanionRequestV1} :
    (w.takeCompanion prims config i request).passed =
      if request.Passes prims config.companionSecret w.toControl then request :: w.passed
      else w.passed := rfl

/-- A request that comes over the socket keeps it that nothing passed twice. -/
theorem World.PassesOnce.takeCompanion (kept : w.PassesOnce) (i : Nat)
    (request : CompanionRequestV1) : (w.takeCompanion prims config i request).PassesOnce := by
  by_cases passes : request.Passes prims config.companionSecret w.toControl
  · have highest : (w.takeCompanion prims config i request).highestNonce = request.nonce :=
      applyCompanionRequest_highestNonce passes
    have below : ∀ earlier ∈ w.passed, earlier.nonce < request.nonce := fun earlier mem =>
      UInt64.lt_of_le_of_lt (kept.below earlier mem) passes.2
    constructor
    · rw [passed_takeCompanion, if_pos passes]
      exact List.nodup_cons.mpr ⟨fun mem => UInt64.lt_irrefl _ (below request mem), kept.once⟩
    · intro earlier mem
      rw [passed_takeCompanion, if_pos passes] at mem
      rw [highest]
      rcases List.mem_cons.mp mem with rfl | older
      · exact UInt64.le_refl _
      · exact UInt64.le_of_lt (below earlier older)
  · obtain ⟨error, same⟩ := applyCompanionRequest_of_not_passes passes
    refine kept.of_eq (if_neg passes) ?_
    change (applyCompanionRequest _ _ _ _).2.highestNonce = _
    rw [same]

/-- Every run keeps to what passes verifies. -/
theorem passesVerified_kept (permits : Happening → World → Prop) :
    Kept prims config permits Effects.all
      (World.PassesVerified prims config.companionSecret) where
  process := Effects.all_process
  begins := fun _ kept begins => kept.of_eq (congrArg Shared.passed begins.shared)
  answers := fun _ kept answers => kept.of_eq answers.commands.2.2.1
  happens := by
    intro event w w' _ kept happens
    cases happens with
    | companion sent =>
      intro earlier mem
      rw [World.passed_takeCompanion] at mem
      split at mem
      · rename_i passes
        rcases List.mem_cons.mp mem with rfl | older
        · exact ⟨passes.1, UInt64.lt_of_le_of_lt UInt64.zero_le passes.2⟩
        · exact kept earlier older
      · exact kept earlier mem
    | relay receives ran =>
      have after := kept.of_eq (taken_of_runs ran).1.passed.1
      unfold World.noteAcknowledged
      split
      · exact after.of_eq rfl
      · exact after
    | relayRefused receives refused => exact kept.of_eq (taken_of_fails refused).1.passed.1
    | _ => exact kept.of_eq rfl
  dies := by
    intro w w' _ kept dies
    cases dies with
    | between => exact kept.of_eq rfl
    | amid receives taken => exact kept.of_eq (taken_of_leadsTo taken).passed.1

/-- Nothing passes twice as long as a process only restarts before a request has passed. -/
theorem passesOnce_kept :
    Kept prims config unusedRestarts Effects.all fun w =>
      w.PassesOnce ∧ w.PassesVerified prims config.companionSecret where
  process := Effects.all_process
  begins := fun within kept begins =>
    ⟨kept.1.of_eq (congrArg Shared.passed begins.shared)
      (congrArg (fun shared => shared.highestNonce) begins.shared),
      (passesVerified_kept unusedRestarts).begins within kept.2 begins⟩
  answers := fun within kept answers =>
    ⟨kept.1.of_eq answers.commands.2.2.1 answers.commands.2.2.2,
      (passesVerified_kept unusedRestarts).answers within kept.2 answers⟩
  happens := by
    intro event w w' permitted kept happens
    refine ⟨?_, (passesVerified_kept unusedRestarts).happens permitted kept.2 happens⟩
    cases happens with
    | companion sent => exact kept.1.takeCompanion _ _
    | relay receives ran =>
      obtain ⟨passed, highest⟩ := (taken_of_runs ran).1.passed
      unfold World.noteAcknowledged
      split <;> exact kept.1.of_eq passed highest
    | relayRefused receives refused =>
      obtain ⟨passed, highest⟩ := (taken_of_fails refused).1.passed
      exact kept.1.of_eq passed highest
    | _ => exact kept.1.of_eq rfl rfl
  dies := by
    intro w w' unused kept dies
    refine ⟨?_, (passesVerified_kept unusedRestarts).dies unused kept.2 dies⟩
    have none : w.passed = [] := by
      refine List.eq_nil_iff_forall_not_mem.mpr fun request mem => ?_
      have below := kept.1.below request mem
      rw [show w.highestNonce = 0 from unused] at below
      exact UInt64.lt_irrefl _ (UInt64.lt_of_lt_of_le (kept.2 request mem).2 below)
    have passed : w'.restarted.passed = [] := by
      cases dies with
      | between => exact none
      | amid receives taken => exact (taken_of_leadsTo taken).passed.1.trans none
    constructor
    · rw [passed]
      exact .nil
    · simp [passed]

/-- **Replay of companion requests.**  No request passes twice in a run whose processes restart only
before a request has passed.  In all runs, whatever has passed would pass again after a restart. -/
theorem companion_requests_pass_once {w₀ : World} {config' : Config calls World Stage}
    (start : w₀.passed = []) :
    (DaemonReaches prims config unusedRestarts w₀ config' → config'.2.passed.Nodup) ∧
      (DaemonReaches prims config anything w₀ config' → ∀ request ∈ config'.2.passed,
        request.Passes prims config.companionSecret config'.2.restarted.toControl) := by
  constructor
  · intro reached
    refine (passesOnce_kept.reaches ⟨⟨?_, ?_⟩, ?_⟩ reached).1.once
    · rw [start]
      exact .nil
    · simp [start]
    · simp [World.PassesVerified, start]
  · intro reached
    refine (passesVerified_kept anything).reaches ?_ reached
    simp [World.PassesVerified, start]

/-! ## A replay -/

/-- A request of the sample companion, with the HMAC that verifies. -/
def sampleRequest (action : CompanionActionV1) (nonce : UInt64) : CompanionRequestV1 where
  protocol := harnessProtocolV1
  requestId := ⟨.ofNat 16 0x99999999999999999999999999999999⟩
  nonce
  action
  strategy := none
  settings := none
  mac := Hex.encode (List.replicate 32 0)

theorem verify_sampleRequest {action : CompanionActionV1} {nonce : UInt64} :
    (sampleRequest action nonce).verify countingPrimitives sampleConfig.companionSecret =
      .ok () := by
  unfold CompanionRequestV1.verify
  rw [if_neg (by simp [sampleRequest])]
  exact verifyValue_of_signValue rfl

/-- The world a first process starts in. -/
def startingWorld : World := { sampleWorld with relay := .starting }

/-- A daemon that takes its first tokens and gets a request. -/
theorem reach_sampleRequest (action : CompanionActionV1) (nonce : UInt64)
    (permits : Happening → World → Prop) (calls : permits (.call .rotate) startingWorld)
    (issues : permits (.event (.issue (.companion (sampleRequest action nonce)))) startingWorld)
    (takes : permits (.event (.companion 0))
      { startingWorld with issued := [.companion (sampleRequest action nonce)] }) :
    ∃ next, DaemonReaches countingPrimitives sampleConfig permits startingWorld
      (.waiting .rotate next,
        { startingWorld with issued := [.companion (sampleRequest action nonce)] }
          |>.takeCompanion countingPrimitives sampleConfig 0 (sampleRequest action nonce)) := by
  have start : DaemonReaches countingPrimitives sampleConfig permits startingWorld
      (.waiting .rotate _, startingWorld) :=
    .tail (.single (.again .start)) (.issue ⟨calls, rfl⟩)
  have issued := start.tail (.others rfl ⟨_, issues, .issue _ _⟩)
  exact ⟨_, issued.tail (.others rfl ⟨_, takes, .companion rfl⟩)⟩

/-- The theorem at a run in which a request passes. -/
theorem sample_request_passes_once :
    ∃ config', DaemonReaches countingPrimitives sampleConfig unusedRestarts startingWorld config' ∧
      config'.2.passed.length = 1 ∧ config'.2.passed.Nodup := by
  obtain ⟨next, reached⟩ := reach_sampleRequest .stop 1 unusedRestarts trivial trivial trivial
  refine ⟨_, reached, ?_, (companion_requests_pass_once rfl).1 reached⟩
  rw [World.passed_takeCompanion, if_pos ⟨verify_sampleRequest, by decide⟩]
  rfl

/-- A request passes, the daemon restarts, and the request passes again. -/
theorem request_passes_twice :
    ∃ config', DaemonReaches countingPrimitives sampleConfig anything startingWorld config' ∧
      ¬config'.2.passed.Nodup := by
  obtain ⟨next, reached⟩ := reach_sampleRequest .stop 1 anything trivial trivial trivial
  have restarted := reached.tail (.crash ⟨rfl, trivial, _, .between _, rfl⟩)
  have again := (restarted.tail (.again .start)).tail (.issue ⟨trivial, rfl⟩)
  have replayed := again.tail (.others rfl ⟨.companion 0, trivial, .companion rfl⟩)
  refine ⟨_, replayed, ?_⟩
  have passed : ({ startingWorld with issued := [.companion (sampleRequest .stop 1)] }
      |>.takeCompanion countingPrimitives sampleConfig 0 (sampleRequest .stop 1)).passed =
        [sampleRequest .stop 1] := by
    rw [World.passed_takeCompanion, if_pos ⟨verify_sampleRequest, by decide⟩]
    rfl
  rw [World.passed_takeCompanion, if_pos ⟨verify_sampleRequest, by decide⟩]
  exact fun once => (List.nodup_cons.mp once).1 (passed ▸ List.mem_singleton_self _)

end CrowAgent
