import CrowAgent.Daemon.CompanionReplay
import CrowAgent.Lib.FixedWidth

/-!
# Nonces of the desktop's requests

The desktop numbers the requests to its companion with a counter of the process and sends one at a
time, under a lock; the companion takes them in the order they were written to the socket.  `Paired`
is the desktop next to a daemon, and `Paired.Ordered` says how their two counters belong together.
It does not survive a restart of the desktop, which starts to count from 0 again.
-/

namespace CrowAgent

open Coroutine FixedWidth

variable {prims : Primitives} {config : DaemonConfig}

/-! ## The desktop and the daemon -/

/-- `next_companion_nonce`. -/
def nextCompanionNonce (companionNonce : UInt64) : Option UInt64 := checkedAddU64 companionNonce 1

/-- Where the holder of `companion_request_lock` is. -/
inductive RequestLock : Type
  | free
  /-- Its request is signed, but not on the socket. -/
  | signed (request : CompanionRequestV1)
  /-- It waits for the response. -/
  | sent

/-- A desktop, the requests on the socket (oldest first), and a daemon. -/
structure Paired : Type where
  companionNonce : UInt64
  lock : RequestLock
  inFlight : List CompanionRequestV1
  daemon : Config calls World Stage

namespace Paired

def highestNonce (paired : Paired) : UInt64 := paired.daemon.2.highestNonce

/-- The state after a restart of the desktop. -/
def desktopRestarted (paired : Paired) : Paired :=
  { paired with companionNonce := 0, lock := .free }

/-- Neither side has counted, and nothing is on the socket. -/
structure Fresh (paired : Paired) : Prop where
  companionNonce : paired.companionNonce = 0
  lock : paired.lock = .free
  inFlight : paired.inFlight = []
  highestNonce : paired.highestNonce = 0

/-- No request has passed in the daemon, and none is on its way. -/
def Unused (paired : Paired) : Prop := paired.highestNonce = 0 ∧ paired.inFlight = []

end Paired

/-- The daemon takes a request from the socket. -/
def World.receive (prims : Primitives) (config : DaemonConfig) (w : World)
    (request : CompanionRequestV1) : World :=
  World.takeCompanion prims config { w with issued := w.issued ++ [.companion request] }
    w.issued.length request

/-- Everything of a daemon but requests. -/
def withoutRequests : Happening → World → Prop
  | .event (.companion _), _ => False
  | _, _ => True

/-- What the two do; `restarts` says when the desktop may restart. -/
inductive PairStep (prims : Primitives) (config : DaemonConfig) (restarts : Paired → Prop) :
    Paired → Paired → Prop
  | signs {paired : Paired} {nonce : UInt64} {requestId : Uuid} {action : CompanionActionV1}
      {strategy : Option StrategyBundleV1} {settings : Option RunSettingsV1}
      {request : CompanionRequestV1} (free : paired.lock = .free)
      (next : nextCompanionNonce paired.companionNonce = some nonce)
      (signed : CompanionRequestV1.signWithOptions prims config.companionSecret requestId nonce
        action strategy settings = .ok request) :
      PairStep prims config restarts paired
        { paired with companionNonce := nonce, lock := .signed request }
  | fails {paired : Paired} {nonce : UInt64} (free : paired.lock = .free)
      (next : nextCompanionNonce paired.companionNonce = some nonce) :
      PairStep prims config restarts paired { paired with companionNonce := nonce }
  | sends {paired : Paired} {request : CompanionRequestV1} (held : paired.lock = .signed request) :
      PairStep prims config restarts paired
        { paired with lock := .sent, inFlight := paired.inFlight ++ [request] }
  /-- A response, an error or the timeout. -/
  | ends (paired : Paired) :
      PairStep prims config restarts paired { paired with lock := .free }
  | loses {paired : Paired} {front back : List CompanionRequestV1} {request : CompanionRequestV1}
      (inFlight : paired.inFlight = front ++ request :: back) :
      PairStep prims config restarts paired { paired with inFlight := front ++ back }
  | takes {paired : Paired} {request : CompanionRequestV1} {rest : List CompanionRequestV1}
      {op : Op} {next : op.Res → Prog calls Stage} {w : World}
      (inFlight : paired.inFlight = request :: rest)
      (waits : paired.daemon = (.waiting op next, w)) (awaits : op.awaits = true) :
      PairStep prims config restarts paired
        { paired with inFlight := rest, daemon := (.waiting op next, w.receive prims config request) }
  /-- Another step of the daemon; it may be a restart. -/
  | daemon {paired : Paired} {daemon' : Config calls World Stage}
      (step : Step (daemon prims config withoutRequests) paired.daemon daemon') :
      PairStep prims config restarts paired { paired with daemon := daemon' }
  | restarts {paired : Paired} (permitted : restarts paired) :
      PairStep prims config restarts paired paired.desktopRestarted

/-- What a desktop and a daemon come to. -/
def PairReaches (prims : Primitives) (config : DaemonConfig) (restarts : Paired → Prop) :
    Paired → Paired → Prop :=
  Relation.ReflTransGen (PairStep prims config restarts)

/-! ## The counters -/

/-- The requests between the two have growing nonces, above the daemon's and up to the desktop's. -/
structure Paired.Ordered (prims : Primitives) (config : DaemonConfig) (paired : Paired) : Prop where
  upTo : paired.highestNonce ≤ paired.companionNonce
  growing : (paired.inFlight.map (·.nonce)).Pairwise (· < ·)
  between : ∀ request ∈ paired.inFlight,
    paired.highestNonce < request.nonce ∧ request.nonce ≤ paired.companionNonce
  verified : ∀ request ∈ paired.inFlight, request.verify prims config.companionSecret = .ok ()
  held : ∀ request, paired.lock = .signed request →
    request.nonce = paired.companionNonce ∧ paired.highestNonce < request.nonce ∧
      (∀ earlier ∈ paired.inFlight, earlier.nonce < request.nonce) ∧
        request.verify prims config.companionSecret = .ok ()

namespace Paired.Ordered

variable {paired : Paired}

/-- A lower count of the daemon keeps the order. -/
theorem of_highestNonce (ordered : paired.Ordered prims config)
    {daemon' : Config calls World Stage} (lower : daemon'.2.highestNonce ≤ paired.highestNonce) :
    { paired with daemon := daemon' }.Ordered prims config where
  upTo := UInt64.le_trans lower ordered.upTo
  growing := ordered.growing
  between := fun request mem =>
    ⟨UInt64.lt_of_le_of_lt lower (ordered.between request mem).1, (ordered.between request mem).2⟩
  verified := ordered.verified
  held := fun request held =>
    ⟨(ordered.held request held).1, UInt64.lt_of_le_of_lt lower (ordered.held request held).2.1,
      (ordered.held request held).2.2⟩

/-- The next nonce is above all others. -/
theorem lt_next (ordered : paired.Ordered prims config) {nonce : UInt64}
    (next : nextCompanionNonce paired.companionNonce = some nonce) :
    paired.highestNonce < nonce ∧ (∀ request ∈ paired.inFlight, request.nonce < nonce) := by
  have above : paired.companionNonce < nonce := by
    rw [UInt64.lt_iff_toNat_lt, checkedAddU64_eq_some.mp next]
    exact Nat.lt_succ_self _
  exact ⟨UInt64.lt_of_le_of_lt ordered.upTo above, fun request mem =>
    UInt64.lt_of_le_of_lt (ordered.between request mem).2 above⟩

/-- The desktop counts on. -/
theorem counts (ordered : paired.Ordered prims config) {nonce : UInt64}
    (next : nextCompanionNonce paired.companionNonce = some nonce) {lock : RequestLock}
    (held : ∀ request, lock = .signed request →
      request.nonce = nonce ∧ request.verify prims config.companionSecret = .ok ()) :
    { paired with companionNonce := nonce, lock }.Ordered prims config where
  upTo := UInt64.le_of_lt (ordered.lt_next next).1
  growing := ordered.growing
  between := fun request mem =>
    ⟨(ordered.between request mem).1, UInt64.le_of_lt ((ordered.lt_next next).2 request mem)⟩
  verified := ordered.verified
  held := by
    intro request signed
    obtain ⟨rfl, verified⟩ := held request signed
    exact ⟨rfl, (ordered.lt_next next).1, (ordered.lt_next next).2, verified⟩

/-- The request that is held gets in line. -/
theorem sends (ordered : paired.Ordered prims config) {request : CompanionRequestV1}
    (signed : paired.lock = .signed request) :
    { paired with lock := .sent, inFlight := paired.inFlight ++ [request] }.Ordered prims
      config := by
  obtain ⟨same, above, later, verified⟩ := ordered.held request signed
  refine ⟨ordered.upTo, ?_, ?_, ?_, nofun⟩
  · simp only [List.map_append, List.map_cons, List.map_nil, List.pairwise_append,
      List.pairwise_singleton, List.mem_map, List.mem_singleton, true_and]
    refine ⟨ordered.growing, ?_⟩
    rintro _ ⟨earlier, mem, rfl⟩ _ rfl
    exact later earlier mem
  · intro other mem
    rcases List.mem_append.mp mem with earlier | last
    · exact ordered.between other earlier
    · rw [List.mem_singleton.mp last]
      exact ⟨above, UInt64.le_of_eq same⟩
  · intro other mem
    rcases List.mem_append.mp mem with earlier | last
    · exact ordered.verified other earlier
    · rw [List.mem_singleton.mp last]
      exact verified

/-- The order of fewer requests. -/
theorem sublist (ordered : paired.Ordered prims config) {rest : List CompanionRequestV1}
    (fewer : rest.Sublist paired.inFlight) :
    { paired with inFlight := rest }.Ordered prims config where
  upTo := ordered.upTo
  growing := ordered.growing.sublist (fewer.map _)
  between := fun request mem => ordered.between request (fewer.subset mem)
  verified := fun request mem => ordered.verified request (fewer.subset mem)
  held := fun request held =>
    have ⟨same, above, later, verified⟩ := ordered.held request held
    ⟨same, above, fun earlier mem => later earlier (fewer.subset mem), verified⟩

end Paired.Ordered

/-- What the daemon's count is after it took a request. -/
theorem highestNonce_receive {w : World} {request : CompanionRequestV1}
    (passes : request.Passes prims config.companionSecret w.toControl) :
    (w.receive prims config request).highestNonce = request.nonce :=
  applyCompanionRequest_highestNonce passes

/-- Without a request the daemon's count stays, or starts again at 0. -/
theorem highestNonce_step {a b : Config calls World Stage}
    (step : Step (daemon prims config withoutRequests) a b) :
    b.2.highestNonce = a.2.highestNonce ∨ b.2.highestNonce = 0 := by
  cases step with
  | issue begins => exact .inl (congrArg (fun shared => shared.highestNonce) begins.2.shared)
  | resume answers => exact .inl answers.2.commands.2.2.2
  | others awaits acts =>
    obtain ⟨event, permitted, happens⟩ := acts
    refine .inl ?_
    cases happens with
    | companion sent => exact permitted.elim
    | relay receives ran =>
      have same := (taken_of_runs ran).1.passed.2
      unfold World.noteAcknowledged
      split <;> exact same
    | relayRefused receives refused => exact (taken_of_fails refused).1.passed.2
    | _ => rfl
  | again follows => exact .inl rfl
  | crash crashes =>
    obtain ⟨-, -, last, -, rfl⟩ := crashes
    exact .inr rfl

/-- **Step.**  The counters belong together as long as the desktop restarts only before its requests
came to anything. -/
theorem Paired.Ordered.step {a b : Paired} (ordered : a.Ordered prims config)
    (step : PairStep prims config Paired.Unused a b) : b.Ordered prims config := by
  cases step with
  | signs free next signed =>
    refine ordered.counts next fun request held => ?_
    cases held
    exact CompanionRequestV1.verify_of_signWithOptions signed
  | fails free next =>
    refine ordered.counts next fun request held => ?_
    rw [free] at held
    cases held
  | sends held => exact ordered.sends held
  | ends => exact ⟨ordered.upTo, ordered.growing, ordered.between, ordered.verified, nofun⟩
  | loses inFlight =>
    refine ordered.sublist ?_
    rw [inFlight]
    exact List.Sublist.append_left (List.sublist_cons_self _ _) _
  | @takes request rest op next w inFlight waits awaits =>
    have here : a.highestNonce = w.highestNonce := by rw [Paired.highestNonce, waits]
    have mem : request ∈ a.inFlight := by
      rw [inFlight]
      exact List.mem_cons_self
    have growing := ordered.growing
    rw [inFlight, List.map_cons, List.pairwise_cons] at growing
    have passes : request.Passes prims config.companionSecret w.toControl :=
      ⟨ordered.verified request mem, here ▸ (ordered.between request mem).1⟩
    have count : (w.receive prims config request).highestNonce = request.nonce :=
      highestNonce_receive passes
    have rest' : ∀ other ∈ rest, other ∈ a.inFlight := fun other mem => by
      rw [inFlight]
      exact List.mem_cons_of_mem _ mem
    refine ⟨?_, growing.2, ?_, fun other mem => ordered.verified other (rest' other mem), ?_⟩
    · change (w.receive prims config request).highestNonce ≤ a.companionNonce
      rw [count]
      exact (ordered.between request mem).2
    · intro other later
      change (w.receive prims config request).highestNonce < other.nonce ∧ _
      rw [count]
      exact ⟨growing.1 _ (List.mem_map_of_mem later), (ordered.between other (rest' other later)).2⟩
    · intro other held
      obtain ⟨same, -, later, verified⟩ := ordered.held other held
      refine ⟨same, ?_, fun earlier mem => later earlier (rest' earlier mem), verified⟩
      change (w.receive prims config request).highestNonce < other.nonce
      rw [count]
      exact later request mem
  | daemon step =>
    refine ordered.of_highestNonce ?_
    rcases highestNonce_step step with same | zero
    · exact UInt64.le_of_eq same
    · rw [zero]
      exact UInt64.zero_le
  | restarts unused =>
    obtain ⟨zero, none⟩ := unused
    have inFlight : a.desktopRestarted.inFlight = [] := none
    refine ⟨UInt64.le_of_eq zero, ?_, ?_, ?_, nofun⟩
    · rw [inFlight]
      exact .nil
    · simp [inFlight]
    · simp [inFlight]

/-- **Nonces of the desktop.**  As long as the desktop restarts only before its requests came to
anything, its next nonce is above the daemon's, and the request that is first in line passes. -/
theorem next_companion_nonce_is_new {fresh paired : Paired} (start : fresh.Fresh)
    (reached : PairReaches prims config Paired.Unused fresh paired) :
    (∀ nonce, nextCompanionNonce paired.companionNonce = some nonce → paired.highestNonce < nonce) ∧
      ∀ request rest, paired.inFlight = request :: rest →
        request.Passes prims config.companionSecret paired.daemon.2.toControl := by
  have ordered : paired.Ordered prims config := by
    induction reached with
    | refl =>
      refine ⟨?_, ?_, ?_, ?_, ?_⟩
      · rw [start.highestNonce]
        exact UInt64.zero_le
      · simp [start.inFlight]
      · simp [start.inFlight]
      · simp [start.inFlight]
      · simp [start.lock]
    | tail _ step ih => exact ih.step step
  refine ⟨fun nonce next => (ordered.lt_next next).1, fun request rest inFlight => ?_⟩
  have mem : request ∈ paired.inFlight := by
    rw [inFlight]
    exact List.mem_cons_self
  exact ⟨ordered.verified request mem, (ordered.between request mem).1⟩

/-! ## A restart of the desktop -/

/-- A desktop and a daemon that have just been started. -/
def freshPair : Paired where
  companionNonce := 0
  lock := .free
  inFlight := []
  daemon := (.running (.done .start), startingWorld)

theorem freshPair_fresh : freshPair.Fresh := ⟨rfl, rfl, rfl, rfl⟩

theorem sign_sampleRequest (action : CompanionActionV1) (nonce : UInt64) :
    CompanionRequestV1.signWithOptions countingPrimitives sampleConfig.companionSecret
      (sampleRequest action nonce).requestId nonce action none none =
        .ok (sampleRequest action nonce) := by
  unfold CompanionRequestV1.signWithOptions
  rw [if_neg (by simp), if_neg (by simp), if_neg (by simp)]
  rfl

/-- The desktop sends a first request, and the daemon takes it. -/
theorem pair_takes (restarts : Paired → Prop) :
    ∃ paired, PairReaches countingPrimitives sampleConfig restarts freshPair paired ∧
      paired.companionNonce = 1 ∧ paired.highestNonce = 1 := by
  have start : PairReaches countingPrimitives sampleConfig restarts freshPair
      { freshPair with daemon := (.running (startUp countingPrimitives sampleConfig),
        startingWorld) } := .single (.daemon (.again .start))
  have first := start.tail (.daemon (.issue ⟨trivial, rfl⟩))
  have signed := first.tail (.signs rfl rfl (sign_sampleRequest .pause 1))
  have taken := (signed.tail (.sends rfl)).tail (.takes rfl rfl rfl)
  refine ⟨_, taken, rfl, ?_⟩
  exact highestNonce_receive ⟨verify_sampleRequest, by decide⟩

/-- The theorem at a run in which the daemon has taken a request. -/
theorem sample_next_companion_nonce_is_new :
    ∃ paired, PairReaches countingPrimitives sampleConfig Paired.Unused freshPair paired ∧
      paired.highestNonce = 1 ∧
        ∀ nonce, nextCompanionNonce paired.companionNonce = some nonce → 1 < nonce := by
  obtain ⟨paired, reached, -, highest⟩ := pair_takes Paired.Unused
  refine ⟨paired, reached, highest, ?_⟩
  rw [← highest]
  exact (next_companion_nonce_is_new freshPair_fresh reached).1

/-- The desktop restarts after the daemon took a request, and its next nonce is the old one. -/
theorem restarted_desktop_repeats_nonce :
    ∃ paired, PairReaches countingPrimitives sampleConfig (fun _ => True) freshPair paired ∧
      ∃ nonce, nextCompanionNonce paired.companionNonce = some nonce ∧
        ¬paired.highestNonce < nonce := by
  obtain ⟨paired, reached, -, highest⟩ := pair_takes fun _ => True
  refine ⟨paired.desktopRestarted, reached.tail (.restarts trivial), 1, rfl, ?_⟩
  change ¬paired.highestNonce < 1
  rw [highest]
  decide

end CrowAgent
