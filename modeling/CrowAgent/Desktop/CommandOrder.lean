import CrowAgent.Daemon.RemoteNonces
import CrowAgent.Lib.FixedWidth

/-!
# Nonces of remote commands in transit

`send_remote_command` takes the next nonce under a lock, and signs and posts its command after it has
let go of the lock; the relay delivers what was posted in that order.  `Commanding` is a controller
with any number of calls under way, the relay, and a daemon, and `Commanding.Ordered` is what holds of
their nonces as long as commands are posted in the order of their nonces.
-/

namespace CrowAgent

open Coroutine FixedWidth

variable {prims : Primitives} {config : DaemonConfig}

/-- `next_persisted_nonce` of the controller's nonce. -/
def nextPersistedNonce (controllerNonce : UInt64) : Option UInt64 := checkedAddU64 controllerNonce 1

/-- How far a call of `send_remote_command` has come. -/
inductive SendCall : Type
  | issued (nonce : UInt64)
  | signed (command : RemoteCommandV1)

def SendCall.nonce : SendCall → UInt64
  | issued nonce => nonce
  | signed command => command.nonce

/-- The device that sends commands. -/
structure ControllerIdentity : Type where
  deviceId : Uuid
  signingKey : FixedBytes 32

/-- A controller, the relay, and a daemon. -/
structure Commanding : Type where
  /-- The nonce in the credential vault. -/
  controllerNonce : UInt64
  sending : List SendCall
  /-- Every command that was posted, oldest first. -/
  posted : List RemoteCommandV1
  /-- How many of them were delivered. -/
  delivered : Nat
  daemon : Config calls World Stage

/-- The command as the relay delivers it, with its receipt. -/
def RemoteCommandV1.relayed (command : RemoteCommandV1) (relayReceipt controllerPublicKey : String) :
    WireEnvelope where
  protocol := harnessProtocolV1
  kind := "remote_command"
  id := command.commandId.hyphenated
  payload := some ⟨{ command with relayReceipt := some relayReceipt }, controllerPublicKey⟩

/-- A daemon that gets no other command of the controller and does not restart. -/
def withoutCommandsOf (controllerDeviceId : Uuid) : Happening → World → Prop
  | .event event, w => ∀ i envelope delivery, event.Relays i →
      w.issued[i]? = some (.relay envelope) → envelope.payload = some delivery →
        delivery.command.controllerDeviceId ≠ controllerDeviceId
  | .restart, _ => False
  | _, _ => True

/-- What they do; `posts` says when a command may be posted. -/
inductive CommandStep (prims : Primitives) (config : DaemonConfig) (controller : ControllerIdentity)
    (posts : Commanding → RemoteCommandV1 → Prop) : Commanding → Commanding → Prop
  | issues {state : Commanding} {nonce : UInt64}
      (next : nextPersistedNonce state.controllerNonce = some nonce) :
      CommandStep prims config controller posts state
        { state with controllerNonce := nonce, sending := state.sending ++ [.issued nonce] }
  | signs {state : Commanding} {front back : List SendCall} {nonce : UInt64}
      {commandId targetDeviceId runId : Uuid} {action : RemoteAction} {issuedAt : OffsetDateTime}
      {command : RemoteCommandV1} (sending : state.sending = front ++ .issued nonce :: back)
      (signed : RemoteCommandV1.sign prims controller.signingKey commandId targetDeviceId runId action
        nonce issuedAt { issuedAt with unixNanoseconds := issuedAt.unixNanoseconds + 5 * 10 ^ 9 }
        controller.deviceId = .ok command) :
      CommandStep prims config controller posts state
        { state with sending := front ++ .signed command :: back }
  | posts {state : Commanding} {front back : List SendCall} {command : RemoteCommandV1}
      (sending : state.sending = front ++ .signed command :: back) (permitted : posts state command) :
      CommandStep prims config controller posts state
        { state with sending := front ++ back, posted := state.posted ++ [command] }
  /-- A call ends without posting, as it does when the controller restarts. -/
  | fails {state : Commanding} {front back : List SendCall} {call : SendCall}
      (sending : state.sending = front ++ call :: back) :
      CommandStep prims config controller posts state { state with sending := front ++ back }
  | delivers {state : Commanding} {command : RemoteCommandV1}
      {relayReceipt controllerPublicKey : String} {op : Op} {next : op.Res → Prog calls Stage}
      {event : DaemonEvent} {w w' : World} (first : state.posted[state.delivered]? = some command)
      (waits : state.daemon = (.waiting op next, w)) (awaits : op.awaits = true)
      (relays : event.Relays w.issued.length) (happens : Happens prims config event
        { w with issued := w.issued ++ [.relay (command.relayed relayReceipt controllerPublicKey)] }
        w') :
      CommandStep prims config controller posts state
        { state with delivered := state.delivered + 1, daemon := (.waiting op next, w') }
  /-- Another step of the daemon. -/
  | daemon {state : Commanding} {daemon' : Config calls World Stage}
      (step : Step (daemon prims config (withoutCommandsOf controller.deviceId)) state.daemon
        daemon') :
      CommandStep prims config controller posts state { state with daemon := daemon' }
  | restarts (state : Commanding) :
      CommandStep prims config controller posts state
        { state with daemon := (.running (.done .start), state.daemon.2.restarted) }

/-- What they come to. -/
def CommandReaches (prims : Primitives) (config : DaemonConfig) (controller : ControllerIdentity)
    (posts : Commanding → RemoteCommandV1 → Prop) : Commanding → Commanding → Prop :=
  Relation.ReflTransGen (CommandStep prims config controller posts)

/-- The command's nonce is above those of all that were posted before it. -/
def inOrder (state : Commanding) (command : RemoteCommandV1) : Prop :=
  ∀ earlier ∈ state.posted, earlier.nonce < command.nonce

/-- Nothing is under way yet, and the daemon has seen no nonce the controller will use. -/
structure Commanding.Fresh (controller : ControllerIdentity) (state : Commanding) : Prop where
  sending : state.sending = []
  posted : state.posted = []
  delivered : state.delivered = 0
  daemon : ∃ stage, state.daemon.1 = .running (.done stage)
  stored : ∀ nonce, state.daemon.2.storedNonce controller.deviceId = some nonce →
    nonce ≤ state.controllerNonce

/-- The commands of a controller have growing nonces above a floor, and what the daemon has stored is
at the floor or comes from a command that was delivered. -/
structure Commanding.Ordered (controller : ControllerIdentity) (floor : UInt64)
    (state : Commanding) : Prop where
  programs : state.daemon.1.Only (Op.Within nonceEffects)
  counter : floor ≤ state.controllerNonce
  sending : ∀ call ∈ state.sending, floor < call.nonce ∧
    ∀ command, call = .signed command → command.controllerDeviceId = controller.deviceId
  posted : ∀ command ∈ state.posted,
    floor < command.nonce ∧ command.controllerDeviceId = controller.deviceId
  growing : (state.posted.map (·.nonce)).Pairwise (· < ·)
  stored : ∀ nonce, state.daemon.2.storedNonce controller.deviceId = some nonce →
    nonce ≤ floor ∨ ∃ command ∈ state.posted.take state.delivered, nonce ≤ command.nonce

namespace Commanding.Ordered

variable {controller : ControllerIdentity} {floor : UInt64} {state : Commanding}

/-- What is stored is below the command that comes next. -/
theorem lt_first (ordered : state.Ordered controller floor) {command : RemoteCommandV1}
    (first : state.posted[state.delivered]? = some command) {nonce : UInt64}
    (stored : state.daemon.2.storedNonce controller.deviceId = some nonce) :
    nonce < command.nonce := by
  have split : state.posted = state.posted.take state.delivered ++ command ::
      state.posted.drop (state.delivered + 1) := by
    obtain ⟨bound, same⟩ := List.getElem?_eq_some_iff.mp first
    rw [← same, ← List.drop_eq_getElem_cons bound, List.take_append_drop]
  rcases ordered.stored nonce stored with low | ⟨earlier, mem, below⟩
  · exact UInt64.lt_of_le_of_lt low
      (ordered.posted command (List.mem_of_getElem? first)).1
  · have growing := ordered.growing
    rw [split, List.map_append, List.pairwise_append] at growing
    exact UInt64.lt_of_le_of_lt below (growing.2.2 _ (List.mem_map_of_mem mem) _
      (List.mem_map_of_mem List.mem_cons_self))

/-- Fewer calls are under way. -/
theorem sublist (ordered : state.Ordered controller floor) {sending : List SendCall}
    (fewer : sending.Sublist state.sending) :
    { state with sending }.Ordered controller floor :=
  { ordered with sending := fun call mem => ordered.sending call (fewer.subset mem) }

/-- A daemon that has stored nothing new. -/
theorem of_stored (ordered : state.Ordered controller floor)
    {daemon' : Config calls World Stage} (programs : daemon'.1.Only (Op.Within nonceEffects))
    (same : daemon'.2.storedNonce controller.deviceId =
      state.daemon.2.storedNonce controller.deviceId) :
    { state with daemon := daemon' }.Ordered controller floor :=
  { ordered with programs, stored := fun nonce stored => ordered.stored nonce (same ▸ stored) }

end Commanding.Ordered

/-- A daemon that gets no command of the controller stores no nonce of it. -/
theorem storedNonce_step {controllerDeviceId : Uuid} {a b : Config calls World Stage}
    (programs : a.1.Only (Op.Within nonceEffects))
    (step : Step (daemon prims config (withoutCommandsOf controllerDeviceId)) a b) :
    b.2.storedNonce controllerDeviceId = a.2.storedNonce controllerDeviceId := by
  cases step with
  | issue begins => rw [World.storedNonce, World.Begins.journal begins.2, World.storedNonce]
  | resume answers =>
    have kept := answers.2.secret_of_within programs.1 fun keeps => keeps controllerDeviceId rfl
    rw [World.storedNonce, kept, World.storedNonce]
  | others awaits acts =>
    obtain ⟨event, permitted, happens⟩ := acts
    rcases happens.storedNonce controllerDeviceId with same | stored
    · exact same
    · obtain ⟨i, envelope, delivery, relays, sent, payload, own, -⟩ := stored
      exact absurd own (permitted i envelope delivery relays sent payload)
  | again follows => rfl
  | crash crashes => exact crashes.2.1.elim

/-- **Step.**  The nonces stay in order as long as commands are posted in their order. -/
theorem Commanding.Ordered.step {controller : ControllerIdentity} {floor : UInt64}
    {a b : Commanding} (ordered : a.Ordered controller floor)
    (step : CommandStep prims config controller inOrder a b) : b.Ordered controller floor := by
  cases step with
  | @issues nonce next =>
    have above : a.controllerNonce < nonce := by
      rw [UInt64.lt_iff_toNat_lt, checkedAddU64_eq_some.mp next]
      exact Nat.lt_succ_self _
    refine { ordered with counter := ?_, sending := ?_ }
    · exact UInt64.le_trans ordered.counter (UInt64.le_of_lt above)
    · intro call mem
      rcases List.mem_append.mp mem with earlier | last
      · exact ordered.sending call earlier
      · rw [List.mem_singleton.mp last]
        exact ⟨UInt64.lt_of_le_of_lt ordered.counter above, nofun⟩
  | @signs front back nonce _ _ _ _ _ command sending signed =>
    obtain ⟨nonces, own⟩ := RemoteCommandV1.fields_of_sign signed
    refine { ordered with sending := ?_ }
    intro call mem
    have others : ∀ call ∈ front ++ back, call ∈ a.sending := fun call mem => by
      rw [sending]
      simp only [List.mem_append, List.mem_cons] at mem ⊢
      tauto
    rcases List.mem_append.mp mem with earlier | later
    · exact ordered.sending call (others call (List.mem_append_left _ earlier))
    · rcases List.mem_cons.mp later with rfl | later
      · have issued := ordered.sending (.issued nonce) (by simp [sending])
        refine ⟨?_, fun other same => ?_⟩
        · rw [SendCall.nonce, nonces]
          exact issued.1
        · cases same
          exact own
      · exact ordered.sending call (others call (List.mem_append_right _ later))
  | @posts front back command sending permitted =>
    have held := ordered.sending (.signed command) (by simp [sending])
    have fewer : (front ++ back).Sublist a.sending := by
      rw [sending]
      exact List.Sublist.append_left (List.sublist_cons_self _ _) _
    refine { ordered.sublist fewer with posted := ?_, growing := ?_, stored := ?_ }
    · intro other mem
      rcases List.mem_append.mp mem with earlier | last
      · exact ordered.posted other earlier
      · rw [List.mem_singleton.mp last]
        exact ⟨held.1, held.2 command rfl⟩
    · simp only [List.map_append, List.map_cons, List.map_nil, List.pairwise_append,
        List.pairwise_singleton, List.mem_map, List.mem_singleton, true_and]
      refine ⟨ordered.growing, ?_⟩
      rintro _ ⟨earlier, mem, rfl⟩ _ rfl
      exact permitted earlier mem
    · intro nonce stored
      rcases ordered.stored nonce stored with low | ⟨earlier, mem, below⟩
      · exact .inl low
      · refine .inr ⟨earlier, ?_, below⟩
        rw [List.take_append]
        exact List.mem_append_left _ mem
  | fails sending =>
    refine ordered.sublist ?_
    rw [sending]
    exact List.Sublist.append_left (List.sublist_cons_self _ _) _
  | @delivers command relayReceipt publicKey op next event w w' first waits awaits relays happens =>
    have mem : command ∈ a.posted.take (a.delivered + 1) := by
      rw [List.take_add_one, first]
      exact List.mem_append_right _ (List.mem_singleton_self _)
    refine { ordered with programs := ?_, stored := ?_ }
    · have programs := ordered.programs
      rw [waits] at programs
      exact programs
    · intro nonce stored
      rcases happens.storedNonce controller.deviceId with same | taken
      · have before : a.daemon.2.storedNonce controller.deviceId = some nonce := by
          rw [waits]
          exact same ▸ stored
        rcases ordered.stored nonce before with low | ⟨earlier, older, below⟩
        · exact .inl low
        · exact .inr ⟨earlier, (List.take_subset_take_left _ (Nat.le_succ _)) older, below⟩
      · obtain ⟨i, envelope, delivery, relays', sent, payload, -, stores⟩ := taken
        obtain rfl : i = w.issued.length := relays'.unique relays
        simp only [List.getElem?_concat_length, Option.some.injEq] at sent
        cases sent
        cases payload
        rw [stores] at stored
        exact .inr ⟨command, mem, UInt64.le_of_eq (Option.some.inj stored).symm⟩
  | daemon step =>
    have programs := step.only (NextProgram.only nonceEffects_process) ordered.programs
    exact ordered.of_stored programs (storedNonce_step ordered.programs step)
  | restarts => exact ordered.of_stored trivial rfl

/-- The nonces are in order wherever they come. -/
theorem Commanding.Fresh.ordered {controller : ControllerIdentity} {fresh state : Commanding}
    (start : fresh.Fresh controller)
    (reached : CommandReaches prims config controller inOrder fresh state) :
    state.Ordered controller fresh.controllerNonce := by
  induction reached with
  | refl =>
    obtain ⟨stage, idle⟩ := start.daemon
    refine ⟨?_, UInt64.le_refl _, ?_, ?_, ?_, fun nonce stored => .inl (start.stored nonce stored)⟩
    · rw [idle]
      trivial
    · simp [start.sending]
    · simp [start.posted]
    · simp [start.posted]
  | tail _ step ih => exact ih.step step

/-- **Commands in transit.**  As long as commands are posted in the order of their nonces, the one
that the relay delivers next has a nonce above the one the daemon has stored. -/
theorem no_command_refused_for_its_nonce {controller : ControllerIdentity}
    {fresh state : Commanding} (start : fresh.Fresh controller)
    (reached : CommandReaches prims config controller inOrder fresh state)
    {command : RemoteCommandV1} (first : state.posted[state.delivered]? = some command) :
    ∀ nonce, state.daemon.2.storedNonce command.controllerDeviceId = some nonce →
      nonce < command.nonce := by
  have ordered := start.ordered reached
  rw [(ordered.posted command (List.mem_of_getElem? first)).2]
  exact fun nonce stored => ordered.lt_first first stored

/-! ## Two calls at a time -/

def sampleController : ControllerIdentity where
  deviceId := (sampleCommand .pause 1).controllerDeviceId
  signingKey := sampleKey

/-- The sample command before the relay has it. -/
def postedCommand (action : RemoteAction) (nonce : UInt64) : RemoteCommandV1 :=
  { sampleCommand action nonce with relayReceipt := none }

theorem sign_postedCommand (action : RemoteAction) (nonce : UInt64) :
    RemoteCommandV1.sign countingPrimitives sampleController.signingKey
      (postedCommand action nonce).commandId sampleConfig.deviceId sampleStarted.runId action nonce
      ⟨1767571200000000000, 0⟩ ⟨1767571205000000000, 0⟩ sampleController.deviceId =
        .ok (postedCommand action nonce) := by
  unfold RemoteCommandV1.sign
  rw [if_neg (by decide)]
  rfl

/-- A controller that has sent nothing, and a daemon with an active run. -/
def freshCommanding : Commanding where
  controllerNonce := 0
  sending := []
  posted := []
  delivered := 0
  daemon := (.running (.done .start), activeWorld)

theorem freshCommanding_fresh : freshCommanding.Fresh sampleController :=
  ⟨rfl, rfl, rfl, ⟨_, rfl⟩, nofun⟩

section Sample

variable (posts : Commanding → RemoteCommandV1 → Prop)

/-- The daemon waits for its first tokens. -/
theorem commanding_waits :
    ∃ next, CommandReaches countingPrimitives sampleConfig sampleController posts freshCommanding
      ⟨0, [], [], 0, (.waiting .rotate next, activeWorld)⟩ := by
  have start : CommandReaches countingPrimitives sampleConfig sampleController posts freshCommanding
      ⟨0, [], [], 0, (.running (startUp countingPrimitives sampleConfig), activeWorld)⟩ :=
    .single (.daemon (.again .start))
  exact ⟨_, start.tail (.daemon (.issue ⟨trivial, rfl⟩))⟩

/-- A call among others signs. -/
theorem commanding_signs (front back : List SendCall) (action : RemoteAction) (nonce : UInt64)
    {state : Commanding} (sending : state.sending = front ++ .issued nonce :: back) :
    CommandStep countingPrimitives sampleConfig sampleController posts state
      { state with sending := front ++ .signed (postedCommand action nonce) :: back } :=
  .signs sending (sign_postedCommand action nonce)

/-- Two calls have taken their nonces and signed. -/
theorem commanding_two (first second : RemoteAction) (config' : Config calls World Stage) :
    CommandReaches countingPrimitives sampleConfig sampleController posts ⟨0, [], [], 0, config'⟩
      ⟨2, [.signed (postedCommand first 1), .signed (postedCommand second 2)], [], 0, config'⟩ := by
  have issued : CommandReaches countingPrimitives sampleConfig sampleController posts
      ⟨0, [], [], 0, config'⟩ ⟨1, [.issued 1], [], 0, config'⟩ := .single (.issues rfl)
  have both : CommandReaches countingPrimitives sampleConfig sampleController posts
      ⟨0, [], [], 0, config'⟩ ⟨2, [.issued 1, .issued 2], [], 0, config'⟩ := issued.tail (.issues rfl)
  have signed := both.tail (commanding_signs posts [] [.issued 2] first 1 rfl)
  exact signed.tail
    (commanding_signs posts [.signed (postedCommand first 1)] [] second 2 rfl)

theorem sampleEnvelope_not_shutdown {action : RemoteAction} {nonce : UInt64} :
    ¬(sampleEnvelope action nonce).isShutdown := by
  simp [WireEnvelope.isShutdown, sampleEnvelope]

/-- The first of the posted commands is taken when the gate accepts it. -/
theorem commanding_delivers (next : String → Prog calls Stage) (action : RemoteAction)
    (nonce : UInt64) (posted : List RemoteCommandV1)
    (accepted : (activeWorld.gate.apply action).1 = true) :
    ∃ daemon', CommandStep countingPrimitives sampleConfig sampleController posts
        ⟨2, [], postedCommand action nonce :: posted, 0, (.waiting .rotate next, activeWorld)⟩
        ⟨2, [], postedCommand action nonce :: posted, 1, daemon'⟩ ∧
      daemon'.2.storedNonce sampleController.deviceId = some nonce := by
  let w : World := { activeWorld with issued := [.relay (sampleEnvelope action nonce)] }
  have checks : w.Checks countingPrimitives sampleConfig.deviceId (sampleEnvelope action nonce) _ _ :=
    sampleEnvelope_checks action nonce rfl nofun
  have receives : w.Receives 0 (sampleEnvelope action nonce) :=
    ⟨rfl, rfl, sampleEnvelope_not_shutdown⟩
  have happens : Happens countingPrimitives sampleConfig _ w _ :=
    .relay receives (runs_applyRelayMessage sampleEnvelope_carries checks accepted)
  refine ⟨_, .delivers rfl rfl rfl (.inl rfl) happens, ?_⟩
  have stored := World.storedNonce_storesNonce (sampleCommand action nonce)
    sampleStarted.occurredAt sampleController.deviceId (w := w)
  exact stored.trans (if_pos rfl)

/-- A call among others posts its command. -/
theorem commanding_posts (front back : List SendCall) {command : RemoteCommandV1}
    {state : Commanding} (sending : state.sending = front ++ .signed command :: back)
    (permitted : posts state command) :
    CommandStep countingPrimitives sampleConfig sampleController posts state
      { state with sending := front ++ back, posted := state.posted ++ [command] } :=
  .posts sending permitted

end Sample

/-- The theorem at a run in which the second of two commands comes next. -/
theorem sample_command_not_refused :
    ∃ state, CommandReaches countingPrimitives sampleConfig sampleController inOrder freshCommanding
        state ∧
      state.posted[state.delivered]? = some (postedCommand .stop 2) ∧
        state.daemon.2.storedNonce sampleController.deviceId = some 1 ∧ (1 : UInt64) < 2 := by
  obtain ⟨next, waits⟩ := commanding_waits inOrder
  have signed := waits.trans (commanding_two inOrder .pause .stop _)
  have first := signed.tail
    (commanding_posts inOrder [] [.signed (postedCommand .stop 2)] rfl nofun)
  have above : ∀ earlier ∈ [postedCommand .pause 1],
      earlier.nonce < (postedCommand .stop 2).nonce := by
    intro earlier mem
    rw [List.mem_singleton.mp mem]
    decide
  have both := first.tail (commanding_posts inOrder [] [] rfl above)
  obtain ⟨daemon', taken, stored⟩ := commanding_delivers inOrder next .pause 1 [postedCommand .stop 2] rfl
  have delivered := both.tail taken
  exact ⟨_, delivered, rfl, stored,
    no_command_refused_for_its_nonce freshCommanding_fresh delivered rfl 1 stored⟩

/-- The second of two calls posts first, and the stop of the first one is refused. -/
theorem overtaken_command_is_refused :
    ∃ state, CommandReaches countingPrimitives sampleConfig sampleController (fun _ _ => True)
        freshCommanding state ∧
      ∃ command nonce, state.posted[state.delivered]? = some command ∧
        state.daemon.2.storedNonce command.controllerDeviceId = some nonce ∧
          ¬nonce < command.nonce := by
  obtain ⟨next, waits⟩ := commanding_waits fun _ _ => True
  have signed := waits.trans (commanding_two _ .stop .pause _)
  have second := signed.tail
    (commanding_posts _ [.signed (postedCommand .stop 1)] [] rfl trivial)
  have both := second.tail (commanding_posts _ [] [] rfl trivial)
  obtain ⟨daemon', taken, stored⟩ := commanding_delivers (fun _ _ => True) next .pause 2
    [postedCommand .stop 1] rfl
  exact ⟨_, both.tail taken, postedCommand .stop 1, 2, rfl, stored, by decide⟩

end CrowAgent
