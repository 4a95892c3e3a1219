import CrowAgent.Daemon.CompanionReplay

/-!
# Runs of a process

How a process comes into its session when nothing happens beside it, and how such a run is a part of a
run of the daemon.
-/

namespace CrowAgent

open Coroutine

variable {prims : Primitives} {config : DaemonConfig} {w w' : World}

/-- A call can be answered while nobody else acts. -/
theorem runs_request (op : Op) (answer : op.Res) {w₁ : World} (begins : World.Begins op w w₁)
    (polled : World.Polled op w₁) (answers : World.Answers prims op w₁ answer w') :
    (request op).Runs (alone prims) w answer w' := by
  refine .call begins ?_ ⟨polled, answers⟩ .done
  unfold System.Between
  split
  · exact .refl
  · rfl

/-- The first tokens are stored, and the session lives. -/
def World.connected (w : World) (refreshToken : String) : World :=
  { w with
    journal := (w.journal.putSecret refreshTokenKey (utf8 refreshToken)).2
    relay := .session
    live := .running }

section StartUp

variable {refreshToken : String}

theorem runs_storeTokens :
    (request (.journal (.putSecret refreshTokenKey (utf8 refreshToken)))).Runs (alone prims) w
      (.ok ()) { w with journal := (w.journal.putSecret refreshTokenKey (utf8 refreshToken)).2 } := by
  have stored : (w.journal.putSecret refreshTokenKey (utf8 refreshToken)).1 = .ok () := by
    rw [EncryptedJournal.putSecret, if_neg (by decide)]
  refine runs_request (.journal (.putSecret refreshTokenKey (utf8 refreshToken))) _ rfl ?_
    (.inl ⟨stored.symm, rfl⟩)
  intro awaits
  cases awaits

/-- A process takes its first tokens and goes on with its session. -/
theorem runs_startUp {ended : Except LiveRunError Turn × Unit} {stage : Stage} {w₁ : World}
    (starting : w.relay = .starting) (notStopped : w.gate ≠ .stopped)
    (session : ((startSession prims config).start ()).Runs (alone prims) (w.connected refreshToken)
      ended w₁)
    (after : (afterTurn ended.1).Runs (alone prims) w₁ stage w') :
    (startUp prims config).Runs (alone prims) w stage w' := by
  refine .bind (runs_request .rotate refreshToken rfl starting rfl) ?_
  refine .bind runs_storeTokens ?_
  refine .bind (runs_request (.shared .label) w.gate rfl nofun ⟨rfl, rfl⟩) ?_
  rw [if_neg notStopped]
  exact .bind (runs_request (.shared (.setLive .running)) () rfl nofun ⟨rfl, rfl⟩)
    (.bind session after)

/-- So does a run up to a call of the session. -/
theorem leadsTo_startUp {op : Op} (starting : w.relay = .starting) (notStopped : w.gate ≠ .stopped)
    (session : (startSession prims config).LeadsTo (alone prims) () (w.connected refreshToken) op w') :
    (startUp prims config).LeadsTo (alone prims) w op w' := by
  refine Prog.Runs.leadsTo (runs_request .rotate refreshToken rfl starting rfl) ?_
  refine Prog.Runs.leadsTo runs_storeTokens ?_
  refine Prog.Runs.leadsTo (runs_request (.shared .label) w.gate rfl nofun ⟨rfl, rfl⟩) ?_
  rw [if_neg notStopped]
  exact Prog.Runs.leadsTo (runs_request (.shared (.setLive .running)) () rfl nofun ⟨rfl, rfl⟩)
    (.bind session)

end StartUp

/-! ## Up to the request for a run -/

/-- A secret can be looked up. -/
theorem runs_readSecret {env : World → World → Prop} {σ ε : Type} {locals : σ}
    {convert : JournalError → ε} {name : String} {value : Option Bytes}
    (stored : w.journal.secret name = value) :
    (askJournal convert (.secret name) : Act calls σ ε _).Runs (World.system prims env) locals w
      (.ok value) locals w := by
  have read : (JournalCall.secret name).run prims w.journal = (.ok value, w.journal) := by
    rw [← stored]
    rfl
  exact runs_askJournal read

/-- A session without a stored run asks for one. -/
theorem leadsTo_startRun (now : OffsetDateTime)
    (early : ¬config.manifest.endsAt.unixNanoseconds ≤ now.unixNanoseconds)
    (noId : w.journal.secret (runIdKey config.arenaId) = none)
    (noLease : w.journal.secret (leaseKey config.arenaId) = none) :
    (startSession prims config).LeadsTo (alone prims) () w
      (.api (.startRun config.liveArena.startRequest)) { w with clock := now } := by
  have opens : JournalCall.openJournal.run prims w.journal = (.ok (), w.journal) := rfl
  have token : (askApi .controlPlane .withAccessToken : Act calls Unit LiveRunError _).Runs
      (alone prims) () { w with clock := now } (.ok ()) () { w with clock := now } :=
    Act.Runs.bind (runs_ask (.api .withAccessToken) (Except.ok ()) rfl nofun rfl) Act.Runs.pure
  have acquires : (acquireRun prims config).LeadsTo (alone prims) () { w with clock := now }
      (.api (.startRun config.liveArena.startRequest)) { w with clock := now } :=
    Act.Runs.leadsTo (runs_readSecret noId) (Act.Runs.leadsTo (runs_readSecret noLease)
      (.bind (.bind .perform)))
  exact Act.Runs.leadsTo (runs_ask .nowUtc now rfl nofun rfl)
    (Act.Runs.leadsTo (Act.Runs.rejectIf early) (Act.Runs.leadsTo (runs_askJournal opens)
      (Act.Runs.leadsTo token (.bind acquires))))

/-! ## In the daemon -/

section Reach

variable {permits : Happening → World → Prop} {P : Op → Prop} {prog : Prog calls Stage}

theorem daemon_extends (calls : ∀ op w, P op → permits (.call op) w) :
    (alone prims).Extends P (daemon prims config permits).toSystem where
  begins := fun calling begins => ⟨calls _ _ calling, begins⟩
  answers := fun answers => answers
  acts := fun never => never.elim

/-- A permitted call can be answered. -/
theorem runs_permitted (op : Op) (answer : op.Res) (permitted : permits (.call op) w)
    {w₁ w' : World} (begins : World.Begins op w w₁) (polled : World.Polled op w₁)
    (answers : World.Answers prims op w₁ answer w') :
    (request op).Runs (daemon prims config permits).toSystem w answer w' := by
  refine .call ⟨permitted, begins⟩ ?_ ⟨polled, answers⟩ .done
  unfold System.Between
  split
  · exact .refl
  · rfl

/-- What a program does alone is a part of a run of the daemon, if its calls are permitted. -/
theorem reach_of_runs (calls : ∀ op w, P op → permits (.call op) w) (only : prog.Only P)
    {stage : Stage} (runs : prog.Runs (alone prims) w stage w') :
    Reach (daemon prims config permits) (.running prog, w) (.running (.done stage), w') :=
  ((daemon_extends calls).runs only runs).reach_done

theorem reach_of_leadsTo (calls : ∀ op w, P op → permits (.call op) w) (only : prog.Only P)
    {op : Op} (leads : prog.LeadsTo (alone prims) w op w') :
    ∃ next, Reach (daemon prims config permits) (.running prog, w) (.running (.call op next), w') :=
  ((daemon_extends calls).leadsTo only leads).reach (daemon prims config permits)

end Reach

end CrowAgent
