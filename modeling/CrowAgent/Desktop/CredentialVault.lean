import CrowAgent.Lib.Base64
import CrowAgent.Lib.Threads
import CrowAgent.Protocol.Primitives

/-!
# Secrets of the credential vault

Four functions load a secret of the vault or create it.  Each reads the vault in one critical section
and writes it in a second one, so that two calls can find no secret and both write theirs.
`loads_one_secret` says that there is one secret for all calls as long as no call writes over one, and
`loads_two_secrets` is the schedule in which it does.
-/

namespace CrowAgent

open Threads

inductive DesktopError : Type
  | credential
  | companion
  | venue
  deriving DecidableEq, Repr

/-- The secrets of the vault. -/
structure DesktopCredentialVaultV1 : Type where
  signingSeed : Option String := none
  encryptionSecret : Option String := none
  companionSecret : Option String := none
  journalKey : Option String := none
  hyperliquidApiWalletKey : Option String := none
  deriving DecidableEq, Repr

def signingSeedAccount : String := "device-signing-seed"

def encryptionSecretAccount : String := "device-encryption-secret"

def companionSecretAccount : String := "companion-ipc-secret"

def journalKeyAccount : String := "journal-key"

def hyperliquidApiWalletAccount : String := "hyperliquid-api-wallet-key"

def vaultSecretForAccount (vault : DesktopCredentialVaultV1) (account : String) : Option String :=
  if account = signingSeedAccount then vault.signingSeed
  else if account = encryptionSecretAccount then vault.encryptionSecret
  else if account = companionSecretAccount then vault.companionSecret
  else if account = journalKeyAccount then vault.journalKey
  else if account = hyperliquidApiWalletAccount then vault.hyperliquidApiWalletKey
  else none

def setVaultSecretForAccount (vault : DesktopCredentialVaultV1) (account encoded : String) :
    Except DesktopError DesktopCredentialVaultV1 :=
  if account = signingSeedAccount then .ok { vault with signingSeed := some encoded }
  else if account = encryptionSecretAccount then
    .ok { vault with encryptionSecret := some encoded }
  else if account = companionSecretAccount then .ok { vault with companionSecret := some encoded }
  else if account = journalKeyAccount then .ok { vault with journalKey := some encoded }
  else if account = hyperliquidApiWalletAccount then
    .ok { vault with hyperliquidApiWalletKey := some encoded }
  else .error .credential

/-- The accounts the vault has a place for. -/
def secretAccounts : List String :=
  [signingSeedAccount, encryptionSecretAccount, companionSecretAccount, journalKeyAccount,
    hyperliquidApiWalletAccount]

def decodeVaultSecret (value : String) : Except DesktopError (FixedBytes 32) :=
  match (Base64.decode? value).bind (FixedBytes.ofBytes? 32) with
  | some secret => .ok secret
  | none => .error .credential

/-! ## Loading or creating -/

/-- What the random source gives, draw after draw. -/
abbrev Draws : Type := Nat → FixedBytes 32

/-- A function that loads a secret or creates it.  A key is kept as the bytes it is made of. -/
structure SecretLoader : Type where
  /-- What the function reads of the vault, and how it writes it. -/
  load : DesktopCredentialVaultV1 → Option String
  store : DesktopCredentialVaultV1 → String → Except DesktopError DesktopCredentialVaultV1
  /-- What it checks of a secret that it has read. -/
  check : FixedBytes 32 → Except DesktopError Unit
  create : Draws → Except DesktopError (FixedBytes 32)

def loadOrCreateIdentity : SecretLoader where
  load vault := vault.signingSeed
  store vault encoded := .ok { vault with signingSeed := some encoded }
  check _ := .ok ()
  create draws := .ok (draws 0)

def loadOrCreateEncryptionKey : SecretLoader where
  load vault := vault.encryptionSecret
  store vault encoded := .ok { vault with encryptionSecret := some encoded }
  check _ := .ok ()
  create draws := .ok (draws 0)

/-- `load_or_create_hyperliquid_api_wallet_key`, with 64 attempts at a key that has an address. -/
def loadOrCreateHyperliquidApiWalletKey (walletAddress : FixedBytes 32 → Option String) :
    SecretLoader where
  load vault := vault.hyperliquidApiWalletKey
  store vault encoded := .ok { vault with hyperliquidApiWalletKey := some encoded }
  check key := if (walletAddress key).isSome then .ok () else .error .venue
  create draws :=
    match ((List.range 64).map draws).find? fun key => (walletAddress key).isSome with
    | some key => .ok key
    | none => .error .venue

def loadOrCreateSecret32 (account : String) : SecretLoader where
  load vault := vaultSecretForAccount vault account
  store vault encoded := setVaultSecretForAccount vault account encoded
  check _ := .ok ()
  create draws := .ok (draws 0)

def secretLoaders (walletAddress : FixedBytes 32 → Option String) : List SecretLoader :=
  [loadOrCreateIdentity, loadOrCreateEncryptionKey,
    loadOrCreateHyperliquidApiWalletKey walletAddress] ++ secretAccounts.map loadOrCreateSecret32

/-- How far a call has come. -/
inductive LoadCall : Type
  | reading
  /-- Nothing was stored, and a secret was created. -/
  | writing (secret : FixedBytes 32)
  | returned (result : Except DesktopError (FixedBytes 32))

namespace SecretLoader

variable (loader : SecretLoader)

/-- A stored secret. -/
def decode (encoded : String) : Except DesktopError (FixedBytes 32) := do
  let secret ← decodeVaultSecret encoded
  loader.check secret
  return secret

/-- The two critical sections of a call, under the lock of the vault. -/
def act (vault : DesktopCredentialVaultV1) (call : LoadCall) (draws : Draws) :
    Option (DesktopCredentialVaultV1 × LoadCall) :=
  match call with
  | .reading =>
    match loader.load vault with
    | some encoded => some (vault, .returned (loader.decode encoded))
    | none =>
      match loader.create draws with
      | .ok secret => some (vault, .writing secret)
      | .error e => some (vault, .returned (.error e))
  | .writing secret =>
    match loader.store vault (Base64.encode secret.val) with
    | .ok vault => some (vault, .returned (.ok secret))
    | .error e => some (vault, .returned (.error e))
  | .returned _ => none

/-- Any number of calls.  Besides, other updates leave the secret as it is. -/
def calls : System DesktopCredentialVaultV1 LoadCall Unit Draws DesktopCredentialVaultV1 where
  begins _ := .reading
  act := loader.act
  happen vault vault' := if loader.load vault' = loader.load vault then some vault' else none

end SecretLoader

/-- The calls and the vault. -/
abbrev VaultPool : Type := Pool DesktopCredentialVaultV1 LoadCall

abbrev VaultAction : Type := Action Unit Draws DesktopCredentialVaultV1

/-- There are no calls yet, and a secret that is stored can be read. -/
structure SecretLoader.Ready (loader : SecretLoader) (pool : VaultPool) : Prop where
  threads : pool.threads = []
  stored : ∀ encoded, loader.load pool.shared = some encoded →
    ∃ secret, loader.decode encoded = .ok secret

/-- A call creates a secret if it has to, and writes it only where there is none. -/
structure SecretLoader.WritesFirst (loader : SecretLoader) (pool : VaultPool)
    (action : VaultAction) : Prop where
  creates : ∀ index draws, action = .act index draws → pool.threads[index]? = some .reading →
    loader.load pool.shared = none → ∃ secret, loader.create draws = .ok secret
  vacant : ∀ index draws secret, action = .act index draws →
    pool.threads[index]? = some (.writing secret) → loader.load pool.shared = none

/-- All calls that have returned have returned the secret that is stored. -/
def SecretLoader.Agrees (loader : SecretLoader) (pool : VaultPool) : Prop :=
  ∀ result, .returned result ∈ pool.threads → ∃ encoded secret,
    loader.load pool.shared = some encoded ∧ loader.decode encoded = .ok secret ∧
      result = .ok secret

/-- There is one secret for all calls, and it is never replaced. -/
def SecretLoader.LoadsOneSecret (loader : SecretLoader)
    (permitted : VaultPool → VaultAction → Prop) : Prop :=
  ∀ start pool later, loader.Ready start → loader.calls.Reaches permitted start pool →
    loader.calls.Reaches permitted pool later →
    loader.Agrees pool ∧
      ∀ encoded, loader.load pool.shared = some encoded → loader.load later.shared = some encoded

/-! ## The four functions -/

/-- A function reads what it writes, and accepts what it creates. -/
structure SecretLoader.Works (loader : SecretLoader) : Prop where
  stores : ∀ vault encoded, ∃ vault', loader.store vault encoded = .ok vault' ∧
    loader.load vault' = some encoded
  accepts : ∀ draws secret, loader.create draws = .ok secret → loader.check secret = .ok ()

theorem works_loadOrCreateSecret32 {account : String} (mem : account ∈ secretAccounts) :
    (loadOrCreateSecret32 account).Works where
  stores := by
    intro vault encoded
    simp only [secretAccounts, List.mem_cons, List.not_mem_nil, or_false] at mem
    rcases mem with rfl | rfl | rfl | rfl | rfl
    · exact ⟨_, rfl, rfl⟩
    · exact ⟨_, rfl, rfl⟩
    · exact ⟨_, rfl, rfl⟩
    · exact ⟨_, rfl, rfl⟩
    · exact ⟨_, rfl, rfl⟩
  accepts := fun _ _ _ => rfl

theorem works_loadOrCreateHyperliquidApiWalletKey (walletAddress : FixedBytes 32 → Option String) :
    (loadOrCreateHyperliquidApiWalletKey walletAddress).Works where
  stores := fun _ _ => ⟨_, rfl, rfl⟩
  accepts := by
    intro draws secret created
    simp only [loadOrCreateHyperliquidApiWalletKey] at created ⊢
    split at created
    · rename_i key found
      cases created
      exact if_pos (List.find?_some found)
    · cases created

theorem works_of_mem_secretLoaders {walletAddress : FixedBytes 32 → Option String}
    {loader : SecretLoader} (mem : loader ∈ secretLoaders walletAddress) : loader.Works := by
  rcases List.mem_append.mp mem with first | last
  · simp only [List.mem_cons, List.not_mem_nil, or_false] at first
    rcases first with rfl | rfl | rfl
    · exact ⟨fun _ _ => ⟨_, rfl, rfl⟩, fun _ _ _ => rfl⟩
    · exact ⟨fun _ _ => ⟨_, rfl, rfl⟩, fun _ _ _ => rfl⟩
    · exact works_loadOrCreateHyperliquidApiWalletKey walletAddress
  · obtain ⟨account, isAccount, rfl⟩ := List.mem_map.mp last
    exact works_loadOrCreateSecret32 isAccount

/-- What was written is read as the secret it was written for. -/
theorem SecretLoader.Works.decode_encode {loader : SecretLoader} {secret : FixedBytes 32}
    (accepted : loader.check secret = .ok ()) :
    loader.decode (Base64.encode secret.val) = .ok secret := by
  rw [SecretLoader.decode, decodeVaultSecret, Base64.decode?_encode, Option.bind_some,
    FixedBytes.ofBytes?_val]
  simp only [bind, Except.bind, accepted]
  rfl

/-! ## One secret -/

/-- What is stored can be read. -/
def SecretLoader.Readable (loader : SecretLoader) (vault : DesktopCredentialVaultV1) : Prop :=
  ∀ encoded, loader.load vault = some encoded → ∃ secret, loader.decode encoded = .ok secret

/-- A call that writes has an acceptable secret, and one that has returned has the one stored. -/
def SecretLoader.Settled (loader : SecretLoader) (vault : DesktopCredentialVaultV1) :
    LoadCall → Prop
  | .reading => True
  | .writing secret => loader.check secret = .ok ()
  | .returned result => ∃ encoded secret, loader.load vault = some encoded ∧
      loader.decode encoded = .ok secret ∧ result = .ok secret

/-- Where the secret stays, the calls are settled as before. -/
theorem SecretLoader.Settled.of_load {loader : SecretLoader} {vault vault' : DesktopCredentialVaultV1}
    {call : LoadCall} (settled : loader.Settled vault call)
    (same : loader.load vault' = loader.load vault) : loader.Settled vault' call := by
  cases call with
  | reading => trivial
  | writing secret => exact settled
  | returned result =>
    obtain ⟨encoded, secret, stored, rest⟩ := settled
    exact ⟨encoded, secret, same.trans stored, rest⟩

/-- Where nothing is stored, no call has returned, so that a write leaves all settled. -/
theorem SecretLoader.Settled.of_vacant {loader : SecretLoader}
    {vault vault' : DesktopCredentialVaultV1} {call : LoadCall} (settled : loader.Settled vault call)
    (vacant : loader.load vault = none) : loader.Settled vault' call := by
  cases call with
  | reading => trivial
  | writing secret => exact settled
  | returned result =>
    obtain ⟨encoded, secret, stored, -⟩ := settled
    rw [vacant] at stored
    cases stored

/-- **Step.**  A call that writes where there is no secret keeps all calls settled. -/
theorem SecretLoader.Works.keeps {loader : SecretLoader} (works : loader.Works) :
    Keeps loader.calls loader.WritesFirst loader.Readable loader.Settled where
  begins := fun _ _ _ => trivial
  acts := by
    intro pool index draws call vault' call' permitted here acted readable settled
    cases call with
    | reading =>
      cases isStored : loader.load pool.shared with
      | some encoded =>
        simp only [SecretLoader.calls, SecretLoader.act, isStored, Option.some.injEq,
          Prod.mk.injEq] at acted
        obtain ⟨rfl, rfl⟩ := acted
        obtain ⟨secret, isSecret⟩ := readable encoded isStored
        exact ⟨readable, ⟨encoded, secret, isStored, isSecret, isSecret⟩, fun _ holds => holds⟩
      | none =>
        obtain ⟨secret, created⟩ := permitted.creates index draws rfl here isStored
        simp only [SecretLoader.calls, SecretLoader.act, isStored, created, Option.some.injEq,
          Prod.mk.injEq] at acted
        obtain ⟨rfl, rfl⟩ := acted
        exact ⟨readable, works.accepts draws secret created, fun _ holds => holds⟩
    | writing secret =>
      have vacant := permitted.vacant index draws secret rfl here
      obtain ⟨vault'', stored, loaded⟩ := works.stores pool.shared (Base64.encode secret.val)
      simp only [SecretLoader.calls, SecretLoader.act, stored, Option.some.injEq,
        Prod.mk.injEq] at acted
      obtain ⟨rfl, rfl⟩ := acted
      have decoded := SecretLoader.Works.decode_encode settled
      refine ⟨fun encoded isStored => ?_, ⟨_, secret, loaded, decoded, rfl⟩, fun _ holds =>
        holds.of_vacant vacant⟩
      rw [loaded] at isStored
      exact ⟨secret, Option.some.inj isStored ▸ decoded⟩
    | returned result => cases acted
  happens := by
    intro pool vault vault' _ happened readable
    simp only [SecretLoader.calls] at happened
    split at happened
    · rename_i same
      cases happened
      exact ⟨fun encoded isStored => readable encoded (same ▸ isStored), fun _ holds =>
        holds.of_load same⟩
    · cases happened

/-- A call that has not returned can go on. -/
theorem SecretLoader.act_eq_none_iff {loader : SecretLoader} {vault : DesktopCredentialVaultV1}
    {call : LoadCall} {draws : Draws} :
    loader.act vault call draws = none ↔ ∃ result, call = .returned result := by
  constructor
  · intro ended
    cases call with
    | reading =>
      simp only [SecretLoader.act] at ended
      split at ended
      · cases ended
      · split at ended
        · cases ended
        · cases ended
    | writing secret =>
      simp only [SecretLoader.act] at ended
      split at ended
      · cases ended
      · cases ended
    | returned result => exact ⟨result, rfl⟩
  · intro returned
    obtain ⟨result, rfl⟩ := returned
    rfl

/-- A secret that is stored stays. -/
theorem SecretLoader.load_of_reaches {loader : SecretLoader} {pool later : VaultPool}
    {encoded : String} (stored : loader.load pool.shared = some encoded)
    (reaches : loader.calls.Reaches loader.WritesFirst pool later) :
    loader.load later.shared = some encoded := by
  refine Reaches.invariant (P := fun pool => loader.load pool.shared = some encoded) stored ?_
    reaches
  intro before action after permitted stepped stored
  cases action with
  | start call =>
    obtain rfl := Option.some.inj stepped
    exact stored
  | act index draws =>
    obtain ⟨call, vault, call', here, acted, rfl⟩ := step_act_eq_some.mp stepped
    cases call with
    | reading =>
      simp only [SecretLoader.calls, SecretLoader.act, stored, Option.some.injEq,
        Prod.mk.injEq] at acted
      obtain ⟨rfl, -⟩ := acted
      exact stored
    | writing secret =>
      have vacant := permitted.vacant index draws secret rfl here
      rw [stored] at vacant
      cases vacant
    | returned result => cases acted
  | happen vault =>
    obtain ⟨vault', happened, rfl⟩ := Option.map_eq_some_iff.mp stepped
    simp only [SecretLoader.calls] at happened
    split at happened
    · rename_i same
      cases happened
      exact same.trans stored
    · cases happened

/-- **One secret.**  As long as calls write their secrets only where there is none, all of them
return the one that is stored, and it is never replaced. -/
theorem loads_one_secret {walletAddress : FixedBytes 32 → Option String} {loader : SecretLoader}
    (mem : loader ∈ secretLoaders walletAddress) : loader.LoadsOneSecret loader.WritesFirst := by
  intro start pool later ready reaches further
  have works := works_of_mem_secretLoaders mem
  have settled := works.keeps.reaches ready.stored (by simp [ready.threads]) reaches
  exact ⟨fun result returned => settled.2 _ returned, fun encoded stored =>
    SecretLoader.load_of_reaches stored further⟩

/-- A first call creates the secret of an empty vault and a second one loads it. -/
theorem loads_one_secret_identity :
    ∃ (pool : VaultPool) (secret : FixedBytes 32),
      .returned (.ok secret) ∈ pool.threads ∧ loadOrCreateIdentity.Agrees pool := by
  let secret : FixedBytes 32 := .ofNat 32 1
  let draws : Draws := fun _ => secret
  let stored : DesktopCredentialVaultV1 := { signingSeed := some (Base64.encode secret.val) }
  have first : loadOrCreateIdentity.calls.Reaches loadOrCreateIdentity.WritesFirst ⟨{}, []⟩
      ⟨{}, [.reading]⟩ := .single ⟨.start (), ⟨nofun, nofun⟩, rfl⟩
  have created := first.tail (c := ⟨{}, [.writing secret]⟩)
    ⟨.act 0 draws, ⟨fun _ _ _ _ _ => ⟨_, rfl⟩, fun _ _ _ _ _ => rfl⟩, rfl⟩
  have written := created.tail (c := ⟨stored, [.returned (.ok secret)]⟩)
    ⟨.act 0 draws, ⟨fun _ _ _ _ _ => ⟨_, rfl⟩, fun _ _ _ _ _ => rfl⟩, rfl⟩
  have ready : loadOrCreateIdentity.Ready ⟨{}, []⟩ := ⟨rfl, nofun⟩
  have one := @loads_one_secret (fun _ => none) loadOrCreateIdentity List.mem_cons_self
    _ _ _ ready written .refl
  exact ⟨_, secret, List.mem_cons_self, one.1⟩

/-! ## Two calls at a time -/

/-- Two calls both read before they write. -/
def raceSchedule : List VaultAction :=
  [.start (), .start (), .act 0 fun _ => .ofNat 32 1, .act 1 fun _ => .ofNat 32 2,
    .act 0 fun _ => .ofNat 32 1, .act 1 fun _ => .ofNat 32 2]

/-- Calls that return different secrets do not agree. -/
theorem SecretLoader.not_loadsOneSecret {loader : SecretLoader} {vault : DesktopCredentialVaultV1}
    (vacant : loader.load {} = none)
    (raced : loader.calls.run (fun _ _ => True) ⟨{}, []⟩ raceSchedule =
      some ⟨vault, [.returned (.ok (.ofNat 32 1)), .returned (.ok (.ofNat 32 2))]⟩) :
    ¬loader.LoadsOneSecret fun _ _ => True := by
  intro one
  have ready : loader.Ready ⟨{}, []⟩ := ⟨rfl, fun encoded stored => by
    rw [vacant] at stored
    cases stored⟩
  have agrees := (one _ _ _ ready (reaches_of_run raced) .refl).1
  obtain ⟨encoded, secret, stored, decoded, isFirst⟩ := agrees _ List.mem_cons_self
  obtain ⟨encoded', secret', stored', decoded', isSecond⟩ := agrees (.ok (.ofNat 32 2)) (by simp)
  obtain rfl := Option.some.inj (stored.symm.trans stored')
  rw [decoded] at decoded'
  rw [← decoded', ← isFirst] at isSecond
  have differ : FixedBytes.ofNat 32 2 ≠ .ofNat 32 1 := by decide
  exact differ (Except.ok.inj isSecond)

/-- **Two secrets.**  Each of the four functions can give two calls two secrets. -/
theorem loads_two_secrets :
    (¬loadOrCreateIdentity.LoadsOneSecret fun _ _ => True) ∧
      (¬loadOrCreateEncryptionKey.LoadsOneSecret fun _ _ => True) ∧
      (¬(loadOrCreateHyperliquidApiWalletKey fun _ => some "0x01").LoadsOneSecret
        fun _ _ => True) ∧
      ¬(loadOrCreateSecret32 journalKeyAccount).LoadsOneSecret fun _ _ => True :=
  ⟨SecretLoader.not_loadsOneSecret rfl rfl, SecretLoader.not_loadsOneSecret rfl rfl,
    SecretLoader.not_loadsOneSecret rfl rfl, SecretLoader.not_loadsOneSecret rfl rfl⟩

end CrowAgent
