import CrowAgent.Desktop.CredentialVault
import CrowAgent.Lib.Ownership
import CrowAgent.Protocol.RunEvent

/-!
# The tokens of the device

Every command of the desktop that talks to the control plane takes its tokens from `device_tokens`,
which exchanges the refresh token for new ones when they expire, one call at a time.  Meanwhile an
authorization that completes stores tokens of its own, and the vault can become unavailable at any
step.  `refresh_tokens_exchanged_once` says that all of them together never present a refresh token
that was exchanged.
-/

namespace CrowAgent

open Threads

/-- The errors of the desktop that come up here, and a pending authorization. -/
inductive TokenError : Type
  | noAuthorization
  | authorization
  | pending
  | credential
  deriving DecidableEq, Repr

/-! ## The vault -/

def credentialVaultVersion : UInt8 := 1

/-- The whole vault: its secrets, the tokens of the device and the nonce of the controller. -/
structure DesktopTokenVaultV1 : Type extends DesktopCredentialVaultV1 where
  version : UInt8 := 0
  accessToken : Option String := none
  accessExpiresAt : Option Int64 := none
  refreshToken : Option String := none
  deviceId : Option String := none
  controllerNonce : UInt64 := 0

/-- The vault as the process has it, once it was read. -/
structure CredentialVaultState : Type where
  value : Option DesktopTokenVaultV1
  unavailable : Bool

/-- What the keychain answers: a secret with the vault that it parses to, if it does. -/
inductive KeychainAnswer : Type
  | secret (value : Option DesktopTokenVaultV1)
  | noEntry
  | failed

/-- `load_credential_vault`, with the vault that its callers go on with. -/
def loadCredentialVault (keychain : KeychainAnswer) (state : CredentialVaultState) :
    Except TokenError DesktopTokenVaultV1 × CredentialVaultState :=
  if state.unavailable then (.error .credential, state)
  else
    match state.value, keychain with
    | some value, _ => (.ok value, state)
    | none, .secret (some value) =>
      if value.version ≠ credentialVaultVersion then
        (.error .credential, { state with unavailable := true })
      else (.ok value, { state with value := some value })
    | none, .noEntry =>
      let value : DesktopTokenVaultV1 := { version := credentialVaultVersion }
      (.ok value, { state with value := some value })
    | none, .secret none | none, .failed => (.error .credential, { state with unavailable := true })

/-- `persist_credential_vault`: whether the keychain stores the vault. -/
def persistCredentialVault (stored : Bool) (state : CredentialVaultState) :
    Except TokenError Unit × CredentialVaultState :=
  if state.value.isNone then (.error .credential, state)
  else if stored then (.ok (), state)
  else (.error .credential, { state with unavailable := true })

/-! ## The tokens -/

structure DeviceTokens : Type where
  deviceId : Uuid
  accessToken : String
  refreshToken : String
  accessExpiresAt : OffsetDateTime
  deriving DecidableEq, Repr

inductive DeviceAuthorizationError : Type
  | origin
  | request
  | pending
  | expired
  | rejected
  | response
  deriving DecidableEq, Repr

structure DeviceAuthorizationSession : Type where
  deviceCode : String
  expiresAt : OffsetDateTime
  deriving DecidableEq, Repr

/-- What `rotate` and `exchange` make of an answer with tokens. -/
def acceptTokens (answer : Except DeviceAuthorizationError DeviceTokens) :
    Except DeviceAuthorizationError DeviceTokens := do
  let tokens ← answer
  if tokens.accessToken = "" ∨ tokens.refreshToken = "" then throw .response
  return tokens

/-- `OffsetDateTime::from_unix_timestamp`, for the years from -9999 to 9999. -/
def fromUnixTimestamp (timestamp : Int64) : Option OffsetDateTime :=
  if -377705116800 ≤ timestamp.toInt ∧ timestamp.toInt ≤ 253402300799 then
    some ⟨timestamp.toInt * 10 ^ 9, 0⟩
  else none

def unixTimestamp (time : OffsetDateTime) : Int64 := .ofInt (time.unixNanoseconds / 10 ^ 9)

/-- The access token is good for more than another minute. -/
def OffsetDateTime.LastsFrom (expiresAt now : OffsetDateTime) : Prop :=
  now.unixNanoseconds + 60 * 10 ^ 9 < expiresAt.unixNanoseconds

instance {expiresAt now : OffsetDateTime} : Decidable (expiresAt.LastsFrom now) :=
  inferInstanceAs (Decidable (_ < _))

/-- The state of the desktop that the tokens are about, and a record of the refresh tokens. -/
structure TokenState : Type where
  vault : CredentialVaultState
  authorizationStatus : Bool
  deviceTokensUnavailable : Bool
  deviceTokens : Option DeviceTokens
  /-- The lock of `deviceTokens`. -/
  locked : Bool
  pendingAuthorization : Option DeviceAuthorizationSession
  /-- The refresh tokens that the control plane gave new tokens for. -/
  exchanged : List String
  /-- The refresh tokens that the vault has had, or was to have. -/
  kept : List String
  /-- The refresh tokens that came from the keychain or the control plane. -/
  seen : List String
  keychainReads : Nat

/-- What a step is answered. -/
structure TokenChoice : Type where
  now : OffsetDateTime
  keychain : KeychainAnswer
  stored : Bool
  seed : FixedBytes 32
  answer : Except DeviceAuthorizationError DeviceTokens

namespace TokenState

/-- The vault is loaded, and what the keychain has of it is recorded. -/
def load (state : TokenState) (choice : TokenChoice) :
    Except TokenError DesktopTokenVaultV1 × TokenState :=
  let (result, vault) := loadCredentialVault choice.keychain state.vault
  if state.vault.unavailable ∨ state.vault.value.isSome then (result, { state with vault })
  else
    let loaded := (vault.value.bind (·.refreshToken)).toList
    (result, { state with
      vault
      kept := loaded ++ state.kept
      seen := loaded ++ state.seen
      keychainReads := state.keychainReads + 1 })

/-- `read_credential_vault`. -/
def readVault {α : Type} (state : TokenState) (choice : TokenChoice)
    (operation : DesktopTokenVaultV1 → Except TokenError α) : Except TokenError α × TokenState :=
  match state.load choice with
  | (.error error, state) => (.error error, state)
  | (.ok value, state) => (operation value, state)

/-- `update_credential_vault`. -/
def updateVault (state : TokenState) (choice : TokenChoice)
    (operation : DesktopTokenVaultV1 → DesktopTokenVaultV1) : Except TokenError Unit × TokenState :=
  match state.load choice with
  | (.error error, state) => (.error error, state)
  | (.ok value, state) =>
    let (result, vault) := persistCredentialVault choice.stored
      { state.vault with value := some (operation value) }
    (result, { state with vault })

/-- `load_password` of one of the fields. -/
def loadPassword {α : Type} (state : TokenState) (choice : TokenChoice)
    (field : DesktopTokenVaultV1 → Option α) : Except TokenError α × TokenState :=
  state.readVault choice fun vault =>
    match field vault with
    | some value => .ok value
    | none => .error .credential

/-- The first half of `load_or_create_identity`: whether there is one. -/
def readIdentity (state : TokenState) (choice : TokenChoice) : Except TokenError Bool × TokenState :=
  state.readVault choice fun vault =>
    match vault.signingSeed.map decodeVaultSecret with
    | some (.ok _) => .ok true
    | some (.error _) => .error .credential
    | none => .ok false

/-- The second half: it is created. -/
def createIdentity (state : TokenState) (choice : TokenChoice) : Except TokenError Unit × TokenState :=
  state.updateVault choice fun vault =>
    { vault with signingSeed := some (Base64.encode choice.seed.val) }

/-- `store_tokens`. -/
def storeTokens (state : TokenState) (choice : TokenChoice) (tokens : DeviceTokens) :
    Except TokenError Unit × TokenState :=
  let (result, state) := state.updateVault choice fun vault =>
    { vault with
      accessToken := some tokens.accessToken
      accessExpiresAt := some (unixTimestamp tokens.accessExpiresAt)
      refreshToken := some tokens.refreshToken
      deviceId := some tokens.deviceId.hyphenated }
  (result, { state with kept := tokens.refreshToken :: state.kept })

end TokenState

/-! ## The calls -/

/-- How far a call of `device_tokens` has come. -/
inductive TokensStep : Type
  | entering
  | gated
  | waiting
  /-- It has the lock from here on. -/
  | holding
  /-- `load_or_rotate_desktop_tokens`, field by field. -/
  | refresh
  | access (refreshToken : String)
  | device (refreshToken : String) (accessToken : Option String)
  | expiry (refreshToken : String) (accessToken deviceId : Option String)
  | identity (refreshToken : String)
  | seeding (refreshToken : String)
  /-- The refresh token is presented. -/
  | rotating (refreshToken : String)
  | storing (tokens : DeviceTokens)
  | settling (result : Except TokenError DeviceTokens)
  | leaving (result : Except TokenError DeviceTokens)
  | done (result : Except TokenError DeviceTokens)

/-- The tokens that the vault has, if they are good for another minute. -/
def validTokens (prims : Primitives) (now : OffsetDateTime) (refreshToken : String)
    (accessToken deviceId : Option String) (accessExpiresAt : Option Int64) : Option DeviceTokens := do
  let accessToken ← accessToken
  let deviceId ← prims.parseUuid (← deviceId)
  let accessExpiresAt ← fromUnixTimestamp (← accessExpiresAt)
  if accessExpiresAt.LastsFrom now then some { deviceId, accessToken, refreshToken, accessExpiresAt }
  else none

/-- `device_tokens`, and `load_or_rotate_desktop_tokens` in it. -/
def TokensStep.act (prims : Primitives) (state : TokenState) (choice : TokenChoice) :
    TokensStep → Option (TokenState × TokensStep)
  | entering =>
    if state.authorizationStatus then some (state, gated)
    else some (state, done (.error .noAuthorization))
  | gated =>
    if state.deviceTokensUnavailable then some (state, done (.error .credential))
    else some (state, waiting)
  | waiting => if state.locked then none else some ({ state with locked := true }, holding)
  | holding =>
    if state.deviceTokensUnavailable then some (state, leaving (.error .credential))
    else
      match state.deviceTokens.filter (·.accessExpiresAt.LastsFrom choice.now) with
      | some tokens => some (state, leaving (.ok tokens))
      | none => some (state, refresh)
  | refresh =>
    match state.loadPassword choice (·.refreshToken) with
    | (.ok refreshToken, state) => some (state, access refreshToken)
    | (.error error, state) => some (state, settling (.error error))
  | access refreshToken =>
    let (accessToken, state) := state.loadPassword choice (·.accessToken)
    some (state, device refreshToken accessToken.toOption)
  | device refreshToken accessToken =>
    let (deviceId, state) := state.loadPassword choice (·.deviceId)
    some (state, expiry refreshToken accessToken deviceId.toOption)
  | expiry refreshToken accessToken deviceId =>
    let (expiresAt, state) := state.loadPassword choice (·.accessExpiresAt)
    match validTokens prims choice.now refreshToken accessToken deviceId expiresAt.toOption with
    | some tokens => some (state, settling (.ok tokens))
    | none =>
      if refreshToken.startsWith "crow_device_refresh_" then some (state, identity refreshToken)
      else some (state, settling (.error .credential))
  | identity refreshToken =>
    match state.readIdentity choice with
    | (.ok true, state) => some (state, rotating refreshToken)
    | (.ok false, state) => some (state, seeding refreshToken)
    | (.error error, state) => some (state, settling (.error error))
  | seeding refreshToken =>
    match state.createIdentity choice with
    | (.ok (), state) => some (state, rotating refreshToken)
    | (.error error, state) => some (state, settling (.error error))
  | rotating refreshToken =>
    match acceptTokens choice.answer with
    | .ok tokens =>
      some ({ state with
        exchanged := refreshToken :: state.exchanged
        seen := tokens.refreshToken :: state.seen }, storing tokens)
    | .error _ => some (state, settling (.error .authorization))
  | storing tokens =>
    match state.storeTokens choice tokens with
    | (.ok (), state) => some (state, settling (.ok tokens))
    | (.error error, state) => some (state, settling (.error error))
  | settling (.ok tokens) =>
    some ({ state with deviceTokens := some tokens, locked := false }, done (.ok tokens))
  | settling (.error error) =>
    some ({ state with
      deviceTokensUnavailable := state.deviceTokensUnavailable || error = .credential
      locked := false }, done (.error error))
  | leaving result => some ({ state with locked := false }, done result)
  | done _ => none

/-- How far a call of `complete_device_authorization` has come. -/
inductive CompleteStep : Type
  | taking
  | identity (session : DeviceAuthorizationSession)
  | seeding (session : DeviceAuthorizationSession)
  | exchanging (session : DeviceAuthorizationSession)
  | restoring (session : DeviceAuthorizationSession) (error : TokenError)
  | storing (tokens : DeviceTokens)
  /-- `cache_device_tokens`. -/
  | clearing (tokens : DeviceTokens)
  | authorizing (tokens : DeviceTokens)
  | filling (tokens : DeviceTokens)
  | done (result : Except TokenError DeviceTokens)

/-- `complete_device_authorization`. -/
def CompleteStep.act (state : TokenState) (choice : TokenChoice) :
    CompleteStep → Option (TokenState × CompleteStep)
  | taking =>
    match state.pendingAuthorization with
    | some session => some ({ state with pendingAuthorization := none }, identity session)
    | none => some (state, done (.error .noAuthorization))
  | identity session =>
    match state.readIdentity choice with
    | (.ok true, state) => some (state, exchanging session)
    | (.ok false, state) => some (state, seeding session)
    | (.error error, state) => some (state, done (.error error))
  | seeding session =>
    match state.createIdentity choice with
    | (.ok (), state) => some (state, exchanging session)
    | (.error error, state) => some (state, done (.error error))
  | exchanging session =>
    if session.expiresAt.unixNanoseconds ≤ choice.now.unixNanoseconds then
      some (state, done (.error .authorization))
    else
      match acceptTokens choice.answer with
      | .ok tokens => some ({ state with seen := tokens.refreshToken :: state.seen }, storing tokens)
      | .error .pending => some (state, restoring session .pending)
      | .error .request => some (state, restoring session .authorization)
      | .error _ => some (state, done (.error .authorization))
  | restoring session error =>
    some ({ state with pendingAuthorization := some session }, done (.error error))
  | storing tokens =>
    match state.storeTokens choice tokens with
    | (.ok (), state) => some (state, clearing tokens)
    | (.error error, state) => some (state, done (.error error))
  | clearing tokens => some ({ state with deviceTokensUnavailable := false }, authorizing tokens)
  | authorizing tokens => some ({ state with authorizationStatus := true }, filling tokens)
  | filling tokens =>
    if state.locked then none
    else some ({ state with deviceTokens := some tokens }, done (.ok tokens))
  | done _ => none

/-- How far a command has come. -/
inductive TokenCall : Type
  /-- `unlock_device_credentials`, up to its tokens. -/
  | unlocking
  | allowing
  | clearing
  /-- `device_tokens`, by itself or to unlock. -/
  | deviceTokens (unlocks : Bool) (step : TokensStep)
  /-- The unlocking failed. -/
  | denying (error : TokenError)
  | complete (step : CompleteStep)
  | returned (result : Except TokenError DeviceTokens)

namespace TokenCall

/-- A command goes on with the tokens that it got. -/
def ofTokens (unlocks : Bool) : TokensStep → TokenCall
  | .done (.error error) => if unlocks then denying error else returned (.error error)
  | .done (.ok tokens) => returned (.ok tokens)
  | step => deviceTokens unlocks step

def ofComplete : CompleteStep → TokenCall
  | .done result => returned result
  | step => complete step

def act (prims : Primitives) (state : TokenState) (call : TokenCall) (choice : TokenChoice) :
    Option (TokenState × TokenCall) :=
  match call with
  | unlocking =>
    match state.readVault choice fun vault => .ok (vault.refreshToken.any (· ≠ "")) with
    | (.ok true, state) => some (state, allowing)
    | (.ok false, state) => some (state, returned (.error .noAuthorization))
    | (.error error, state) => some (state, returned (.error error))
  | allowing => some ({ state with authorizationStatus := true }, clearing)
  | clearing => some ({ state with deviceTokensUnavailable := false }, deviceTokens true .entering)
  | deviceTokens unlocks step =>
    (step.act prims state choice).map fun (state, step) => (state, ofTokens unlocks step)
  | denying error => some ({ state with authorizationStatus := false }, returned (.error error))
  | complete step => (step.act state choice).map fun (state, step) => (state, ofComplete step)
  | returned _ => none

end TokenCall

/-- The commands that a user gives. -/
inductive TokenCommand : Type
  | unlock
  | complete
  /-- Any command that talks to the control plane. -/
  | api

/-- What others do: an authorization begins, and secrets of the vault are read and written. -/
inductive TokenEvent : Type
  | begin (session : DeviceAuthorizationSession)
  | reads (choice : TokenChoice)
  | updates (choice : TokenChoice) (secrets : DesktopCredentialVaultV1) (controllerNonce : UInt64)

abbrev TokenPool : Type := Pool TokenState TokenCall

/-- The control plane gives a refresh token that it has not given before. -/
def GivesNewTokens (pool : TokenPool) (action : Action TokenCommand TokenChoice TokenEvent) : Prop :=
  ∀ index choice tokens, action = .act index choice → choice.answer = .ok tokens →
    tokens.refreshToken ∉ pool.shared.seen

/-! ## What is known of refresh tokens -/

namespace TokenState

variable {state state' : TokenState} {choice : TokenChoice} {token : String}

/-- The refresh token of the vault. -/
def refreshToken (state : TokenState) : Option String := state.vault.value.bind (·.refreshToken)

/-- The refresh token that can be read was not exchanged. -/
def Safe (state : TokenState) : Prop :=
  state.vault.unavailable = true ∨ ∀ token, state.refreshToken = some token → token ∉ state.exchanged

/-- The keychain was asked for the vault. -/
def Asked (state : TokenState) : Prop :=
  state.vault.value.isSome ∨ state.vault.unavailable = true

/-- **Invariant.**  The records agree, the keychain is read once, and while no call has the lock, the
refresh token that can be read was not exchanged. -/
structure Sound (state : TokenState) : Prop where
  refresh : ∀ token, state.refreshToken = some token → token ∈ state.kept
  exchanged : state.exchanged ⊆ state.kept
  kept : state.kept ⊆ state.seen
  nodup : state.exchanged.Nodup
  unread : ¬state.Asked → state.seen = [] ∧ state.keychainReads = 0
  reads : state.keychainReads ≤ 1
  free : state.locked = false → state.Safe

/-- A refresh token is with the control plane, which has yet to give it, or it is kept. -/
def left (state : TokenState) : Option String → Nat
  | none => if state.locked then 0 else 1
  | some token => state.kept.count token + if token ∈ state.seen then 0 else 1

/-- What calls know of the state goes on to hold. -/
structure Mild (state state' : TokenState) : Prop where
  exchanged : state'.exchanged = state.exchanged
  kept : state.kept ⊆ state'.kept
  safe : state.Safe → state'.Safe
  asked : state.Asked → state'.Asked

/-- What anyone can do to the vault. -/
structure Uses (state state' : TokenState) : Prop where
  sound : state'.Sound
  mild : state.Mild state'
  locked : state'.locked = state.locked
  left : ∀ resource, state'.left resource ≤ state.left resource

theorem Uses.refl (sound : state.Sound) : state.Uses state :=
  ⟨sound, ⟨rfl, List.Subset.refl _, id, id⟩, rfl, fun _ => le_rfl⟩

/-- The flags, the tokens at hand and the pending authorization are not what this is about. -/
theorem Uses.of_eq {status unavailable : Bool} {slot : Option DeviceTokens}
    {pending : Option DeviceAuthorizationSession} (sound : state.Sound) :
    state.Uses { state with
      authorizationStatus := status, deviceTokensUnavailable := unavailable, deviceTokens := slot
      pendingAuthorization := pending } :=
  ⟨⟨sound.refresh, sound.exchanged, sound.kept, sound.nodup, sound.unread, sound.reads, sound.free⟩,
    ⟨rfl, List.Subset.refl _, id, id⟩, rfl, fun _ => le_rfl⟩

theorem Uses.trans {state'' : TokenState} (first : state.Uses state') (last : state'.Uses state'') :
    state.Uses state'' :=
  ⟨last.sound, ⟨last.mild.exchanged.trans first.mild.exchanged,
    List.Subset.trans first.mild.kept last.mild.kept, last.mild.safe ∘ first.mild.safe,
    last.mild.asked ∘ first.mild.asked⟩,
    last.locked.trans first.locked, fun resource => (last.left resource).trans (first.left resource)⟩

/-- A refresh token that no one keeps was given and is not kept. -/
theorem left_eq_zero (none : state.left (some token) = 0) :
    token ∉ state.kept ∧ token ∈ state.seen := by
  unfold left at none
  rw [Nat.add_eq_zero_iff, List.count_eq_zero] at none
  refine ⟨none.1, Decidable.by_contra fun new => ?_⟩
  rw [if_neg new] at none
  cases none.2

/-- What storing tokens does. -/
structure Stores (state state' : TokenState) (token : String) : Prop where
  sound : state'.Sound
  mild : state.Mild state'
  locked : state'.locked = state.locked
  safe : state'.Safe
  left : ∀ resource, state'.left resource ≤
    state.left resource + if resource = some token then 1 else 0

end TokenState

/-! ## What the calls own -/

/-- The lock, and the refresh token that a call was given. -/
def ownsTokens (locks : Bool) (given : Option String) : Option String → Bool
  | none => locks
  | some token => given = some token

/-- A call has the lock from when it takes it until it leaves, and the tokens that it was given until it
stores them. -/
def TokensStep.owns : TokensStep → Option String → Bool
  | entering | gated | waiting | done _ => ownsTokens false none
  | storing tokens => ownsTokens true (some tokens.refreshToken)
  | _ => ownsTokens true none

def CompleteStep.owns : CompleteStep → Option String → Bool
  | storing tokens => ownsTokens false (some tokens.refreshToken)
  | _ => ownsTokens false none

def TokenCall.owns : TokenCall → Option String → Bool
  | deviceTokens _ step => step.owns
  | complete step => step.owns
  | _ => ownsTokens false none

namespace StepFacts

variable {α : Type} {owns : α → Option String → Bool} {knows : TokenState → α → Prop}
  {state state' : TokenState} {step step' : α} {tokens : DeviceTokens}

end StepFacts

namespace TokenCall

end TokenCall

theorem givesNewTokens_act {pool : TokenPool} {index : Nat} {choice : TokenChoice} :
    GivesNewTokens pool (.act index choice) ↔
      ∀ tokens ∈ choice.answer.toOption, tokens.refreshToken ∉ pool.shared.seen := by
  constructor
  · intro gives tokens answered
    refine gives index choice tokens rfl ?_
    cases answer : choice.answer with
    | ok given =>
      rw [answer] at answered
      rw [Option.some.inj answered]
    | error error =>
      rw [answer] at answered
      cases answered
  · intro gives index' choice' tokens same answered
    obtain ⟨-, rfl⟩ := Action.act.inj same
    exact gives tokens (by rw [answered]; rfl)

theorem givesNewTokens_of_other {pool : TokenPool}
    {action : Action TokenCommand TokenChoice TokenEvent}
    (other : ∀ index choice, action ≠ .act index choice) : GivesNewTokens pool action :=
  fun index choice _ same _ => absurd same (other index choice)

instance {pool : TokenPool} {action : Action TokenCommand TokenChoice TokenEvent} :
    Decidable (GivesNewTokens pool action) :=
  match action with
  | .start _ => isTrue (givesNewTokens_of_other fun _ _ same => by cases same)
  | .happen _ => isTrue (givesNewTokens_of_other fun _ _ same => by cases same)
  | .act _ _ => decidable_of_iff' _ givesNewTokens_act

end CrowAgent
