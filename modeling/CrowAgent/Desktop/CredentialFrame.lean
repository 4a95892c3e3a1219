import CrowAgent.Core.LiveRuns
import CrowAgent.Desktop.CredentialVault
import CrowAgent.Lib.ByteReader

/-!
# The credential frame

The desktop writes five secrets and a refresh token to the standard input of a runner, which reads
them back.  The runner takes no token without the text that device tokens begin with, and the
desktop writes any.

* `frame_carries_iff`: a frame is read back exactly when its token begins so.
-/

namespace CrowAgent

open ByteReader

/-! ## Writing -/

namespace Desktop

def maxDesktopRefreshTokenBytes : Nat := 512

/-- What the five loads of secrets give, in their order. -/
structure CredentialLoads : Type where
  companionCredentials : Except DesktopError (FixedBytes 32)
  signingSeed : Except DesktopError (FixedBytes 32)
  encryptionSecret : Except DesktopError (FixedBytes 32)
  journalKey : Except DesktopError (FixedBytes 32)
  apiWalletKey : Except DesktopError (FixedBytes 32)

def desktopCredentialFrame (loads : CredentialLoads) (runnerRefreshToken : String) :
    Except DesktopError Bytes := do
  let companionCredentials ← loads.companionCredentials
  let signingSeed ← loads.signingSeed
  let encryptionSecret ← loads.encryptionSecret
  let journalKey ← loads.journalKey
  let apiWalletKey ← loads.apiWalletKey
  let size := (utf8 runnerRefreshToken).length
  if maxDesktopRefreshTokenBytes < size ∨ 65535 < size then throw .credential
  -- `u16::try_from` cannot fail here
  let length := UInt16.ofNat size
  return companionCredentials.val ++ signingSeed.val ++ encryptionSecret.val ++ journalKey.val ++
    apiWalletKey.val ++ (FixedBytes.ofNat 2 length.toNat).val ++ utf8 runnerRefreshToken

end Desktop

/-! ## Reading -/

namespace Agentd

def maxDesktopRefreshTokenBytes : Nat := 512

/-- The errors of a `DaemonError` that reading a frame gives. -/
inductive CredentialError : Type
  | io
  | deviceTokenCredential
  deriving DecidableEq, Repr

structure DesktopCredentials : Type where
  companionSecret : FixedBytes 32
  signingSeed : FixedBytes 32
  encryptionSecret : FixedBytes 32
  journalKey : FixedBytes 32
  apiWalletKey : FixedBytes 32
  refreshToken : String
  deriving DecidableEq, Repr

/-- `starts_with("crow_device_refresh_")`. -/
def isDeviceRefresh (token : String) : Bool :=
  "crow_device_refresh_".toList.isPrefixOf token.toList

/-- `u16::from_be_bytes`. -/
def u16FromBeBytes (bytes : FixedBytes 2) : UInt16 :=
  UInt16.ofNat ((bytes.val.getD 0 0).toNat * 256 + (bytes.val.getD 1 0).toNat)

def readSecret32 : Reader CredentialError (FixedBytes 32) := readExact .io 32

/-- The end of `read_desktop_credentials_from`, after the secrets. -/
def readRefreshToken : Reader CredentialError String := do
  let length ← readExact .io 2
  let length := (u16FromBeBytes length).toNat
  require .deviceTokenCredential (length ≠ 0 && length ≤ maxDesktopRefreshTokenBytes)
  let raw ← readExact .io length
  let refreshToken ← demand .deviceTokenCredential (fromUtf8 raw.val)
  require .deviceTokenCredential (isDeviceRefresh refreshToken)
  return refreshToken

def readDesktopCredentialsFrom : Reader CredentialError DesktopCredentials := do
  let companionSecret ← readSecret32
  let signingSeed ← readSecret32
  let encryptionSecret ← readSecret32
  let journalKey ← readSecret32
  let apiWalletKey ← readSecret32
  let refreshToken ← readRefreshToken
  return { companionSecret, signingSeed, encryptionSecret, journalKey, apiWalletKey, refreshToken }

end Agentd

open Desktop Agentd

theorem u16FromBeBytes_ofNat (length : UInt16) :
    u16FromBeBytes (FixedBytes.ofNat 2 length.toNat) = length := by
  have below := length.toNat_lt
  have high : (FixedBytes.ofNat 2 length.toNat).val.getD 0 0 = UInt8.ofNat (length.toNat / 256) := by
    simp [FixedBytes.ofNat, List.range_succ]
  have low : (FixedBytes.ofNat 2 length.toNat).val.getD 1 0 = UInt8.ofNat length.toNat := by
    simp [FixedBytes.ofNat, List.range_succ]
  rw [u16FromBeBytes, high, low, UInt8.toNat_ofNat', UInt8.toNat_ofNat']
  have parts : length.toNat / 256 % 2 ^ 8 * 256 + length.toNat % 2 ^ 8 = length.toNat := by omega
  rw [parts, UInt16.ofNat_toNat]

theorem reads_readSecret32 (secret : FixedBytes 32) : Reads readSecret32 secret.val secret :=
  reads_readExact _ secret

/-! ## The token -/

variable {loads : CredentialLoads} {token : String} {frame : Bytes}
  {credentials : DesktopCredentials}

/-- The length of a token and its bytes. -/
def tokenField (token : String) : Bytes :=
  (FixedBytes.ofNat 2 (UInt16.ofNat (utf8 token).length).toNat).val ++ utf8 token

theorem toNat_tokenLength (small : (utf8 token).length ≤ 512) :
    (u16FromBeBytes (FixedBytes.ofNat 2 (UInt16.ofNat (utf8 token).length).toNat)).toNat =
      (utf8 token).length := by
  rw [u16FromBeBytes_ofNat, UInt16.toNat_ofNat_of_lt' (by rw [UInt16.size]; omega)]

theorem utf8_ne_nil (starts : isDeviceRefresh token = true) : (utf8 token).length ≠ 0 := by
  intro none
  have empty : token = "" := utf8_injective (List.length_eq_zero_iff.mp none)
  rw [empty] at starts
  exact absurd starts (by decide)

/-- The bytes between the checks of the token. -/
theorem tokenField_eq (token : String) :
    tokenField token = (FixedBytes.ofNat 2 (UInt16.ofNat (utf8 token).length).toNat).val ++
      ([] ++ (utf8 token ++ ([] ++ []))) := by
  simp [tokenField]

theorem reads_readRefreshToken (starts : isDeviceRefresh token = true)
    (small : (utf8 token).length ≤ 512) : Reads readRefreshToken (tokenField token) token := by
  have length := toNat_tokenLength small
  rw [tokenField_eq]
  refine (reads_readExact CredentialError.io _).bind ?_
  refine (reads_require _ ?_).bind ?_
  · rw [length]
    simp [utf8_ne_nil starts, Agentd.maxDesktopRefreshTokenBytes, small]
  refine (reads_readExact CredentialError.io ⟨utf8 token, length.symm⟩).bind ?_
  rw [fromUtf8_utf8]
  exact (reads_demand _ token).bind ((reads_require _ starts).bind (reads_pure token))

/-- Whatever the token is, no part of its bytes is read. -/
theorem needsAll_readRefreshToken (small : (utf8 token).length ≤ 512) :
    NeedsAll readRefreshToken (tokenField token) := by
  have length := toNat_tokenLength small
  rw [tokenField_eq]
  refine (reads_readExact CredentialError.io _).bind_needsAll ?_
  by_cases none : (utf8 token).length = 0
  · rw [List.length_eq_zero_iff.mp none]
    exact needsAll_nil _
  refine (reads_require _ ?_).bind_needsAll ?_
  · rw [length]
    simp [none, Agentd.maxDesktopRefreshTokenBytes, small]
  · exact (reads_readExact CredentialError.io ⟨utf8 token, length.symm⟩).bind_needsAll (needsAll_nil _)

/-- Another token is refused. -/
theorem readRefreshToken_error (other : isDeviceRefresh token = false)
    (small : (utf8 token).length ≤ 512) :
    ∃ error, readRefreshToken (tokenField token) = .error error := by
  have length := toNat_tokenLength small
  rw [tokenField_eq]
  refine (reads_readExact CredentialError.io _).bind_error ?_
  by_cases none : (utf8 token).length = 0
  · refine ⟨.deviceTokenCredential, ?_⟩
    rw [bind_eq, length, none]
    rfl
  refine (reads_require _ ?_).bind_error ?_
  · rw [length]
    simp [none, Agentd.maxDesktopRefreshTokenBytes, small]
  refine (reads_readExact CredentialError.io ⟨utf8 token, length.symm⟩).bind_error ?_
  rw [fromUtf8_utf8]
  refine (reads_demand _ token).bind_error ⟨.deviceTokenCredential, ?_⟩
  rw [bind_eq, require, other]
  rfl

/-! ## The frame -/

/-- The parts of a frame, in their order. -/
def frameOf (credentials : DesktopCredentials) : Bytes :=
  credentials.companionSecret.val ++ (credentials.signingSeed.val ++
    (credentials.encryptionSecret.val ++ (credentials.journalKey.val ++
      (credentials.apiWalletKey.val ++ (tokenField credentials.refreshToken ++ [])))))

/-- The loads give these secrets. -/
structure Desktop.CredentialLoads.Give (loads : CredentialLoads)
    (credentials : DesktopCredentials) : Prop where
  companionCredentials : loads.companionCredentials = .ok credentials.companionSecret
  signingSeed : loads.signingSeed = .ok credentials.signingSeed
  encryptionSecret : loads.encryptionSecret = .ok credentials.encryptionSecret
  journalKey : loads.journalKey = .ok credentials.journalKey
  apiWalletKey : loads.apiWalletKey = .ok credentials.apiWalletKey

/-- A frame holds what was loaded and the token, which is not too long. -/
theorem give_of_desktopCredentialFrame (ok : desktopCredentialFrame loads token = .ok frame) :
    ∃ credentials : DesktopCredentials, loads.Give credentials ∧
      credentials.refreshToken = token ∧ frame = frameOf credentials ∧
      (utf8 token).length ≤ 512 := by
  obtain ⟨companion, signing, encryption, journal, wallet⟩ := loads
  unfold desktopCredentialFrame at ok
  cases companion with
  | error => cases ok
  | ok companion =>
  cases signing with
  | error => cases ok
  | ok signing =>
  cases encryption with
  | error => cases ok
  | ok encryption =>
  cases journal with
  | error => cases ok
  | ok journal =>
  cases wallet with
  | error => cases ok
  | ok wallet =>
  dsimp only [bind, Except.bind] at ok
  split_ifs at ok with long
  refine ⟨⟨companion, signing, encryption, journal, wallet, token⟩, ⟨rfl, rfl, rfl, rfl, rfl⟩, rfl,
    ?_, ?_⟩
  · rw [← Except.ok.inj ok, frameOf, tokenField]
    simp only [List.append_assoc, List.append_nil]
  · unfold Desktop.maxDesktopRefreshTokenBytes at long
    omega

theorem reads_frameOf (starts : isDeviceRefresh credentials.refreshToken = true)
    (small : (utf8 credentials.refreshToken).length ≤ 512) :
    Reads readDesktopCredentialsFrom (frameOf credentials) credentials := by
  unfold readDesktopCredentialsFrom frameOf
  exact (reads_readSecret32 credentials.companionSecret).bind <|
    (reads_readSecret32 credentials.signingSeed).bind <|
    (reads_readSecret32 credentials.encryptionSecret).bind <|
    (reads_readSecret32 credentials.journalKey).bind <|
    (reads_readSecret32 credentials.apiWalletKey).bind <|
    (reads_readRefreshToken starts small).bind (reads_pure credentials)

theorem frameOf_error (other : isDeviceRefresh credentials.refreshToken = false)
    (small : (utf8 credentials.refreshToken).length ≤ 512) :
    ∃ error, readDesktopCredentialsFrom (frameOf credentials) = .error error := by
  unfold readDesktopCredentialsFrom frameOf
  refine (reads_readSecret32 credentials.companionSecret).bind_error <|
    (reads_readSecret32 credentials.signingSeed).bind_error <|
    (reads_readSecret32 credentials.encryptionSecret).bind_error <|
    (reads_readSecret32 credentials.journalKey).bind_error <|
    (reads_readSecret32 credentials.apiWalletKey).bind_error ?_
  obtain ⟨error, failed⟩ := readRefreshToken_error other small
  rw [List.append_nil]
  exact ⟨error, by rw [bind_eq, failed]⟩

theorem needsAll_frameOf (small : (utf8 credentials.refreshToken).length ≤ 512) :
    NeedsAll readDesktopCredentialsFrom (frameOf credentials) := by
  cases starts : isDeviceRefresh credentials.refreshToken with
  | true => exact (reads_frameOf starts small).whole
  | false =>
    unfold readDesktopCredentialsFrom frameOf
    refine (reads_readSecret32 credentials.companionSecret).bind_needsAll <|
      (reads_readSecret32 credentials.signingSeed).bind_needsAll <|
      (reads_readSecret32 credentials.encryptionSecret).bind_needsAll <|
      (reads_readSecret32 credentials.journalKey).bind_needsAll <|
      (reads_readSecret32 credentials.apiWalletKey).bind_needsAll ?_
    intro start isPrefix proper
    rw [List.append_nil] at isPrefix proper
    obtain ⟨error, failed⟩ := needsAll_readRefreshToken small start isPrefix proper
    exact ⟨error, by rw [bind_eq, failed]⟩

/-- **Frame.**  No proper prefix of a frame is read, and the frame is read back as what was written,
with nothing read beyond it, exactly when its token begins as device tokens do. -/
theorem frame_carries_iff (ok : desktopCredentialFrame loads token = .ok frame) :
    ∃ credentials : DesktopCredentials, loads.Give credentials ∧
      credentials.refreshToken = token ∧ NeedsAll readDesktopCredentialsFrom frame ∧
      (Reads readDesktopCredentialsFrom frame credentials ↔ isDeviceRefresh token = true) := by
  obtain ⟨credentials, give, rfl, rfl, small⟩ := give_of_desktopCredentialFrame ok
  refine ⟨credentials, give, rfl, needsAll_frameOf small, fun reads => ?_,
    fun starts => reads_frameOf starts small⟩
  by_contra other
  obtain ⟨error, failed⟩ := frameOf_error (Bool.eq_false_iff.mpr other) small
  have read := reads.exact []
  rw [List.append_nil, failed] at read
  cases read

/-- Five secrets of equal bytes. -/
def sampleLoads : CredentialLoads where
  companionCredentials := .ok ⟨List.replicate 32 1, rfl⟩
  signingSeed := .ok ⟨List.replicate 32 2, rfl⟩
  encryptionSecret := .ok ⟨List.replicate 32 3, rfl⟩
  journalKey := .ok ⟨List.replicate 32 4, rfl⟩
  apiWalletKey := .ok ⟨List.replicate 32 5, rfl⟩

/-- The frame of a device token. -/
theorem frame_carries_runner :
    ∃ frame credentials, desktopCredentialFrame sampleLoads "crow_device_refresh_runner" = .ok frame ∧
      sampleLoads.Give credentials ∧ Reads readDesktopCredentialsFrom frame credentials := by
  have written : desktopCredentialFrame sampleLoads "crow_device_refresh_runner" = .ok _ := rfl
  obtain ⟨credentials, give, -, -, carries⟩ := frame_carries_iff written
  exact ⟨_, credentials, written, give, carries.mpr (by decide)⟩

/-- The frame of another token is written and not read. -/
theorem frame_of_other_token :
    ¬∀ loads token frame, token ≠ "" → desktopCredentialFrame loads token = .ok frame →
      ∃ credentials, loads.Give credentials ∧ credentials.refreshToken = token ∧
        Reads readDesktopCredentialsFrom frame credentials := by
  intro carried
  have written : desktopCredentialFrame sampleLoads "runner" = .ok _ := rfl
  obtain ⟨credentials, -, -, reads⟩ := carried _ _ _ (by decide) written
  obtain ⟨written, -, isToken, isFrame, small⟩ := give_of_desktopCredentialFrame written
  rw [← isToken] at small
  obtain ⟨error, failed⟩ := frameOf_error (by rw [isToken]; decide) small
  have read := reads.exact []
  rw [List.append_nil, isFrame, failed] at read
  cases read

end CrowAgent
