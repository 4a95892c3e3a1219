import CrowAgent.Protocol.SignedManifest

/-!
# Encrypted bundles and wrapped bundle keys

A bundle is encrypted under a random key.  For a device the key is wrapped: encrypted under a key
that is derived from what an ephemeral secret and the public key of the device agree on.  What the
random generator fills in is an argument.

* `decryptBundle_encryptBundle`: a bundle is decrypted to what was encrypted.
* `unwrapBundleKey_wrapBundleKey`: a device unwraps the key that was wrapped for it.
-/

namespace CrowAgent

open FixedWidth

/-- The crates with their key agreement, key derivation and authenticated encryption. -/
structure CryptoPrimitives : Type extends WirePrimitives where
  /-- The X25519 public key of a secret. -/
  x25519PublicKey : FixedBytes 32 → FixedBytes 32
  /-- What a secret and a public key agree on. -/
  diffieHellman : FixedBytes 32 → FixedBytes 32 → FixedBytes 32
  /-- 32 bytes that HKDF-SHA256 expands from a salt, a secret and the use of the result. -/
  hkdfSha256 : Bytes → FixedBytes 32 → Bytes → Option (FixedBytes 32)
  /-- XChaCha20-Poly1305 of a message with associated data, under a key and a nonce. -/
  encrypt : FixedBytes 32 → FixedBytes 24 → Bytes → Bytes → Option Bytes
  decrypt : FixedBytes 32 → FixedBytes 24 → Bytes → Bytes → Option Bytes

inductive CryptoError : Type
  | encoding
  | operation
  deriving DecidableEq, Repr

structure BundleCiphertext : Type where
  nonce : String
  ciphertext : String
  deriving DecidableEq, Repr

structure WrappedBundleKey : Type where
  ephemeralPublicKey : String
  nonce : String
  wrappedKey : String
  deriving DecidableEq, Repr

structure DeviceEncryptionKey : Type where
  secret : FixedBytes 32

/-- What `wrap_bundle_key` draws. -/
structure WrapDraws : Type where
  ephemeralSecret : FixedBytes 32
  nonce : FixedBytes 24

def wrapInfo : Bytes := utf8 "crow-agent-bundle-key-wrap-v1"

section Operations

variable (prims : CryptoPrimitives)

def DeviceEncryptionKey.publicKey (device : DeviceEncryptionKey) : FixedBytes 32 :=
  prims.x25519PublicKey device.secret

def deriveWrappingKey (shared : FixedBytes 32) (aad : Bytes) : Exec CryptoError (FixedBytes 32) :=
  okOr (prims.hkdfSha256 aad shared wrapInfo) .operation

/-- `decode_32` and `decode_24`. -/
def decodeFixed (size : Nat) (value : String) : Exec CryptoError (FixedBytes size) := do
  let bytes ← okOr (prims.base64Decode value) .encoding
  okOr (FixedBytes.ofBytes? size bytes) .encoding

def wrapBundleKey (draws : WrapDraws) (bundleKey recipientPublicKey : FixedBytes 32)
    (aad : Bytes) : Exec CryptoError WrappedBundleKey := do
  let ephemeralPublic := prims.x25519PublicKey draws.ephemeralSecret
  let shared := prims.diffieHellman draws.ephemeralSecret recipientPublicKey
  let wrappingKey ← deriveWrappingKey prims shared aad
  let wrapped ← okOr (prims.encrypt wrappingKey draws.nonce bundleKey.val aad) .operation
  return {
    ephemeralPublicKey := prims.base64Encode ephemeralPublic.val
    nonce := prims.base64Encode draws.nonce.val
    wrappedKey := prims.base64Encode wrapped }

def DeviceEncryptionKey.unwrapBundleKey (device : DeviceEncryptionKey) (wrapped : WrappedBundleKey)
    (aad : Bytes) : Exec CryptoError (FixedBytes 32) := do
  let ephemeral ← decodeFixed prims 32 wrapped.ephemeralPublicKey
  let shared := prims.diffieHellman device.secret ephemeral
  let wrappingKey ← deriveWrappingKey prims shared aad
  let nonce ← decodeFixed prims 24 wrapped.nonce
  let ciphertext ← okOr (prims.base64Decode wrapped.wrappedKey) .encoding
  let plaintext ← okOr (prims.decrypt wrappingKey nonce ciphertext aad) .operation
  okOr (FixedBytes.ofBytes? 32 plaintext) .operation

def encryptBundle (nonce : FixedBytes 24) (key : FixedBytes 32) (plaintext aad : Bytes) :
    Exec CryptoError BundleCiphertext := do
  let ciphertext ← okOr (prims.encrypt key nonce plaintext aad) .operation
  return {
    nonce := prims.base64Encode nonce.val
    ciphertext := prims.base64Encode ciphertext }

def decryptBundle (key : FixedBytes 32) (encrypted : BundleCiphertext) (aad : Bytes) :
    Exec CryptoError Bytes := do
  let nonce ← decodeFixed prims 24 encrypted.nonce
  let ciphertext ← okOr (prims.base64Decode encrypted.ciphertext) .encoding
  okOr (prims.decrypt key nonce ciphertext aad) .operation

end Operations

/-! ## Correct crates -/

/-- The cipher decrypts what it encrypted of a message. -/
def CryptoPrimitives.Deciphers (prims : CryptoPrimitives) (message : Bytes) : Prop :=
  ∀ key nonce aad, ∃ ciphertext, prims.encrypt key nonce message aad = some ciphertext ∧
    prims.decrypt key nonce ciphertext aad = some message

/-- Two parties agree, keys are derived and deciphered, and encoded bytes are decoded. -/
structure CryptoPrimitives.Correct (prims : CryptoPrimitives) : Prop where
  agreement : ∀ ours theirs, prims.diffieHellman ours (prims.x25519PublicKey theirs) =
    prims.diffieHellman theirs (prims.x25519PublicKey ours)
  derivation : ∀ salt shared info, (prims.hkdfSha256 salt shared info).isSome
  keys : ∀ key : FixedBytes 32, prims.Deciphers key.val
  base64 : ∀ bytes, prims.base64Decode (prims.base64Encode bytes) = some bytes

variable {prims : CryptoPrimitives}

theorem decodeFixed_base64Encode (correct : prims.Correct) {size : Nat}
    (bytes : FixedBytes size) :
    decodeFixed prims size (prims.base64Encode bytes.val) = .ok bytes :=
  bind_eq_ok.mpr ⟨bytes.val, okOr_eq_ok.mpr (correct.base64 _),
    okOr_eq_ok.mpr (FixedBytes.ofBytes?_val bytes)⟩

/-- **Decryption undoes encryption.** -/
theorem decryptBundle_encryptBundle (correct : prims.Correct) {plaintext : Bytes}
    (deciphers : prims.Deciphers plaintext) (nonce : FixedBytes 24) (key : FixedBytes 32)
    (aad : Bytes) :
    ∃ encrypted, encryptBundle prims nonce key plaintext aad = .ok encrypted ∧
      decryptBundle prims key encrypted aad = .ok plaintext := by
  obtain ⟨ciphertext, encrypted, decrypted⟩ := deciphers key nonce aad
  refine ⟨_, bind_eq_ok.mpr ⟨ciphertext, okOr_eq_ok.mpr encrypted, rfl⟩, ?_⟩
  exact bind_eq_ok.mpr ⟨nonce, decodeFixed_base64Encode correct nonce,
    bind_eq_ok.mpr ⟨ciphertext, okOr_eq_ok.mpr (correct.base64 _), okOr_eq_ok.mpr decrypted⟩⟩

/-- **A device unwraps what was wrapped for it**, and nothing is refused a wrap. -/
theorem unwrapBundleKey_wrapBundleKey (correct : prims.Correct) (draws : WrapDraws)
    (bundleKey recipientPublicKey : FixedBytes 32) (aad : Bytes) :
    ∃ wrapped, wrapBundleKey prims draws bundleKey recipientPublicKey aad = .ok wrapped ∧
      ∀ device : DeviceEncryptionKey, device.publicKey prims = recipientPublicKey →
        device.unwrapBundleKey prims wrapped aad = .ok bundleKey := by
  obtain ⟨wrappingKey, derived⟩ := Option.isSome_iff_exists.mp (correct.derivation aad
    (prims.diffieHellman draws.ephemeralSecret recipientPublicKey) wrapInfo)
  obtain ⟨ciphertext, encrypted, decrypted⟩ :=
    correct.keys bundleKey wrappingKey draws.nonce aad
  refine ⟨_, bind_eq_ok.mpr ⟨wrappingKey, okOr_eq_ok.mpr derived,
    bind_eq_ok.mpr ⟨ciphertext, okOr_eq_ok.mpr encrypted, rfl⟩⟩, ?_⟩
  rintro device rfl
  -- The device derives the wrapping key from its own side of the agreement.
  have agreed : prims.diffieHellman device.secret (prims.x25519PublicKey draws.ephemeralSecret) =
      prims.diffieHellman draws.ephemeralSecret (device.publicKey prims) :=
    correct.agreement device.secret draws.ephemeralSecret
  refine bind_eq_ok.mpr ⟨_, decodeFixed_base64Encode correct _, bind_eq_ok.mpr ⟨wrappingKey, ?_,
    bind_eq_ok.mpr ⟨draws.nonce, decodeFixed_base64Encode correct draws.nonce,
    bind_eq_ok.mpr ⟨ciphertext, okOr_eq_ok.mpr (correct.base64 _),
    bind_eq_ok.mpr ⟨bundleKey.val, okOr_eq_ok.mpr decrypted,
    okOr_eq_ok.mpr (FixedBytes.ofBytes?_val bundleKey)⟩⟩⟩⟩⟩
  rw [deriveWrappingKey, agreed, derived]
  rfl

end CrowAgent
