import CrowAgent.Lib.JsonText
import CrowAgent.Protocol.Manifest
import CrowAgent.Protocol.RunEvent

/-!
# Dataset manifests

The files of a dataset with their hashes, the hash of that list, and a signature over the rest.

* `files_injective`: packages with one hash list the same files, unless the hash collides on them.
* `verify_of_sign`: what a key signs verifies.
-/

namespace CrowAgent

open FixedWidth Json

def datasetSourceV1 : String := "hyperliquid-mainnet-info-v1"

structure DatasetFileV1 : Type where
  path : String
  sha256 : String
  bytes : UInt64
  deriving DecidableEq, Repr

def DatasetFileV1.toJson (file : DatasetFileV1) : Json := .object [
  ("path", .string file.path),
  ("sha256", .string file.sha256),
  ("bytes", ofU64 file.bytes)]

/-- The list of files that a package is hashed over. -/
def filesJson (files : List DatasetFileV1) : Json := .array (files.map (·.toJson))

/-- The hash of a package. -/
def packageSha256 (prims : Primitives) (files : List DatasetFileV1) : String :=
  Hex.encode (prims.sha256 (canonicalJson prims (filesJson files))).val

structure DatasetManifestV1 : Type where
  protocol : String
  source : String
  datasetId : Uuid
  version : UInt32
  intervalSeconds : UInt32
  symbols : List String
  startsAt : OffsetDateTime
  endsAt : OffsetDateTime
  files : List DatasetFileV1
  packageSha256 : String
  signerPublicKey : String
  signature : String
  deriving DecidableEq, Repr

/-- A file of a package stays in its directory and is not empty. -/
def DatasetFileV1.Valid (file : DatasetFileV1) : Prop :=
  ¬(file.path = "" ∨ file.path.toList.head? = some '/' ∨ ['.', '.'] <:+: file.path.toList ∨
    file.bytes = 0 ∨ ¬isSha256 file.sha256)

instance (file : DatasetFileV1) : Decidable file.Valid := inferInstanceAs (Decidable (¬_))

namespace DatasetManifestV1

def validate (manifest : DatasetManifestV1) : Except ProtocolError Unit :=
  if manifest.protocol ≠ harnessProtocolV1
      ∨ manifest.source ≠ datasetSourceV1
      ∨ manifest.version = 0
      ∨ manifest.intervalSeconds ≠ 900
      ∨ manifest.symbols ≠ allowedSymbols
      ∨ manifest.endsAt.unixNanoseconds ≤ manifest.startsAt.unixNanoseconds
      ∨ manifest.files = []
      ∨ ¬isSha256 manifest.packageSha256
      ∨ ¬∀ file ∈ manifest.files, file.Valid then
    .error (.invalidManifest "dataset manifest is invalid")
  else .ok ()

/-- The fields that the signature covers, with the texts of the times. -/
def unsignedFields (manifest : DatasetManifestV1) (startsAt endsAt : String) :
    List (String × Json) := [
  ("protocol", .string manifest.protocol),
  ("source", .string manifest.source),
  ("dataset_id", .string manifest.datasetId.hyphenated),
  ("version", ofU64 manifest.version.toUInt64),
  ("interval_seconds", ofU64 manifest.intervalSeconds.toUInt64),
  ("symbols", ofStrings manifest.symbols),
  ("starts_at", .string startsAt),
  ("ends_at", .string endsAt),
  ("files", filesJson manifest.files),
  ("package_sha256", .string manifest.packageSha256),
  ("signer_public_key", .string manifest.signerPublicKey)]

/-- `unsigned`, as it is serialised. -/
def unsigned (prims : Primitives) (manifest : DatasetManifestV1) : Option Json := do
  let startsAt ← prims.rfc3339 manifest.startsAt
  let endsAt ← prims.rfc3339 manifest.endsAt
  return .object (manifest.unsignedFields startsAt endsAt)

/-- What a manifest is serialised as. -/
def toJson (prims : Primitives) (manifest : DatasetManifestV1) : Option Json := do
  let startsAt ← prims.rfc3339 manifest.startsAt
  let endsAt ← prims.rfc3339 manifest.endsAt
  return .object (manifest.unsignedFields startsAt endsAt ++
    [("signature", .string manifest.signature)])

def verify (prims : Primitives) (manifest : DatasetManifestV1) : Except ProtocolError Unit := do
  manifest.validate
  match manifest.unsigned prims with
  | none => throw .canonicalJson
  | some value =>
    verifySignature prims manifest.signerPublicKey manifest.signature
      (prims.sha256 (canonicalJson prims value)).val

/-- A manifest before it is signed. -/
def draft (prims : Primitives) (signingKey : FixedBytes 32) (datasetId : Uuid) (version : UInt32)
    (startsAt endsAt : OffsetDateTime) (files : List DatasetFileV1) (packageSha256 : String) :
    DatasetManifestV1 where
  protocol := harnessProtocolV1
  source := datasetSourceV1
  datasetId
  version
  intervalSeconds := 900
  symbols := allowedSymbols
  startsAt
  endsAt
  files
  packageSha256
  signerPublicKey := prims.base64Encode (prims.verifyingKey signingKey).val
  signature := ""

def sign (prims : Primitives) (signingKey : FixedBytes 32) (datasetId : Uuid) (version : UInt32)
    (startsAt endsAt : OffsetDateTime) (files : List DatasetFileV1) (packageSha256 : String) :
    Except ProtocolError DatasetManifestV1 := do
  let manifest := draft prims signingKey datasetId version startsAt endsAt files packageSha256
  manifest.validate
  match manifest.unsigned prims with
  | none => throw .canonicalJson
  | some value =>
    let digest := prims.sha256 (canonicalJson prims value)
    return { manifest with
      signature := prims.base64Encode (prims.sign signingKey digest.val).val }

end DatasetManifestV1

/-! ## The hash of a package -/

/-- A file as it is written in the canonical list. -/
theorem DatasetFileV1.sortJson_toJson (file : DatasetFileV1) :
    sortJson file.toJson = .object [
      ("bytes", ofU64 file.bytes),
      ("path", .string file.path),
      ("sha256", .string file.sha256)] := by
  have path : ¬"sha256" < "path" ∧ "sha256" ≠ "path" := by decide
  have bytes : "bytes" < "path" := by decide
  simp only [toJson, sortJson, sortFields, insertField, ofU64, if_neg path.1, if_neg path.2,
    if_pos bytes]

theorem sortJson_filesJson (files : List DatasetFileV1) :
    sortJson (filesJson files) = .array (files.map fun file => sortJson file.toJson) := by
  rw [filesJson, sortJson]
  congr 1
  induction files with
  | nil => rfl
  | cons file files ih => rw [List.map_cons, sortValues, ih, List.map_cons]

theorem parsed_sortJson_filesJson (files : List DatasetFileV1) :
    (sortJson (filesJson files)).Parsed := by
  rw [sortJson_filesJson]
  refine .array fun value mem => ?_
  obtain ⟨file, -, rfl⟩ := List.mem_map.mp mem
  rw [DatasetFileV1.sortJson_toJson]
  refine parsed_of_keys ["bytes", "path", "sha256"] rfl (by decide) ?_
  simp only [List.forall_mem_cons, List.not_mem_nil, IsEmpty.forall_iff, implies_true, and_true]
  exact ⟨.number trivial, .string, .string⟩

/-- The text of a list of files has no doubles in it. -/
theorem compact_filesJson (float : UInt64 → String) (files : List DatasetFileV1) :
    compact float (sortJson (filesJson files)) = compact bitsText (sortJson (filesJson files)) := by
  rw [sortJson_filesJson, compact, compact]
  congr 2
  induction files with
  | nil => rfl
  | cons file files ih =>
    have same : compact float (sortJson file.toJson) = compact bitsText (sortJson file.toJson) := by
      rw [DatasetFileV1.sortJson_toJson]
      simp [compact, compactFields, ofU64, numberText]
    rw [List.map_cons, compactValues_cons, compactValues_cons, same, ih]

theorem DatasetFileV1.toJson_injective : Function.Injective fun file => sortJson (toJson file) := by
  intro a b same
  obtain ⟨pathA, shaA, bytesA⟩ := a
  obtain ⟨pathB, shaB, bytesB⟩ := b
  simp only [sortJson_toJson, ofU64, Json.object.injEq, List.cons.injEq, Prod.mk.injEq,
    Json.number.injEq, JsonNumber.unsigned.injEq, Json.string.injEq, true_and, and_true] at same
  obtain ⟨bytes, path, sha⟩ := same
  rw [bytes, path, sha]

/-- **The hash of a package determines its list of files.** -/
theorem files_injective {prims : Primitives} {a b : List DatasetFileV1}
    (distinct : NoCollision prims (canonicalJson prims (filesJson a))
      (canonicalJson prims (filesJson b)))
    (same : packageSha256 prims a = packageSha256 prims b) : a = b := by
  have texts := utf8_injective (distinct (Subtype.ext (Hex.encode_injective same)))
  have compacts := String.ofList_injective texts
  rw [compact_filesJson prims.floatText a, compact_filesJson prims.floatText b] at compacts
  have values := compact_injective floatTexts_bitsText (parsed_sortJson_filesJson a)
    (parsed_sortJson_filesJson b) compacts
  rw [sortJson_filesJson, sortJson_filesJson, Json.array.injEq] at values
  exact List.map_injective_iff.mpr DatasetFileV1.toJson_injective values

/-! ## Valid manifests -/

/-- Hexadecimal digits are written in one byte each. -/
theorem utf8ByteSize_ofList_digits {text : List Char}
    (digits : ∀ c ∈ text, isHexDigit c ∧ c.utf8Size = 1) :
    (String.ofList text).utf8ByteSize = text.length := by
  induction text with
  | nil => rfl
  | cons c text ih =>
    have split : String.ofList (c :: text) = String.singleton c ++ String.ofList text := by
      rw [← List.singleton_append, String.ofList_append]
      rfl
    rw [split, String.utf8ByteSize_append, String.utf8ByteSize_singleton,
      (digits c List.mem_cons_self).2, ih fun c mem => digits c (List.mem_cons_of_mem _ mem),
      List.length_cons, Nat.add_comm]

/-- The text of a hash passes for one. -/
theorem isSha256_encode (hash : FixedBytes 32) : isSha256 (Hex.encode hash.val) := by
  have digit : ∀ value < 16, isHexDigit (Hex.digit value) ∧ (Hex.digit value).utf8Size = 1 := by
    decide
  have digits : ∀ c ∈ hash.val.flatMap Hex.digits, isHexDigit c ∧ c.utf8Size = 1 := by
    intro c mem
    obtain ⟨byte, -, mem⟩ := List.mem_flatMap.mp mem
    have bound := byte.toNat_lt
    simp only [Hex.digits, List.mem_cons, List.not_mem_nil, or_false] at mem
    rcases mem with rfl | rfl
    · exact digit _ (by omega)
    · exact digit _ (by omega)
  rw [isSha256, Hex.encode, utf8ByteSize_ofList_digits digits, Hex.length_flatMap_digits, hash.2,
    String.toList_ofList, Bool.and_eq_true, List.all_eq_true]
  exact ⟨by decide, fun c mem => (digits c mem).1⟩

/-- Drafts of files that stay in their directory are valid, for a time that does not end before it
starts. -/
theorem DatasetManifestV1.validate_draft {prims : Primitives} {signingKey : FixedBytes 32}
    {datasetId : Uuid} {version : UInt32} {startsAt endsAt : OffsetDateTime}
    {files : List DatasetFileV1} (versioned : version ≠ 0)
    (ordered : startsAt.unixNanoseconds < endsAt.unixNanoseconds) (some : files ≠ [])
    (valid : ∀ file ∈ files, file.Valid) :
    (draft prims signingKey datasetId version startsAt endsAt files
      (CrowAgent.packageSha256 prims files)).validate = .ok () := by
  rw [validate, if_neg]
  have hash := isSha256_encode (prims.sha256 (canonicalJson prims (filesJson files)))
  simp only [draft, CrowAgent.packageSha256, hash, not_or, not_not, ne_eq, not_true_eq_false,
    not_false_eq_true, versioned, some, true_and]
  exact ⟨by omega, valid⟩

/-! ## Signing -/

/-- The key's public key and its signatures are read back from their texts, and what it signs
verifies. -/
structure Primitives.Signs (prims : Primitives) (signingKey : FixedBytes 32) : Prop where
  keyText : prims.base64Decode (prims.base64Encode (prims.verifyingKey signingKey).val) =
    some (prims.verifyingKey signingKey).val
  signatureText : ∀ message,
    prims.base64Decode (prims.base64Encode (prims.sign signingKey message).val) =
      some (prims.sign signingKey message).val
  isKey : prims.isVerifyingKey (prims.verifyingKey signingKey)
  verifies : ∀ message,
    prims.verifies (prims.verifyingKey signingKey) message (prims.sign signingKey message)

theorem verifySignature_sign {prims : Primitives} {signingKey : FixedBytes 32}
    (signs : prims.Signs signingKey) (message : Bytes) :
    verifySignature prims (prims.base64Encode (prims.verifyingKey signingKey).val)
      (prims.base64Encode (prims.sign signingKey message).val) message = .ok () := by
  simp only [verifySignature, signs.keyText, signs.signatureText, FixedBytes.ofBytes?_val,
    signs.isKey, signs.verifies]
  rfl

namespace DatasetManifestV1

variable {prims : Primitives}

theorem unsigned_isSome {manifest : DatasetManifestV1}
    (starts : (prims.rfc3339 manifest.startsAt).isSome)
    (ends : (prims.rfc3339 manifest.endsAt).isSome) :
    ∃ startsAt endsAt, manifest.unsigned prims =
        some (.object (manifest.unsignedFields startsAt endsAt)) ∧
      manifest.toJson prims = some (.object (manifest.unsignedFields startsAt endsAt ++
        [("signature", .string manifest.signature)])) := by
  obtain ⟨startsAt, isStart⟩ := Option.isSome_iff_exists.mp starts
  obtain ⟨endsAt, isEnd⟩ := Option.isSome_iff_exists.mp ends
  exact ⟨startsAt, endsAt, by rw [unsigned, isStart, isEnd]; rfl,
    by rw [toJson, isStart, isEnd]; rfl⟩

/-- **Signing.**  A valid draft whose times have texts is signed, and what is signed verifies. -/
theorem verify_of_sign {signingKey : FixedBytes 32} {datasetId : Uuid} {version : UInt32}
    {startsAt endsAt : OffsetDateTime} {files : List DatasetFileV1} {packageSha256 : String}
    (signs : prims.Signs signingKey)
    (valid : (draft prims signingKey datasetId version startsAt endsAt files
      packageSha256).validate = .ok ())
    (starts : (prims.rfc3339 startsAt).isSome) (ends : (prims.rfc3339 endsAt).isSome) :
    ∃ manifest json, sign prims signingKey datasetId version startsAt endsAt files packageSha256 =
        .ok manifest ∧ manifest.verify prims = .ok () ∧ manifest.files = files ∧
      manifest.packageSha256 = packageSha256 ∧ manifest.toJson prims = some json := by
  let before := draft prims signingKey datasetId version startsAt endsAt files packageSha256
  obtain ⟨start, stop, isUnsigned, -⟩ := @unsigned_isSome prims before starts ends
  let digest := prims.sha256
    (canonicalJson prims (.object (before.unsignedFields start stop)))
  let manifest : DatasetManifestV1 := { before with
    signature := prims.base64Encode (prims.sign signingKey digest.val).val }
  obtain ⟨start', stop', isUnsigned', isJson⟩ := @unsigned_isSome prims manifest starts ends
  have same : manifest.unsigned prims = before.unsigned prims := rfl
  refine ⟨manifest, _, ?_, ?_, rfl, rfl, isJson⟩
  · rw [sign]
    simp only [valid, bind, Except.bind]
    rw [show (draft prims signingKey datasetId version startsAt endsAt files
      packageSha256).unsigned prims = _ from isUnsigned]
    rfl
  · have validSigned : manifest.validate = .ok () := valid
    rw [verify, validSigned, same, isUnsigned]
    exact verifySignature_sign signs digest.val

end DatasetManifestV1

end CrowAgent
