import CrowAgent.Protocol.DatasetManifest
import CrowAgent.Protocol.SignedManifest

/-!
# Dataset manifests as documents

The manifest of a dataset is stored as canonical JSON next to its files, and read from it again.
-/

namespace CrowAgent

open FixedWidth Json

def DatasetFileV1.ofJson? (json : Json) : Option DatasetFileV1 := do
  let [some path, some sha256, some bytes] ← json.structFields? ["path", "sha256", "bytes"] | none
  let path ← path.asStr?
  let sha256 ← sha256.asStr?
  let bytes ← bytes.toU64?
  return { path, sha256, bytes }

def filesOfJson? : Json → Option (List DatasetFileV1)
  | .array values => values.mapM DatasetFileV1.ofJson?
  | _ => none

theorem DatasetFileV1.ofJson?_sortJson_toJson (file : DatasetFileV1) :
    ofJson? (sortJson file.toJson) = some file :=
  bind_of_some (structFields?_sortJson rfl (by decide))
    (bind_of_some rfl (bind_of_some rfl (bind_of_some rfl rfl)))

theorem filesOfJson?_sortJson_filesJson (files : List DatasetFileV1) :
    filesOfJson? (sortJson (filesJson files)) = some files := by
  rw [sortJson_filesJson, filesOfJson?]
  induction files with
  | nil => rfl
  | cons file files ih =>
    rw [List.map_cons, List.mapM_cons, DatasetFileV1.ofJson?_sortJson_toJson, ih]
    rfl

namespace DatasetManifestV1

/-- `serde_json::from_slice` of a manifest, once the text is a value. -/
def ofJson? (prims : WirePrimitives) (json : Json) : Option DatasetManifestV1 := do
  let [some protocol, some source, some datasetId, some version, some intervalSeconds, some symbols,
      some startsAt, some endsAt, some files, some packageSha256, some signerPublicKey,
      some signature] ←
    json.structFields? ["protocol", "source", "dataset_id", "version", "interval_seconds",
      "symbols", "starts_at", "ends_at", "files", "package_sha256", "signer_public_key",
      "signature"] | none
  let protocol ← protocol.asStr?
  let source ← source.asStr?
  let datasetId ← datasetId.asStr?.bind prims.parseUuid
  let version ← version.toU32?
  let intervalSeconds ← intervalSeconds.toU32?
  let symbols ← symbols.toStrings?
  let startsAt ← startsAt.asStr?.bind prims.parseRfc3339
  let endsAt ← endsAt.asStr?.bind prims.parseRfc3339
  let files ← filesOfJson? files
  let packageSha256 ← packageSha256.asStr?
  let signerPublicKey ← signerPublicKey.asStr?
  let signature ← signature.asStr?
  return {
    protocol, source, datasetId, version, intervalSeconds, symbols, startsAt, endsAt, files,
    packageSha256, signerPublicKey, signature }

/-- The manifest of a document. -/
def read? (prims : WirePrimitives) (document : Bytes) : Option DatasetManifestV1 :=
  (prims.parseJson document).bind (ofJson? prims)

variable {prims : WirePrimitives} {manifest : DatasetManifestV1} {json : Json}

/-- The crates read back the identifier, the times and the canonical JSON of a manifest. -/
structure ReadsBack (prims : WirePrimitives) (manifest : DatasetManifestV1) : Prop where
  uuid : prims.parseUuid manifest.datasetId.hyphenated = some manifest.datasetId
  startsAt : ∀ text, prims.rfc3339 manifest.startsAt = some text →
    prims.parseRfc3339 text = some manifest.startsAt
  endsAt : ∀ text, prims.rfc3339 manifest.endsAt = some text →
    prims.parseRfc3339 text = some manifest.endsAt
  document : ∀ json, manifest.toJson prims.toPrimitives = some json →
    prims.parseJson (canonicalJson prims.toPrimitives json) = some (sortJson json)

theorem ofJson?_sortJson_toJson (reads : manifest.ReadsBack prims)
    (written : manifest.toJson prims.toPrimitives = some json) :
    ofJson? prims (sortJson json) = some manifest := by
  simp only [toJson, Option.bind_eq_bind, Option.bind_eq_some_iff, Option.pure_def,
    Option.some.injEq] at written
  rcases written with ⟨startsAt, isStart, endsAt, isEnd, rfl⟩
  have symbols : toStrings? (sortJson (ofStrings manifest.symbols)) = some manifest.symbols := by
    rw [sortJson_ofStrings, toStrings?_ofStrings]
  refine bind_of_some (structFields?_sortJson rfl (by decide)) ?_
  exact bind_of_some rfl (bind_of_some rfl (bind_of_some reads.uuid
    (bind_of_some (toU32?_ofU64 _) (bind_of_some (toU32?_ofU64 _) (bind_of_some symbols
    (bind_of_some (reads.startsAt _ isStart) (bind_of_some (reads.endsAt _ isEnd)
    (bind_of_some (filesOfJson?_sortJson_filesJson _)
    (bind_of_some rfl (bind_of_some rfl (bind_of_some rfl rfl)))))))))))

/-- **Documents.**  A manifest is read from the document that is written of it. -/
theorem read?_canonicalJson (reads : manifest.ReadsBack prims)
    (written : manifest.toJson prims.toPrimitives = some json) :
    read? prims (canonicalJson prims.toPrimitives json) = some manifest := by
  rw [read?, reads.document json written, Option.bind_some, ofJson?_sortJson_toJson reads written]

end DatasetManifestV1

end CrowAgent
