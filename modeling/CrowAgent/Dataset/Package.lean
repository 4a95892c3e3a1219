import CrowAgent.Dataset.Tables
import CrowAgent.Protocol.DatasetManifest

/-!
# Signed datasets

Candles and instruments are written as two files of columns with a signed manifest next to them, and
read back after the manifest, the files and the rows have been checked.

* `candles_eq_of_packageSha256_eq`: the hash of a package determines the candles that are read.
* `readVerifiedDataset_of_writeSignedDataset`: what was written is read back.
-/

namespace CrowAgent

open FixedWidth Columnar

def datasetManifestFile : String := "dataset-manifest-v1.json"

def candleFile : String := "candles.parquet"

def instrumentFile : String := "instruments.parquet"

/-- The files of a directory. -/
abbrev Directory : Type := String → Option Bytes

/-- The writer and the reader of columnar files: the bytes of a batch, and the batches of a size
that the bytes are read in, of which one may be broken. -/
structure Parquet : Type where
  write : RecordBatch → Option Bytes
  read : Nat → Bytes → Option (List (Option RecordBatch))

/-- `DatasetPackage`. -/
structure DatasetPackage : Type where
  candlePath : String
  instrumentPath : String
  manifestPath : String
  manifest : DatasetManifestV1

/-! ## Writing and reading a package -/

/-- The first and the last second of a point in time. -/
def minTimestamp : Int := -377705116800

def maxTimestamp : Int := 253402300799

/-- `timestamp_millis`. -/
def timestampMillis (value : Int64) : Exec DatasetError OffsetDateTime := do
  let nanoseconds := value.toInt * 1000000
  rejectIf (¬(minTimestamp ≤ nanoseconds.fdiv (10 ^ 9) ∧ nanoseconds.fdiv (10 ^ 9) ≤ maxTimestamp))
    .timestamp
  return { unixNanoseconds := nanoseconds, offsetSeconds := 0 }

section Package

variable (prims : Primitives) (parquet : Parquet)

/-- `write_parquet`: the directory with the file in it. -/
def writeParquet (directory : Directory) (name : String) (batch : RecordBatch) :
    Exec DatasetError Directory := do
  let bytes ← okOr (parquet.write batch) .parquet
  return Function.update directory name (some bytes)

/-- `dataset_file`. -/
def datasetFile (directory : Directory) (name : String) : Exec DatasetError DatasetFileV1 := do
  let bytes ← okOr (directory name) .io
  rejectIf (2 ^ 64 ≤ bytes.length) .candles
  return {
    path := name
    sha256 := Hex.encode (prims.sha256 bytes).val
    bytes := .ofNat bytes.length }

/-- `write_signed_dataset`: the package, and the directory with it. -/
def writeSignedDataset (directory : Directory) (datasetId : Uuid) (version : UInt32)
    (candles : List CandleV1) (instruments : List InstrumentV1) (signer : FixedBytes 32) :
    Exec DatasetError (DatasetPackage × Directory) := do
  validateCandles candles
  validateInstruments instruments candles
  let candleBatch ← candleBatch candles
  let directory ← writeParquet parquet directory candleFile candleBatch
  let instrumentBatch ← instrumentBatch instruments
  let directory ← writeParquet parquet directory instrumentFile instrumentBatch
  let files ← [candleFile, instrumentFile].mapM (datasetFile prims directory)
  let packageDigest := packageSha256 prims files
  let first ← okOr candles.head? .candles
  let startsAt ← timestampMillis first.openTimeMs
  let last ← okOr candles.getLast? .candles
  let endsAt ← timestampMillis last.closeTimeMs
  let manifest ← withErrors .protocol (liftResult
    (DatasetManifestV1.sign prims signer datasetId version startsAt endsAt files packageDigest))
  let json ← okOr (manifest.toJson prims) (.protocol .canonicalJson)
  let package : DatasetPackage := {
    candlePath := candleFile
    instrumentPath := instrumentFile
    manifestPath := datasetManifestFile
    manifest }
  return (package,
    Function.update directory datasetManifestFile (some (canonicalJson prims json)))

/-- The file of a package has the hash and the length that its entry says. -/
def checkFile (directory : Directory) (file : DatasetFileV1) : Exec DatasetError Unit := do
  let bytes ← okOr (directory file.path) .io
  rejectIf (Hex.encode (prims.sha256 bytes).val ≠ file.sha256 ∨ 2 ^ 64 ≤ bytes.length ∨
    UInt64.ofNat bytes.length ≠ file.bytes) .candles

/-- The rows of a file, read in batches of a size. -/
def readRows {α : Type} (directory : Directory) (name : String) (batchSize : Nat)
    (ofBatch : RecordBatch → Exec DatasetError (List α)) : Exec DatasetError (List α) := do
  let bytes ← okOr (directory name) .io
  let batches ← okOr (parquet.read batchSize bytes) .parquet
  readAll ofBatch .arrow batches

/-- `read_verified_dataset`. -/
def readVerifiedDataset (directory : Directory) (manifest : DatasetManifestV1) :
    Exec DatasetError (List CandleV1) := do
  withErrors .protocol (liftResult (manifest.verify prims))
  rejectIf (manifest.files.map (·.path) ≠ [candleFile, instrumentFile]) .candles
  manifest.files.forM (checkFile prims directory)
  rejectIf (packageSha256 prims manifest.files ≠ manifest.packageSha256) .candles
  let candles ← readRows parquet directory candleFile 65536 candlesFromBatch
  validateCandles candles
  let instruments ← readRows parquet directory instrumentFile 64 instrumentsFromBatch
  validateInstruments instruments candles
  return candles

end Package

variable {prims : Primitives} {parquet : Parquet}

/-! ## Stored tables -/

/-- A batch is written as a file of some length, which is read back in batches of any size. -/
structure Parquet.StoresAs (parquet : Parquet) (batch : RecordBatch) (bytes : Bytes) : Prop where
  written : parquet.write batch = some bytes
  some : bytes ≠ []
  length : bytes.length < 2 ^ 64
  read : ∀ batchSize, 0 < batchSize → ∃ sizes : List Nat, sizes.sum = batch.numRows ∧
    parquet.read batchSize bytes = Option.some ((batch.chunks sizes).map Option.some)

def Parquet.Stores (parquet : Parquet) (batch : RecordBatch) : Prop :=
  ∃ bytes, parquet.StoresAs batch bytes

/-- The entry of a file with a content. -/
def fileEntry (prims : Primitives) (name : String) (bytes : Bytes) : DatasetFileV1 where
  path := name
  sha256 := Hex.encode (prims.sha256 bytes).val
  bytes := .ofNat bytes.length

/-- The files of a package, under their three names. -/
def packaged (directory : Directory) (candleBytes instrumentBytes manifestBytes : Bytes) :
    Directory :=
  Function.update (Function.update (Function.update directory candleFile (some candleBytes))
    instrumentFile (some instrumentBytes)) datasetManifestFile (some manifestBytes)

theorem packaged_candleFile (directory : Directory) (candles instruments manifest : Bytes) :
    packaged directory candles instruments manifest candleFile = some candles := by
  rw [packaged, Function.update_of_ne (by decide), Function.update_of_ne (by decide),
    Function.update_self]

theorem packaged_instrumentFile (directory : Directory) (candles instruments manifest : Bytes) :
    packaged directory candles instruments manifest instrumentFile = some instruments := by
  rw [packaged, Function.update_of_ne (by decide), Function.update_self]

/-- A checked file has the hash of its entry. -/
theorem checkFile_eq_ok {directory : Directory} {file : DatasetFileV1} :
    checkFile prims directory file = .ok () ↔ ∃ bytes, directory file.path = some bytes ∧
      Hex.encode (prims.sha256 bytes).val = file.sha256 ∧ bytes.length < 2 ^ 64 ∧
      UInt64.ofNat bytes.length = file.bytes := by
  simp only [checkFile, bind_eq_ok, okOr_eq_ok, rejectIf_eq_ok, not_or, not_not, not_le]

/-- Every file of a list is checked. -/
theorem forM_checkFile {directory : Directory} {files : List DatasetFileV1} :
    files.forM (checkFile prims directory) = .ok ⟨⟩ ↔
      ∀ file ∈ files, checkFile prims directory file = .ok () := by
  induction files with
  | nil => exact ⟨fun _ => by simp, fun _ => rfl⟩
  | cons file files ih =>
    rw [List.forM_eq_forM, List.forM_cons, bind_eq_ok, List.forall_mem_cons, ← ih]
    constructor
    · rintro ⟨⟨⟩, first, rest⟩
      exact ⟨first, rest⟩
    · rintro ⟨first, rest⟩
      exact ⟨⟨⟩, first, rest⟩

/-- The checks a package passes, and the rows it is read as. -/
theorem readVerifiedDataset_eq_ok {directory : Directory} {manifest : DatasetManifestV1}
    {candles : List CandleV1} :
    readVerifiedDataset prims parquet directory manifest = .ok candles ↔
      manifest.verify prims = .ok () ∧
      manifest.files.map (·.path) = [candleFile, instrumentFile] ∧
      (∀ file ∈ manifest.files, checkFile prims directory file = .ok ()) ∧
      packageSha256 prims manifest.files = manifest.packageSha256 ∧
      readRows parquet directory candleFile 65536 candlesFromBatch = .ok candles ∧
      validateCandles candles = .ok () ∧
      ∃ instruments, readRows parquet directory instrumentFile 64 instrumentsFromBatch =
          .ok instruments ∧ validateInstruments instruments candles = .ok () := by
  simp only [readVerifiedDataset, bind_eq_ok, withErrors_eq_ok, liftResult_eq_ok, rejectIf_eq_ok,
    not_not, exists_const, pure, Except.pure, Except.ok.injEq]
  constructor
  · rintro ⟨⟨⟩, verified, paths, ⟨⟩, files, package, rows, isRows, ⟨⟩, valid, instruments,
      isInstruments, ⟨⟩, validInstruments, rfl⟩
    exact ⟨verified, paths, forM_checkFile.mp files, package, isRows, valid, instruments,
      isInstruments, validInstruments⟩
  · rintro ⟨verified, paths, files, package, isRows, valid, instruments, isInstruments,
      validInstruments⟩
    exact ⟨⟨⟩, verified, paths, ⟨⟩, forM_checkFile.mpr files, package, candles, isRows, ⟨⟩, valid,
      instruments, isInstruments, ⟨⟩, validInstruments, rfl⟩

theorem checkFile_fileEntry {directory : Directory} {name : String} {bytes : Bytes}
    (content : directory name = some bytes) (length : bytes.length < 2 ^ 64) :
    checkFile prims directory (fileEntry prims name bytes) = .ok () :=
  checkFile_eq_ok.mpr ⟨bytes, content, rfl, length, rfl⟩

/-- Rows that were stored are read back. -/
theorem readRows_of_stores {α : Type} {table : List α → RecordBatch}
    {ofBatch : RecordBatch → Exec DatasetError (List α)} (tabulates : Tabulates table)
    (read : ∀ rows, ofBatch (table rows) = .ok rows) {directory : Directory} {name : String}
    {bytes : Bytes} {rows : List α} (content : directory name = some bytes)
    (stored : parquet.StoresAs (table rows) bytes) {batchSize : Nat} (positive : 0 < batchSize) :
    readRows parquet directory name batchSize ofBatch = .ok rows := by
  obtain ⟨sizes, whole, batches⟩ := stored.read batchSize positive
  rw [tabulates.numRows] at whole
  simp only [readRows, bind_eq_ok, okOr_eq_ok]
  exact ⟨bytes, content, _, batches, readAll_chunks tabulates read whole⟩

/-- A package of stored tables is read as its candles under a manifest that verifies over their
entries. -/
theorem readVerifiedDataset_packaged {directory : Directory} {manifest : DatasetManifestV1}
    {candles : List CandleV1} {instruments : List InstrumentV1}
    {candleBytes instrumentBytes manifestBytes : Bytes}
    (validCandles : validateCandles candles = .ok ())
    (validInstruments : validateInstruments instruments candles = .ok ())
    (candlesStored : parquet.StoresAs (candleTable candles) candleBytes)
    (instrumentsStored : parquet.StoresAs (instrumentTable instruments) instrumentBytes)
    (verified : manifest.verify prims = .ok ())
    (isFiles : manifest.files = [fileEntry prims candleFile candleBytes,
      fileEntry prims instrumentFile instrumentBytes])
    (isPackage : manifest.packageSha256 = packageSha256 prims manifest.files) :
    readVerifiedDataset prims parquet
      (packaged directory candleBytes instrumentBytes manifestBytes) manifest = .ok candles := by
  have candleContent := packaged_candleFile directory candleBytes instrumentBytes manifestBytes
  have instrumentContent :=
    packaged_instrumentFile directory candleBytes instrumentBytes manifestBytes
  refine readVerifiedDataset_eq_ok.mpr ⟨verified, by rw [isFiles]; rfl, ?_, isPackage.symm, ?_,
    validCandles, instruments, ?_, validInstruments⟩
  · rw [isFiles, List.forall_mem_cons, List.forall_mem_singleton]
    exact ⟨checkFile_fileEntry candleContent candlesStored.length,
      checkFile_fileEntry instrumentContent instrumentsStored.length⟩
  · exact readRows_of_stores tabulates_candleTable candlesFromBatch_candleTable candleContent
      candlesStored (by decide)
  · exact readRows_of_stores tabulates_instrumentTable instrumentsFromBatch_instrumentTable
      instrumentContent instrumentsStored (by decide)

/-! ## A sample package -/

def sampleInstruments : List InstrumentV1 := [
  { symbol := "BTC", sizeDecimals := 5, maxLeverage := 40, isDelisted := false },
  { symbol := "ETH", sizeDecimals := 4, maxLeverage := 25, isDelisted := false },
  { symbol := "SOL", sizeDecimals := 2, maxLeverage := 20, isDelisted := false }]

def candleBytes : Bytes := utf8 "PAR1 candles PAR1"

def instrumentBytes : Bytes := utf8 "PAR1 instruments PAR1"

/-- The sample tables, stored in two files and read in one batch each. -/
def sampleParquet : Parquet where
  write := fun batch =>
    if batch.schema = candleSchema then some candleBytes else some instrumentBytes
  read := fun _ bytes =>
    if bytes = candleBytes then some [some (candleTable sampleCandles)]
    else some [some (instrumentTable sampleInstruments)]

/-- The seeds of two signers, and the public key of the other. -/
def sampleSeed : FixedBytes 32 := ⟨List.replicate 32 7, rfl⟩

def otherSeed : FixedBytes 32 := ⟨List.replicate 32 8, rfl⟩

def otherKey : FixedBytes 32 :=
  .ofNat 32 0x1398f62c6d1a457c51ba6a4b5f3dbd2f69fca93216218dc8997e416bd17d93ca

def otherKeyText : String := "E5j2LG0aRXxRumpLXz29L2n8qTIWIY3ImX5Ba9F9k8o"

/-- What the first signer signs version 1 of the sample with, and the other one version 2. -/
def datasetSignature : FixedBytes 64 :=
  .ofNat 64 (0xcd92e6b58e5ad5bc8abbf38c3773e9c7f18c55a49fb7c16d31053eb6780fc3bb * 256 ^ 32 +
    0x6e3e6d7e2bb0abfe71fe08817ece0892cf45a2e628702ea2ad3ceb5874ecfb0d)

def otherSignature : FixedBytes 64 :=
  .ofNat 64 (0xf50786b540d22bdfdfb143dba5cf17cfae1403c34cf693feaaf5fab1528a6430 * 256 ^ 32 +
    0x1f804b9846264d19da892e4d8e0165bbb366af2fbeb7c2e9c17d167b36d09e0d)

def datasetSignatureText : String :=
  "zZLmtY5a1byKu_OMN3Ppx_GMVaSft8FtMQU-tngPw7tuPm1-K7Cr_nH-CIF-zgiSz0Wi5ihwLqKtPOtYdOz7DQ"

def otherSignatureText : String :=
  "9QeGtUDSK9_fsUPbpc8Xz64UA8NM9pP-qvX6sVKKZDAfgEuYRiZNGdqJLk2OAWW7s2avL763wunBfRZ7NtCeDQ"

/-- The hashes of the two files, of their list, and of the two unsigned manifests. -/
def datasetDigest (message : Bytes) : FixedBytes 32 :=
  if message = candleBytes then
    .ofNat 32 0x59c5c90b98a536b68bab7104ca92d42ac0f70df7ee1fadb3dc62abe2a9632453
  else if message = instrumentBytes then
    .ofNat 32 0xaa303bd4366c009cafe14ff132d596c5f7838abe1a2e8c0a2aaef54c7b55f19b
  else if message.head? = some 91 then
    .ofNat 32 0x9b1f00d6281ca21c849faac1a14dc15a3664bcef8d6f542f4936b006bea2cd35
  else if message.dropLast.getLast? = some 49 then
    .ofNat 32 0x83cc92b16b03e35f7ea653e4d6f4462b1e4467b60e1244a7b8c8cdf7d944f522
  else .ofNat 32 0x90fa207534d9c3bf387466f9fbea21e14837bc30a60d3d70425b4e9e54f907ef

def datasetTimeText (time : OffsetDateTime) : Option String :=
  if time = ⟨0, 0⟩ then some "1970-01-01T00:00:00Z"
  else if time = ⟨899999000000, 0⟩ then some "1970-01-01T00:14:59.999Z"
  else if time = ⟨900000000000, 0⟩ then some "1970-01-01T00:15:00Z"
  else if time = ⟨1799999000000, 0⟩ then some "1970-01-01T00:29:59.999Z"
  else none

/-- The crates on the sample package, for both signers. -/
def datasetPrimitives : Primitives :=
  { samplePrimitives with
    sha256 := datasetDigest
    rfc3339 := datasetTimeText
    base64Encode := fun bytes =>
      if bytes = sampleKey.val then sampleKeyText
      else if bytes = otherKey.val then otherKeyText
      else if bytes = datasetSignature.val then datasetSignatureText
      else otherSignatureText
    base64Decode := fun text =>
      if text = sampleKeyText then some sampleKey.val
      else if text = otherKeyText then some otherKey.val
      else if text = datasetSignatureText then some datasetSignature.val
      else if text = otherSignatureText then some otherSignature.val
      else none
    verifyingKey := fun seed => if seed = sampleSeed then sampleKey else otherKey
    isVerifyingKey := fun key => key = sampleKey || key = otherKey
    sign := fun seed _ => if seed = sampleSeed then datasetSignature else otherSignature
    verifies := fun key _ signature =>
      key = sampleKey && signature = datasetSignature ||
        key = otherKey && signature = otherSignature }

def sampleFiles : List DatasetFileV1 := [fileEntry datasetPrimitives candleFile candleBytes,
  fileEntry datasetPrimitives instrumentFile instrumentBytes]

/-- Version 1 of the sample package. -/
def sampleDataset : DatasetManifestV1 :=
  { DatasetManifestV1.draft datasetPrimitives sampleSeed ⟨.ofNat 16 0⟩ 1 ⟨0, 0⟩
      ⟨1799999000000, 0⟩ sampleFiles (packageSha256 datasetPrimitives sampleFiles) with
    signature := datasetSignatureText }

/-- Version 2 of it, by the other signer. -/
def otherDataset : DatasetManifestV1 :=
  { DatasetManifestV1.draft datasetPrimitives otherSeed ⟨.ofNat 16 1⟩ 2 ⟨0, 0⟩
      ⟨1799999000000, 0⟩ sampleFiles (packageSha256 datasetPrimitives sampleFiles) with
    signature := otherSignatureText }

def sampleDirectory : Directory :=
  packaged (fun _ => none) candleBytes instrumentBytes (utf8 "manifest")

theorem sampleParquet_stores :
    sampleParquet.StoresAs (candleTable sampleCandles) candleBytes ∧
    sampleParquet.StoresAs (instrumentTable sampleInstruments) instrumentBytes :=
  ⟨⟨rfl, by decide, by decide, fun _ _ => ⟨[6], rfl, rfl⟩⟩,
    ⟨rfl, by decide, by decide, fun _ _ => ⟨[3], rfl, rfl⟩⟩⟩

theorem validate_sample : validateCandles sampleCandles = .ok () ∧
    validateInstruments sampleInstruments sampleCandles = .ok () :=
  ⟨by decide, by decide⟩

/-- The entries of the two files of a package stay in its directory. -/
theorem valid_fileEntry {name : String} {bytes : Bytes} (some : bytes ≠ [])
    (length : bytes.length < 2 ^ 64) (isName : name = candleFile ∨ name = instrumentFile) :
    (fileEntry prims name bytes).Valid := by
  have positive : UInt64.ofNat bytes.length ≠ 0 := by
    intro zero
    have same := congrArg UInt64.toNat zero
    rw [UInt64.toNat_ofNat_of_lt' length] at same
    exact some (List.eq_nil_of_length_eq_zero same)
  have path : ¬(name = "" ∨ name.toList.head? = Option.some '/' ∨
      ['.', '.'] <:+: name.toList) := by
    rcases isName with rfl | rfl
    · decide +kernel
    · decide +kernel
  rw [not_or, not_or] at path
  obtain ⟨named, relative, inside⟩ := path
  simp only [DatasetFileV1.Valid, fileEntry, isSha256_encode, not_or, not_not]
  exact ⟨named, relative, inside, positive, trivial⟩

/-- A manifest of valid entries under their hash is valid, whatever its signature. -/
theorem validate_draft {hashing : Primitives} {datasetId : Uuid} {version : UInt32} {startsAt endsAt : OffsetDateTime}
    {files : List DatasetFileV1} {signingKey : FixedBytes 32} {signature : String}
    (versioned : version ≠ 0) (ordered : startsAt.unixNanoseconds < endsAt.unixNanoseconds)
    (some : files ≠ []) (entries : ∀ file ∈ files, file.Valid) :
    DatasetManifestV1.validate { DatasetManifestV1.draft prims signingKey datasetId version startsAt
      endsAt files (packageSha256 hashing files) with signature } = .ok () := by
  rw [DatasetManifestV1.validate, if_neg]
  have hash : isSha256 (packageSha256 hashing files) := isSha256_encode _
  simp only [not_or, not_not]
  exact ⟨rfl, rfl, versioned, rfl, rfl, not_le.mpr ordered, some, hash, entries⟩

theorem sampleFiles_valid : ∀ file ∈ sampleFiles, file.Valid := by
  intro file mem
  rcases List.mem_pair.mp mem with rfl | rfl
  · exact valid_fileEntry (by decide) (by decide) (.inl rfl)
  · exact valid_fileEntry (by decide) (by decide) (.inr rfl)

theorem sampleDataset_verify : sampleDataset.verify datasetPrimitives = .ok () ∧
    otherDataset.verify datasetPrimitives = .ok () := by
  have valid : sampleDataset.validate = .ok () :=
    validate_draft (by decide) (by decide) (List.cons_ne_nil _ _) sampleFiles_valid
  have otherValid : otherDataset.validate = .ok () :=
    validate_draft (by decide) (by decide) (List.cons_ne_nil _ _) sampleFiles_valid
  rw [DatasetManifestV1.verify, DatasetManifestV1.verify, valid, otherValid]
  exact ⟨by decide, by decide⟩

/-! ## The hash of a package pins its candles -/

/-- Files with one hash have one content, and are read as the same rows. -/
theorem readRows_congr {α : Type} {a b : Directory} {name : String} {batchSize : Nat}
    {ofBatch : RecordBatch → Exec DatasetError (List α)} (same : a name = b name) :
    readRows parquet a name batchSize ofBatch = readRows parquet b name batchSize ofBatch := by
  rw [readRows, readRows, same]

/-- Checked files with one entry have one content. -/
theorem directory_eq_of_checkFile {a b : Directory} {file : DatasetFileV1}
    (checkedA : checkFile prims a file = .ok ()) (checkedB : checkFile prims b file = .ok ())
    (distinct : ∀ bytes bytes', a file.path = some bytes → b file.path = some bytes' →
      NoCollision prims bytes bytes') : a file.path = b file.path := by
  obtain ⟨bytes, contentA, hashA, -⟩ := checkFile_eq_ok.mp checkedA
  obtain ⟨bytes', contentB, hashB, -⟩ := checkFile_eq_ok.mp checkedB
  have hashes : prims.sha256 bytes = prims.sha256 bytes' :=
    Subtype.ext (Hex.encode_injective (hashA.trans hashB.symm))
  rw [contentA, contentB, distinct bytes bytes' contentA contentB hashes]

/-- The dataset that a backtest replays under an arena's manifest is the one it names. -/
def ArenaManifestV1.Pins (arena : ArenaManifestV1) (dataset : DatasetManifestV1) : Prop :=
  arena.mode = .historicalBacktest ∧ arena.datasetSha256 = some dataset.packageSha256

/-- **The hash of a package pins its candles.**  Two packages with one hash are read as the same
candles, whoever signed them, unless the hash collides on their lists of files or on their candle
files; in particular all that one arena's manifest lets be replayed. -/
theorem candles_eq_of_packageSha256_eq {a b : Directory} {manifestA manifestB : DatasetManifestV1}
    {candlesA candlesB : List CandleV1}
    (readA : readVerifiedDataset prims parquet a manifestA = .ok candlesA)
    (readB : readVerifiedDataset prims parquet b manifestB = .ok candlesB)
    (distinctLists : NoCollision prims (canonicalJson prims (filesJson manifestA.files))
      (canonicalJson prims (filesJson manifestB.files)))
    (distinctFiles : ∀ bytes bytes', a candleFile = some bytes → b candleFile = some bytes' →
      NoCollision prims bytes bytes') :
    (manifestA.packageSha256 = manifestB.packageSha256 → candlesA = candlesB) ∧
    ∀ arena : ArenaManifestV1, arena.Pins manifestA → arena.Pins manifestB →
      candlesA = candlesB := by
  obtain ⟨-, pathsA, checkedA, packageA, rowsA, -⟩ := readVerifiedDataset_eq_ok.mp readA
  obtain ⟨-, -, checkedB, packageB, rowsB, -⟩ := readVerifiedDataset_eq_ok.mp readB
  have pinned : manifestA.packageSha256 = manifestB.packageSha256 → candlesA = candlesB := by
    intro same
    have files : manifestA.files = manifestB.files :=
      files_injective distinctLists (packageA.trans (same.trans packageB.symm))
    obtain ⟨file, inFiles, isCandles⟩ : ∃ file ∈ manifestA.files, file.path = candleFile := by
      have mem : candleFile ∈ manifestA.files.map (·.path) := pathsA ▸ List.mem_cons_self
      exact List.mem_map.mp mem
    have content : a candleFile = b candleFile := by
      rw [← isCandles] at distinctFiles ⊢
      exact directory_eq_of_checkFile (checkedA file inFiles) (checkedB file (files ▸ inFiles))
        distinctFiles
    rw [readRows_congr content, rowsB] at rowsA
    exact (Except.ok.inj rowsA).symm
  refine ⟨pinned, fun arena pinsA pinsB => pinned ?_⟩
  exact Option.some.inj (pinsA.2.symm.trans pinsB.2)

/-- Two signers' versions of the sample package are read as the same candles. -/
theorem candles_eq_of_sampleDataset :
    ∃ candlesA candlesB,
      readVerifiedDataset datasetPrimitives sampleParquet sampleDirectory sampleDataset =
        .ok candlesA ∧
      readVerifiedDataset datasetPrimitives sampleParquet sampleDirectory otherDataset =
        .ok candlesB ∧
      sampleDataset ≠ otherDataset ∧ candlesA = candlesB := by
  have read : ∀ manifest : DatasetManifestV1, manifest.verify datasetPrimitives = .ok () →
      manifest.files = sampleFiles →
      manifest.packageSha256 = packageSha256 datasetPrimitives manifest.files →
      readVerifiedDataset datasetPrimitives sampleParquet sampleDirectory manifest =
        .ok sampleCandles := fun _ =>
    readVerifiedDataset_packaged validate_sample.1 validate_sample.2 sampleParquet_stores.1
      sampleParquet_stores.2
  have readA := read sampleDataset sampleDataset_verify.1 rfl rfl
  have readB := read otherDataset sampleDataset_verify.2 rfl rfl
  refine ⟨_, _, readA, readB, by decide, ?_⟩
  refine (candles_eq_of_packageSha256_eq readA readB (fun _ => rfl) ?_).1 rfl
  intro bytes bytes' isBytes isBytes' _
  exact Option.some.inj (isBytes.symm.trans isBytes')

/-! ## What was written is read back -/

/-- A point in time with an RFC 3339 text. -/
def Representable (prims : Primitives) (value : Int64) : Prop :=
  ∃ time, timestampMillis value = .ok time ∧ (prims.rfc3339 time).isSome

theorem unixNanoseconds_of_timestampMillis {value : Int64} {time : OffsetDateTime}
    (ok : timestampMillis value = .ok time) :
    time.unixNanoseconds = value.toInt * 1000000 := by
  simp only [timestampMillis, bind_eq_ok, rejectIf_eq_ok, exists_const, pure, Except.pure,
    Except.ok.injEq] at ok
  obtain ⟨-, rfl⟩ := ok
  rfl

theorem datasetFile_eq_ok {directory : Directory} {name : String} {bytes : Bytes}
    (content : directory name = some bytes) (length : bytes.length < 2 ^ 64) :
    datasetFile prims directory name = .ok (fileEntry prims name bytes) := by
  simp only [datasetFile, bind_eq_ok, okOr_eq_ok, rejectIf_eq_ok, exists_const, not_le]
  exact ⟨bytes, content, length, rfl⟩

/-- Valid data whose ends have texts is written: the two tables as they are stored, and a manifest
that verifies over their entries. -/
theorem writeSignedDataset_eq_ok {directory : Directory} {datasetId : Uuid} {version : UInt32}
    {candles : List CandleV1} {instruments : List InstrumentV1} {signer : FixedBytes 32}
    {candleBytes instrumentBytes : Bytes} (validCandles : validateCandles candles = .ok ())
    (validInstruments : validateInstruments instruments candles = .ok ())
    (times : ∀ candle ∈ candles,
      Representable prims candle.openTimeMs ∧ Representable prims candle.closeTimeMs)
    (versioned : version ≠ 0) (signs : prims.Signs signer)
    (candlesStored : parquet.StoresAs (candleTable candles) candleBytes)
    (instrumentsStored : parquet.StoresAs (instrumentTable instruments) instrumentBytes) :
    ∃ package manifestBytes,
      writeSignedDataset prims parquet directory datasetId version candles instruments signer =
        .ok (package, packaged directory candleBytes instrumentBytes manifestBytes) ∧
      package.manifest.verify prims = .ok () ∧
      package.manifest.files = [fileEntry prims candleFile candleBytes,
        fileEntry prims instrumentFile instrumentBytes] ∧
      package.manifest.packageSha256 = packageSha256 prims package.manifest.files := by
  obtain ⟨first, last, isFirst, isLast, ordered⟩ := window_of_validateCandles validCandles
  obtain ⟨startsAt, isStart, startText⟩ := (times first (List.mem_of_head? isFirst)).1
  obtain ⟨endsAt, isEnd, endText⟩ := (times last (List.mem_of_getLast? isLast)).2
  have window : startsAt.unixNanoseconds < endsAt.unixNanoseconds := by
    rw [unixNanoseconds_of_timestampMillis isStart, unixNanoseconds_of_timestampMillis isEnd]
    omega
  let files := [fileEntry prims candleFile candleBytes,
    fileEntry prims instrumentFile instrumentBytes]
  have validFiles : ∀ file ∈ files, file.Valid := by
    rw [List.forall_mem_cons, List.forall_mem_singleton]
    exact ⟨valid_fileEntry candlesStored.some candlesStored.length (.inl rfl),
      valid_fileEntry instrumentsStored.some instrumentsStored.length (.inr rfl)⟩
  obtain ⟨manifest, json, isSigned, verified, isFiles, isPackage, isJson⟩ :=
    @DatasetManifestV1.verify_of_sign _ _ datasetId _ _ _ _ _ signs
      (DatasetManifestV1.validate_draft versioned window (List.cons_ne_nil _ _) validFiles)
      startText endText
  have entries : [candleFile, instrumentFile].mapM (datasetFile prims (Function.update
      (Function.update directory candleFile (some candleBytes)) instrumentFile
      (some instrumentBytes))) = .ok files := by
    rw [List.mapM_cons, List.mapM_cons, List.mapM_nil,
      datasetFile_eq_ok (by rw [Function.update_of_ne (by decide), Function.update_self])
        candlesStored.length,
      datasetFile_eq_ok (Function.update_self ..) instrumentsStored.length]
    rfl
  refine ⟨⟨candleFile, instrumentFile, datasetManifestFile, manifest⟩, canonicalJson prims json,
    ?_, verified, isFiles, isPackage.trans (by rw [isFiles])⟩
  simp only [writeSignedDataset, bind_eq_ok, validCandles, validInstruments, candleBatch_eq,
    instrumentBatch_eq, writeParquet, okOr_eq_ok, withErrors_eq_ok, liftResult_eq_ok]
  exact ⟨(), trivial, (), trivial, _, rfl, _, ⟨_, candlesStored.written, rfl⟩, _, rfl, _,
    ⟨_, instrumentsStored.written, rfl⟩, files, entries, first, isFirst, startsAt, isStart, last, isLast,
    endsAt, isEnd, manifest, isSigned, json, isJson, rfl⟩

/-- **The round trip.**  Valid candles and instruments whose times have texts are written under
every version but zero and every key, and the package is read back as the same candles. -/
theorem readVerifiedDataset_of_writeSignedDataset {directory : Directory} {datasetId : Uuid}
    {version : UInt32} {candles : List CandleV1} {instruments : List InstrumentV1}
    {signer : FixedBytes 32} (validCandles : validateCandles candles = .ok ())
    (validInstruments : validateInstruments instruments candles = .ok ())
    (times : ∀ candle ∈ candles,
      Representable prims candle.openTimeMs ∧ Representable prims candle.closeTimeMs)
    (versioned : version ≠ 0) (signs : prims.Signs signer)
    (storesCandles : parquet.Stores (candleTable candles))
    (storesInstruments : parquet.Stores (instrumentTable instruments)) :
    ∃ package after,
      writeSignedDataset prims parquet directory datasetId version candles instruments signer =
        .ok (package, after) ∧
      readVerifiedDataset prims parquet after package.manifest = .ok candles := by
  obtain ⟨candleBytes, candlesStored⟩ := storesCandles
  obtain ⟨instrumentBytes, instrumentsStored⟩ := storesInstruments
  obtain ⟨package, manifestBytes, isWritten, verified, isFiles, isPackage⟩ :=
    @writeSignedDataset_eq_ok _ _ directory datasetId _ _ _ _ _ _ validCandles validInstruments
      times versioned signs candlesStored instrumentsStored
  exact ⟨package, _, isWritten, readVerifiedDataset_packaged validCandles validInstruments
    candlesStored instrumentsStored verified isFiles isPackage⟩

/-- The sample is written under the first version and the first key, and read back. -/
theorem readVerifiedDataset_of_writeSignedDataset_sample :
    ∃ package after,
      writeSignedDataset datasetPrimitives sampleParquet (fun _ => none) ⟨.ofNat 16 0⟩ 1
        sampleCandles sampleInstruments sampleSeed = .ok (package, after) ∧
      readVerifiedDataset datasetPrimitives sampleParquet after package.manifest =
        .ok sampleCandles := by
  have times : ∀ candle ∈ sampleCandles, Representable datasetPrimitives candle.openTimeMs ∧
      Representable datasetPrimitives candle.closeTimeMs := by
    have opens : ∀ candle ∈ sampleCandles,
        timestampMillis candle.openTimeMs = .ok ⟨candle.openTimeMs.toInt * 1000000, 0⟩ ∧
        (datasetTimeText ⟨candle.openTimeMs.toInt * 1000000, 0⟩).isSome := by decide
    have closes : ∀ candle ∈ sampleCandles,
        timestampMillis candle.closeTimeMs = .ok ⟨candle.closeTimeMs.toInt * 1000000, 0⟩ ∧
        (datasetTimeText ⟨candle.closeTimeMs.toInt * 1000000, 0⟩).isSome := by decide
    exact fun candle mem => ⟨⟨_, opens candle mem⟩, ⟨_, closes candle mem⟩⟩
  have isSignature : ∀ message, datasetPrimitives.sign sampleSeed message = datasetSignature :=
    fun _ => show (if sampleSeed = sampleSeed then datasetSignature else otherSignature) = _ from
      if_pos rfl
  have signs : datasetPrimitives.Signs sampleSeed := {
    keyText := by decide
    signatureText := by
      intro message
      rw [isSignature]
      decide
    isKey := by decide
    verifies := by
      intro message
      rw [isSignature]
      exact (by decide : datasetPrimitives.verifies
        (datasetPrimitives.verifyingKey sampleSeed) [] datasetSignature = true) }
  exact readVerifiedDataset_of_writeSignedDataset validate_sample.1 validate_sample.2 times
    (by decide) signs ⟨_, sampleParquet_stores.1⟩ ⟨_, sampleParquet_stores.2⟩

end CrowAgent
