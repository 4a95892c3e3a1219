import CrowAgent.Dataset.Package
import CrowAgent.Dataset.Publisher
import CrowAgent.Lib.Paging
import CrowAgent.Lib.Words
import CrowAgent.Protocol.DatasetDocument

/-!
# The commands of the dataset publisher

`publish` asks the venue for the data of a window, normalises it and writes a signed package into an
empty directory; `verify` reads a package under the public key that `public_key` prints.
`verify_of_publish` says that what was published verifies, as what was published.
-/

namespace CrowAgent

open FixedWidth Json

/-- The errors of the commands; those of the data have their names in `PublisherError`. -/
inductive PublicationError : Type
  | source (error : PublisherError)
  | signingKey
  | request
  | http (status : UInt16)
  | dataset (error : DatasetError)
  | io
  | json
  deriving DecidableEq, Repr

/-- What the venue answers: its assets, the candles of a market between two times, and a page of
the funding of a market between two times.  The times are included, and no request is made
twice. -/
structure HyperliquidInfo : Type where
  metaResponse : Exec PublicationError (List MetaAsset)
  candleSnapshot : String → Int64 → Int64 → Exec PublicationError (List CandleResponse)
  fundingHistory : String → Int64 → Int64 → Exec PublicationError (List FundingResponse)

/-- A venue with some source data, which answers the first 500 records of a window. -/
def SourceData.info (source : SourceData) : HyperliquidInfo where
  metaResponse := .ok source.assets
  candleSnapshot := fun symbol _ _ => .ok (source.candles symbol)
  fundingHistory := fun symbol start last => .ok
    ((Paging.window (·.time.toInt) (source.funding symbol) start.toInt last.toInt).take 500)

/-- The directory a package is written to; one that does not exist has no entries. -/
structure OutputDirectory : Type where
  entries : List String
  content : Directory
  listed : ∀ name, (content name).isSome → name ∈ entries

def maxFundingPages : Nat := 32

namespace HyperliquidInfo

variable (info : HyperliquidInfo)

def instruments : Exec PublicationError (List InstrumentV1) := do
  let assets ← info.metaResponse
  withErrors .source
    (SourceData.instruments { assets, candles := fun _ => [], funding := fun _ => [] })

def candles (symbol : String) (startTimeMs endTimeMs : Int64) :
    Exec PublicationError (List CandleResponse) := do
  let lastTimeMs ← subI64 endTimeMs 1
  info.candleSnapshot symbol startTimeMs lastTimeMs

/-- The loop of `funding` over at most so many pages: the cursor and the records it comes to. -/
def fundingPages (symbol : String) (endTimeMs : Int64) :
    Nat → Int64 → List FundingResponse → Exec PublicationError (Int64 × List FundingResponse)
  | 0, cursor, result => return (cursor, result)
  | pages + 1, cursor, result => do
    if endTimeMs ≤ cursor then return (cursor, result)
    let lastTimeMs ← subI64 endTimeMs 1
    let page ← info.fundingHistory symbol cursor lastTimeMs
    match page.getLast? with
    | none => return (cursor, result)
    | some last =>
      rejectIf (last.time < cursor) (.source .sourceData)
      let result := result ++ page.filter (·.time < endTimeMs)
      let cursor ← tryI64 (last.time.toInt + 1) (.source .sourceData)
      fundingPages symbol endTimeMs pages cursor result

def funding (symbol : String) (startTimeMs endTimeMs : Int64) :
    Exec PublicationError (List FundingResponse) := do
  let (cursor, result) ← info.fundingPages symbol endTimeMs maxFundingPages startTimeMs []
  rejectIf (cursor < endTimeMs ∧ maxFundingPages * 500 ≤ result.length) (.source .sourceData)
  return result

end HyperliquidInfo

/-- `read_signing_key`: a file of 32 bytes. -/
def readSigningKey (signingKeyFile : Option Bytes) : Exec PublicationError (FixedBytes 32) := do
  let bytes ← okOr signingKeyFile .io
  okOr (FixedBytes.ofBytes? 32 bytes) .signingKey

/-- What `publish` has when it is done. -/
structure Publication : Type where
  candles : List CandleV1
  instruments : List InstrumentV1
  package : DatasetPackage
  directory : Directory

/-- What `verify` has when it is done. -/
structure Verification : Type where
  manifest : DatasetManifestV1
  candles : List CandleV1

/-- `str::trim` of a line. -/
def trimLine (line : String) : String := String.ofList (Words.trim isWhitespace line.toList)

/-- The fields that both commands print; `timeText` is how a time is displayed. -/
def summary (timeText : OffsetDateTime → String) (manifest : DatasetManifestV1)
    (candles : List CandleV1) : List (String × Json) := [
  ("dataset_id", .string manifest.datasetId.hyphenated),
  ("version", ofU64 manifest.version.toUInt64),
  ("starts_at", .string (timeText manifest.startsAt)),
  ("ends_at", .string (timeText manifest.endsAt)),
  ("rows", ofU64 (.ofNat candles.length)),
  ("package_sha256", .string manifest.packageSha256),
  ("signer_public_key", .string manifest.signerPublicKey)]

def Publication.line (timeText : OffsetDateTime → String) (publication : Publication) : Json :=
  ofFields (summary timeText publication.package.manifest publication.candles)

def Verification.line (timeText : OffsetDateTime → String) (verification : Verification) : Json :=
  ofFields (summary timeText verification.manifest verification.candles ++ [("verified", .bool true)])

section Commands

variable (prims : WirePrimitives) (parquet : Parquet)

/-- The candles of each market. -/
def collectMarkets (info : HyperliquidInfo) (expectedIntervals : Nat)
    (startTimeMs endTimeMs : Int64) (instruments : List InstrumentV1) :
    Exec PublicationError (List (String × List CandleV1)) :=
  instruments.foldlM (fun bySymbol instrument => do
    let candles ← info.candles instrument.symbol startTimeMs endTimeMs
    let funding ← info.funding instrument.symbol startTimeMs endTimeMs
    let series ← withErrors .source (normalizeSymbol instrument.symbol instrument.sizeDecimals
      expectedIntervals startTimeMs candles funding)
    return insertEntry instrument.symbol series bySymbol) []

def publish (info : HyperliquidInfo) (output : OutputDirectory) (datasetId : Uuid)
    (version : UInt32) (startTimeMs endTimeMs : Int64) (signingKeyFile : Option Bytes) :
    Exec PublicationError Publication := do
  let expectedIntervals ← withErrors .source (validateWindow startTimeMs endTimeMs)
  rejectIf (version = 0) (.source .window)
  rejectIf (output.entries ≠ []) (.source .sourceData)
  let signingKey ← readSigningKey signingKeyFile
  let instruments ← info.instruments
  let bySymbol ← collectMarkets info expectedIntervals startTimeMs endTimeMs instruments
  let candles ← withErrors .source (assemble expectedIntervals bySymbol)
  let (package, directory) ← withErrors .dataset (writeSignedDataset prims.toPrimitives parquet
    output.content datasetId version candles instruments signingKey)
  return { candles, instruments, package, directory }

/-- The line that `public_key` prints. -/
def publicKey (signingKeyFile : Option Bytes) : Exec PublicationError String := do
  let signingKey ← readSigningKey signingKeyFile
  return prims.base64Encode (prims.verifyingKey signingKey).val ++ "\n"

def verify (directory : Directory) (expectedPublicKeyFile : Option Bytes) :
    Exec PublicationError Verification := do
  let document ← okOr (directory datasetManifestFile) .io
  let manifest ← okOr (DatasetManifestV1.read? prims document) .json
  let bytes ← okOr expectedPublicKeyFile .io
  let expectedPublicKey ← okOr (prims.parseUtf8 bytes) .io
  rejectIf (manifest.signerPublicKey ≠ trimLine expectedPublicKey) (.source .sourceData)
  let candles ← withErrors .dataset
    (readVerifiedDataset prims.toPrimitives parquet directory manifest)
  return { manifest, candles }

end Commands

/-! ## Keys -/

variable {prims : WirePrimitives} {parquet : Parquet} {signingKeyFile : Option Bytes}
  {signingKey : FixedBytes 32}

theorem readSigningKey_eq_ok :
    readSigningKey signingKeyFile = .ok signingKey ↔ signingKeyFile = some signingKey.val := by
  simp only [readSigningKey, bind_eq_ok, okOr_eq_ok]
  constructor
  · rintro ⟨bytes, rfl, read⟩
    rw [FixedBytes.ofBytes?] at read
    split at read
    · rw [← Option.some.inj read]
    · cases read
  · rintro rfl
    exact ⟨_, rfl, FixedBytes.ofBytes?_val signingKey⟩

/-- A line is trimmed to its text. -/
theorem trimLine_newline {text : String} (plain : ∀ c ∈ text.toList, isWhitespace c = false) :
    trimLine (text ++ "\n") = text := by
  rw [trimLine, String.toList_append]
  exact (congrArg String.ofList (Words.trim_letters_append plain (by decide))).trans
    String.ofList_toList

/-! ## What was written -/

/-- What a key signed verifies under its public key. -/
theorem DatasetManifestV1.verify_of_sign_eq_ok {prims : Primitives} {datasetId : Uuid}
    {version : UInt32} {startsAt endsAt : OffsetDateTime} {files : List DatasetFileV1}
    {packageSha256 : String} {manifest : DatasetManifestV1} (signs : prims.Signs signingKey)
    (signed : sign prims signingKey datasetId version startsAt endsAt files packageSha256 =
      .ok manifest) :
    manifest.verify prims = .ok () ∧ manifest.files = files ∧
      manifest.packageSha256 = packageSha256 ∧
      manifest.signerPublicKey = prims.base64Encode (prims.verifyingKey signingKey).val := by
  let before := draft prims signingKey datasetId version startsAt endsAt files packageSha256
  have isBefore : draft prims signingKey datasetId version startsAt endsAt files packageSha256 =
      before := rfl
  rw [sign, isBefore] at signed
  cases valid : before.validate with
  | error e =>
    rw [valid] at signed
    cases signed
  | ok _ =>
    rw [valid] at signed
    cases isUnsigned : before.unsigned prims with
    | none =>
      rw [isUnsigned] at signed
      cases signed
    | some value =>
      rw [isUnsigned] at signed
      cases signed
      refine ⟨?_, rfl, rfl, rfl⟩
      have validSigned : DatasetManifestV1.validate { before with
          signature := prims.base64Encode (prims.sign signingKey
            (prims.sha256 (canonicalJson prims value)).val).val } = .ok () := valid
      have same : DatasetManifestV1.unsigned prims { before with
          signature := prims.base64Encode (prims.sign signingKey
            (prims.sha256 (canonicalJson prims value)).val).val } = some value := isUnsigned
      rw [verify, validSigned, same]
      exact verifySignature_sign signs _

/-- The entries of the two files of a package. -/
def packageFiles (prims : Primitives) (candleBytes instrumentBytes : Bytes) : List DatasetFileV1 :=
  [fileEntry prims candleFile candleBytes, fileEntry prims instrumentFile instrumentBytes]

/-- **Writing.**  What is written of tables that are stored in two files. -/
theorem writeSignedDataset_eq_ok_iff {prims : Primitives} {directory after : Directory}
    {datasetId : Uuid} {version : UInt32} {candles : List CandleV1}
    {instruments : List InstrumentV1} {candleBytes instrumentBytes : Bytes}
    {package : DatasetPackage} (candlesStored : parquet.StoresAs (candleTable candles) candleBytes)
    (instrumentsStored : parquet.StoresAs (instrumentTable instruments) instrumentBytes) :
    writeSignedDataset prims parquet directory datasetId version candles instruments signingKey =
        .ok (package, after) ↔
      validateCandles candles = .ok () ∧ validateInstruments instruments candles = .ok () ∧
      ∃ first last startsAt endsAt manifest json,
        candles.head? = some first ∧ candles.getLast? = some last ∧
        timestampMillis first.openTimeMs = .ok startsAt ∧
        timestampMillis last.closeTimeMs = .ok endsAt ∧
        DatasetManifestV1.sign prims signingKey datasetId version startsAt endsAt
          (packageFiles prims candleBytes instrumentBytes)
          (packageSha256 prims (packageFiles prims candleBytes instrumentBytes)) = .ok manifest ∧
        manifest.toJson prims = some json ∧
        package = ⟨candleFile, instrumentFile, datasetManifestFile, manifest⟩ ∧
        after = packaged directory candleBytes instrumentBytes (canonicalJson prims json) := by
  have entries : [candleFile, instrumentFile].mapM (datasetFile prims (Function.update
      (Function.update directory candleFile (some candleBytes)) instrumentFile
      (some instrumentBytes))) = .ok (packageFiles prims candleBytes instrumentBytes) := by
    rw [List.mapM_cons, List.mapM_cons, List.mapM_nil,
      datasetFile_eq_ok (by rw [Function.update_of_ne (by decide), Function.update_self])
        candlesStored.length,
      datasetFile_eq_ok (Function.update_self ..) instrumentsStored.length]
    rfl
  simp only [writeSignedDataset, bind_eq_ok, candleBatch_eq, instrumentBatch_eq, writeParquet,
    okOr_eq_ok, withErrors_eq_ok, liftResult_eq_ok, pure, Except.pure, Except.ok.injEq,
    Prod.mk.injEq]
  constructor
  · rintro ⟨_, validCandles, _, validInstruments, _, rfl, _, ⟨_, candlesWritten, rfl⟩, _, rfl, _,
      ⟨_, instrumentsWritten, rfl⟩, files, areFiles, first, isFirst, startsAt, isStart, last, isLast,
      endsAt, isEnd, manifest, signed, json, isJson, rfl, rfl⟩
    cases candlesStored.written.symm.trans candlesWritten
    cases instrumentsStored.written.symm.trans instrumentsWritten
    cases entries.symm.trans areFiles
    exact ⟨validCandles, validInstruments, first, last, startsAt, endsAt, manifest, json, isFirst,
      isLast, isStart, isEnd, signed, isJson, rfl, rfl⟩
  · rintro ⟨validCandles, validInstruments, first, last, startsAt, endsAt, manifest, json, isFirst,
      isLast, isStart, isEnd, signed, isJson, rfl, rfl⟩
    exact ⟨(), validCandles, (), validInstruments, _, rfl, _, ⟨_, candlesStored.written, rfl⟩, _, rfl,
      _, ⟨_, instrumentsStored.written, rfl⟩, _, entries, first, isFirst, startsAt, isStart, last,
      isLast, endsAt, isEnd, manifest, signed, json, isJson, rfl, rfl⟩

/-- A published package: its manifest in canonical JSON, next to its two files and nothing else. -/
structure Publication.Packaged (prims : Primitives) (parquet : Parquet)
    (publication : Publication) : Prop where
  read : readVerifiedDataset prims parquet publication.directory publication.package.manifest =
    .ok publication.candles
  document : ∃ json, publication.package.manifest.toJson prims = some json ∧
    publication.directory datasetManifestFile = some (canonicalJson prims json)
  names : ∀ name, (publication.directory name).isSome ↔
    name = candleFile ∨ name = instrumentFile ∨ name = datasetManifestFile

theorem isSome_packaged {candleBytes instrumentBytes manifestBytes : Bytes} {name : String} :
    (packaged (fun _ => none) candleBytes instrumentBytes manifestBytes name).isSome ↔
      name = candleFile ∨ name = instrumentFile ∨ name = datasetManifestFile := by
  simp only [packaged, Function.update_apply]
  split_ifs <;> simp [*]

variable {info : HyperliquidInfo} {output : OutputDirectory} {datasetId : Uuid} {version : UInt32}
  {startTimeMs endTimeMs : Int64} {publication : Publication}

/-- What `publish` goes through. -/
theorem publish_eq_ok :
    publish prims parquet info output datasetId version startTimeMs endTimeMs signingKeyFile =
        .ok publication ↔
      ∃ expected, validateWindow startTimeMs endTimeMs = .ok expected ∧ version ≠ 0 ∧
      output.entries = [] ∧ ∃ signingKey, readSigningKey signingKeyFile = .ok signingKey ∧
      info.instruments = .ok publication.instruments ∧
      (∃ bySymbol, collectMarkets info expected startTimeMs endTimeMs publication.instruments =
        .ok bySymbol ∧ assemble expected bySymbol = .ok publication.candles) ∧
      writeSignedDataset prims.toPrimitives parquet output.content datasetId version
        publication.candles publication.instruments signingKey =
          .ok (publication.package, publication.directory) := by
  simp only [publish, bind_eq_ok, withErrors_eq_ok, rejectIf_eq_ok, exists_const, not_not, pure,
    Except.pure, Except.ok.injEq]
  constructor
  · rintro ⟨expected, window, versioned, free, signingKey, isKey, instruments, areInstruments, bySymbol,
      collected, candles, assembled, ⟨package, directory⟩, written, rfl⟩
    exact ⟨expected, window, versioned, free, signingKey, isKey, areInstruments,
      ⟨bySymbol, collected, assembled⟩, written⟩
  · rintro ⟨expected, window, versioned, free, signingKey, isKey, areInstruments,
      ⟨bySymbol, collected, assembled⟩, written⟩
    exact ⟨expected, window, versioned, free, signingKey, isKey, _, areInstruments, bySymbol,
      collected, _, assembled, (publication.package, publication.directory), written, rfl⟩

theorem packaged_of_publish (signs : prims.Signs signingKey)
    (isKey : readSigningKey signingKeyFile = .ok signingKey)
    (storesCandles : parquet.Stores (candleTable publication.candles))
    (storesInstruments : parquet.Stores (instrumentTable publication.instruments))
    (published : publish prims parquet info output datasetId version startTimeMs endTimeMs
      signingKeyFile = .ok publication) :
    publication.Packaged prims.toPrimitives parquet ∧ publication.package.manifest.signerPublicKey =
      prims.base64Encode (prims.verifyingKey signingKey).val := by
  rcases storesCandles with ⟨candleBytes, candlesStored⟩
  rcases storesInstruments with ⟨instrumentBytes, instrumentsStored⟩
  rcases publish_eq_ok.mp published with ⟨expected, -, -, free, signer, isSigner, -, -, written⟩
  cases isKey.symm.trans isSigner
  rcases (writeSignedDataset_eq_ok_iff candlesStored instrumentsStored).mp written with
    ⟨validCandles, validInstruments, first, last, startsAt, endsAt, manifest, json, -, -, -, -, signed,
      isJson, isPackage, isDirectory⟩
  rcases DatasetManifestV1.verify_of_sign_eq_ok signs signed with
    ⟨verified, isFiles, isHash, isSigner⟩
  have empty : output.content = fun _ => none := by
    funext name
    have outside : name ∉ output.entries := free ▸ List.not_mem_nil
    exact Option.not_isSome_iff_eq_none.mp fun present => outside (output.listed name present)
  rw [empty] at isDirectory
  have ofPackage : publication.package.manifest = manifest := by rw [isPackage]
  rw [ofPackage]
  refine ⟨⟨?_, ⟨json, by rw [ofPackage, isJson], ?_⟩, fun name => ?_⟩, isSigner⟩
  · rw [ofPackage, isDirectory]
    exact readVerifiedDataset_packaged validCandles validInstruments candlesStored instrumentsStored
      verified isFiles (isHash.trans (by rw [isFiles]))
  · rw [isDirectory, packaged, Function.update_self]
  · rw [isDirectory, isSome_packaged]

/-! ## A sample publication -/

/-- The candles of a market in the hour of `sampleSource`. -/
def hourSeries (symbol : String) (sizeDecimals : UInt8) : List CandleV1 :=
  (List.range 4).map fun index =>
    { symbol
      openTimeMs := .ofNat (900000 * index)
      closeTimeMs := .ofNat (900000 * index + 899999)
      openMicroUsdc := 100500000
      highMicroUsdc := 102250000
      lowMicroUsdc := 99000000
      closeMicroUsdc := 101000000
      volumeE8 := 1230000000
      fundingRateE12 := if index = 0 then -12500000 else 0
      sizeDecimals }

def hourMarkets : List (String × List CandleV1) :=
  [("BTC", hourSeries "BTC" 5), ("ETH", hourSeries "ETH" 4), ("SOL", hourSeries "SOL" 2)]

def hourCandles : List CandleV1 :=
  (List.range 4).flatMap fun index => hourMarkets.filterMap (·.2[index]?)

/-- The tables of the hour, stored in two files and read in one batch each. -/
def hourParquet : Parquet where
  write := sampleParquet.write
  read := fun _ bytes =>
    if bytes = candleBytes then some [some (candleTable hourCandles)]
    else some [some (instrumentTable sampleInstruments)]

def hourTimeText (time : OffsetDateTime) : Option String :=
  if time = ⟨0, 0⟩ then some "1970-01-01T00:00:00Z"
  else if time = ⟨3599999000000, 0⟩ then some "1970-01-01T00:59:59.999Z"
  else none

/-- The crates before they read a document. -/
def hourTextPrimitives : Primitives :=
  { datasetPrimitives with
    rfc3339 := hourTimeText
    parseUtf8 := fun bytes =>
      if bytes = utf8 (sampleKeyText ++ "\n") then some (sampleKeyText ++ "\n") else none
    parseUuid := readUuid }

def hourFiles : List DatasetFileV1 := packageFiles hourTextPrimitives candleBytes instrumentBytes

def hourManifest : DatasetManifestV1 :=
  { DatasetManifestV1.draft hourTextPrimitives sampleSeed ⟨.ofNat 16 0⟩ 1 ⟨0, 0⟩
      ⟨3599999000000, 0⟩ hourFiles (packageSha256 hourTextPrimitives hourFiles) with
    signature := datasetSignatureText }

def hourJson : Json := .object (hourManifest.unsignedFields "1970-01-01T00:00:00Z"
  "1970-01-01T00:59:59.999Z" ++ [("signature", .string hourManifest.signature)])

/-- The crates on the document of the hour. -/
def hourPrimitives : WirePrimitives where
  toPrimitives := { hourTextPrimitives with
    parseJson := fun bytes =>
      if bytes = canonicalJson hourTextPrimitives hourJson then some (sortJson hourJson) else none }
  parseRfc3339 := fun text =>
    if text = "1970-01-01T00:00:00Z" then some ⟨0, 0⟩
    else if text = "1970-01-01T00:59:59.999Z" then some ⟨3599999000000, 0⟩
    else none

def emptyOutput : OutputDirectory where
  entries := []
  content := fun _ => none
  listed := fun _ present => absurd present Bool.false_ne_true

def hourPublication : Publication where
  candles := hourCandles
  instruments := sampleInstruments
  package := ⟨candleFile, instrumentFile, datasetManifestFile, hourManifest⟩
  directory := packaged (fun _ => none) candleBytes instrumentBytes
    (canonicalJson hourTextPrimitives hourJson)

theorem hourParquet_stores :
    hourParquet.StoresAs (candleTable hourCandles) candleBytes ∧
    hourParquet.StoresAs (instrumentTable sampleInstruments) instrumentBytes :=
  ⟨⟨rfl, by decide, by decide, fun _ _ => ⟨[12], by decide, rfl⟩⟩,
    ⟨rfl, by decide, by decide, fun _ _ => ⟨[3], rfl, rfl⟩⟩⟩

/-- The signature of the sample seed is the same for every message. -/
theorem hourPrimitives_sign (message : Bytes) :
    hourPrimitives.sign sampleSeed message = datasetSignature :=
  show (if sampleSeed = sampleSeed then datasetSignature else otherSignature) = _ from if_pos rfl

theorem sign_hour :
    DatasetManifestV1.sign hourPrimitives.toPrimitives sampleSeed ⟨.ofNat 16 0⟩ 1 ⟨0, 0⟩
      ⟨3599999000000, 0⟩ hourFiles (packageSha256 hourTextPrimitives hourFiles) =
        .ok hourManifest := by
  have isSignature : ∀ message, hourPrimitives.base64Encode
      (hourPrimitives.sign sampleSeed message).val = datasetSignatureText := by
    intro message
    rw [hourPrimitives_sign]
    decide
  -- The texts of times are all that the two samples' crates differ in here.
  have entries : ∀ file ∈ hourFiles, file.Valid := sampleFiles_valid
  have valid : (DatasetManifestV1.draft hourPrimitives.toPrimitives sampleSeed ⟨.ofNat 16 0⟩ 1
      ⟨0, 0⟩ ⟨3599999000000, 0⟩ hourFiles
      (packageSha256 hourTextPrimitives hourFiles)).validate = .ok () :=
    validate_draft (by decide) (by decide) (List.cons_ne_nil _ _) entries
  have isUnsigned : (DatasetManifestV1.draft hourPrimitives.toPrimitives sampleSeed ⟨.ofNat 16 0⟩
      1 ⟨0, 0⟩ ⟨3599999000000, 0⟩ hourFiles (packageSha256 hourTextPrimitives hourFiles)).unsigned
        hourPrimitives.toPrimitives = some (.object (hourManifest.unsignedFields
          "1970-01-01T00:00:00Z" "1970-01-01T00:59:59.999Z")) := rfl
  rw [DatasetManifestV1.sign, valid, isUnsigned]
  exact congrArg (fun signature => Except.ok { hourManifest with signature }) (isSignature _)

theorem publish_hour :
    publish hourPrimitives hourParquet sampleSource.info emptyOutput ⟨.ofNat 16 0⟩ 1 0 3600000
      (some sampleSeed.val) = .ok hourPublication := by
  refine publish_eq_ok.mpr ⟨4, by decide, by decide, rfl, sampleSeed,
    readSigningKey_eq_ok.mpr rfl, by decide +kernel, ⟨hourMarkets, by decide +kernel,
    by decide⟩, ?_⟩
  refine (writeSignedDataset_eq_ok_iff hourParquet_stores.1 hourParquet_stores.2).mpr ⟨by decide,
    by decide, hourCandles.head (by decide), hourCandles.getLast (by decide),
    ⟨0, 0⟩, ⟨3599999000000, 0⟩, hourManifest, hourJson, ?_⟩
  exact ⟨by decide, by decide, by decide, by decide, sign_hour, rfl,
    rfl, rfl⟩

theorem hourPrimitives_signs : hourPrimitives.Signs sampleSeed := by
  refine ⟨by decide, fun message => ?_, by decide, fun message => ?_⟩
  · rw [hourPrimitives_sign]
    decide
  · rw [hourPrimitives_sign]
    exact (by decide : hourPrimitives.verifies (hourPrimitives.verifyingKey sampleSeed) []
      datasetSignature = true)

theorem hourPrimitives_parseJson (bytes : Bytes) : hourPrimitives.parseJson bytes =
    if bytes = canonicalJson hourTextPrimitives hourJson then some (sortJson hourJson) else none := rfl

theorem hourManifest_readsBack : hourManifest.ReadsBack hourPrimitives := by
  have start : hourPrimitives.rfc3339 hourManifest.startsAt = some "1970-01-01T00:00:00Z" := by
    decide
  have stop : hourPrimitives.rfc3339 hourManifest.endsAt = some "1970-01-01T00:59:59.999Z" := by
    decide
  have isJson : hourManifest.toJson hourPrimitives.toPrimitives = some hourJson := rfl
  have ids : hourPrimitives.parseUuid = readUuid := rfl
  have floats : hourPrimitives.floatText = hourTextPrimitives.floatText := rfl
  refine ⟨?_, fun text isText => ?_, fun text isText => ?_, fun json written => ?_⟩
  · rw [ids, readUuid_hyphenated]
  · rw [← Option.some.inj (start.symm.trans isText)]
    decide
  · rw [← Option.some.inj (stop.symm.trans isText)]
    decide
  · rw [← Option.some.inj (isJson.symm.trans written), hourPrimitives_parseJson, if_pos]
    rw [canonicalJson, canonicalJson, Primitives.jsonBytes, Primitives.jsonBytes, floats]

/-- The sample keys and signatures have no white space. -/
theorem hourPrimitives_plain (key : Bytes) :
    ∀ c ∈ (hourPrimitives.base64Encode key).toList, isWhitespace c = false := by
  have plain : ∀ {text : String}, (text.toList.all fun c => !isWhitespace c) = true →
      ∀ c ∈ text.toList, isWhitespace c = false := fun all c mem => by
    simpa using List.all_eq_true.mp all c mem
  simp only [hourPrimitives, hourTextPrimitives, datasetPrimitives]
  split_ifs <;> exact plain (by decide)

/-! ## Verifying -/

/-- **Publishing and verifying.**  Whatever the venue answers: what was published verifies under the
line that is printed of the key, as the same manifest and the same candles, and both commands print
the same fields.  The directory has the three files of the package and no others. -/
theorem verify_of_publish {line : String}
    (signs : ∀ signingKey, signingKeyFile = some signingKey.val → prims.Signs signingKey)
    (plain : ∀ key, ∀ c ∈ (prims.base64Encode key).toList, isWhitespace c = false)
    (text : prims.parseUtf8 (utf8 line) = some line)
    (storesCandles : parquet.Stores (candleTable publication.candles))
    (storesInstruments : parquet.Stores (instrumentTable publication.instruments))
    (reads : publication.package.manifest.ReadsBack prims)
    (published : publish prims parquet info output datasetId version startTimeMs endTimeMs
      signingKeyFile = .ok publication)
    (printed : publicKey prims signingKeyFile = .ok line) :
    ∃ verification,
      verify prims parquet publication.directory (some (utf8 line)) = .ok verification ∧
      verification = ⟨publication.package.manifest, publication.candles⟩ ∧
      (∀ timeText, ∃ fields, publication.line timeText = .object fields ∧
        verification.line timeText = .object (insertField "verified" (.bool true) fields)) ∧
      ∀ name, (publication.directory name).isSome ↔
        name = candleFile ∨ name = instrumentFile ∨ name = datasetManifestFile := by
  simp only [publicKey, bind_eq_ok, pure, Except.pure, Except.ok.injEq] at printed
  rcases printed with ⟨signingKey, isKey, rfl⟩
  rcases packaged_of_publish (signs signingKey (readSigningKey_eq_ok.mp isKey)) isKey storesCandles
    storesInstruments published with ⟨done, isSigner⟩
  rcases done.document with ⟨json, isJson, content⟩
  refine ⟨⟨publication.package.manifest, publication.candles⟩, ?_, rfl, fun timeText => ?_,
    done.names⟩
  · simp only [verify, bind_eq_ok, okOr_eq_ok, rejectIf_eq_ok, withErrors_eq_ok, exists_const,
      not_not, pure, Except.pure, Except.ok.injEq]
    exact ⟨_, content, _, DatasetManifestV1.read?_canonicalJson reads isJson, _, rfl, _, text,
      isSigner.trans (trimLine_newline (plain _)).symm, _, done.read, rfl⟩
  · refine ⟨_, rfl, ?_⟩
    rw [Verification.line, ofFields, List.foldl_append]
    rfl

/-- The sample hour is published, and verifies under the printed key. -/
theorem sample_publication_verified : ∃ verification,
    verify hourPrimitives hourParquet hourPublication.directory
      (some (utf8 (sampleKeyText ++ "\n"))) = .ok verification ∧
      verification.candles = hourCandles := by
  have signs : ∀ signingKey : FixedBytes 32, some sampleSeed.val = some signingKey.val →
      hourPrimitives.Signs signingKey := by
    intro signingKey same
    rw [← Subtype.ext (Option.some.inj same)]
    exact hourPrimitives_signs
  have printed : publicKey hourPrimitives (some sampleSeed.val) = .ok (sampleKeyText ++ "\n") := by
    decide
  rcases verify_of_publish signs hourPrimitives_plain (if_pos rfl) ⟨_, hourParquet_stores.1⟩
    ⟨_, hourParquet_stores.2⟩ hourManifest_readsBack publish_hour printed with ⟨_, verified, rfl, -⟩
  exact ⟨_, verified, rfl⟩

end CrowAgent
