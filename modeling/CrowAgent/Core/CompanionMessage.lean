import CrowAgent.Core.Companion
import CrowAgent.Lib.DecimalText
import CrowAgent.Lib.Utf8
import CrowAgent.Protocol.RunEvent

/-!
# Sizes of companion messages

The desktop sends a request as one line of JSON, with the fields in the order of their declaration,
and the daemon takes lines of at most `maxCompanionMessageBytes`.

* `takesMessage_iff`: which requests to resume with a strategy are short enough.
-/

namespace CrowAgent

open Json

def maxCompanionMessageBytes : Nat := 16 * 1024

/-- The bundle as `serde_json::to_vec` writes it. -/
def StrategyBundleV1.messageJson (prims : Primitives) (bundle : StrategyBundleV1) : Option Json :=
  (prims.rfc3339 bundle.createdAt).map fun createdAt => .object [
    ("protocol", .string bundle.protocol),
    ("version_id", .string bundle.versionId.hyphenated),
    ("model_id", .string bundle.modelId),
    ("name", .string bundle.name),
    ("system_instructions", .string bundle.systemInstructions),
    ("tools", .array (bundle.tools.map .string)),
    ("created_at", .string createdAt)]

namespace CompanionRequestV1

/-- The request as `serde_json::to_vec` writes it. -/
def messageJson (prims : Primitives) (request : CompanionRequestV1) : Option Json := do
  let strategy ← match request.strategy with
    | none => some Json.null
    | some bundle => bundle.messageJson prims
  return .object [
    ("protocol", .string request.protocol),
    ("request_id", .string request.requestId.hyphenated),
    ("nonce", .number (.unsigned request.nonce)),
    ("action", .string request.action.toText),
    ("strategy", strategy),
    ("settings", (request.settings.map fun settings => Json.object settings.fields).getD .null),
    ("mac", .string request.mac)]

/-- What `send_companion_request` writes: the request and a line feed. -/
def message (prims : Primitives) (request : CompanionRequestV1) : Option Bytes :=
  (request.messageJson prims).map fun json => prims.jsonBytes json ++ [10]

end CompanionRequestV1

/-- `read_line` of a reader that ends after `limit` bytes. -/
def readLine (limit : Nat) (stream : Bytes) : Bytes :=
  let available := stream.take limit
  available.take (available.findIdx (· = 10) + 1)

/-- `handle_companion_connection` does not refuse what it reads for its size. -/
def takesMessage (stream : Bytes) : Bool :=
  let bytesRead := (readLine (maxCompanionMessageBytes + 1) stream).length
  bytesRead ≠ 0 && bytesRead ≤ maxCompanionMessageBytes

/-! ## Reading a line -/

theorem length_readLine {limit : Nat} {body : Bytes} (noFeed : 10 ∉ body) :
    (readLine limit (body ++ [10])).length = min limit (body.length + 1) := by
  have none : ∀ byte ∈ body, decide (byte = 10) = false :=
    fun byte mem => decide_eq_false fun same => noFeed (same ▸ mem)
  rw [readLine]
  rcases Nat.lt_or_ge body.length limit with whole | cut
  · have all : (body ++ [10]).take limit = body ++ [10] :=
      List.take_of_length_le (by rw [List.length_append, List.length_singleton]; omega)
    have index : (body ++ [10]).findIdx (· = 10) = body.length := by
      have last : [(10 : UInt8)].findIdx (· = 10) = 0 := by decide
      rw [List.findIdx_append, List.findIdx_eq_length.mpr none, if_neg (by omega), last, zero_add]
    rw [all, index, List.length_take, List.length_append, List.length_singleton]
    omega
  · have front : (body ++ [10]).take limit = body.take limit := List.take_append_of_le_length cut
    have index : (body.take limit).findIdx (· = 10) = limit := by
      rw [List.findIdx_eq_length.mpr fun byte mem => none byte (List.mem_of_mem_take mem),
        List.length_take]
      omega
    rw [front, index, List.length_take, List.length_take]
    omega

/-- One line is taken when it is at most as long as the limit. -/
theorem takesMessage_line {body : Bytes} (noFeed : 10 ∉ body) :
    takesMessage (body ++ [10]) = true ↔ (body ++ [10]).length ≤ maxCompanionMessageBytes := by
  rw [takesMessage, length_readLine noFeed, Bool.and_eq_true, decide_eq_true_eq, decide_eq_true_eq,
    List.length_append, List.length_singleton]
  omega

/-! ## Parts of a message -/

theorem utf8_ofList (text : List Char) : utf8 (String.ofList text) = Utf8.bytes text := by
  rw [utf8, String.toByteArray_ofList, List.utf8Encode, List.toList_data_toByteArray, Utf8.bytes]

theorem isPlain_digits {byte : UInt8} : ∀ c ∈ Hex.digits byte, isPlain c = true := by
  have plain : ∀ value < 16, isPlain (Hex.digit value) = true := by decide
  have bound := byte.toNat_lt
  intro c mem
  simp only [Hex.digits, List.mem_cons, List.not_mem_nil, or_false] at mem
  rcases mem with rfl | rfl
  · exact plain _ (by omega)
  · exact plain _ (by omega)

theorem escapedSize_encode (bytes : Bytes) : escapedSize (Hex.encode bytes) = 2 * bytes.length := by
  rw [escapedSize_plain, Hex.encode, String.toList_ofList, Hex.length_flatMap_digits]
  intro c mem
  rw [Hex.encode, String.toList_ofList] at mem
  obtain ⟨byte, -, mem⟩ := List.mem_flatMap.mp mem
  exact isPlain_digits c mem

theorem escapedSize_hyphenated (id : Uuid) : escapedSize id.hyphenated = 36 := by
  have length : id.digits.length = 32 := by
    rw [Uuid.digits, Hex.length_flatMap_digits, id.bytes.2]
  have plain : ∀ c ∈ id.digits, isPlain c = true := by
    intro c mem
    obtain ⟨byte, -, mem⟩ := List.mem_flatMap.mp mem
    exact isPlain_digits c mem
  have hyphen : ∀ c ∈ ['-'], isPlain c = true := List.forall_mem_singleton.mpr rfl
  rw [escapedSize_plain, Uuid.hyphenated, String.toList_ofList]
  · simp only [List.length_append, List.length_take, List.length_drop, List.length_singleton,
      length]
    omega
  · rw [Uuid.hyphenated, String.toList_ofList]
    intro c mem
    simp only [List.mem_append] at mem
    rcases mem with (((((((mem | mem) | mem) | mem) | mem) | mem) | mem) | mem) | mem
    · exact plain c (List.mem_of_mem_take mem)
    · exact hyphen c mem
    · exact plain c (List.mem_of_mem_drop (List.mem_of_mem_take mem))
    · exact hyphen c mem
    · exact plain c (List.mem_of_mem_drop (List.mem_of_mem_take mem))
    · exact hyphen c mem
    · exact plain c (List.mem_of_mem_drop (List.mem_of_mem_take mem))
    · exact hyphen c mem
    · exact plain c (List.mem_of_mem_drop mem)

theorem size_number (float : UInt64 → String) (value : UInt64) :
    Utf8.size (compact float (.number (.unsigned value))) =
      (Nat.toDigits 10 value.toNat).length := by
  rw [compact, numberText_unsigned, Utf8.size,
    DecimalText.sum_utf8Size_of_digits (DecimalText.digits_toDigits _)]

theorem lineFeed_notMem_number (float : UInt64 → String) (value : UInt64) :
    '\n' ∉ compact float (.number (.unsigned value)) := by
  rw [compact, numberText_unsigned]
  exact fun mem => absurd (DecimalText.digits_toDigits _ _ mem) (by decide)

/-- The part of a message that a nonce and a strategy determine. -/
def variableSize (nonce : UInt64) (bundle : StrategyBundleV1) (createdAt : String) : Nat :=
  (Nat.toDigits 10 nonce.toNat).length + escapedSize bundle.modelId + escapedSize bundle.name +
    escapedSize bundle.systemInstructions + escapedSize createdAt

theorem size_tools (float : UInt64 → String) :
    Utf8.size (compact float (.array (requiredStrategyTools.map .string))) = 57 := by
  have sizes : requiredStrategyTools.map escapedSize = [15, 18, 14] := by decide
  have parts : ∀ tools : List String, tools.map (fun text =>
      Utf8.size (compact float (.string text)) + 1) = (tools.map escapedSize).map (· + 3) := by
    intro tools
    simp only [List.map_map, size_string]
    rfl
  rw [requiredStrategyTools, List.map_cons, size_array, ← List.map_cons, List.map_map]
  change (requiredStrategyTools.map fun text =>
    Utf8.size (compact float (.string text)) + 1).sum + 1 = 57
  rw [parts, sizes]
  rfl

/-- The JSON of a request to resume with a strategy. -/
def resumeJson (requestId : Uuid) (nonce : UInt64) (bundle : StrategyBundleV1)
    (createdAt mac : String) : Json := .object [
  ("protocol", .string harnessProtocolV1),
  ("request_id", .string requestId.hyphenated),
  ("nonce", .number (.unsigned nonce)),
  ("action", .string "resume"),
  ("strategy", .object [
    ("protocol", .string harnessProtocolV1),
    ("version_id", .string bundle.versionId.hyphenated),
    ("model_id", .string bundle.modelId),
    ("name", .string bundle.name),
    ("system_instructions", .string bundle.systemInstructions),
    ("tools", .array (requiredStrategyTools.map .string)),
    ("created_at", .string createdAt)]),
  ("settings", .null),
  ("mac", .string mac)]

theorem size_resumeJson (float : UInt64 → String) (requestId : Uuid) (nonce : UInt64)
    (bundle : StrategyBundleV1) (createdAt : String) (mac : FixedBytes 32) :
    Utf8.size (compact float (resumeJson requestId nonce bundle createdAt (Hex.encode mac.val))) =
      variableSize nonce bundle createdAt + 423 := by
  have keys : ["protocol", "request_id", "nonce", "action", "strategy", "settings", "mac"].map
      escapedSize = [8, 10, 5, 6, 8, 8, 3] := by decide
  have strategyKeys : ["version_id", "model_id", "name", "system_instructions", "tools",
      "created_at"].map escapedSize = [10, 8, 4, 19, 5, 10] := by decide
  have texts : [harnessProtocolV1, "resume"].map escapedSize = [15, 6] := by decide
  have null : Utf8.size (compact float .null) = 4 := rfl
  simp only [List.map_cons, List.map_nil, List.cons.injEq, and_true] at keys strategyKeys texts
  simp only [resumeJson, size_object, List.map_cons, List.map_nil, List.sum_cons, List.sum_nil,
    fieldSize, size_string, size_number, size_tools, escapedSize_hyphenated, escapedSize_encode,
    mac.2, keys, strategyKeys, texts, null, variableSize]
  omega

theorem lineFeed_notMem_resumeJson (float : UInt64 → String) (requestId : Uuid) (nonce : UInt64)
    (bundle : StrategyBundleV1) (createdAt mac : String) :
    '\n' ∉ compact float (resumeJson requestId nonce bundle createdAt mac) := by
  have string := @lineFeed_notMem_string float
  have tools : '\n' ∉ compact float (.array (requiredStrategyTools.map .string)) :=
    lineFeed_notMem_array (List.forall_mem_map.mpr fun _ _ => string _)
  have null : '\n' ∉ compact float .null := by
    rw [compact]
    decide
  refine lineFeed_notMem_object ?_
  simp only [List.forall_mem_cons, List.not_mem_nil, false_implies, implies_true, and_true]
  refine ⟨string _, string _, lineFeed_notMem_number _ _, string _, lineFeed_notMem_object ?_, null,
    string _⟩
  simp only [List.forall_mem_cons, List.not_mem_nil, false_implies, implies_true, and_true]
  exact ⟨string _, string _, string _, string _, string _, tools, string _⟩

/-- What is sent for a signed request to resume with a strategy. -/
theorem message_of_signWithOptions {prims : Primitives} {key : FixedBytes 32} {requestId : Uuid}
    {nonce : UInt64} {bundle : StrategyBundleV1} {request : CompanionRequestV1}
    (signed : CompanionRequestV1.signWithOptions prims key requestId nonce .resume (some bundle)
      none = .ok request) :
    ∃ (createdAt : String) (mac : FixedBytes 32), prims.rfc3339 bundle.createdAt = some createdAt ∧
      request.message prims = some (prims.jsonBytes
        (resumeJson requestId nonce bundle createdAt (Hex.encode mac.val)) ++ [10]) := by
  unfold CompanionRequestV1.signWithOptions at signed
  split_ifs at signed with _ valid
  have valid : bundle.isValid = true := by simpa using valid
  have fields : bundle.protocol = harnessProtocolV1 ∧ bundle.tools = requiredStrategyTools := by
    simp only [StrategyBundleV1.isValid, Bool.and_eq_true, decide_eq_true_eq] at valid
    exact ⟨valid.1.1.1.1.1.1.1, valid.2⟩
  cases written : prims.rfc3339 bundle.createdAt with
  | none =>
    simp only [Option.map_none, CompanionRequestV1.unsignedRequest, StrategyBundleV1.toJson,
      written, bind, Option.bind, signValue] at signed
    cases signed
  | some createdAt =>
    simp only [Option.map_none, CompanionRequestV1.unsignedRequest, StrategyBundleV1.toJson,
      written, Option.map_some, bind, Option.bind, pure, signValue, Except.map, Except.ok.injEq]
      at signed
    obtain ⟨mac, isRequest⟩ : ∃ mac : FixedBytes 32, request =
        { protocol := harnessProtocolV1, requestId, nonce, action := .resume,
          strategy := some bundle, settings := none, mac := Hex.encode mac.val } :=
      ⟨_, signed.symm⟩
    refine ⟨createdAt, mac, rfl, ?_⟩
    simp only [isRequest, CompanionRequestV1.message, CompanionRequestV1.messageJson,
      StrategyBundleV1.messageJson, written, fields, resumeJson, bind, Option.bind, pure,
      Option.map_some, Option.map_none, Option.getD_none, CompanionActionV1.toText]

/-- **Sizes of requests.**  A request to resume with a valid strategy is sent in a line of at most
the size that the daemon takes, and is taken, exactly when its nonce and the escaped texts of its
strategy leave room for the rest. -/
theorem takesMessage_iff {prims : Primitives} {key : FixedBytes 32} {requestId : Uuid}
    {nonce : UInt64} {bundle : StrategyBundleV1} {request : CompanionRequestV1}
    (signed : CompanionRequestV1.signWithOptions prims key requestId nonce .resume (some bundle)
      none = .ok request) :
    ∃ message createdAt, request.message prims = some message ∧
      prims.rfc3339 bundle.createdAt = some createdAt ∧
      (message.length ≤ maxCompanionMessageBytes ∧ takesMessage message = true ↔
        variableSize nonce bundle createdAt ≤ 15960) := by
  obtain ⟨createdAt, mac, written, isMessage⟩ := message_of_signWithOptions signed
  refine ⟨_, createdAt, isMessage, written, ?_⟩
  have noFeed : 10 ∉ prims.jsonBytes
      (resumeJson requestId nonce bundle createdAt (Hex.encode mac.val)) := by
    rw [Primitives.jsonBytes, utf8_ofList]
    exact fun mem => lineFeed_notMem_resumeJson _ _ _ _ _ _ (Utf8.lineFeed_mem mem)
  rw [takesMessage_line noFeed, and_self, List.length_append, List.length_singleton,
    Primitives.jsonBytes, utf8_ofList, Utf8.length_bytes, size_resumeJson,
    maxCompanionMessageBytes]
  omega

/-! ## Long instructions -/

/-- A strategy with given instructions. -/
def instructed (instructions : String) : StrategyBundleV1 where
  protocol := harnessProtocolV1
  versionId := ⟨.ofNat 16 1⟩
  modelId := "crow-qwen3-5-27b"
  name := "Long"
  systemInstructions := instructions
  tools := requiredStrategyTools
  createdAt := ⟨1767571200000000000, 0⟩

/-- A strategy whose instructions are as long as they may be. -/
def longStrategy (c : Char) : StrategyBundleV1 :=
  instructed (String.ofList (List.replicate 8192 c))

def longRequest (c : Char) : CompanionRequestV1 where
  protocol := harnessProtocolV1
  requestId := ⟨.ofNat 16 2⟩
  nonce := 1
  action := .resume
  strategy := some (longStrategy c)
  settings := none
  mac := Hex.encode sampleDigest.val

theorem isValid_instructed {instructions : String} (visible : isBlank instructions = false)
    (short : instructions.length ≤ 8192) : (instructed instructions).isValid = true := by
  have model : isBlank "crow-qwen3-5-27b" = false := by decide
  have name : isBlank "Long" = false := by decide
  have nameLength : "Long".length = 4 := by decide
  have id : (⟨.ofNat 16 1⟩ : Uuid) ≠ Uuid.nil := by decide
  simp [StrategyBundleV1.isValid, instructed, visible, short, model, name, nameLength, id]

theorem isValid_longStrategy {c : Char} (visible : isWhitespace c = false) :
    (longStrategy c).isValid = true := by
  refine isValid_instructed ?_ ?_
  · rw [isBlank, String.toList_ofList, List.replicate_succ, List.all_cons, visible, Bool.false_and]
  · rw [String.length_ofList, List.length_replicate]

theorem signWithOptions_longRequest {c : Char} (visible : isWhitespace c = false) :
    CompanionRequestV1.signWithOptions samplePrimitives sampleKey ⟨.ofNat 16 2⟩ 1 .resume
      (some (longStrategy c)) none = .ok (longRequest c) := by
  rw [CompanionRequestV1.signWithOptions, if_neg (by simp),
    if_neg (by simp [isValid_longStrategy visible]), if_neg (by simp)]
  rfl

theorem escapedSize_replicate (n : Nat) (c : Char) :
    escapedSize (String.ofList (List.replicate n c)) = n * Utf8.size (escapeChar c) := by
  rw [escapedSize, String.toList_ofList]
  induction n with
  | zero => rw [List.replicate_zero, List.flatMap_nil, Utf8.size_nil, Nat.zero_mul]
  | succ n ih =>
    rw [List.replicate_succ, List.flatMap_cons, Utf8.size_append, ih, Nat.succ_mul, Nat.add_comm]

theorem variableSize_longStrategy (c : Char) :
    variableSize 1 (longStrategy c) "2026-01-05T00:00:00Z" =
      41 + 8192 * Utf8.size (escapeChar c) := by
  have texts : ["crow-qwen3-5-27b", "Long", "2026-01-05T00:00:00Z"].map escapedSize =
      [16, 4, 20] := by decide
  have digits : (Nat.toDigits 10 (1 : UInt64).toNat).length = 1 := by decide
  simp only [List.map_cons, List.map_nil, List.cons.injEq, and_true] at texts
  simp only [variableSize, longStrategy, instructed, escapedSize_replicate, texts, digits]
  omega

/-- Instructions of 8192 letters are taken. -/
theorem takesMessage_letters :
    ∃ message, (longRequest 'a').message samplePrimitives = some message ∧
      takesMessage message = true := by
  obtain ⟨message, createdAt, isMessage, written, takes⟩ :=
    takesMessage_iff (signWithOptions_longRequest (by decide : isWhitespace 'a' = false))
  obtain rfl := Option.some.inj (written.symm.trans (rfl : _ = some "2026-01-05T00:00:00Z"))
  have small : variableSize 1 (longStrategy 'a') "2026-01-05T00:00:00Z" ≤ 15960 := by
    rw [variableSize_longStrategy]
    decide
  exact ⟨message, isMessage, (takes.mpr small).2⟩

/-- A strategy with 8192 letters of two bytes is valid and signed, and its request is too long. -/
theorem accented_strategy_too_long :
    ¬∀ (prims : Primitives) (key : FixedBytes 32) (requestId : Uuid) (nonce : UInt64)
      (bundle : StrategyBundleV1) (request : CompanionRequestV1), bundle.isValid = true →
      CompanionRequestV1.signWithOptions prims key requestId nonce .resume (some bundle) none =
        .ok request →
      ∃ message, request.message prims = some message ∧
        message.length ≤ maxCompanionMessageBytes := by
  intro short
  have visible : isWhitespace 'é' = false := by decide
  obtain ⟨message, isMessage, fits⟩ := short _ _ _ _ _ _ (isValid_longStrategy visible)
    (signWithOptions_longRequest visible)
  obtain ⟨createdAt, mac, written, sent⟩ :=
    message_of_signWithOptions (signWithOptions_longRequest visible)
  obtain rfl := Option.some.inj (written.symm.trans (rfl : _ = some "2026-01-05T00:00:00Z"))
  have isMessage := Option.some.inj (isMessage.symm.trans sent)
  rw [isMessage, List.length_append, Primitives.jsonBytes, utf8_ofList, Utf8.length_bytes,
    size_resumeJson, variableSize_longStrategy] at fits
  exact absurd fits (by decide)

end CrowAgent
