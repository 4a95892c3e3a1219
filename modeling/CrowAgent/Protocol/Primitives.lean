import CrowAgent.Lib.Hex
import CrowAgent.Lib.Json

/-!
# Identifiers, times and the cryptographic primitives

The errors of the wire protocol and the types of the crates it is built on: UUIDs and their texts,
points in time, and `Primitives`, the functions of those crates that are not part of this
repository.
-/

namespace CrowAgent

export Hex (Bytes)

def harnessProtocolV1 : String := "crow.harness.v1"

/-- Errors of the wire protocol; an invalid manifest comes with its reason. -/
inductive ProtocolError : Type
  | canonicalJson
  | invalidManifest (reason : String)
  | invalidEventHash
  | invalidEventSignature
  | invalidPublicKey
  | invalidSignatureEncoding
  | invalidRemoteCommand
  | invalidInferenceReceipt
  deriving DecidableEq, Repr

/-- A byte array of a fixed size. -/
abbrev FixedBytes (size : Nat) : Type := {bytes : Bytes // bytes.length = size}

/-- A byte string as an array of the given size, if it has that size. -/
def FixedBytes.ofBytes? (size : Nat) (bytes : Bytes) : Option (FixedBytes size) :=
  if fits : bytes.length = size then some ⟨bytes, fits⟩ else none

theorem FixedBytes.ofBytes?_val {size : Nat} (bytes : FixedBytes size) :
    FixedBytes.ofBytes? size bytes.val = some bytes := by
  rw [FixedBytes.ofBytes?, dif_pos bytes.2]

/-- The big-endian bytes of a number. -/
def FixedBytes.ofNat (size value : Nat) : FixedBytes size :=
  ⟨(List.range size).map fun i => UInt8.ofNat (value / 256 ^ (size - 1 - i)), by simp⟩

/-- The UTF-8 bytes of a text. -/
def utf8 (text : String) : Bytes := text.toByteArray.data.toList

theorem utf8_append (front back : List Char) :
    utf8 (String.ofList (front ++ back)) =
      utf8 (String.ofList front) ++ utf8 (String.ofList back) := by
  rw [String.ofList_append]
  simp [utf8, String.toByteArray_append]

theorem utf8_injective : Function.Injective utf8 := by
  intro a b same
  exact String.toByteArray_inj.mp (ByteArray.ext (Array.toList_inj.mp same))

/-- White space as `str::trim` strips it. -/
def isWhitespace (c : Char) : Bool :=
  c.toNat ∈ [0x09, 0x0a, 0x0b, 0x0c, 0x0d, 0x20, 0x85, 0xa0, 0x1680, 0x2000, 0x2001, 0x2002, 0x2003,
    0x2004, 0x2005, 0x2006, 0x2007, 0x2008, 0x2009, 0x200a, 0x2028, 0x2029, 0x202f, 0x205f, 0x3000]

def isBlank (text : String) : Bool := text.toList.all isWhitespace

structure Uuid : Type where
  bytes : FixedBytes 16
  deriving DecidableEq, Repr

namespace Uuid

/-- The 32 hexadecimal digits of the identifier. -/
def digits (id : Uuid) : List Char := id.bytes.val.flatMap Hex.digits

/-- `Uuid::simple`: the digits alone. -/
def simple (id : Uuid) : String := Hex.encode id.bytes.val

/-- The default text of the identifier, with hyphens after 8, 12, 16 and 20 digits. -/
def hyphenated (id : Uuid) : String :=
  String.ofList (id.digits.take 8 ++ ['-'] ++ (id.digits.drop 8).take 4 ++ ['-'] ++
    (id.digits.drop 12).take 4 ++ ['-'] ++ (id.digits.drop 16).take 4 ++ ['-'] ++
    id.digits.drop 20)

theorem digits_ne_hyphen (id : Uuid) : ∀ c ∈ id.digits, c ≠ '-' := by
  have none : ∀ value < 16, Hex.digit value ≠ '-' := by decide
  intro c mem
  obtain ⟨byte, -, mem⟩ := List.mem_flatMap.mp mem
  have bound := byte.toNat_lt
  simp only [Hex.digits, List.mem_cons, List.not_mem_nil, or_false] at mem
  rcases mem with rfl | rfl
  · exact none _ (by omega)
  · exact none _ (by omega)

/-- Without its hyphens the text is the digits. -/
theorem filter_hyphenated (id : Uuid) :
    id.hyphenated.toList.filter (· ≠ '-') = id.digits := by
  have kept : ∀ part : List Char, (∀ c ∈ part, c ∈ id.digits) →
      part.filter (· ≠ '-') = part := fun part sub =>
    List.filter_eq_self.mpr fun c mem => by simpa using id.digits_ne_hyphen c (sub c mem)
  have hyphen : ['-'].filter (· ≠ '-') = [] := by decide
  rw [hyphenated, String.toList_ofList]
  simp only [List.filter_append, hyphen, List.append_nil]
  rw [kept _ fun c mem => List.mem_of_mem_take mem,
    kept _ fun c mem => List.mem_of_mem_drop (List.mem_of_mem_take mem),
    kept _ fun c mem => List.mem_of_mem_drop (List.mem_of_mem_take mem),
    kept _ fun c mem => List.mem_of_mem_drop (List.mem_of_mem_take mem),
    kept _ fun c mem => List.mem_of_mem_drop mem]
  have join : ∀ n, (id.digits.drop n).take 4 ++ id.digits.drop (n + 4) = id.digits.drop n := by
    intro n
    rw [← List.drop_drop, List.take_append_drop]
  rw [List.append_assoc _ _ (id.digits.drop 20), join 16, List.append_assoc _ _ (id.digits.drop 16),
    join 12, List.append_assoc _ _ (id.digits.drop 12), join 8, List.take_append_drop]

/-- Different identifiers have different texts. -/
theorem hyphenated_injective : Function.Injective hyphenated := by
  intro a b same
  have digits : a.digits = b.digits := by
    rw [← filter_hyphenated, ← filter_hyphenated, same]
  obtain ⟨a⟩ := a
  obtain ⟨b⟩ := b
  exact congrArg Uuid.mk (Subtype.ext (Hex.flatMap_digits_injective digits))

end Uuid

/-- The identifier with the hexadecimal digits of the text. -/
def readUuid (text : String) : Option Uuid :=
  ((Hex.decode? (text.toList.filter (· ≠ '-'))).bind (FixedBytes.ofBytes? 16)).map Uuid.mk

theorem readUuid_hyphenated (id : Uuid) : readUuid id.hyphenated = some id := by
  rw [readUuid, Uuid.filter_hyphenated, Uuid.digits, Hex.decode?_flatMap_digits, Option.bind_some,
    FixedBytes.ofBytes?_val]
  rfl

/-- A point in time with the UTC offset it was recorded under. -/
structure OffsetDateTime : Type where
  unixNanoseconds : Int
  offsetSeconds : Int
  deriving DecidableEq, Repr

/-- A calendar day, counted from 1970-01-01. -/
structure Date : Type where
  day : Int
  deriving DecidableEq, Repr

/-- The day of a time under its own offset. -/
def OffsetDateTime.date (time : OffsetDateTime) : Date where
  day := (time.unixNanoseconds + time.offsetSeconds * 10 ^ 9) / (86400 * 10 ^ 9)

/-- The functions of the serialisation and cryptography crates. -/
structure Primitives : Type where
  sha256 : Bytes → FixedBytes 32
  /-- The JSON text of a double. -/
  floatText : UInt64 → String
  /-- The RFC 3339 text of a time, where it has one. -/
  rfc3339 : OffsetDateTime → Option String
  /-- A time and a day as the crate serialises them by default. -/
  timeJson : OffsetDateTime → Json
  dateJson : Date → Json
  parseDate : Json → Option Date
  /-- `serde_json::from_slice` of a value. -/
  parseJson : Bytes → Option Json
  /-- `str::from_utf8`. -/
  parseUtf8 : Bytes → Option String
  /-- `Uuid::parse_str`. -/
  parseUuid : String → Option Uuid
  /-- URL-safe base64 without padding. -/
  base64Encode : Bytes → String
  base64Decode : String → Option Bytes
  /-- The public key of an ed25519 signing key. -/
  verifyingKey : FixedBytes 32 → FixedBytes 32
  /-- Whether 32 bytes are the encoding of a public key. -/
  isVerifyingKey : FixedBytes 32 → Bool
  sign : FixedBytes 32 → Bytes → FixedBytes 64
  verifies : FixedBytes 32 → Bytes → FixedBytes 64 → Bool
  hmacSha256 : FixedBytes 32 → Bytes → FixedBytes 32

/-- The hash tells the two messages apart. -/
def NoCollision (prims : Primitives) (a b : Bytes) : Prop := prims.sha256 a = prims.sha256 b → a = b

/-- Texts and identifiers are read back from what was written of them. -/
structure Primitives.ReadsTexts (prims : Primitives) : Prop where
  parseUtf8 : ∀ text, prims.parseUtf8 (utf8 text) = some text
  parseUuid : ∀ id : Uuid, prims.parseUuid id.hyphenated = some id

/-- `serde_json::to_vec` of a value. -/
def Primitives.jsonBytes (prims : Primitives) (value : Json) : Bytes :=
  utf8 (String.ofList (value.compact prims.floatText))

end CrowAgent
