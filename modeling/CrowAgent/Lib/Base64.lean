import CrowAgent.Lib.Hex

/-!
# URL-safe base64 without padding

Three bytes are four letters; one or two bytes at the end are two or three letters, whose unused
bits are zero.  `decode?_encode` reads back what was written.
-/

namespace Base64

open Hex (Bytes)

/-- The letter of a value below 64. -/
def letter (value : Nat) : Char :=
  if value < 26 then Char.ofNat (value + 65)
  else if value < 52 then Char.ofNat (value + 71)
  else if value < 62 then Char.ofNat (value - 4)
  else if value = 62 then '-' else '_'

def value? (c : Char) : Option Nat :=
  if 'A' ≤ c ∧ c ≤ 'Z' then some (c.toNat - 65)
  else if 'a' ≤ c ∧ c ≤ 'z' then some (c.toNat - 71)
  else if '0' ≤ c ∧ c ≤ '9' then some (c.toNat + 4)
  else if c = '-' then some 62
  else if c = '_' then some 63
  else none

theorem value?_letter : ∀ value < 64, value? (letter value) = some value := by decide

/-- The letters of a byte string. -/
def letters : Bytes → List Char
  | [] => []
  | [a] => [letter (a.toNat / 4), letter (a.toNat % 4 * 16)]
  | [a, b] =>
    [letter (a.toNat / 4), letter (a.toNat % 4 * 16 + b.toNat / 16), letter (b.toNat % 16 * 4)]
  | a :: b :: c :: rest =>
    letter (a.toNat / 4) :: letter (a.toNat % 4 * 16 + b.toNat / 16) ::
      letter (b.toNat % 16 * 4 + c.toNat / 64) :: letter (c.toNat % 64) :: letters rest

def encode (bytes : Bytes) : String := String.ofList (letters bytes)

/-- The byte with the last bits of one value in front of the first bits of another. -/
def joined (high low : Nat) : UInt8 := UInt8.ofNat (high + low)

def bytes? : List Char → Option Bytes
  | [] => some []
  | [_] => none
  | [p, q] => do
    let p ← value? p
    let q ← value? q
    if q % 16 = 0 then some [joined (p * 4) (q / 16)] else none
  | [p, q, r] => do
    let p ← value? p
    let q ← value? q
    let r ← value? r
    if r % 4 = 0 then some [joined (p * 4) (q / 16), joined (q % 16 * 16) (r / 4)] else none
  | p :: q :: r :: s :: rest => do
    let p ← value? p
    let q ← value? q
    let r ← value? r
    let s ← value? s
    let bytes ← bytes? rest
    return joined (p * 4) (q / 16) :: joined (q % 16 * 16) (r / 4) :: joined (r % 4 * 64) s :: bytes

def decode? (text : String) : Option Bytes := bytes? text.toList

theorem joined_eq {high low : Nat} (byte : UInt8) (same : high + low = byte.toNat) :
    joined high low = byte := by
  rw [joined, same, UInt8.ofNat_toNat]

theorem bytes?_letters (bytes : Bytes) : bytes? (letters bytes) = some bytes := by
  fun_induction letters bytes with
  | case1 => rfl
  | case2 a =>
    have boundA := a.toNat_lt
    rw [bytes?, value?_letter _ (by omega), value?_letter _ (by omega)]
    simp only [Option.bind_eq_bind, Option.bind_some]
    rw [if_pos (by omega), joined_eq a (by omega)]
  | case3 a b =>
    have boundA := a.toNat_lt
    have boundB := b.toNat_lt
    rw [bytes?, value?_letter _ (by omega), value?_letter _ (by omega), value?_letter _ (by omega)]
    simp only [Option.bind_eq_bind, Option.bind_some]
    rw [if_pos (by omega), joined_eq a (by omega), joined_eq b (by omega)]
  | case4 a b c rest ih =>
    have boundA := a.toNat_lt
    have boundB := b.toNat_lt
    have boundC := c.toNat_lt
    rw [bytes?, value?_letter _ (by omega), value?_letter _ (by omega), value?_letter _ (by omega),
      value?_letter _ (by omega), ih]
    simp only [Option.bind_eq_bind, Option.bind_some]
    rw [joined_eq a (by omega), joined_eq b (by omega),
      joined_eq c (by omega)]
    rfl

/-- **What is written is read back.** -/
theorem decode?_encode (bytes : Bytes) : decode? (encode bytes) = some bytes := by
  rw [decode?, encode, String.toList_ofList, bytes?_letters]

end Base64
