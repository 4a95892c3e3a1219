import Mathlib.Algebra.Order.Ring.Int
import Mathlib.Data.List.Basic

/-!
# Lower-case hexadecimal text

Two digits for each byte.  `encode_injective`, `decode?_encode` and `length_encode` are what a text
column or a key made of hexadecimal text relies on.
-/

namespace Hex

abbrev Bytes : Type := List UInt8

/-- The digit of a value below 16. -/
def digit (value : Nat) : Char :=
  ['0', '1', '2', '3', '4', '5', '6', '7', '8', '9', 'a', 'b', 'c', 'd', 'e', 'f'].getD value '0'

/-- The two digits of a byte. -/
def digits (byte : UInt8) : List Char := [digit (byte.toNat / 16), digit (byte.toNat % 16)]

/-- The hexadecimal text of a byte string. -/
def encode (bytes : Bytes) : String := String.ofList (bytes.flatMap digits)

/-- The value of a digit of either case. -/
def value? (c : Char) : Option Nat :=
  if '0' ≤ c ∧ c ≤ '9' then some (c.toNat - '0'.toNat)
  else if 'a' ≤ c ∧ c ≤ 'f' then some (c.toNat - 'a'.toNat + 10)
  else if 'A' ≤ c ∧ c ≤ 'F' then some (c.toNat - 'A'.toNat + 10)
  else none

/-- The byte string of a text of digit pairs. -/
def decode? : List Char → Option Bytes
  | [] => some []
  | high :: low :: rest => do
    let h ← value? high
    let l ← value? low
    let bytes ← decode? rest
    return UInt8.ofNat (16 * h + l) :: bytes
  | [_] => none

theorem digit_injective : ∀ a < 16, ∀ b < 16, digit a = digit b → a = b := by decide

theorem digits_injective {a b : UInt8} (same : digits a = digits b) : a = b := by
  have boundA := a.toNat_lt
  have boundB := b.toNat_lt
  simp only [digits, List.cons.injEq, and_true] at same
  have high := digit_injective _ (by omega) _ (by omega) same.1
  have low := digit_injective _ (by omega) _ (by omega) same.2
  exact UInt8.toNat_inj.mp (by omega)

theorem length_digits (byte : UInt8) : (digits byte).length = 2 := rfl

theorem length_flatMap_digits (bytes : Bytes) :
    (bytes.flatMap digits).length = 2 * bytes.length := by
  induction bytes with
  | nil => rfl
  | cons byte bytes ih =>
    rw [List.flatMap_cons, List.length_append, ih, length_digits, List.length_cons]
    omega

/-- The text of a byte string is twice as long. -/
theorem length_encode (bytes : Bytes) : (encode bytes).length = 2 * bytes.length := by
  rw [encode, String.length_ofList, length_flatMap_digits]

theorem flatMap_digits_injective {as bs : Bytes}
    (same : as.flatMap digits = bs.flatMap digits) : as = bs := by
  induction as generalizing bs with
  | nil =>
    have length := congrArg List.length same
    rw [length_flatMap_digits, length_flatMap_digits, List.length_nil] at length
    exact (List.eq_nil_of_length_eq_zero (by omega)).symm
  | cons a as ih =>
    cases bs with
    | nil =>
      have length := congrArg List.length same
      rw [length_flatMap_digits, length_flatMap_digits, List.length_cons, List.length_nil] at length
      omega
    | cons b bs =>
      rw [List.flatMap_cons, List.flatMap_cons] at same
      obtain ⟨head, tail⟩ := List.append_inj same rfl
      rw [digits_injective head, ih tail]

/-- Different byte strings have different texts. -/
theorem encode_injective : Function.Injective encode := by
  intro as bs same
  exact flatMap_digits_injective (String.ofList_injective same)

theorem value?_digit : ∀ value < 16, value? (digit value) = some value := by decide

/-- Decoding gives the byte string back. -/
theorem decode?_flatMap_digits (bytes : Bytes) : decode? (bytes.flatMap digits) = some bytes := by
  induction bytes with
  | nil => rfl
  | cons byte bytes ih =>
    have bound := byte.toNat_lt
    have whole : 16 * (byte.toNat / 16) + byte.toNat % 16 = byte.toNat := Nat.div_add_mod ..
    simp only [List.flatMap_cons, digits, List.cons_append, List.nil_append, decode?,
      value?_digit _ (show byte.toNat / 16 < 16 by omega),
      value?_digit _ (show byte.toNat % 16 < 16 by omega), ih, bind, Option.bind, whole]
    simp

theorem decode?_encode (bytes : Bytes) : decode? (encode bytes).toList = some bytes := by
  rw [encode, String.toList_ofList, decode?_flatMap_digits]

end Hex
