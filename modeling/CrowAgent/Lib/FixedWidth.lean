import Mathlib.Algebra.Order.Ring.Int

/-!
# Checked fixed-width arithmetic

A computation over machine integers ends in one of three ways: a value, an error it returns,
or an arithmetic operation whose exact result its type cannot hold.  `Exec ε α` keeps the last
two apart (`Halt.error`, `Halt.trap`), so that "never overflows" is a statement about the value
of a definition.

Every primitive has one inversion lemma (`*_eq_ok`, `*_eq_error`) tagged for `simp`; together with
`bind_eq_ok` and `bind_eq_error` they turn a `do` block into its guards.
-/

namespace FixedWidth

/-- How a checked computation stops early. -/
inductive Halt (ε : Type) : Type
  /-- The error the computation returns. -/
  | error (e : ε)
  /-- An operation overflowed, underflowed or divided by zero. -/
  | trap
  deriving DecidableEq, Repr

/-- A computation over machine integers. -/
abbrev Exec (ε α : Type) : Type := Except (Halt ε) α

variable {ε α β : Type}

/-! ## Primitives -/

/-- Return the error `e`. -/
def raise (e : ε) : Exec ε α := .error (.error e)

/-- Stop with the error `e` when the condition holds. -/
def rejectIf (c : Prop) [Decidable c] (e : ε) : Exec ε Unit :=
  if c then raise e else .ok ()

/-- Run a check only when the condition holds. -/
def onlyIf (c : Bool) (check : Exec ε Unit) : Exec ε Unit :=
  if c then check else .ok ()

/-- Carry the errors of one computation over to another one. -/
def withErrors {ε' : Type} (convert : ε → ε') : Exec ε α → Exec ε' α
  | .ok a => .ok a
  | .error (.error e) => raise (convert e)
  | .error .trap => .error .trap

/-- A result that cannot trap. -/
def liftResult : Except ε α → Exec ε α
  | .ok value => .ok value
  | .error error => raise error

/-- Turn a missing value into the error `e`. -/
def okOr (value : Option α) (e : ε) : Exec ε α :=
  match value with
  | some a => .ok a
  | none => raise e

/-- The exact result of a 128-bit signed operation, which traps outside the type. -/
def i128 (exact : Int) : Exec ε Int :=
  if -2 ^ 127 ≤ exact ∧ exact < 2 ^ 127 then .ok exact else .error .trap

/-- The 64-bit signed integer with the given value, if there is one. -/
def toI64? (exact : Int) : Option Int64 :=
  if -2 ^ 63 ≤ exact ∧ exact < 2 ^ 63 then some (Int64.ofInt exact) else none

/-- The exact result of a 64-bit signed operation, which traps outside the type. -/
def i64 (exact : Int) : Exec ε Int64 :=
  match toI64? exact with
  | some value => .ok value
  | none => .error .trap

/-- The exact result of a 128-bit unsigned operation. -/
def u128 (exact : Nat) : Exec ε Nat :=
  if exact < 2 ^ 128 then .ok exact else .error .trap

/-- A 128-bit unsigned subtraction, which traps when it would go below zero. -/
def u128Sub (a b : Nat) : Exec ε Nat :=
  if b ≤ a then .ok (a - b) else .error .trap

/-- Truncating signed division, which traps on a zero divisor. -/
def i128Div (numerator denominator : Int) : Exec ε Int :=
  if denominator = 0 then .error .trap else i128 (numerator.tdiv denominator)

/-- Unsigned division, which traps on a zero divisor. -/
def u128Div (numerator denominator : Nat) : Exec ε Nat :=
  if denominator = 0 then .error .trap else .ok (numerator / denominator)

/-- A 128-bit addition that reports overflow as `none`. -/
def checkedAddI128 (a b : Int) : Option Int :=
  if -2 ^ 127 ≤ a + b ∧ a + b < 2 ^ 127 then some (a + b) else none

/-- A 128-bit multiplication that reports overflow as `none`. -/
def checkedMulI128 (a b : Int) : Option Int :=
  if -2 ^ 127 ≤ a * b ∧ a * b < 2 ^ 127 then some (a * b) else none

/-- A 128-bit unsigned operation that reports overflow as `none`. -/
def checkedU128 (exact : Nat) : Option Nat :=
  if exact < 2 ^ 128 then some exact else none

/-- Narrowing to 64 bits with an error of its own. -/
def tryI64 (exact : Int) (e : ε) : Exec ε Int64 := okOr (toI64? exact) e

/-- Narrowing a signed value to 64 unsigned bits. -/
def tryU64 (exact : Int) (e : ε) : Exec ε Nat :=
  if 0 ≤ exact ∧ exact < 2 ^ 64 then .ok exact.toNat else raise e

/-- Narrowing to 16 unsigned bits. -/
def tryU16 (exact : Int) (e : ε) : Exec ε UInt16 :=
  if 0 ≤ exact ∧ exact < 2 ^ 16 then .ok (UInt16.ofNat exact.toNat) else raise e

/-- An unsigned 8-bit subtraction, which traps when it would go below zero. -/
def u8Sub (a b : UInt8) : Exec ε Nat :=
  if b.toNat ≤ a.toNat then .ok (a.toNat - b.toNat) else .error .trap

def checkedAddU64 (a b : UInt64) : Option UInt64 :=
  if a.toNat + b.toNat < 2 ^ 64 then some (a + b) else none

def checkedAddI64 (a b : Int64) : Option Int64 := toI64? (a.toInt + b.toInt)

def checkedSubI64 (a b : Int64) : Option Int64 := toI64? (a.toInt - b.toInt)

def checkedPowI64 (base exponent : Nat) : Option Int64 := toI64? (base ^ exponent : Nat)

/-- A 64-bit addition, which traps outside the type. -/
def addI64 (a b : Int64) : Exec ε Int64 :=
  match checkedAddI64 a b with
  | some sum => .ok sum
  | none => .error .trap

/-- A 64-bit subtraction, which traps outside the type. -/
def subI64 (a b : Int64) : Exec ε Int64 :=
  match checkedSubI64 a b with
  | some difference => .ok difference
  | none => .error .trap

def saturatingAddU16 (a b : UInt16) : UInt16 :=
  if a.toNat + b.toNat < 2 ^ 16 then a + b else 65535

def saturatingMulU16 (a b : UInt16) : UInt16 :=
  if a.toNat * b.toNat < 2 ^ 16 then a * b else 65535

def checkedMulU64 (a b : UInt64) : Option UInt64 :=
  if a.toNat * b.toNat < 2 ^ 64 then some (a * b) else none

def saturatingAddU64 (a b : UInt64) : UInt64 :=
  if a.toNat + b.toNat < 2 ^ 64 then a + b else 18446744073709551615

def saturatingMulU64 (a b : UInt64) : UInt64 :=
  if a.toNat * b.toNat < 2 ^ 64 then a * b else 18446744073709551615

def saturatingAddU32 (a b : UInt32) : UInt32 :=
  if a.toNat + b.toNat < 2 ^ 32 then a + b else 4294967295

/-! ## Inversion -/

theorem bind_eq_ok {x : Exec ε α} {f : α → Exec ε β} {b : β} :
    (x >>= f) = .ok b ↔ ∃ a, x = .ok a ∧ f a = .ok b := by
  cases x with
  | error h => simp [bind, Except.bind]
  | ok a => simp [bind, Except.bind]

theorem bind_eq_error {x : Exec ε α} {f : α → Exec ε β} {h : Halt ε} :
    (x >>= f) = .error h ↔ x = .error h ∨ ∃ a, x = .ok a ∧ f a = .error h := by
  cases x with
  | error h' => simp [bind, Except.bind]
  | ok a => simp [bind, Except.bind]

@[simp] theorem raise_ne_ok {e : ε} {a : α} : (raise e : Exec ε α) ≠ .ok a := by
  simp [raise]

@[simp] theorem raise_eq_error {e : ε} {h : Halt ε} :
    (raise e : Exec ε α) = .error h ↔ .error e = h := by
  simp [raise]

@[simp] theorem rejectIf_eq_ok {c : Prop} [Decidable c] {e : ε} {u : Unit} :
    rejectIf c e = .ok u ↔ ¬c := by
  unfold rejectIf
  split <;> simp_all

@[simp] theorem rejectIf_eq_error {c : Prop} [Decidable c] {e : ε} {h : Halt ε} :
    rejectIf c e = .error h ↔ c ∧ .error e = h := by
  unfold rejectIf
  split <;> simp_all

theorem rejectIf_congr {c c' : Prop} [Decidable c] [Decidable c'] {e : ε} (same : c ↔ c') :
    rejectIf c e = rejectIf c' e := by
  unfold rejectIf
  simp only [same]

@[simp] theorem onlyIf_eq_ok {c : Bool} {check : Exec ε Unit} {u : Unit} :
    onlyIf c check = .ok u ↔ (c = true → check = .ok u) := by
  cases c <;> simp [onlyIf]

@[simp] theorem onlyIf_eq_error {c : Bool} {check : Exec ε Unit} {h : Halt ε} :
    onlyIf c check = .error h ↔ c = true ∧ check = .error h := by
  cases c <;> simp [onlyIf]

@[simp] theorem withErrors_eq_ok {ε' : Type} {convert : ε → ε'} {x : Exec ε α} {a : α} :
    withErrors convert x = .ok a ↔ x = .ok a := by
  rcases x with (e | _) | b <;> simp [withErrors]

/-- An error of the outer computation is one of the inner. -/
theorem withErrors_eq_error {ε' : Type} {convert : ε → ε'} {x : Exec ε α} {e' : ε'} :
    withErrors convert x = .error (.error e') ↔
      ∃ e, x = .error (.error e) ∧ convert e = e' := by
  rcases x with (e | _) | b <;> simp [withErrors]

@[simp] theorem liftResult_eq_ok {result : Except ε α} {a : α} :
    liftResult result = .ok a ↔ result = .ok a := by
  cases result <;> simp [liftResult, raise]

@[simp] theorem okOr_eq_ok {value : Option α} {e : ε} {a : α} :
    okOr value e = .ok a ↔ value = some a := by
  cases value <;> simp [okOr]

@[simp] theorem okOr_eq_error {value : Option α} {e : ε} {h : Halt ε} :
    okOr value e = .error h ↔ value = none ∧ .error e = h := by
  cases value <;> simp [okOr]

@[simp] theorem i128_eq_ok {exact a : Int} :
    (i128 exact : Exec ε Int) = .ok a ↔ (-2 ^ 127 ≤ exact ∧ exact < 2 ^ 127) ∧ exact = a := by
  unfold i128
  split
  · simp_all
  · rename_i outside
    exact iff_of_false nofun fun same => outside same.1

@[simp] theorem i128_eq_error {exact : Int} {h : Halt ε} :
    (i128 exact : Exec ε Int) = .error h ↔
      ¬(-2 ^ 127 ≤ exact ∧ exact < 2 ^ 127) ∧ .trap = h := by
  unfold i128
  split <;> simp_all

@[simp] theorem u128_eq_ok {exact a : Nat} :
    (u128 exact : Exec ε Nat) = .ok a ↔ exact < 2 ^ 128 ∧ exact = a := by
  unfold u128
  split
  · simp_all
  · rename_i outside
    exact iff_of_false nofun fun same => outside same.1

@[simp] theorem u128_eq_error {exact : Nat} {h : Halt ε} :
    (u128 exact : Exec ε Nat) = .error h ↔ ¬exact < 2 ^ 128 ∧ .trap = h := by
  unfold u128
  split <;> simp_all

@[simp] theorem u128Div_eq_ok {n d a : Nat} :
    (u128Div n d : Exec ε Nat) = .ok a ↔ d ≠ 0 ∧ n / d = a := by
  unfold u128Div
  split <;> simp_all

@[simp] theorem u128Div_eq_error {n d : Nat} {h : Halt ε} :
    (u128Div n d : Exec ε Nat) = .error h ↔ d = 0 ∧ .trap = h := by
  unfold u128Div
  split <;> simp_all

theorem i128Div_eq_ok {n d a : Int} :
    (i128Div n d : Exec ε Int) = .ok a ↔ d ≠ 0 ∧ (i128 (n.tdiv d) : Exec ε Int) = .ok a := by
  unfold i128Div
  split <;> simp_all

/-- A division traps or succeeds; it has no error of its own. -/
@[simp] theorem i128Div_ne_error {n d : Int} {e : ε} :
    (i128Div n d : Exec ε Int) ≠ .error (.error e) := by
  unfold i128Div
  split <;> simp

/-- A 64-bit narrowing succeeds with exactly the value it was given. -/
@[simp] theorem toI64?_eq_some {exact : Int} {a : Int64} :
    toI64? exact = some a ↔ a.toInt = exact := by
  unfold toI64?
  split
  · rename_i fits
    rw [Option.some.injEq, ← Int64.toInt_inj, Int64.toInt_ofInt_of_le fits.1 fits.2]
    exact eq_comm
  · rename_i outside
    simp only [reduceCtorEq, false_iff]
    rintro rfl
    exact outside ⟨a.le_toInt, a.toInt_lt⟩

@[simp] theorem toI64?_eq_none {exact : Int} :
    toI64? exact = none ↔ ¬(-2 ^ 63 ≤ exact ∧ exact < 2 ^ 63) := by
  unfold toI64?
  split <;> simp_all

@[simp] theorem tryI64_eq_ok {exact : Int} {e : ε} {a : Int64} :
    tryI64 exact e = .ok a ↔ a.toInt = exact := by
  simp [tryI64]

@[simp] theorem tryI64_eq_error {exact : Int} {e : ε} {h : Halt ε} :
    tryI64 exact e = .error h ↔ ¬(-2 ^ 63 ≤ exact ∧ exact < 2 ^ 63) ∧ .error e = h := by
  simp [tryI64]

@[simp] theorem tryU64_eq_ok {exact : Int} {e : ε} {a : Nat} :
    tryU64 exact e = .ok a ↔ (0 ≤ exact ∧ exact < 2 ^ 64) ∧ exact.toNat = a := by
  unfold tryU64
  split
  · simp_all
  · rename_i outside
    exact iff_of_false nofun fun same => outside same.1

@[simp] theorem tryU64_eq_error {exact : Int} {e : ε} {h : Halt ε} :
    tryU64 exact e = .error h ↔ ¬(0 ≤ exact ∧ exact < 2 ^ 64) ∧ .error e = h := by
  unfold tryU64
  split <;> simp_all

/-- A 16-bit narrowing succeeds with exactly the value it was given. -/
@[simp] theorem tryU16_eq_ok {exact : Int} {e : ε} {a : UInt16} :
    tryU16 exact e = .ok a ↔ (a.toNat : Int) = exact := by
  unfold tryU16
  split
  · rename_i fits
    have value : (UInt16.ofNat exact.toNat).toNat = exact.toNat :=
      UInt16.toNat_ofNat_of_lt' (by simp only [UInt16.size]; omega)
    simp only [Except.ok.injEq]
    constructor
    · rintro rfl
      rw [value]
      omega
    · intro same
      apply UInt16.toNat_inj.mp
      rw [value]
      omega
  · rename_i outside
    simp only [raise_ne_ok, false_iff]
    rintro rfl
    exact outside ⟨Int.natCast_nonneg _, by exact_mod_cast a.toNat_lt⟩

@[simp] theorem tryU16_eq_error {exact : Int} {e : ε} {h : Halt ε} :
    tryU16 exact e = .error h ↔ ¬(0 ≤ exact ∧ exact < 2 ^ 16) ∧ .error e = h := by
  unfold tryU16
  split <;> simp_all

@[simp] theorem u8Sub_eq_ok {a b : UInt8} {n : Nat} :
    (u8Sub a b : Exec ε Nat) = .ok n ↔ b.toNat ≤ a.toNat ∧ a.toNat - b.toNat = n := by
  unfold u8Sub
  split
  · simp_all
  · rename_i outside
    exact iff_of_false nofun fun same => outside same.1

@[simp] theorem u8Sub_eq_error {a b : UInt8} {h : Halt ε} :
    (u8Sub a b : Exec ε Nat) = .error h ↔ ¬b.toNat ≤ a.toNat ∧ .trap = h := by
  unfold u8Sub
  split <;> simp_all

@[simp] theorem i64_eq_ok {exact : Int} {a : Int64} :
    (i64 exact : Exec ε Int64) = .ok a ↔ a.toInt = exact := by
  rw [← toI64?_eq_some, i64]
  cases toI64? exact <;> simp

@[simp] theorem checkedAddI128_eq_some {a b c : Int} :
    checkedAddI128 a b = some c ↔ (-2 ^ 127 ≤ a + b ∧ a + b < 2 ^ 127) ∧ a + b = c := by
  unfold checkedAddI128
  split
  · simp_all
  · rename_i outside
    exact iff_of_false nofun fun same => outside same.1

@[simp] theorem checkedMulI128_eq_some {a b c : Int} :
    checkedMulI128 a b = some c ↔ (-2 ^ 127 ≤ a * b ∧ a * b < 2 ^ 127) ∧ a * b = c := by
  unfold checkedMulI128
  split
  · simp_all
  · rename_i outside
    exact iff_of_false nofun fun same => outside same.1

@[simp] theorem checkedU128_eq_some {exact a : Nat} :
    checkedU128 exact = some a ↔ exact < 2 ^ 128 ∧ exact = a := by
  unfold checkedU128
  split
  · simp_all
  · rename_i outside
    exact iff_of_false nofun fun same => outside same.1

@[simp] theorem checkedAddI64_eq_some {a b c : Int64} :
    checkedAddI64 a b = some c ↔ c.toInt = a.toInt + b.toInt := toI64?_eq_some

@[simp] theorem checkedSubI64_eq_some {a b c : Int64} :
    checkedSubI64 a b = some c ↔ c.toInt = a.toInt - b.toInt := toI64?_eq_some

@[simp] theorem addI64_eq_ok {a b c : Int64} :
    (addI64 a b : Exec ε Int64) = .ok c ↔ c.toInt = a.toInt + b.toInt := by
  rw [← checkedAddI64_eq_some, addI64]
  cases checkedAddI64 a b <;> simp

@[simp] theorem addI64_ne_error {a b : Int64} {e : ε} :
    (addI64 a b : Exec ε Int64) ≠ .error (.error e) := by
  unfold addI64
  split <;> simp

/-- An addition traps when the sum does not fit. -/
theorem addI64_eq_trap_iff {a b : Int64} :
    (addI64 a b : Exec ε Int64) = .error .trap ↔ toI64? (a.toInt + b.toInt) = none := by
  rw [addI64, checkedAddI64]
  cases toI64? (a.toInt + b.toInt) <;> simp

@[simp] theorem subI64_eq_ok {a b c : Int64} :
    (subI64 a b : Exec ε Int64) = .ok c ↔ c.toInt = a.toInt - b.toInt := by
  rw [← checkedSubI64_eq_some, subI64]
  cases checkedSubI64 a b <;> simp

@[simp] theorem subI64_ne_error {a b : Int64} {e : ε} :
    (subI64 a b : Exec ε Int64) ≠ .error (.error e) := by
  unfold subI64
  split <;> simp

@[simp] theorem checkedPowI64_eq_some {base exponent : Nat} {c : Int64} :
    checkedPowI64 base exponent = some c ↔ c.toInt = ((base ^ exponent : Nat) : Int) :=
  toI64?_eq_some

@[simp] theorem checkedAddU64_eq_some {a b c : UInt64} :
    checkedAddU64 a b = some c ↔ c.toNat = a.toNat + b.toNat := by
  have bound := c.toNat_lt
  unfold checkedAddU64
  split
  · rename_i fits
    rw [Option.some.injEq, ← UInt64.toNat_inj, UInt64.toNat_add, Nat.mod_eq_of_lt fits]
    exact eq_comm
  · simp only [reduceCtorEq, false_iff]
    omega

theorem toNat_ofNat_of_lt {n : Nat} (small : n < 2 ^ 64) : (UInt64.ofNat n).toNat = n := by
  rw [UInt64.toNat_ofNat', Nat.mod_eq_of_lt small]

theorem checkedMulU64_eq_some {a b : UInt64} (small : a.toNat * b.toNat < 2 ^ 64) :
    checkedMulU64 a b = some (UInt64.ofNat (a.toNat * b.toNat)) := by
  rw [checkedMulU64, if_pos small, Option.some.injEq, ← UInt64.toNat_inj, UInt64.toNat_mul,
    Nat.mod_eq_of_lt small, toNat_ofNat_of_lt small]

theorem saturatingAddU64_ofNat {n : Nat} {b : UInt64} (small : n + b.toNat < 2 ^ 64) :
    saturatingAddU64 (UInt64.ofNat n) b = UInt64.ofNat (n + b.toNat) := by
  have value : (UInt64.ofNat n).toNat = n := toNat_ofNat_of_lt (by omega)
  rw [saturatingAddU64, value, if_pos small, ← UInt64.toNat_inj, UInt64.toNat_add, value,
    Nat.mod_eq_of_lt small, toNat_ofNat_of_lt small]

theorem saturatingMulU64_ofNat {n : Nat} {b : UInt64} (fits : n < 2 ^ 64)
    (small : n * b.toNat < 2 ^ 64) :
    saturatingMulU64 (UInt64.ofNat n) b = UInt64.ofNat (n * b.toNat) := by
  have value : (UInt64.ofNat n).toNat = n := toNat_ofNat_of_lt fits
  rw [saturatingMulU64, value, if_pos small, ← UInt64.toNat_inj, UInt64.toNat_mul, value,
    Nat.mod_eq_of_lt small, toNat_ofNat_of_lt small]

theorem toNat_saturatingAddU16 (a b : UInt16) :
    (saturatingAddU16 a b).toNat = min (a.toNat + b.toNat) (2 ^ 16 - 1) := by
  have largest : (65535 : UInt16).toNat = 2 ^ 16 - 1 := by decide
  unfold saturatingAddU16
  split
  · rename_i fits
    rw [UInt16.toNat_add, Nat.mod_eq_of_lt fits, Nat.min_eq_left (by omega)]
  · rw [largest, Nat.min_eq_right (by omega)]

theorem toNat_saturatingAddU32 (a b : UInt32) :
    (saturatingAddU32 a b).toNat = min (a.toNat + b.toNat) (2 ^ 32 - 1) := by
  have largest : (4294967295 : UInt32).toNat = 2 ^ 32 - 1 := by decide
  unfold saturatingAddU32
  split
  · rename_i fits
    rw [UInt32.toNat_add, Nat.mod_eq_of_lt fits, Nat.min_eq_left (by omega)]
  · rw [largest, Nat.min_eq_right (by omega)]

/-- The larger of two machine integers has the larger value. -/
theorem toInt_max (a b : Int64) : (max a b).toInt = max a.toInt b.toInt := by
  change (if a ≤ b then b else a).toInt = max a.toInt b.toInt
  split <;> rename_i order <;> rw [Int64.le_iff_toInt_le] at order <;> omega

/-- The smaller of two machine integers has the smaller value. -/
theorem toInt_min (a b : Int64) : (min a b).toInt = min a.toInt b.toInt := by
  change (if a ≤ b then a else b).toInt = min a.toInt b.toInt
  split <;> rename_i order <;> rw [Int64.le_iff_toInt_le] at order <;> omega

/-! ## Computations that do not trap -/

/-- The computation ends in a value or in an error of its own. -/
def NoTrap (x : Exec ε α) : Prop := x ≠ .error .trap

namespace NoTrap

theorem ok {a : α} : NoTrap (.ok a : Exec ε α) := nofun

theorem rejectIf {c : Prop} [Decidable c] {e : ε} : NoTrap (rejectIf c e) := by
  simp [NoTrap]

theorem onlyIf {c : Bool} {check : Exec ε Unit} (trapFree : c = true → NoTrap check) :
    NoTrap (onlyIf c check) := by
  simpa [NoTrap] using trapFree

theorem okOr {value : Option α} {e : ε} : NoTrap (okOr value e) := by
  simp [NoTrap]

theorem tryI64 {exact : Int} {e : ε} : NoTrap (tryI64 exact e) := okOr

theorem tryU64 {exact : Int} {e : ε} : NoTrap (tryU64 exact e) := by
  simp [NoTrap]

theorem tryU16 {exact : Int} {e : ε} : NoTrap (tryU16 exact e) := by
  simp [NoTrap]

theorem u8Sub {a b : UInt8} (le : b.toNat ≤ a.toNat) : NoTrap (u8Sub a b : Exec ε Nat) := by
  unfold FixedWidth.u8Sub
  rw [if_pos le]
  exact ok

theorem i128 {exact : Int} (magnitude : exact.natAbs < 2 ^ 127) :
    NoTrap (i128 exact : Exec ε Int) := by
  unfold FixedWidth.i128
  rw [if_pos (by omega)]
  exact ok

theorem u128 {exact : Nat} (fits : exact < 2 ^ 128) : NoTrap (u128 exact : Exec ε Nat) := by
  unfold FixedWidth.u128
  rw [if_pos fits]
  exact ok

theorem u128Div {n d : Nat} (divisor : d ≠ 0) : NoTrap (u128Div n d : Exec ε Nat) := by
  unfold FixedWidth.u128Div
  rw [if_neg divisor]
  exact ok

theorem withErrors {ε' : Type} {convert : ε → ε'} {x : Exec ε α} (trapFree : NoTrap x) :
    NoTrap (withErrors convert x) := by
  rcases x with (e | -) | a
  · exact nofun
  · exact absurd rfl trapFree
  · exact nofun

/-- A quotient is no larger than its numerator. -/
theorem i128Div {n d : Int} (divisor : d ≠ 0) (magnitude : n.natAbs < 2 ^ 127) :
    NoTrap (i128Div n d : Exec ε Int) := by
  unfold FixedWidth.i128Div
  rw [if_neg divisor]
  refine i128 ?_
  rw [Int.natAbs_tdiv]
  exact Nat.lt_of_le_of_lt (Nat.div_le_self _ _) magnitude

/-- The rule of composition. -/
theorem bind {x : Exec ε α} {f : α → Exec ε β} (first : NoTrap x)
    (second : ∀ a, x = .ok a → NoTrap (f a)) : NoTrap (x >>= f) := by
  cases x with
  | ok a => exact second a rfl
  | error h =>
    intro trapped
    rw [bind_eq_error] at trapped
    rcases trapped with same | ⟨a, same, -⟩
    · exact first same
    · cases same

end NoTrap

/-! ## Computations that fail in known ways -/

/-- The computation fails only in ways the predicate allows. -/
def FailsIn (P : Halt ε → Prop) (x : Exec ε α) : Prop := ∀ h, x = .error h → P h

namespace FailsIn

variable {P Q : Halt ε → Prop}

theorem ok {a : α} : FailsIn P (.ok a : Exec ε α) := nofun

theorem mono {x : Exec ε α} (fails : FailsIn P x) (weaker : ∀ h, P h → Q h) : FailsIn Q x :=
  fun h failed => weaker h (fails h failed)

theorem rejectIf {c : Prop} [Decidable c] {e : ε} (allowed : c → P (.error e)) :
    FailsIn P (rejectIf c e) := by
  intro h failed
  obtain ⟨holds, rfl⟩ := rejectIf_eq_error.mp failed
  exact allowed holds

theorem okOr {value : Option α} {e : ε} (allowed : value = none → P (.error e)) :
    FailsIn P (okOr value e) := by
  intro h failed
  obtain ⟨missing, rfl⟩ := okOr_eq_error.mp failed
  exact allowed missing

theorem tryI64 {exact : Int} {e : ε} (allowed : P (.error e)) : FailsIn P (tryI64 exact e) :=
  okOr fun _ => allowed

theorem i128 {exact : Int} (trap : P .trap) : FailsIn P (i128 exact : Exec ε Int) := by
  intro h failed
  obtain ⟨-, rfl⟩ := i128_eq_error.mp failed
  exact trap

theorem i128Div {n d : Int} (trap : P .trap) : FailsIn P (i128Div n d : Exec ε Int) := by
  rintro (e | -) failed
  · exact absurd failed i128Div_ne_error
  · exact trap

theorem addI64 {a b : Int64} (trap : P .trap) : FailsIn P (addI64 a b : Exec ε Int64) := by
  rintro (e | -) failed
  · exact absurd failed addI64_ne_error
  · exact trap

theorem subI64 {a b : Int64} (trap : P .trap) : FailsIn P (subI64 a b : Exec ε Int64) := by
  rintro (e | -) failed
  · exact absurd failed subI64_ne_error
  · exact trap

theorem withErrors {ε' : Type} {convert : ε → ε'} {P : Halt ε' → Prop} {x : Exec ε α}
    (trap : P .trap) (errors : ∀ e, P (.error (convert e))) : FailsIn P (withErrors convert x) := by
  rintro (e' | -) failed
  · obtain ⟨e, -, rfl⟩ := withErrors_eq_error.mp failed
    exact errors e
  · exact trap

/-- The rule of composition. -/
theorem bind {x : Exec ε α} {f : α → Exec ε β} (first : FailsIn P x)
    (second : ∀ a, x = .ok a → FailsIn P (f a)) : FailsIn P (x >>= f) := by
  intro h failed
  rcases bind_eq_error.mp failed with here | ⟨a, isOk, there⟩
  · exact first h here
  · exact second a isOk h there

end FailsIn

end FixedWidth
