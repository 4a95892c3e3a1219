import Mathlib.Algebra.Order.Ring.Int
import Mathlib.Data.List.Infix

/-!
# Readers of bytes

A reader takes bytes from the front of its input or fails.  `Reads` says that some bytes are read as
a value and nothing after them is touched, and that no part of them is enough; it is put together in
the order in which a reader is.
-/

namespace ByteReader

/-- The input is what is left to read. -/
abbrev Reader (ε α : Type) : Type := StateT (List UInt8) (Except ε) α

variable {ε α β : Type} {reader : Reader ε α} {next : α → Reader ε β} {bytes more : List UInt8}
  {a : α} {b : β}

/-- No proper prefix of the bytes is read. -/
def NeedsAll (reader : Reader ε α) (bytes : List UInt8) : Prop :=
  ∀ start, start <+: bytes → start ≠ bytes → ∃ error, reader start = .error error

/-- The bytes are read as the value whatever comes after them, and no proper prefix is read. -/
structure Reads (reader : Reader ε α) (bytes : List UInt8) (a : α) : Prop where
  exact : ∀ rest, reader (bytes ++ rest) = .ok (a, rest)
  whole : NeedsAll reader bytes

/-- The next so many bytes. -/
def readExact (error : ε) (size : Nat) : Reader ε {bytes : List UInt8 // bytes.length = size} :=
  fun input =>
    if enough : size ≤ input.length then
      .ok (⟨input.take size, List.length_take_of_le enough⟩, input.drop size)
    else .error error

/-- Fail where a check does. -/
def require (error : ε) (check : Bool) : Reader ε Unit := fun input =>
  if check then .ok ((), input) else .error error

/-- The value, where there is one. -/
def demand (error : ε) (value : Option α) : Reader ε α := fun input =>
  match value with
  | some a => .ok (a, input)
  | none => .error error

theorem bind_eq (reader : Reader ε α) (next : α → Reader ε β) (input : List UInt8) :
    (reader >>= next) input = match reader input with
      | .ok (a, rest) => next a rest
      | .error error => .error error := by
  cases result : reader input <;> simp [bind, StateT.bind, Except.bind, result]

theorem needsAll_nil (reader : Reader ε α) : NeedsAll reader [] :=
  fun _ isPrefix proper => absurd (List.prefix_nil.mp isPrefix) proper

theorem reads_pure (a : α) : Reads (pure a : Reader ε α) [] a where
  exact := fun _ => rfl
  whole := needsAll_nil _

theorem reads_readExact (error : ε) {size : Nat}
    (bytes : {bytes : List UInt8 // bytes.length = size}) :
    Reads (readExact error size) bytes.val bytes where
  exact := fun rest => by
    have enough : size ≤ (bytes.val ++ rest).length := by
      rw [List.length_append, bytes.2]
      exact Nat.le_add_right _ _
    rw [readExact, dif_pos enough]
    simp only [List.take_left' bytes.2, List.drop_left' bytes.2]
  whole := fun start isPrefix proper => by
    have short : start.length ≠ bytes.val.length := fun same => proper (isPrefix.eq_of_length same)
    have le := isPrefix.length_le
    have size := bytes.2
    exact ⟨error, by rw [readExact, dif_neg (by omega)]⟩

theorem reads_require (error : ε) {check : Bool} (holds : check = true) :
    Reads (require error check) [] () where
  exact := fun _ => by rw [require, if_pos holds]; rfl
  whole := needsAll_nil _

theorem reads_demand (error : ε) (a : α) : Reads (demand error (some a)) [] a where
  exact := fun _ => rfl
  whole := needsAll_nil _

/-- A reader that takes the first bytes and then needs the others needs all of them. -/
theorem Reads.bind_needsAll (first : Reads reader bytes a) (second : NeedsAll (next a) more) :
    NeedsAll (reader >>= next) (bytes ++ more) := by
  intro start isPrefix proper
  rw [bind_eq]
  rcases List.prefix_or_prefix_of_prefix isPrefix (List.prefix_append bytes more) with
    inside | ⟨tail, rfl⟩
  · by_cases all : start = bytes
    · subst all
      have nothing : more ≠ [] := fun none => proper (by rw [none, List.append_nil])
      have read := first.exact []
      rw [List.append_nil] at read
      rw [read]
      exact second [] List.nil_prefix nothing.symm
    · obtain ⟨error, failed⟩ := first.whole start inside all
      exact ⟨error, by rw [failed]⟩
  · rw [first.exact]
    exact second tail ((List.prefix_append_right_inj bytes).mp isPrefix)
      fun same => proper (by rw [same])

/-- What two readers read one after the other. -/
theorem Reads.bind (first : Reads reader bytes a) (second : Reads (next a) more b) :
    Reads (reader >>= next) (bytes ++ more) b where
  exact := fun rest => by
    rw [bind_eq, List.append_assoc, first.exact]
    exact second.exact rest
  whole := first.bind_needsAll second.whole

/-- What fails after the bytes of a first reader fails. -/
theorem Reads.bind_error (first : Reads reader bytes a)
    (failed : ∃ error, next a more = .error error) :
    ∃ error, (reader >>= next) (bytes ++ more) = .error error := by
  rw [bind_eq, first.exact]
  exact failed

end ByteReader
