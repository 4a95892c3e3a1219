import CrowAgent.Lib.JsonText

/-!
# Sizes of UTF-8 texts

The bytes of a text (`bytes`), how many they are (`size`), and that a line feed among them is one of
the text (`lineFeed_mem`).  The size of the compact text of a JSON object is that of its parts.
-/

namespace Utf8

/-- The UTF-8 bytes of a text. -/
def bytes (text : List Char) : List UInt8 := text.flatMap String.utf8EncodeChar

/-- The number of UTF-8 bytes of a text. -/
def size (text : List Char) : Nat := (text.map Char.utf8Size).sum

theorem length_bytes (text : List Char) : (bytes text).length = size text := by
  rw [bytes, List.length_flatMap, size]
  simp only [String.length_utf8EncodeChar]

@[simp] theorem size_nil : size [] = 0 := rfl

@[simp] theorem size_cons (c : Char) (text : List Char) :
    size (c :: text) = c.utf8Size + size text := by
  rw [size, List.map_cons, List.sum_cons, ← size]

@[simp] theorem size_append (a b : List Char) : size (a ++ b) = size a + size b := by
  rw [size, List.map_append, List.sum_append, ← size, ← size]

/-- A byte below 128 is a character of its own. -/
theorem eq_of_mem_utf8EncodeChar {c : Char} {byte : UInt8}
    (mem : byte ∈ String.utf8EncodeChar c) (small : byte.toNat < 128) : c.toNat = byte.toNat := by
  have high : ∀ n, 128 ≤ n → n < 256 → byte ≠ UInt8.ofNat n := by
    rintro n low below rfl
    rw [UInt8.toNat_ofNat_of_lt' below] at small
    omega
  have isNat : c.toNat = c.val.toNat := rfl
  unfold String.utf8EncodeChar at mem
  dsimp only at mem
  split_ifs at mem with one two three
  · obtain rfl := List.mem_singleton.mp mem
    rw [UInt8.toNat_ofNat_of_lt' (lt_of_le_of_lt one (by decide)), isNat]
  all_goals
    simp only [List.mem_cons, List.not_mem_nil, or_false] at mem
    exfalso
  · rcases mem with mem | mem
    · exact high _ (by omega) (by omega) mem
    · exact high _ (by omega) (by omega) mem
  · rcases mem with mem | mem | mem
    · exact high _ (by omega) (by omega) mem
    · exact high _ (by omega) (by omega) mem
    · exact high _ (by omega) (by omega) mem
  · rcases mem with mem | mem | mem | mem
    · exact high _ (by omega) (by omega) mem
    · exact high _ (by omega) (by omega) mem
    · exact high _ (by omega) (by omega) mem
    · exact high _ (by omega) (by omega) mem

/-- A line feed among the bytes is one among the characters. -/
theorem lineFeed_mem {text : List Char} (mem : 10 ∈ bytes text) : '\n' ∈ text := by
  obtain ⟨c, isC, mem⟩ := List.mem_flatMap.mp mem
  have lineFeed : c.toNat = '\n'.toNat := eq_of_mem_utf8EncodeChar mem (by decide)
  exact Char.toNat_inj.mp lineFeed ▸ isC

end Utf8

namespace Json

/-! ## Sizes of compact texts -/

variable {float : UInt64 → String}

/-- The bytes of a text between the quotes of a JSON string. -/
def escapedSize (text : String) : Nat := Utf8.size (text.toList.flatMap escapeChar)

theorem size_quoted (text : String) : Utf8.size (quoted text) = escapedSize text + 2 := by
  have quote : ('"').utf8Size = 1 := by decide
  rw [quoted, Utf8.size_append, Utf8.size_append, Utf8.size_cons, Utf8.size_nil, quote,
    ← escapedSize]
  omega

theorem size_string (text : String) :
    Utf8.size (compact float (.string text)) = escapedSize text + 2 := by
  rw [compact, size_quoted]

/-- A field with its colon and the comma or the brace after it. -/
def fieldSize (float : UInt64 → String) (field : String × Json) : Nat :=
  escapedSize field.1 + Utf8.size (compact float field.2) + 4

theorem size_compactFields {field : String × Json} {rest : List (String × Json)} :
    Utf8.size (compactFields float (field :: rest)) + 1 =
      ((field :: rest).map (fieldSize float)).sum := by
  have colon : (':').utf8Size = 1 := by decide
  have comma : (',').utf8Size = 1 := by decide
  induction rest generalizing field with
  | nil =>
    rw [compactFields_cons, if_pos rfl, List.append_nil, Utf8.size_append, Utf8.size_cons,
      size_quoted, colon, List.map_singleton, List.sum_singleton, fieldSize]
    omega
  | cons next rest ih =>
    rw [compactFields_cons, if_neg (List.cons_ne_nil _ _), Utf8.size_append, Utf8.size_cons,
      Utf8.size_append, Utf8.size_cons, size_quoted, colon, comma, List.map_cons, List.sum_cons,
      ← @ih next, fieldSize]
    omega

/-- The size of an object that is not empty. -/
theorem size_object (field : String × Json) (rest : List (String × Json)) :
    Utf8.size (compact float (.object (field :: rest))) =
      ((field :: rest).map (fieldSize float)).sum + 1 := by
  have opening : ('\x7b').utf8Size = 1 := by decide
  have closing : ('\x7d').utf8Size = 1 := by decide
  have fields := @size_compactFields float field rest
  rw [compact, Utf8.size_append, Utf8.size_append, Utf8.size_cons, Utf8.size_cons, Utf8.size_nil,
    opening, closing, ← fields]
  omega

/-- The size of an array that is not empty. -/
theorem size_array (value : Json) (rest : List Json) :
    Utf8.size (compact float (.array (value :: rest))) =
      ((value :: rest).map fun value => Utf8.size (compact float value) + 1).sum + 1 := by
  have opening : ('[').utf8Size = 1 := by decide
  have closing : (']').utf8Size = 1 := by decide
  have comma : (',').utf8Size = 1 := by decide
  have values : ∀ value rest, Utf8.size (compactValues float (value :: rest)) + 1 =
      ((value :: rest).map fun value => Utf8.size (compact float value) + 1).sum := by
    intro value rest
    induction rest generalizing value with
    | nil => simp [compactValues]
    | cons next rest ih =>
      rw [compactValues_cons, if_neg (List.cons_ne_nil _ _), Utf8.size_append, Utf8.size_cons,
        comma, List.map_cons, List.sum_cons, ← ih next]
      omega
  rw [compact, Utf8.size_append, Utf8.size_append, Utf8.size_cons, Utf8.size_cons, Utf8.size_nil,
    opening, closing, ← values]
  omega

/-! ## Line feeds -/

theorem lineFeed_notMem_escapeChar (c : Char) : '\n' ∉ escapeChar c := by
  have control : ∀ byte : UInt8, '\n' ∉ ['\\', 'u', '0', '0'] ++ Hex.digits byte := by
    intro byte mem
    have none : ∀ value < 16, Hex.digit value ≠ '\n' := by decide
    have bound := byte.toNat_lt
    simp only [Hex.digits, List.mem_append, List.mem_cons, List.not_mem_nil, or_false] at mem
    rcases mem with prefixed | high | low
    · revert prefixed
      decide
    · exact none _ (by omega) high.symm
    · exact none _ (by omega) low.symm
  unfold escapeChar
  split_ifs with quote slash lineFeed
  · decide
  · decide
  · decide
  · decide
  · decide
  · decide
  · decide
  · exact control _
  · exact fun mem => lineFeed (List.mem_singleton.mp mem).symm

/-- A line feed in a string is escaped. -/
theorem lineFeed_notMem_quoted (text : String) : '\n' ∉ quoted text := by
  intro mem
  rw [quoted, List.mem_append, List.mem_append] at mem
  rcases mem with (mem | mem) | mem
  · exact absurd mem (by decide)
  · obtain ⟨c, -, escaped⟩ := List.mem_flatMap.mp mem
    exact lineFeed_notMem_escapeChar c escaped
  · exact absurd mem (by decide)

theorem lineFeed_notMem_string (text : String) : '\n' ∉ compact float (.string text) := by
  rw [compact]
  exact lineFeed_notMem_quoted text

theorem lineFeed_notMem_object {fields : List (String × Json)}
    (values : ∀ field ∈ fields, '\n' ∉ compact float field.2) :
    '\n' ∉ compact float (.object fields) := by
  have none : '\n' ∉ compactFields float fields := by
    induction fields with
    | nil => exact List.not_mem_nil
    | cons field rest ih =>
      rw [List.forall_mem_cons] at values
      rw [compactFields_cons]
      intro mem
      simp only [List.mem_append, List.mem_cons] at mem
      rcases mem with mem | mem | mem | mem
      · exact lineFeed_notMem_quoted _ mem
      · exact absurd mem (by decide)
      · exact values.1 mem
      · split_ifs at mem
        · exact List.not_mem_nil mem
        · rcases List.mem_cons.mp mem with comma | mem
          · exact absurd comma (by decide)
          · exact ih values.2 mem
  rw [compact]
  intro mem
  rw [List.mem_append, List.mem_append] at mem
  rcases mem with (mem | mem) | mem
  · exact absurd mem (by decide)
  · exact none mem
  · exact absurd mem (by decide)

theorem lineFeed_notMem_array {values : List Json}
    (elements : ∀ value ∈ values, '\n' ∉ compact float value) :
    '\n' ∉ compact float (.array values) := by
  have none : '\n' ∉ compactValues float values := by
    induction values with
    | nil => exact List.not_mem_nil
    | cons value rest ih =>
      rw [List.forall_mem_cons] at elements
      rw [compactValues_cons]
      intro mem
      rcases List.mem_append.mp mem with mem | mem
      · exact elements.1 mem
      · split_ifs at mem
        · exact List.not_mem_nil mem
        · rcases List.mem_cons.mp mem with comma | mem
          · exact absurd comma (by decide)
          · exact ih elements.2 mem
  rw [compact]
  intro mem
  rw [List.mem_append, List.mem_append] at mem
  rcases mem with (mem | mem) | mem
  · exact absurd mem (by decide)
  · exact none mem
  · exact absurd mem (by decide)

/-! ## Texts without escapes -/

/-- A character that is written as it is, in one byte. -/
def isPlain (c : Char) : Bool := escapeChar c = [c] && c.utf8Size = 1

/-- The size of a text of plain characters. -/
theorem escapedSize_plain {text : String} (plain : ∀ c ∈ text.toList, isPlain c = true) :
    escapedSize text = text.toList.length := by
  rw [escapedSize]
  generalize text.toList = chars at plain ⊢
  induction chars with
  | nil => rfl
  | cons c chars ih =>
    rw [List.forall_mem_cons, isPlain, Bool.and_eq_true, decide_eq_true_eq, decide_eq_true_eq]
      at plain
    rw [List.flatMap_cons, Utf8.size_append, plain.1.1, Utf8.size_cons, Utf8.size_nil, plain.1.2,
      ih plain.2, List.length_cons]
    omega

end Json
