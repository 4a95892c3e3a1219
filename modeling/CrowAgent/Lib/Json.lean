import CrowAgent.Lib.Hex
import Mathlib.Data.List.Basic

/-!
# JSON values

Values as a parser keeps them: an object is the list of its fields in the order a map iterates
them, which for an ordered map is ascending in the key (`KeySorted`).  `ofFields` collects fields
into such a map.  `compact` is the text of a value without white space.
-/

inductive JsonNumber : Type
  | unsigned (value : UInt64)
  | signed (value : Int64)
  /-- A double, by its bit pattern. -/
  | float (bits : UInt64)
  deriving DecidableEq, Repr

inductive Json : Type
  | null
  | bool (value : Bool)
  | number (value : JsonNumber)
  | string (value : String)
  | array (values : List Json)
  | object (fields : List (String × Json))
  deriving Repr

namespace Json

/-- Insert a field into an ordered map, replacing an earlier value of the key. -/
def insertField (key : String) (value : Json) : List (String × Json) → List (String × Json)
  | [] => [(key, value)]
  | (key', value') :: rest =>
    if key < key' then (key, value) :: (key', value') :: rest
    else if key = key' then (key, value) :: rest
    else (key', value') :: insertField key value rest

/-- The object an ordered map of the fields is. -/
def ofFields (fields : List (String × Json)) : Json :=
  .object (fields.foldl (fun sorted field => insertField field.1 field.2 sorted) [])

/-- The value of a field, for an object that has it. -/
def get? (json : Json) (key : String) : Option Json :=
  match json with
  | .object fields => (fields.find? (·.1 = key)).map (·.2)
  | _ => none

/-- `as_str`. -/
def asStr? : Json → Option String
  | .string text => some text
  | _ => none

def asString? : Json → Option String
  | .string value => some value
  | _ => none

/-! ## Compact text -/

/-- A character inside a string of the text. -/
def escapeChar (c : Char) : List Char :=
  if c = '"' then ['\\', '"']
  else if c = '\\' then ['\\', '\\']
  else if c = '\n' then ['\\', 'n']
  else if c = '\r' then ['\\', 'r']
  else if c = '\t' then ['\\', 't']
  else if c.toNat = 8 then ['\\', 'b']
  else if c.toNat = 12 then ['\\', 'f']
  else if c.toNat < 32 then ['\\', 'u', '0', '0'] ++ Hex.digits (UInt8.ofNat c.toNat)
  else [c]

def quoted (text : String) : List Char := ['"'] ++ text.toList.flatMap escapeChar ++ ['"']

/-- The digits of a number; doubles are left to `float`. -/
def numberText (float : UInt64 → String) : JsonNumber → List Char
  | .unsigned value => (toString value.toNat).toList
  | .signed value => (toString value.toInt).toList
  | .float bits => (float bits).toList

mutual

/-- The text of a value without white space. -/
def compact (float : UInt64 → String) : Json → List Char
  | .null => ['n', 'u', 'l', 'l']
  | .bool true => ['t', 'r', 'u', 'e']
  | .bool false => ['f', 'a', 'l', 's', 'e']
  | .number value => numberText float value
  | .string value => quoted value
  | .array values => ['['] ++ compactValues float values ++ [']']
  | .object fields => ['{'] ++ compactFields float fields ++ ['}']

def compactValues (float : UInt64 → String) : List Json → List Char
  | [] => []
  | [value] => compact float value
  | value :: rest => compact float value ++ [','] ++ compactValues float rest

def compactFields (float : UInt64 → String) : List (String × Json) → List Char
  | [] => []
  | [(key, value)] => quoted key ++ [':'] ++ compact float value
  | (key, value) :: rest =>
    quoted key ++ [':'] ++ compact float value ++ [','] ++ compactFields float rest

end

/-! ## Ordered maps -/

/-- Every object in the value has its keys in ascending order. -/
inductive KeySorted : Json → Prop
  | null : KeySorted .null
  | bool {value : Bool} : KeySorted (.bool value)
  | number {value : JsonNumber} : KeySorted (.number value)
  | string {value : String} : KeySorted (.string value)
  | array {values : List Json} (elements : ∀ value ∈ values, KeySorted value) :
      KeySorted (.array values)
  | object {fields : List (String × Json)} (keys : (fields.map (·.1)).Pairwise (· < ·))
      (values : ∀ field ∈ fields, KeySorted field.2) : KeySorted (.object fields)

/-- A list of fields is an ordered map of key-sorted values. -/
structure SortedFields (fields : List (String × Json)) : Prop where
  keys : (fields.map (·.1)).Pairwise (· < ·)
  values : ∀ field ∈ fields, KeySorted field.2

theorem SortedFields.nil : SortedFields [] := ⟨List.Pairwise.nil, by simp⟩

theorem SortedFields.keySorted {fields : List (String × Json)} (sorted : SortedFields fields) :
    KeySorted (.object fields) := .object sorted.keys sorted.values

/-- The keys after an insertion are the old ones and the new one. -/
theorem mem_keys_insertField {key key' : String} {value : Json} {fields : List (String × Json)}
    (mem : key' ∈ (insertField key value fields).map (·.1)) :
    key' = key ∨ key' ∈ fields.map (·.1) := by
  induction fields with
  | nil => simpa [insertField] using mem
  | cons field rest ih =>
    obtain ⟨first, value'⟩ := field
    rw [insertField] at mem
    split at mem
    · simpa using mem
    · split at mem
      · rename_i same
        simp only [List.map_cons, List.mem_cons] at mem ⊢
        rcases mem with rfl | mem
        · exact .inl rfl
        · exact .inr (.inr mem)
      · simp only [List.map_cons, List.mem_cons] at mem ⊢
        rcases mem with rfl | mem
        · exact .inr (.inl rfl)
        · rcases ih mem with same | old
          · exact .inl same
          · exact .inr (.inr old)

theorem mem_insertField {key : String} {value : Json} {field : String × Json}
    {fields : List (String × Json)} (mem : field ∈ insertField key value fields) :
    field = (key, value) ∨ field ∈ fields := by
  induction fields with
  | nil => simpa [insertField] using mem
  | cons first rest ih =>
    obtain ⟨key', value'⟩ := first
    rw [insertField] at mem
    split at mem
    · simpa using mem
    · split at mem
      · rcases List.mem_cons.mp mem with same | mem
        · exact .inl same
        · exact .inr (List.mem_cons_of_mem _ mem)
      · rcases List.mem_cons.mp mem with rfl | mem
        · exact .inr List.mem_cons_self
        · rcases ih mem with same | old
          · exact .inl same
          · exact .inr (List.mem_cons_of_mem _ old)

/-- Insertion keeps a map ordered. -/
theorem SortedFields.insertField {key : String} {value : Json} {fields : List (String × Json)}
    (sorted : SortedFields fields) (valueSorted : KeySorted value) :
    SortedFields (insertField key value fields) := by
  refine ⟨?_, ?_⟩
  · obtain ⟨keys, -⟩ := sorted
    induction fields with
    | nil => simp [Json.insertField]
    | cons first rest ih =>
      obtain ⟨key', value'⟩ := first
      rw [List.map_cons, List.pairwise_cons] at keys
      obtain ⟨above, restKeys⟩ := keys
      rw [Json.insertField]
      split
      · rename_i below
        simp only [List.map_cons, List.pairwise_cons, List.mem_cons, forall_eq_or_imp]
        exact ⟨⟨below, fun other mem => String.lt_trans below (above other mem)⟩, above, restKeys⟩
      · split
        · rename_i same
          subst same
          exact List.pairwise_cons.mpr ⟨above, restKeys⟩
        · rename_i notBelow different
          rw [List.map_cons, List.pairwise_cons]
          refine ⟨fun other mem => ?_, ih restKeys⟩
          rcases mem_keys_insertField mem with rfl | old
          · rcases String.le_total other key' with le | le
            · exact absurd (String.le_antisymm le (String.not_lt.mp notBelow)) different
            · exact Decidable.by_contra fun notAbove =>
                different (String.le_antisymm (String.not_lt.mp notAbove) le)
          · exact above other old
  · intro field mem
    rcases mem_insertField mem with rfl | old
    · exact valueSorted
    · exact sorted.values field old

/-- Collecting key-sorted values into a map gives a key-sorted object. -/
theorem keySorted_ofFields {fields : List (String × Json)}
    (values : ∀ field ∈ fields, KeySorted field.2) : KeySorted (ofFields fields) := by
  have collected : ∀ (fields sorted : List (String × Json)),
      (∀ field ∈ fields, KeySorted field.2) → SortedFields sorted →
      SortedFields (fields.foldl (fun sorted field => insertField field.1 field.2 sorted) sorted) := by
    intro fields
    induction fields with
    | nil => exact fun sorted _ start => start
    | cons field rest ih =>
      intro sorted values start
      exact ih _ (fun other mem => values other (List.mem_cons_of_mem _ mem))
        (start.insertField (values field List.mem_cons_self))
  exact (collected fields [] values .nil).keySorted

end Json
