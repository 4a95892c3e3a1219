import CrowAgent.Lib.Json

/-!
# Reading structures from JSON

A structure is read from an object, whose other fields are ignored, or from an array of exactly its
fields.  A variant without data is read from its name or from an object with `null` under it.
-/

namespace Json

/-- The fields of a structure in the order of their declaration; the ones an object lacks are
`none`. -/
def structFields? (json : Json) (keys : List String) : Option (List (Option Json)) :=
  match json with
  | .object _ => some (keys.map json.get?)
  | .array values => if values.length = keys.length then some (values.map some) else none
  | _ => none

def unitVariant? : Json → Option String
  | .string name => some name
  | .object [(name, .null)] => some name
  | _ => none

def toBool? : Json → Option Bool
  | .bool value => some value
  | _ => none

def toU16? : Json → Option UInt16
  | .number (.unsigned value) => if value.toNat < 2 ^ 16 then some value.toUInt16 else none
  | .number (.signed value) =>
    if 0 ≤ value.toInt ∧ value.toInt < 2 ^ 16 then some value.toUInt64.toUInt16 else none
  | _ => none

def toI64? : Json → Option Int64
  | .number (.unsigned value) => if value.toNat < 2 ^ 63 then some value.toInt64 else none
  | .number (.signed value) => some value
  | _ => none

def toU64? : Json → Option UInt64
  | .number (.unsigned value) => some value
  | .number (.signed value) => if 0 ≤ value.toInt then some value.toUInt64 else none
  | _ => none

def toU32? (json : Json) : Option UInt32 :=
  json.toU64?.bind fun value => if value.toNat < 2 ^ 32 then some value.toUInt32 else none

def toU8? (json : Json) : Option UInt8 :=
  json.toU64?.bind fun value => if value.toNat < 2 ^ 8 then some value.toUInt8 else none

def toStrings? : Json → Option (List String)
  | .array values => values.mapM asStr?
  | _ => none

/-- An optional text; it may be missing. -/
def toOptionStr? : Option Json → Option (Option String)
  | none | some .null => some none
  | some json => json.asStr?.map some

/-- A field with a default for when it is missing. -/
def orDefault {α : Type} (read : Json → Option α) (default : α) : Option Json → Option α
  | none => some default
  | some json => read json

/-! ## Numbers and texts are read as they were written -/

def ofU64 (value : UInt64) : Json := .number (.unsigned value)

theorem toU64?_ofU64 (value : UInt64) : (ofU64 value).toU64? = some value := rfl

theorem toU32?_ofU64 (value : UInt32) : (ofU64 value.toUInt64).toU32? = some value := by
  have bound : value.toUInt64.toNat < 2 ^ 32 := by
    rw [UInt32.toNat_toUInt64]
    exact value.toNat_lt
  rw [toU32?, toU64?_ofU64, Option.bind_some, if_pos bound, UInt32.toUInt32_toUInt64]

theorem toU16?_ofU64 (value : UInt16) : (ofU64 value.toUInt64).toU16? = some value := by
  have bound : value.toUInt64.toNat < 2 ^ 16 := by
    rw [UInt16.toNat_toUInt64]
    exact value.toNat_lt
  rw [ofU64, toU16?, if_pos bound, UInt16.toUInt16_toUInt64]

theorem toU8?_ofU64 (value : UInt8) : (ofU64 value.toUInt64).toU8? = some value := by
  have bound : value.toUInt64.toNat < 2 ^ 8 := by
    rw [UInt8.toNat_toUInt64]
    exact value.toNat_lt
  rw [toU8?, toU64?_ofU64, Option.bind_some, if_pos bound, UInt8.toUInt8_toUInt64]

def ofStrings (texts : List String) : Json := .array (texts.map .string)

theorem toStrings?_ofStrings (texts : List String) : (ofStrings texts).toStrings? = some texts := by
  induction texts with
  | nil => rfl
  | cons text texts ih =>
    have rest : (texts.map Json.string).mapM asStr? = some texts := ih
    rw [ofStrings, toStrings?, List.map_cons, List.mapM_cons, rest]
    rfl

def ofOptionStr (text : Option String) : Json := (text.map .string).getD .null

theorem toOptionStr?_ofOptionStr (text : Option String) :
    toOptionStr? (some (ofOptionStr text)) = some text := by
  cases text <;> rfl

/-- What is read from a value, and what the rest of the reader makes of it. -/
theorem bind_of_some {α β : Type} {value : Option α} {rest : α → Option β} {a : α} {b : β}
    (first : value = some a) (others : rest a = some b) : (value >>= rest) = some b := by
  rw [first]
  exact others

/-! ## Fields of an ordered map -/

theorem get?_cons (key key' : String) (value : Json) (rest : List (String × Json)) :
    (object ((key', value) :: rest)).get? key =
      if key' = key then some value else (object rest).get? key := by
  simp only [get?, List.find?_cons]
  by_cases same : key' = key
  · simp [same]
  · simp [same]

/-- An inserted field is found under its key, the others where they were. -/
theorem get?_insertField (key key' : String) (value : Json) (fields : List (String × Json)) :
    (object (insertField key' value fields)).get? key =
      if key' = key then some value else (object fields).get? key := by
  induction fields with
  | nil => rw [insertField, get?_cons]
  | cons field rest ih =>
    obtain ⟨first, other⟩ := field
    rw [insertField]
    by_cases below : key' < first
    · rw [if_pos below, get?_cons]
    · rw [if_neg below]
      by_cases replaced : key' = first
      · subst replaced
        rw [if_pos rfl, get?_cons, get?_cons]
        split <;> rfl
      · rw [if_neg replaced, get?_cons, get?_cons, ih]
        by_cases here : first = key
        · subst here
          rw [if_pos rfl, if_neg replaced, if_pos rfl]
        · rw [if_neg here, if_neg here]

/-- The first of two fields. -/
theorem get?_ofFields_pair {key other : String} {value value' : Json} (different : other ≠ key) :
    (ofFields [(key, value), (other, value')]).get? key = some value := by
  simp only [ofFields, List.foldl_cons, List.foldl_nil]
  rw [get?_insertField, if_neg different, get?_insertField, if_pos rfl]

/-- The fields that are read from an ordered value are ordered. -/
theorem KeySorted.of_structFields? {json value : Json} {keys : List String}
    {fields : List (Option Json)} (ordered : json.KeySorted)
    (read : json.structFields? keys = some fields) (mem : some value ∈ fields) :
    value.KeySorted := by
  cases ordered with
  | array elements =>
    simp only [structFields?, Option.ite_none_right_eq_some, Option.some.injEq] at read
    obtain ⟨-, rfl⟩ := read
    obtain ⟨element, mem, same⟩ := List.mem_map.mp mem
    exact Option.some.inj same ▸ elements element mem
  | object _ values =>
    obtain rfl := Option.some.inj read
    obtain ⟨key, -, found⟩ := List.mem_map.mp mem
    obtain ⟨field, isField, rfl⟩ := Option.map_eq_some_iff.mp found
    exact values field (List.mem_of_find?_eq_some isField)
  | _ => cases read

end Json
