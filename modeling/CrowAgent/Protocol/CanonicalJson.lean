import CrowAgent.Lib.JsonRead
import CrowAgent.Protocol.Primitives

/-!
# Canonical JSON

What is hashed and signed is the compact text of a value whose objects are sorted by key
(`canonicalJson`).  `keySorted_sortJson` says that `sortJson` reaches every object.
-/

namespace CrowAgent

open Json

mutual

/-- `sort_json`: every object is collected into an ordered map of its sorted values. -/
def sortJson : Json → Json
  | .object fields => .object (sortFields fields [])
  | .array values => .array (sortValues values)
  | other => other

def sortValues : List Json → List Json
  | [] => []
  | value :: rest => sortJson value :: sortValues rest

/-- The fields collected into the ordered map `sorted`. -/
def sortFields : List (String × Json) → List (String × Json) → List (String × Json)
  | [], sorted => sorted
  | (key, value) :: rest, sorted => sortFields rest (insertField key (sortJson value) sorted)

end

/-- `canonical_json` of a value: the compact text of the sorted value. -/
def canonicalJson (prims : Primitives) (value : Json) : Bytes := prims.jsonBytes (sortJson value)

attribute [local simp] sortJson sortValues sortFields

/-- Sorting leaves no object out. -/
theorem keySorted_sortJson (value : Json) : KeySorted (sortJson value) := by
  refine sortJson.induct (fun value => KeySorted (sortJson value))
    (fun values => ∀ value ∈ sortValues values, KeySorted value)
    (fun fields sorted => SortedFields sorted → SortedFields (sortFields fields sorted)) ?_ ?_ ?_ ?_ ?_ ?_ ?_ value
  · intro fields sorted
    rw [sortJson]
    exact (sorted .nil).keySorted
  · intro values sorted
    rw [sortJson]
    exact .array sorted
  · intro other notObject notArray
    cases other with
    | null => exact .null
    | bool value => exact .bool
    | number value => exact .number
    | string value => exact .string
    | array values => exact absurd rfl (notArray values)
    | object fields => exact absurd rfl (notObject fields)
  · intro value mem
    simp at mem
  · intro value rest first others element mem
    rw [sortValues] at mem
    rcases List.mem_cons.mp mem with rfl | mem
    · exact first
    · exact others element mem
  · intro sorted start
    rwa [sortFields]
  · intro key value rest sorted first others start
    rw [sortFields]
    exact others (start.insertField first)

/-- A field beyond all others goes to the end of the map. -/
theorem insertField_append {key : String} {value : Json} {fields : List (String × Json)}
    (above : ∀ key' ∈ fields.map (·.1), key' < key) :
    insertField key value fields = fields ++ [(key, value)] := by
  induction fields with
  | nil => rfl
  | cons field rest ih =>
    obtain ⟨key', value'⟩ := field
    have below : key' < key := above key' List.mem_cons_self
    rw [insertField, if_neg fun less => String.lt_irrefl _ (String.lt_trans less below),
      if_neg fun same => String.lt_irrefl _ (same ▸ below),
      ih fun other mem => above other (List.mem_cons_of_mem _ mem), List.cons_append]

/-- Of fields in order only the values are sorted. -/
theorem sortFields_of_ascending {fields before : List (String × Json)}
    (keys : ((before ++ fields).map (·.1)).Pairwise (· < ·)) :
    sortFields fields before = before ++ fields.map fun field => (field.1, sortJson field.2) := by
  induction fields generalizing before with
  | nil => rw [sortFields, List.map_nil, List.append_nil]
  | cons field rest ih =>
    obtain ⟨key, value⟩ := field
    have above : ∀ key' ∈ before.map (·.1), key' < key := by
      rw [List.map_append, List.pairwise_append] at keys
      exact fun key' mem => keys.2.2 key' mem key List.mem_cons_self
    rw [sortFields, insertField_append above, ih (by simpa using keys), List.append_assoc,
      List.singleton_append, List.map_cons]

theorem sortJson_of_ascending {fields : List (String × Json)}
    (keys : (fields.map (·.1)).Pairwise (· < ·)) :
    sortJson (.object fields) = .object (fields.map fun field => (field.1, sortJson field.2)) := by
  have ordered : (([] ++ fields).map Prod.fst).Pairwise (· < ·) := keys
  rw [sortJson, sortFields_of_ascending ordered, List.nil_append]

/-- What is sorted already is left as it is. -/
theorem sortJson_of_keySorted {value : Json} (sorted : KeySorted value) : sortJson value = value := by
  refine sortJson.induct (fun value => KeySorted value → sortJson value = value)
    (fun values => (∀ value ∈ values, KeySorted value) → sortValues values = values)
    (fun fields _ => (∀ field ∈ fields, KeySorted field.2) →
      fields.map (fun field => (field.1, sortJson field.2)) = fields)
    ?_ ?_ ?_ ?_ ?_ ?_ ?_ value sorted
  · intro fields ih sorted
    cases sorted with
    | object keys values => rw [sortJson_of_ascending keys, ih values]
  · intro values ih sorted
    cases sorted with
    | array elements => rw [sortJson, ih elements]
  · intro other notObject notArray _
    cases other with
    | object fields => exact absurd rfl (notObject fields)
    | array values => exact absurd rfl (notArray values)
    | _ => rfl
  · intro _
    rfl
  · intro value rest first others sorted
    rw [sortValues, first (sorted value List.mem_cons_self),
      others fun element mem => sorted element (List.mem_cons_of_mem _ mem)]
  · intro before _
    rfl
  · intro key value rest before first others sorted
    rw [List.map_cons, first (sorted (key, value) List.mem_cons_self),
      others fun field mem => sorted field (List.mem_cons_of_mem _ mem)]

/-- A sorted object collects its sorted values. -/
theorem sortJson_object (fields : List (String × Json)) :
    sortJson (.object fields) = ofFields (fields.map fun field => (field.1, sortJson field.2)) := by
  have collected : ∀ fields sorted, sortFields fields sorted =
      (fields.map fun field => (field.1, sortJson field.2)).foldl
        (fun sorted field => insertField field.1 field.2 sorted) sorted := by
    intro fields
    induction fields with
    | nil =>
      intro sorted
      rw [sortFields, List.map_nil, List.foldl_nil]
    | cons field rest ih =>
      intro sorted
      rw [sortFields, ih, List.map_cons, List.foldl_cons]
  rw [sortJson, collected, ofFields]

/-! ## Reading a sorted value -/

/-- Sorting more fields leaves the others under their keys. -/
theorem get?_sortFields_of_notMem {key : String} {fields sorted : List (String × Json)}
    (other : key ∉ fields.map (·.1)) :
    (Json.object (sortFields fields sorted)).get? key = (Json.object sorted).get? key := by
  induction fields generalizing sorted with
  | nil => rw [sortFields]
  | cons field rest ih =>
    obtain ⟨first, value⟩ := field
    rw [List.map_cons, List.mem_cons, not_or] at other
    rw [sortFields, ih other.2, get?_insertField, if_neg fun same => other.1 same.symm]

theorem get?_sortFields {fields sorted : List (String × Json)} (keys : (fields.map (·.1)).Nodup)
    {field : String × Json} (mem : field ∈ fields) :
    (Json.object (sortFields fields sorted)).get? field.1 = some (sortJson field.2) := by
  induction fields generalizing sorted with
  | nil => cases mem
  | cons first rest ih =>
    obtain ⟨key, value⟩ := first
    rw [List.map_cons, List.nodup_cons] at keys
    rw [sortFields]
    rcases List.mem_cons.mp mem with rfl | mem
    · rw [get?_sortFields_of_notMem keys.1, get?_insertField, if_pos rfl]
    · exact ih keys.2 mem

/-- **Fields are found in a sorted object in the order they are asked for.** -/
theorem structFields?_sortJson {fields : List (String × Json)} {keys : List String}
    (same : fields.map (·.1) = keys) (distinct : keys.Nodup) :
    (sortJson (.object fields)).structFields? keys =
      some (fields.map fun field => some (sortJson field.2)) := by
  subst same
  rw [sortJson, structFields?, List.map_map]
  exact congrArg some (List.map_congr_left fun field mem => get?_sortFields distinct mem)

/-- A field that a sorted object lacks is missing behind the others. -/
theorem structFields?_sortJson_missing {fields : List (String × Json)} {keys : List String}
    {key : String} (same : fields.map (·.1) = keys) (distinct : keys.Nodup)
    (missing : key ∉ keys) :
    (sortJson (.object fields)).structFields? (keys ++ [key]) =
      some ((fields.map fun field => some (sortJson field.2)) ++ [none]) := by
  have found := structFields?_sortJson same distinct
  rw [sortJson, structFields?, Option.some.injEq] at found
  rw [sortJson, structFields?, List.map_append, found, List.map_singleton,
    get?_sortFields_of_notMem (same ▸ missing)]
  rfl

theorem sortJson_ofStrings (texts : List String) : sortJson (ofStrings texts) = ofStrings texts := by
  refine sortJson_of_keySorted (.array fun value mem => ?_)
  obtain ⟨text, -, rfl⟩ := List.mem_map.mp mem
  exact .string

theorem sortJson_ofOptionStr (text : Option String) :
    sortJson (ofOptionStr text) = ofOptionStr text := by
  cases text <;> rfl

theorem sortJson_ofU64 (value : UInt64) : sortJson (ofU64 value) = ofU64 value := rfl

end CrowAgent
