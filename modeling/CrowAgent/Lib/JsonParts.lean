import CrowAgent.Lib.Json

/-!
# Parts of JSON values

`Part` relates a value to the values inside it and says how many containers deep they are.  `prune`
deletes the entries of some keys at every depth.
-/

namespace Json

/-- A part of a value, some containers deep in it. -/
inductive Part : Nat → Json → Json → Prop
  | whole {value : Json} : Part 0 value value
  | element {depth : Nat} {part value : Json} {values : List Json} (mem : value ∈ values)
      (inside : Part depth part value) : Part (depth + 1) part (.array values)
  | field {depth : Nat} {part : Json} {field : String × Json} {fields : List (String × Json)}
      (mem : field ∈ fields) (inside : Part depth part field.2) :
      Part (depth + 1) part (.object fields)

def IsContainer : Json → Prop
  | .array _ => True
  | .object _ => True
  | _ => False

mutual

/-- The value without the entries whose keys are not kept. -/
def prune (keep : String → Bool) : Json → Json
  | .array values => .array (pruneValues keep values)
  | .object fields => .object (pruneFields keep fields)
  | value => value

def pruneValues (keep : String → Bool) : List Json → List Json
  | [] => []
  | value :: rest => prune keep value :: pruneValues keep rest

def pruneFields (keep : String → Bool) : List (String × Json) → List (String × Json)
  | [] => []
  | (key, value) :: rest =>
    if keep key then (key, prune keep value) :: pruneFields keep rest else pruneFields keep rest

end

theorem prune_of_not_isContainer {keep : String → Bool} {value : Json}
    (scalar : ¬value.IsContainer) : prune keep value = value := by
  cases value with
  | array => exact absurd trivial scalar
  | object => exact absurd trivial scalar
  | _ => rfl

theorem pruneValues_eq_map (keep : String → Bool) (values : List Json) :
    pruneValues keep values = values.map (prune keep) := by
  induction values with
  | nil => rfl
  | cons value rest ih => rw [pruneValues, List.map_cons, ih]

theorem pruneFields_eq_map (keep : String → Bool) (fields : List (String × Json)) :
    pruneFields keep fields =
      (fields.filter (keep ·.1)).map fun field => (field.1, prune keep field.2) := by
  induction fields with
  | nil => rfl
  | cons field rest ih =>
    obtain ⟨key, value⟩ := field
    rw [pruneFields, ih]
    by_cases kept : keep key = true
    · simp [kept]
    · simp [kept]

/-- Filtering what is left keeps it. -/
theorem filter_pruneFields (keep : String → Bool) (fields : List (String × Json)) :
    (pruneFields keep fields).filter (keep ·.1) = pruneFields keep fields := by
  rw [pruneFields_eq_map, List.filter_map, List.filter_filter]
  simp

end Json
