import CrowAgent.Lib.JsonText

/-!
# Values up to the order of their fields

Maps that keep no order hold the fields of an object under distinct keys, in any order
(`Mapped`).  Two values are `Reordered` when one comes from the other by permuting the fields of
objects, at any depth.
-/

namespace Json

/-- The value is one that a parser builds, with maps of any order for its objects. -/
inductive Mapped : Json → Prop
  | null : Mapped .null
  | bool {value : Bool} : Mapped (.bool value)
  | number {value : JsonNumber} (parsed : value.Parsed) : Mapped (.number value)
  | string {value : String} : Mapped (.string value)
  | array {values : List Json} (elements : ∀ value ∈ values, Mapped value) : Mapped (.array values)
  | object {fields : List (String × Json)} (keys : (fields.map (·.1)).Nodup)
      (values : ∀ field ∈ fields, Mapped field.2) : Mapped (.object fields)

/-- The values are equal up to the order of the fields of objects, at every depth. -/
inductive Reordered : Json → Json → Prop
  | refl (value : Json) : Reordered value value
  | trans {a b c : Json} : Reordered a b → Reordered b c → Reordered a c
  | fields {fields fields' : List (String × Json)} :
    fields.Perm fields' → Reordered (.object fields) (.object fields')
  | value {before after : List (String × Json)} {key : String} {value value' : Json} :
    Reordered value value' →
      Reordered (.object (before ++ (key, value) :: after))
        (.object (before ++ (key, value') :: after))
  | element {before after : List Json} {value value' : Json} :
    Reordered value value' →
      Reordered (.array (before ++ value :: after)) (.array (before ++ value' :: after))

theorem Reordered.symm {a b : Json} (same : Reordered a b) : Reordered b a := by
  induction same with
  | refl value => exact .refl value
  | trans _ _ first second => exact second.trans first
  | fields perm => exact .fields perm.symm
  | value _ same => exact .value same
  | element _ same => exact .element same

/-- Values reordered one by one. -/
theorem Reordered.map_values {f : Json → Json} {before fields : List (String × Json)}
    (each : ∀ field ∈ fields, Reordered field.2 (f field.2)) :
    Reordered (.object (before ++ fields))
      (.object (before ++ fields.map fun field => (field.1, f field.2))) := by
  induction fields generalizing before with
  | nil => exact .refl _
  | cons field rest ih =>
    rw [List.forall_mem_cons] at each
    have next := @ih (before ++ [(field.1, f field.2)]) each.2
    rw [List.append_assoc, List.append_assoc] at next
    exact (Reordered.value each.1).trans next

theorem Reordered.map_elements {f : Json → Json} {before values : List Json}
    (each : ∀ value ∈ values, Reordered value (f value)) :
    Reordered (.array (before ++ values)) (.array (before ++ values.map f)) := by
  induction values generalizing before with
  | nil => exact .refl _
  | cons value rest ih =>
    rw [List.forall_mem_cons] at each
    have next := @ih (before ++ [f value]) each.2
    rw [List.append_assoc, List.append_assoc] at next
    exact (Reordered.element each.1).trans next

theorem Mapped.fields {fields : List (String × Json)} (mapped : Mapped (.object fields)) :
    (fields.map (·.1)).Nodup ∧ ∀ field ∈ fields, Mapped field.2 := by
  cases mapped with
  | object keys values => exact ⟨keys, values⟩

theorem Mapped.elements {values : List Json} (mapped : Mapped (.array values)) :
    ∀ value ∈ values, Mapped value := by
  cases mapped with
  | array elements => exact elements

/-- Reordering keeps the keys of every object distinct. -/
theorem Reordered.mapped {a b : Json} (same : Reordered a b) (mapped : Mapped a) : Mapped b := by
  induction same with
  | refl => exact mapped
  | trans _ _ first second => exact second (first mapped)
  | fields perm =>
    obtain ⟨keys, values⟩ := mapped.fields
    exact .object ((perm.map _).nodup_iff.mp keys) fun field mem =>
      values field (perm.mem_iff.mpr mem)
  | @value before after key value value' _ ih =>
    obtain ⟨keys, values⟩ := mapped.fields
    simp only [List.map_append, List.map_cons] at keys
    rw [List.forall_mem_append, List.forall_mem_cons] at values
    refine .object (by simpa only [List.map_append, List.map_cons] using keys) ?_
    rw [List.forall_mem_append, List.forall_mem_cons]
    exact ⟨values.1, ih values.2.1, values.2.2⟩
  | @element before after value value' _ ih =>
    have elements := mapped.elements
    rw [List.forall_mem_append, List.forall_mem_cons] at elements
    refine .array ?_
    rw [List.forall_mem_append, List.forall_mem_cons]
    exact ⟨elements.1, ih elements.2.1, elements.2.2⟩

/-- A mapped value with its keys in order is parsed. -/
theorem Mapped.parsed {value : Json} (mapped : Mapped value) (sorted : KeySorted value) :
    Parsed value := by
  induction mapped with
  | null => exact .null
  | bool => exact .bool
  | number parsed => exact .number parsed
  | string => exact .string
  | array _ ih =>
    cases sorted with
    | array elements => exact .array fun value mem => ih value mem (elements value mem)
  | object _ _ ih =>
    cases sorted with
    | object keys values => exact .object keys fun field mem => ih field mem (values field mem)

end Json
