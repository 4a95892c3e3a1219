import CrowAgent.Lib.JsonOrder
import CrowAgent.Protocol.RunEvent

/-!
# Canonical texts and the order of keys

* `canonicalJson_eq_iff`: two values have one canonical text exactly when they are equal up to the
  order of the fields of their objects, and sorting changes no more than that order.
-/

namespace CrowAgent

open Json

/-! ## Sorting as an insertion of fields -/

theorem sortValues_eq_map (values : List Json) : sortValues values = values.map sortJson := by
  induction values with
  | nil => rfl
  | cons value rest ih => rw [sortValues, ih, List.map_cons]

/-- A field under a new key is added to a map. -/
theorem insertField_perm {key : String} {value : Json} {fields : List (String × Json)}
    (new : key ∉ fields.map (·.1)) :
    (insertField key value fields).Perm ((key, value) :: fields) := by
  induction fields with
  | nil => exact .refl _
  | cons field rest ih =>
    obtain ⟨key', value'⟩ := field
    rw [List.map_cons, List.mem_cons, not_or] at new
    rw [insertField]
    split_ifs with below same
    · exact .refl _
    · exact absurd same new.1
    · exact ((ih new.2).cons _).trans (.swap ..)

/-- The fields of a sorted object are those of the object with their values sorted. -/
theorem sortFields_perm {fields before : List (String × Json)}
    (distinct : ((fields ++ before).map (·.1)).Nodup) :
    (sortFields fields before).Perm
      (fields.map (fun field => (field.1, sortJson field.2)) ++ before) := by
  induction fields generalizing before with
  | nil => rw [sortFields, List.map_nil, List.nil_append]
  | cons field rest ih =>
    obtain ⟨key, value⟩ := field
    rw [List.cons_append, List.map_cons, List.nodup_cons, List.map_append, List.mem_append,
      not_or] at distinct
    obtain ⟨⟨newRest, newBefore⟩, restDistinct⟩ := distinct
    have inserted := @insertField_perm key (sortJson value) before newBefore
    have next : ((rest ++ insertField key (sortJson value) before).map (·.1)).Nodup := by
      rw [List.map_append, (List.Perm.append_left _ (inserted.map (·.1))).nodup_iff, List.map_cons,
        List.perm_middle.nodup_iff, List.nodup_cons, List.mem_append, not_or]
      exact ⟨⟨newRest, newBefore⟩, restDistinct⟩
    rw [sortFields, List.map_cons, List.cons_append]
    exact (ih next).trans ((inserted.append_left _).trans List.perm_middle)

/-- Sorting depends on the sorted values of the fields. -/
theorem sortFields_congr {fields fields' before : List (String × Json)}
    (same : fields.map (fun field => (field.1, sortJson field.2)) =
      fields'.map fun field => (field.1, sortJson field.2)) :
    sortFields fields before = sortFields fields' before := by
  induction fields generalizing fields' before with
  | nil => rw [List.map_eq_nil_iff.mp same.symm]
  | cons field rest ih =>
    obtain ⟨field', rest', rfl, isField, isRest⟩ := List.map_eq_cons_iff.mp same.symm
    obtain ⟨sameKey, sameValue⟩ := Prod.mk.inj isField
    rw [sortFields, sortFields, sameKey, sameValue, ih isRest.symm]

/-- Fields that are permuted have one ordered map. -/
theorem sortFields_of_perm {fields fields' : List (String × Json)} (perm : fields.Perm fields')
    (distinct : (fields.map (·.1)).Nodup) : sortFields fields [] = sortFields fields' [] := by
  have ordered : ∀ fields, (sortFields fields []).Pairwise (·.1 < ·.1) := by
    intro fields
    have sorted := keySorted_sortJson (.object fields)
    rw [sortJson] at sorted
    cases sorted with
    | object keys _ => exact List.pairwise_map.mp keys
  have sorted : (sortFields fields []).Perm (sortFields fields' []) := by
    have images := @sortFields_perm fields [] (by rwa [List.append_nil])
    have images' := @sortFields_perm fields' []
      (by rw [List.append_nil]; exact (perm.map _).nodup_iff.mp distinct)
    rw [List.append_nil] at images images'
    exact images.trans ((perm.map _).trans images'.symm)
  exact sorted.eq_of_pairwise
    (fun _ _ _ _ less less' => absurd (String.lt_trans less less') (String.lt_irrefl _))
    (ordered fields) (ordered fields')

/-! ## Sorting and reordering -/

/-- **Sorting is reordering.** -/
theorem reordered_sortJson {value : Json} (mapped : Mapped value) :
    Reordered value (sortJson value) := by
  induction mapped with
  | null => exact .refl _
  | bool => exact .refl _
  | number => exact .refl _
  | string => exact .refl _
  | array _ ih =>
    rw [sortJson, sortValues_eq_map]
    exact @Reordered.map_elements sortJson [] _ ih
  | @object fields keys _ ih =>
    have perm := @sortFields_perm fields [] (by rwa [List.append_nil])
    rw [List.append_nil] at perm
    rw [sortJson]
    exact (@Reordered.map_values sortJson [] fields ih).trans (.fields perm.symm)

/-- **Reordering does not change the sorted value.** -/
theorem sortJson_of_reordered {a b : Json} (same : Reordered a b) (mapped : Mapped a) :
    sortJson a = sortJson b := by
  induction same with
  | refl => rfl
  | trans first _ ih ih' => exact (ih mapped).trans (ih' (first.mapped mapped))
  | fields perm => rw [sortJson, sortJson, sortFields_of_perm perm mapped.fields.1]
  | value _ ih =>
    have values := mapped.fields.2
    rw [List.forall_mem_append, List.forall_mem_cons] at values
    rw [sortJson, sortJson]
    refine congrArg _ (sortFields_congr ?_)
    rw [List.map_append, List.map_append, List.map_cons, List.map_cons, ih values.2.1]
  | element _ ih =>
    have elements := mapped.elements
    rw [List.forall_mem_append, List.forall_mem_cons] at elements
    rw [sortJson, sortJson, sortValues_eq_map, sortValues_eq_map, List.map_append,
      List.map_append, List.map_cons, List.map_cons, ih elements.2.1]

theorem jsonBytes_injective {prims : Primitives} (floats : FloatTexts prims.floatText) {a b : Json}
    (parsedA : Parsed a) (parsedB : Parsed b) (same : prims.jsonBytes a = prims.jsonBytes b) :
    a = b :=
  compact_injective floats parsedA parsedB (String.ofList_injective (utf8_injective same))

/-- **Canonical JSON.**  Two values have one canonical text exactly when they are equal up to the
order of keys; sorting twice is sorting once, and changes nothing but that order. -/
theorem canonicalJson_eq_iff {prims : Primitives} (floats : FloatTexts prims.floatText)
    {a b : Json} (mappedA : Mapped a) (mappedB : Mapped b) :
    (canonicalJson prims a = canonicalJson prims b ↔ Reordered a b) ∧
      sortJson (sortJson a) = sortJson a ∧ Reordered a (sortJson a) := by
  have reorderedA := reordered_sortJson mappedA
  have reorderedB := reordered_sortJson mappedB
  refine ⟨⟨fun same => ?_, fun same => ?_⟩, sortJson_of_keySorted (keySorted_sortJson a),
    reorderedA⟩
  · have sorted := jsonBytes_injective floats
      ((reorderedA.mapped mappedA).parsed (keySorted_sortJson a))
      ((reorderedB.mapped mappedB).parsed (keySorted_sortJson b)) same
    exact (sorted ▸ reorderedA).trans reorderedB.symm
  · rw [canonicalJson, canonicalJson, sortJson_of_reordered same mappedA]

/-! ## A sample pair -/

def sampleNumber : Json := .number (.unsigned 1)

def sampleObject : Json :=
  .object [("z", sampleNumber),
    ("a", .array [.object [("y", .null), ("b", sampleNumber)], .bool true])]

def reorderedObject : Json :=
  .object [("a", .array [.object [("b", sampleNumber), ("y", .null)], .bool true]),
    ("z", sampleNumber)]

theorem mapped_sampleObject : Mapped sampleObject := by
  have inner : Mapped (.object [("y", .null), ("b", sampleNumber)]) :=
    .object (by decide) (List.forall_mem_cons.mpr
      ⟨.null, List.forall_mem_singleton.mpr (.number trivial)⟩)
  have values : Mapped (.array [.object [("y", .null), ("b", sampleNumber)], .bool true]) :=
    .array (List.forall_mem_cons.mpr ⟨inner, List.forall_mem_singleton.mpr .bool⟩)
  exact .object (by decide) (List.forall_mem_cons.mpr
    ⟨.number trivial, List.forall_mem_singleton.mpr values⟩)

theorem reordered_sampleObject : Reordered sampleObject reorderedObject :=
  .trans (.fields (.swap ..)) (@Reordered.value [] _ _ _ _
    (@Reordered.element [] _ _ _ (.fields (.swap ..))))

/-- The two sample objects have one canonical text. -/
theorem canonicalJson_sampleObject :
    canonicalJson { samplePrimitives with floatText := bitsText } sampleObject =
      canonicalJson { samplePrimitives with floatText := bitsText } reorderedObject :=
  (@canonicalJson_eq_iff { samplePrimitives with floatText := bitsText } floatTexts_bitsText _ _
    mapped_sampleObject (reordered_sampleObject.mapped mapped_sampleObject)).1.mpr
      reordered_sampleObject

end CrowAgent
