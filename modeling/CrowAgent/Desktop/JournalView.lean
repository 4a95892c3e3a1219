import CrowAgent.Core.ModelTurn
import CrowAgent.Lib.JsonParts

/-!
# The view of a journal

The desktop shows the events of a run with their payloads cut down by `sanitizeJournalPayload`.
`sanitizes` says that what is shown is bounded in every direction, holds no private key, is shown the
same again, and does not depend on any private entry.
-/

namespace CrowAgent

open Json

/-- `private_journal_field`. -/
def privateJournalField (key : String) : Bool :=
  let key := toAsciiLowercase key.toList
  ["raw", "prompt", "transcript", "instruction", "strategy", "secret", "private", "credential",
    "authorization", "ciphertext", "signature", "hash", "receipt", "nonce", "address",
    "wallet"].any (fun blocked => containsText key blocked.toList) ||
  ["token", "access_token", "refresh_token", "api_key", "private_key", "oid", "cloid", "tid",
    "client_order_id", "event_id", "device_id"].any fun blocked => key = blocked.toList

example : privateJournalField "Wallet_Address" = true ∧ privateJournalField "coin" = false := by
  decide

/-- `bounded_public_value`. -/
def boundedPublicValue (value : Json) (depth : Nat) : Json :=
  if 5 ≤ depth then .null
  else
    match value with
    | .null => .null
    | .bool value => .bool value
    | .number value => .number value
    | .string value => .string (.ofList (value.toList.take 256))
    | .array values => .array ((values.take 50).map fun value => boundedPublicValue value (depth + 1))
    | .object fields => .object (((fields.filter fun field => !privateJournalField field.1).take 64).map
        fun field => (field.1, boundedPublicValue field.2 (depth + 1)))
  termination_by 5 - depth

/-- The types of events whose payloads are shown. -/
def shownEventTypes : List String :=
  ["run_started", "run_paused", "run_resumed", "run_stopped", "handoff_snapshot", "cycle_started",
    "cycle_completed", "cycle_failed", "cycle_missed", "proposal", "policy_outcome",
    "order_submitted", "venue_acknowledgement", "fill", "funding", "reconciliation",
    "portfolio_snapshot"]

/-- `sanitize_journal_payload`. -/
def sanitizeJournalPayload (eventType : String) (payload : Json) : Json :=
  if eventType ∉ shownEventTypes then .object [] else boundedPublicValue payload 0

/-! ## Bounds -/

/-- A value within the bounds, apart from what is inside it. -/
def ShownPart : Json → Prop
  | .string text => text.length ≤ 256
  | .array values => values.length ≤ 50
  | .object fields => fields.length ≤ 64 ∧ ∀ field ∈ fields, privateJournalField field.1 = false
  | _ => True

/-- The fields of an object that are shown. -/
theorem shownPart_object (shown : Json → Json) (fields : List (String × Json)) :
    ShownPart (.object (((fields.filter fun field => !privateJournalField field.1).take 64).map
      fun field => (field.1, shown field.2))) := by
  refine ⟨?_, fun field mem => ?_⟩
  · rw [List.length_map]
    exact List.length_take_le _ _
  · obtain ⟨before, isBefore, rfl⟩ := List.mem_map.mp mem
    have kept := (List.mem_filter.mp (List.mem_of_mem_take isBefore)).2
    simpa using kept

/-- Every part of what is shown is within the bounds, and every container is above the fifth level. -/
theorem shownPart_of_part {value part : Json} {depth inner : Nat}
    (inside : Part inner part (boundedPublicValue value depth)) :
    ShownPart part ∧ (part.IsContainer → depth + inner < 5) := by
  fun_induction boundedPublicValue value depth generalizing inner part with
  | case1 _ depth =>
    cases inside
    exact ⟨trivial, False.elim⟩
  | case2 depth =>
    cases inside
    exact ⟨trivial, False.elim⟩
  | case3 depth =>
    cases inside
    exact ⟨trivial, False.elim⟩
  | case4 depth =>
    cases inside
    exact ⟨trivial, False.elim⟩
  | case5 depth _ text =>
    cases inside
    refine ⟨?_, False.elim⟩
    rw [ShownPart, String.length_ofList]
    exact List.length_take_le _ _
  | case6 depth above values ih =>
    cases inside with
    | whole =>
      refine ⟨?_, fun _ => by omega⟩
      rw [ShownPart, List.length_map]
      exact List.length_take_le _ _
    | element mem inside =>
      obtain ⟨value, -, rfl⟩ := List.mem_map.mp mem
      obtain ⟨shown, below⟩ := ih value inside
      exact ⟨shown, fun isContainer => by have := below isContainer; omega⟩
  | case7 depth above fields ih =>
    cases inside with
    | whole =>
      exact ⟨shownPart_object (boundedPublicValue · (depth + 1)) fields, fun _ => by omega⟩
    | field mem inside =>
      obtain ⟨field, -, rfl⟩ := List.mem_map.mp mem
      obtain ⟨shown, below⟩ := ih field inside
      exact ⟨shown, fun isContainer => by have := below isContainer; omega⟩

/-! ## Stability -/

/-- A list cut twice to one length is cut once. -/
theorem take_map_take {α β : Type} (count : Nat) (f : α → β) (items : List α) :
    (((items.take count).map f).take count) = (items.take count).map f := by
  rw [List.take_of_length_le]
  rw [List.length_map]
  exact List.length_take_le _ _

/-- What is shown is shown the same again. -/
theorem boundedPublicValue_idem (value : Json) (depth : Nat) :
    boundedPublicValue (boundedPublicValue value depth) depth = boundedPublicValue value depth := by
  fun_induction boundedPublicValue value depth with
  | case1 _ depth below => rw [boundedPublicValue, if_pos below]
  | case2 depth above => rw [boundedPublicValue, if_neg above]
  | case3 depth above => rw [boundedPublicValue, if_neg above]
  | case4 depth above => rw [boundedPublicValue, if_neg above]
  | case5 depth above text =>
    rw [boundedPublicValue, if_neg above]
    simp only [String.toList_ofList, List.take_take, Nat.min_self]
  | case6 depth above values ih =>
    rw [boundedPublicValue, if_neg above]
    simp only [take_map_take, List.map_map]
    exact congrArg Json.array (List.map_congr_left fun value _ => ih value)
  | case7 depth above fields ih =>
    rw [boundedPublicValue, if_neg above]
    have kept := shownPart_object (boundedPublicValue · (depth + 1)) fields
    rw [List.filter_eq_self.mpr fun field mem => by rw [kept.2 field mem]; rfl, take_map_take,
      List.map_map]
    exact congrArg Json.object (List.map_congr_left fun field _ => by
      rw [Function.comp_apply, ih field])

/-- The entries that are shown are in the order of their keys, as a map of them would have them. -/
theorem keySorted_boundedPublicValue {value : Json} {depth : Nat} (sorted : KeySorted value) :
    KeySorted (boundedPublicValue value depth) := by
  fun_induction boundedPublicValue value depth with
  | case1 => exact .null
  | case2 => exact .null
  | case3 => exact .bool
  | case4 => exact .number
  | case5 => exact .string
  | case6 depth above values ih =>
    cases sorted with
    | array elements =>
      refine .array fun shown mem => ?_
      obtain ⟨value, isValue, rfl⟩ := List.mem_map.mp mem
      exact ih value (elements value (List.mem_of_mem_take isValue))
  | case7 depth above fields ih =>
    cases sorted with
    | object keys values =>
      refine .object ?_ fun shown mem => ?_
      · rw [List.map_map]
        have part := (List.take_sublist 64 _).trans
          (@List.filter_sublist _ (fun field => !privateJournalField field.1) fields)
        exact keys.sublist (part.map Prod.fst)
      · obtain ⟨field, isField, rfl⟩ := List.mem_map.mp mem
        exact ih field (values field (List.mem_filter.mp (List.mem_of_mem_take isField)).1)

/-! ## Private entries -/

/-- A payload without its private entries. -/
def publicPart (payload : Json) : Json := payload.prune fun key => !privateJournalField key

/-- What is shown does not depend on private entries. -/
theorem boundedPublicValue_publicPart (value : Json) (depth : Nat) :
    boundedPublicValue (publicPart value) depth = boundedPublicValue value depth := by
  fun_induction boundedPublicValue value depth with
  | case1 _ depth below => rw [boundedPublicValue.eq_def, if_pos below]
  | case2 depth above =>
    rw [publicPart, prune_of_not_isContainer id, boundedPublicValue, if_neg above]
  | case3 depth above =>
    rw [publicPart, prune_of_not_isContainer id, boundedPublicValue, if_neg above]
  | case4 depth above =>
    rw [publicPart, prune_of_not_isContainer id, boundedPublicValue, if_neg above]
  | case5 depth above text =>
    rw [publicPart, prune_of_not_isContainer id, boundedPublicValue, if_neg above]
  | case6 depth above values ih =>
    rw [publicPart, prune, boundedPublicValue, if_neg above, pruneValues_eq_map]
    simp only [← List.map_take, List.map_map]
    exact congrArg Json.array (List.map_congr_left fun value _ => ih value)
  | case7 depth above fields ih =>
    rw [publicPart, prune, boundedPublicValue, if_neg above]
    have kept := filter_pruneFields (fun key => !privateJournalField key) fields
    rw [kept, pruneFields_eq_map, ← List.map_take, List.map_map]
    exact congrArg Json.object (List.map_congr_left fun field _ => by
      rw [Function.comp_apply]
      exact congrArg (Prod.mk field.1) (ih field))

/-- What is shown of a payload. -/
structure Sanitizes (eventType : String) (payload : Json) : Prop where
  noPrivateKey : ∀ (depth : Nat) (fields : List (String × Json)),
    Part depth (.object fields) (sanitizeJournalPayload eventType payload) →
      ∀ field ∈ fields, privateJournalField field.1 = false
  levels : ∀ (depth : Nat) (part : Json),
    Part depth part (sanitizeJournalPayload eventType payload) → part.IsContainer → depth < 5
  items : ∀ (depth : Nat) (values : List Json),
    Part depth (.array values) (sanitizeJournalPayload eventType payload) → values.length ≤ 50
  entries : ∀ (depth : Nat) (fields : List (String × Json)),
    Part depth (.object fields) (sanitizeJournalPayload eventType payload) → fields.length ≤ 64
  characters : ∀ (depth : Nat) (text : String),
    Part depth (.string text) (sanitizeJournalPayload eventType payload) → text.length ≤ 256
  stable : sanitizeJournalPayload eventType (sanitizeJournalPayload eventType payload) =
    sanitizeJournalPayload eventType payload
  hides : ∀ other : Json, publicPart other = publicPart payload →
    sanitizeJournalPayload eventType other = sanitizeJournalPayload eventType payload

/-- Every part of a sanitized payload is within the bounds. -/
theorem shownPart_of_sanitized {eventType : String} {payload part : Json} {depth : Nat}
    (inside : Part depth part (sanitizeJournalPayload eventType payload)) :
    ShownPart part ∧ (part.IsContainer → depth < 5) := by
  rw [sanitizeJournalPayload] at inside
  split at inside
  · cases inside with
    | whole => exact ⟨⟨by simp, by simp⟩, fun _ => by decide⟩
    | field mem _ => cases mem
  · have shown := shownPart_of_part inside
    rwa [Nat.zero_add] at shown

/-- **The view of a journal.**  What is shown of a payload is bounded, holds no private key, is shown
the same again, and is the same for payloads that differ in private entries only. -/
theorem sanitizes (eventType : String) (payload : Json) : Sanitizes eventType payload where
  noPrivateKey := fun _ _ inside => (shownPart_of_sanitized inside).1.2
  levels := fun _ _ inside => (shownPart_of_sanitized inside).2
  items := fun _ _ inside => (shownPart_of_sanitized inside).1
  entries := fun _ _ inside => (shownPart_of_sanitized inside).1.1
  characters := fun _ _ inside => (shownPart_of_sanitized inside).1
  stable := by
    unfold sanitizeJournalPayload
    split
    · rfl
    · exact boundedPublicValue_idem payload 0
  hides := by
    intro other same
    unfold sanitizeJournalPayload
    split
    · rfl
    · rw [← boundedPublicValue_publicPart, same, boundedPublicValue_publicPart]

end CrowAgent
