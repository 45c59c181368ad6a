import AgentWorkflow.Json.Compact
import AgentWorkflow.Proofs.Text.Encodable
import Mathlib.Tactic.SplitIfs

/-!
# The standard form of a value

What it takes to write a value as JSON in UTF-8. Numbers have to be finite: a value of which that
is true is left as it is where null is put in the place of other numbers. Texts and the names of
fields have to be encodable: the standard form of such a value is encodable as well.

Results:
1. `withoutNonFinite_of_isFinite`: a finite value stays as it is.
2. `Encodable.compact`: the standard form of an encodable value is encodable.
-/

namespace AgentWorkflow

namespace Json

/-! ## Finite values -/

mutual

theorem withoutNonFinite_of_isFinite : ∀ v : Json, v.isFinite → v.withoutNonFinite = v
  | .null, _ | .bool _, _ | .int _, _ | .text _, _ => rfl
  | .real x, h => by
    rw [isFinite] at h
    rw [withoutNonFinite, if_pos h]
  | .array items, h => by
    rw [withoutNonFinite, itemsWithoutNonFinite_of_areFinite items (by rwa [isFinite] at h)]
  | .object fields, h => by
    rw [withoutNonFinite, fieldsWithoutNonFinite_of_fieldsFinite fields (by rwa [isFinite] at h)]

theorem itemsWithoutNonFinite_of_areFinite :
    ∀ items : List Json, areFinite items → itemsWithoutNonFinite items = items
  | [], _ => rfl
  | item :: items, h => by
    rw [areFinite, Bool.and_eq_true] at h
    rw [itemsWithoutNonFinite, withoutNonFinite_of_isFinite item h.1,
      itemsWithoutNonFinite_of_areFinite items h.2]

theorem fieldsWithoutNonFinite_of_fieldsFinite :
    ∀ fields : List (Text × Json), fieldsFinite fields → fieldsWithoutNonFinite fields = fields
  | [], _ => rfl
  | (_, value) :: fields, h => by
    rw [fieldsFinite, Bool.and_eq_true] at h
    rw [fieldsWithoutNonFinite, withoutNonFinite_of_isFinite value h.1,
      fieldsWithoutNonFinite_of_fieldsFinite fields h.2]

end

theorem itemsWithoutNonFinite_eq_map (items : List Json) :
    itemsWithoutNonFinite items = items.map withoutNonFinite := by
  induction items with
  | nil => rfl
  | cons item items ih => rw [itemsWithoutNonFinite, ih, List.map_cons]

theorem areFinite_map {α : Type} {write : α → Json} {xs : List α}
    (h : ∀ x ∈ xs, (write x).isFinite) : areFinite (xs.map write) := by
  induction xs with
  | nil => rfl
  | cons x xs ih =>
    rw [List.map_cons, areFinite, h x List.mem_cons_self,
      ih fun y hy => h y (List.mem_cons_of_mem x hy)]
    rfl

theorem fieldsFinite_map {α : Type} {write : α → Text × Json} {xs : List α}
    (h : ∀ x ∈ xs, (write x).2.isFinite) : fieldsFinite (xs.map write) := by
  induction xs with
  | nil => rfl
  | cons x xs ih =>
    rw [List.map_cons, fieldsFinite, h x List.mem_cons_self,
      ih fun y hy => h y (List.mem_cons_of_mem x hy)]
    rfl

/-! ## Encodable values -/

/-- All texts of a value and all names of its fields can be written in UTF-8. -/
inductive Encodable : Json → Prop
  | null : Encodable .null
  | bool (b : Bool) : Encodable (.bool b)
  | int (n : Int) : Encodable (.int n)
  | real (x : Binary64) : Encodable (.real x)
  | text {t : Text} : t.isEncodable → Encodable (.text t)
  | array {items : List Json} : (∀ item ∈ items, Encodable item) → Encodable (.array items)
  | object {fields : List (Text × Json)} : (∀ field ∈ fields, field.1.isEncodable) →
      (∀ field ∈ fields, Encodable field.2) → Encodable (.object fields)

@[simp] theorem encodable_bool (b : Bool) : (Json.bool b).Encodable := .bool b

@[simp] theorem encodable_text_iff {t : Text} : (Json.text t).Encodable ↔ t.isEncodable :=
  ⟨fun | .text h => h, .text⟩

@[simp] theorem encodable_array_iff {items : List Json} :
    (Json.array items).Encodable ↔ ∀ item ∈ items, item.Encodable :=
  ⟨fun | .array h => h, .array⟩

@[simp] theorem encodable_object_iff {fields : List (Text × Json)} :
    (Json.object fields).Encodable ↔
      ∀ field ∈ fields, field.1.isEncodable ∧ field.2.Encodable :=
  ⟨fun | .object names values => fun field hf => ⟨names field hf, values field hf⟩,
    fun h => .object (fun field hf => (h field hf).1) fun field hf => (h field hf).2⟩

theorem compactItems_eq_map (items : List Json) : compactItems items = items.map compact := by
  induction items with
  | nil => rfl
  | cons item items ih => rw [compactItems, ih, List.map_cons]

theorem compactFields_eq_map (fields : List (Text × Json)) :
    compactFields fields = fields.map fun (name, value) => writtenText name ++ ":" ++ value.compact := by
  induction fields with
  | nil => rfl
  | cons field fields ih =>
    obtain ⟨name, value⟩ := field
    rw [compactFields, ih, List.map_cons]

theorem isEncodable_jsonWritten {c : CodePoint} (h : c.isSurrogate = false) :
    c.jsonWritten.isEncodable := by
  unfold CodePoint.jsonWritten
  split_ifs
  case neg => simpa [Text.isEncodable] using h
  all_goals simp

theorem isEncodable_writtenText {t : Text} (h : t.isEncodable) : (writtenText t).isEncodable := by
  have points : t.all fun c => c.jsonWritten.isEncodable :=
    List.all_eq_true.mpr fun c hc => isEncodable_jsonWritten (Text.isEncodable_iff.mp h c hc)
  simp only [writtenText, Text.isEncodable_append, Text.isEncodable_flatMap, points,
    Text.isEncodable_ofString, Bool.and_self]

/-- The standard form escapes nothing that is printable, so only encodable strings give an
encodable text. -/
theorem Encodable.compact {v : Json} (h : v.Encodable) : v.compact.isEncodable := by
  induction h with
  | null => exact Text.isEncodable_ofString _
  | bool b => cases b <;> exact Text.isEncodable_ofString _
  | int n => exact Text.isEncodable_ofInt n
  | real x => exact Text.isEncodable_realText x
  | text ht => exact isEncodable_writtenText ht
  | @array items _ ih =>
    have written : ∀ t ∈ compactItems items, t.isEncodable := by
      rw [compactItems_eq_map]
      intro t ht
      obtain ⟨item, hitem, rfl⟩ := List.mem_map.mp ht
      exact ih item hitem
    simp [Json.compact, Text.isEncodable_join (Text.isEncodable_ofString _) written]
  | @object fields names _ ih =>
    have written : ∀ t ∈ compactFields fields, t.isEncodable := by
      rw [compactFields_eq_map]
      intro t ht
      obtain ⟨field, hfield, rfl⟩ := List.mem_map.mp ht
      simp [isEncodable_writtenText (names field hfield), ih field hfield]
    simp [Json.compact, Text.isEncodable_join (Text.isEncodable_ofString _) written]

end Json

end AgentWorkflow
