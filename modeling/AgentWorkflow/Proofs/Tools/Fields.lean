import AgentWorkflow.Proofs.Naming.Numbering
import AgentWorkflow.Proofs.Naming.Plain
import AgentWorkflow.Proofs.Tools.Catalogue

/-!
# The fields of an inputs class

A field goes by the identifier of its parameter. If that begins as no field may, the field has a
word in front of it, and the identifier stays as its alias. Only then are repeated names told apart
by numbers. A number cannot make a keyword, but it can bring back a beginning that no field may
have: `model` with a number behind it begins with `model_`.

Results:
1. `names_schemaFields`, `getElem?_schemaFields`: the fields and their parameters, place by place.
2. `name_of_first`, `name_of_repeated`: where a field has the name that its parameter asks for.
3. `isReserved_name_iff`: which fields begin as no field may.
4. `alias?_eq`: which fields have an alias.
5. `schemaFields_usable`: the fields of any tool.
-/

namespace AgentWorkflow

namespace Naming

variable {c : CodePoint} {t name : Text} {n : Nat}

/-! ## Identifiers -/

theorem isKeyword_numbered (name : Text) (n : Nat) : isKeyword (numbered name n) = false :=
  not_isKeyword_of_underscore (List.mem_append_left _ (List.mem_append_right _ List.mem_cons_self))

theorem isDigit_head_identifier (h : c ∈ (identifier t).head?) : c.isDigit = false := by
  simp only [identifier] at h
  split at h
  · rw [List.head?_append_of_ne_nil _ (snakeCase_ne_nil t)] at h
    exact isDigit_head_snakeCase h
  · exact isDigit_head_snakeCase h

theorem isLower_of_isSnakePoint (h : isSnakePoint c) (digit : c.isDigit = false)
    (other : c ≠ '_') : c.isLower := by
  simpa [isSnakePoint, digit, other] using h

/-! ## Numbered names -/

theorem head?_numbered (ne : name ≠ []) : (numbered name n).head? = name.head? := by
  rw [numbered, List.append_assoc, List.head?_append_of_ne_nil name ne]

/-- A number makes a beginning up to an underscore only of what stands before the underscore. -/
theorem isPrefix_numbered_iff {front : Text} (plain : ('_' : CodePoint) ∉ front) :
    front ++ ("_" : Text) <+: numbered name n ↔ front ++ ("_" : Text) <+: name ∨ front = name := by
  have whole : name ++ ("_" : Text) <+: numbered name n := List.prefix_append _ _
  constructor
  · intro h
    rcases List.prefix_or_prefix_of_prefix h whole with inside | beyond
    · rcases List.prefix_concat_iff.mp inside with same | inside
      · exact .inr (List.append_cancel_right same)
      · exact .inl inside
    · rcases List.prefix_concat_iff.mp beyond with same | beyond
      · exact .inr (List.append_cancel_right same).symm
      · exact absurd (beyond.subset (List.mem_append_right name List.mem_cons_self)) plain
  · rintro (inside | rfl)
    · exact (inside.trans (List.prefix_append name _)).trans whole
    · exact whole

end Naming

namespace Tools

open Naming (identifier snakeCase)

variable {name : Text} {n : Nat}

/-! ## Names for fields -/

/-- The name that a parameter asks for. -/
def wantedName (p : Parameter) : Text := fieldName (identifier p.name)

theorem isReserved_iff : isReserved name ↔ ("_" : Text) <+: name ∨ ("model_" : Text) <+: name := by
  rw [isReserved, Bool.or_eq_true, List.isPrefixOf_iff_prefix, List.isPrefixOf_iff_prefix]

theorem isReserved_fieldName (name : Text) : isReserved (fieldName name) = false := by
  simp only [fieldName]
  split
  · rfl
  · next plain =>
    split
    · rfl
    · next other => simp [isReserved, plain, other]

theorem fieldName_of_not_isReserved (h : isReserved name = false) : fieldName name = name := by
  obtain ⟨plain, other⟩ := Bool.or_eq_false_iff.mp h
  simp [fieldName, plain, other]

theorem isReserved_numbered (ne : name ≠ []) :
    isReserved (Naming.numbered name n) ↔ isReserved name ∨ name = "model" := by
  have underscore : ("_" : Text) <+: Naming.numbered name n ↔ ("_" : Text) <+: name ∨ [] = name :=
    Naming.isPrefix_numbered_iff List.not_mem_nil
  have model : ("model_" : Text) <+: Naming.numbered name n ↔
      ("model_" : Text) <+: name ∨ ("model" : Text) = name :=
    Naming.isPrefix_numbered_iff (show ('_' : CodePoint) ∉ ("model" : Text) by decide)
  rw [isReserved_iff, isReserved_iff, underscore, model, or_iff_left ne.symm, or_assoc,
    eq_comm (a := name)]

theorem isKeyword_wantedName (p : Parameter) : Naming.isKeyword (wantedName p) = false := by
  have other : ∀ word ∈ Naming.keywords, ¬("param" : Text) <+: word := by decide
  have marked : ∀ name : Text, Naming.isKeyword (("param" : Text) ++ name) = false := by
    intro name
    rw [Naming.isKeyword, ← Bool.not_eq_true, List.contains_iff_mem]
    exact fun keyword => other _ keyword (List.prefix_append _ name)
  simp only [wantedName, fieldName]
  split
  · exact marked _
  · split
    · exact marked (("_" : Text) ++ identifier p.name)
    · exact Naming.isKeyword_identifier p.name

/-- A wanted name begins with a small letter: one that would not is given a prefix. -/
theorem isLower_head_wantedName (p : Parameter) : ∃ c ∈ (wantedName p).head?, c.isLower := by
  simp only [wantedName, fieldName]
  split
  · exact ⟨_, rfl, by decide⟩
  · next plain =>
    split
    · exact ⟨_, rfl, by decide⟩
    · obtain ⟨c, rest, hname⟩ := List.exists_cons_of_ne_nil (Naming.identifier_ne_nil p.name)
      have head : c ∈ (identifier p.name).head? := by simp [hname]
      refine ⟨c, head, Naming.isLower_of_isSnakePoint
        (Naming.isSnakePoint_of_mem_identifier (List.mem_of_mem_head? head))
        (Naming.isDigit_head_identifier head) ?_⟩
      rintro rfl
      refine plain (List.isPrefixOf_iff_prefix.mpr ?_)
      rw [hname]
      exact List.prefix_append ("_" : Text) rest

theorem wantedName_ne_nil (p : Parameter) : wantedName p ≠ [] := by
  obtain ⟨c, head, -⟩ := isLower_head_wantedName p
  exact List.ne_nil_of_mem (List.mem_of_mem_head? head)

theorem subset_fieldName (raw : Text) : raw ⊆ fieldName raw := by
  simp only [fieldName]
  split
  · exact List.subset_append_right _ raw
  · split
    · exact List.subset_append_right _ raw
    · exact List.Subset.refl raw

section Plain

variable (plain : ('_' : CodePoint) ∉ name)

include plain

theorem fieldName_of_plain : fieldName name = name := by
  have open_ : ∀ front : Text, ('_' : CodePoint) ∈ front → ¬front.isPrefixOf name :=
    fun _ marked h => plain ((List.isPrefixOf_iff_prefix.mp h).subset marked)
  simp only [fieldName, if_neg (open_ "_" (by decide)), if_neg (open_ "model_" (by decide))]

theorem fieldName_eq_iff {raw : Text} : fieldName raw = name ↔ raw = name := by
  constructor
  · rintro rfl
    exact (fieldName_of_plain fun marked => plain (subset_fieldName raw marked)).symm
  · rintro rfl
    exact fieldName_of_plain plain

end Plain

/-- Only a parameter that goes by `model` asks for this name. -/
theorem wantedName_eq_model_iff {p : Parameter} :
    wantedName p = "model" ↔ identifier p.name = "model" :=
  fieldName_eq_iff (by decide)

/-! ## The fields, place by place -/

/-- The names of a tool's fields, as they come from its parameters. -/
theorem names_schemaFields (t : Tool) :
    (schemaFields t).map (·.name) = Naming.distinct (t.parameters.map wantedName) := by
  let raw := t.parameters.map fun p => identifier p.name
  have lengths : (Naming.distinct (raw.map fieldName)).length = (raw.zip t.parameters).length := by
    simp [Naming.distinct, Naming.length_distinctFrom, raw]
  have names : t.parameters.map wantedName = raw.map fieldName := List.map_map.symm
  rw [names, schemaFields, ← List.map_uncurry_zip_eq_zipWith, List.map_map]
  exact List.map_fst_zip (Nat.le_of_eq lengths)

/-- Every parameter has one field, in order. -/
theorem parameters_schemaFields (t : Tool) :
    (schemaFields t).map (·.parameter) = t.parameters := by
  let raw := t.parameters.map fun p => identifier p.name
  have lengths : (raw.zip t.parameters).length = (Naming.distinct (raw.map fieldName)).length := by
    simp [Naming.distinct, Naming.length_distinctFrom, raw]
  have pairs : (raw.zip t.parameters).map (·.2) = t.parameters :=
    List.map_snd_zip (by simp [raw])
  rw [schemaFields, ← List.map_uncurry_zip_eq_zipWith, List.map_map]
  conv_rhs => rw [← pairs, ← List.map_snd_zip (Nat.le_of_eq lengths), List.map_map]
  rfl

section Place

variable {t : Tool} {k : Nat} {f : SchemaField} (here : (schemaFields t)[k]? = some f)

include here

theorem getElem?_schemaFields : t.parameters[k]? = some f.parameter ∧
    (Naming.distinct (t.parameters.map wantedName))[k]? = some f.name := by
  rw [← names_schemaFields, List.getElem?_map, here]
  conv => enter [1]; rw [← parameters_schemaFields t, List.getElem?_map, here]
  exact ⟨rfl, rfl⟩

theorem getElem?_wantedName :
    (t.parameters.map wantedName)[k]? = some (wantedName f.parameter) := by
  rw [List.getElem?_map, (getElem?_schemaFields here).1, Option.map_some]

/-- The field has the name that its parameter asks for, if no earlier one asks for it. -/
theorem name_of_first (first : wantedName f.parameter ∉ (t.parameters.take k).map wantedName) :
    f.name = wantedName f.parameter := by
  rw [List.map_take] at first
  have place := Naming.getElem?_distinct_of_first (getElem?_wantedName here) first
  exact Option.some.inj ((getElem?_schemaFields here).2.symm.trans place)

/-- Otherwise the field has this name with a number behind it. -/
theorem name_of_repeated (again : wantedName f.parameter ∈ (t.parameters.take k).map wantedName) :
    ∃ n, 2 ≤ n ∧ f.name = Naming.numbered (wantedName f.parameter) n := by
  rw [List.map_take] at again
  obtain ⟨n, low, -, place⟩ :=
    Naming.getElem?_distinct_of_repeated (getElem?_wantedName here) again
  exact ⟨n, low, Option.some.inj ((getElem?_schemaFields here).2.symm.trans place)⟩

/-- A field begins as no field may just when it is a `model` that is not the first. -/
theorem isReserved_name_iff : isReserved f.name ↔ identifier f.parameter.name = "model" ∧
    ∃ p ∈ t.parameters.take k, identifier p.name = "model" := by
  have plain := isReserved_fieldName (identifier f.parameter.name)
  by_cases again : wantedName f.parameter ∈ (t.parameters.take k).map wantedName
  · obtain ⟨n, -, name⟩ := name_of_repeated here again
    obtain ⟨p, earlier, same⟩ := List.mem_map.mp again
    rw [name, isReserved_numbered (wantedName_ne_nil _), wantedName, plain,
      or_iff_right Bool.false_ne_true, ← wantedName, wantedName_eq_model_iff]
    constructor
    · intro model
      refine ⟨model, p, earlier, wantedName_eq_model_iff.mp (same.trans ?_)⟩
      exact wantedName_eq_model_iff.mpr model
    · exact And.left
  · rw [name_of_first here again, wantedName, plain]
    refine iff_of_false Bool.false_ne_true ?_
    rintro ⟨model, p, earlier, model'⟩
    refine again (List.mem_map.mpr ⟨p, earlier, ?_⟩)
    rw [wantedName_eq_model_iff.mpr model, wantedName_eq_model_iff.mpr model']

end Place

/-! ## All fields of a tool -/

/-- A field has an alias just when its parameter's identifier begins as no field may, and then this
is the alias. -/
theorem alias?_eq {t : Tool} {f : SchemaField} (hf : f ∈ schemaFields t) :
    f.alias? = if isReserved (identifier f.parameter.name) then
      some (identifier f.parameter.name) else none := by
  obtain ⟨k, here⟩ := List.mem_iff_getElem?.mp hf
  -- a field that begins as its parameter may not has another name than its parameter
  have other : isReserved (identifier f.parameter.name) → f.name ≠ identifier f.parameter.name := by
    intro reserved same
    have model := ((isReserved_name_iff here).mp (same ▸ reserved)).1
    rw [model] at reserved
    exact absurd reserved (by decide)
  obtain ⟨name, -, ⟨wanted, parameter⟩, hp, rfl⟩ := mem_zipWith hf
  have pairs : (t.parameters.map fun p => identifier p.name).zip t.parameters
      = t.parameters.map fun p => (identifier p.name, p) := by
    conv_lhs => rw [← List.map_id' t.parameters, List.map_map, List.zip_map']
    rfl
  rw [pairs] at hp
  obtain ⟨p, -, same⟩ := List.mem_map.mp hp
  obtain ⟨rfl, rfl⟩ := Prod.mk.inj same
  by_cases reserved : isReserved (identifier p.name)
  · simp [reserved, other reserved]
  · simp [reserved]

/-- The name under which the value of a field is passed. -/
def wireName (f : SchemaField) : Text := f.alias?.getD f.name

section Wire

variable {t : Tool} {f : SchemaField} (hf : f ∈ schemaFields t)

include hf

theorem wireName_of_isReserved (h : isReserved (identifier f.parameter.name)) :
    wireName f = identifier f.parameter.name := by
  rw [wireName, alias?_eq hf, if_pos h, Option.getD_some]

theorem wireName_of_not_isReserved (h : ¬isReserved (identifier f.parameter.name)) :
    f.alias? = none ∧ wireName f = f.name := by
  have none := alias?_eq hf
  rw [if_neg h] at none
  exact ⟨none, by rw [wireName, none, Option.getD_none]⟩

end Wire

/-- The fields of an inputs class, as far as they can be used. -/
structure FieldsUsable (t : Tool) : Prop where
  /-- There is one field per parameter, in order. -/
  parameters : (schemaFields t).map (·.parameter) = t.parameters
  distinct : ((schemaFields t).map (·.name)).Nodup
  /-- A name is a small letter with small letters, digits and underscores behind it. -/
  spelling : ∀ f ∈ schemaFields t,
    (∃ c ∈ f.name.head?, c.isLower) ∧ ∀ c ∈ f.name, Naming.isSnakePoint c
  keyword : ∀ f ∈ schemaFields t, ¬Naming.isKeyword f.name
  underscore : ∀ f ∈ schemaFields t, ¬("_" : Text) <+: f.name
  /-- The other beginning comes back where `model` comes again, and nowhere else. -/
  model : ∀ k f, (schemaFields t)[k]? = some f → (("model_" : Text) <+: f.name ↔
    identifier f.parameter.name = "model" ∧
      ∃ p ∈ t.parameters.take k, identifier p.name = "model")
  aliased : ∀ f ∈ schemaFields t, f.alias? =
    if isReserved (identifier f.parameter.name) then some (identifier f.parameter.name) else none

theorem isLower_head_name {t : Tool} : ∀ f ∈ schemaFields t, ∃ c ∈ f.name.head?, c.isLower := by
  refine schemaFields_induction (P := fun name => ∃ c ∈ name.head?, c.isLower) ?_
    fun p _ => isLower_head_wantedName p
  rintro name n ⟨c, head, lower⟩
  refine ⟨c, ?_, lower⟩
  rwa [Naming.head?_numbered (List.ne_nil_of_mem (List.mem_of_mem_head? head))]

theorem field_ne_nil {t : Tool} {f : SchemaField} (hf : f ∈ schemaFields t) : f.name ≠ [] := by
  obtain ⟨c, head, -⟩ := isLower_head_name f hf
  exact List.ne_nil_of_mem (List.mem_of_mem_head? head)

theorem not_underscore_name {t : Tool} {f : SchemaField} (hf : f ∈ schemaFields t) :
    ¬("_" : Text) <+: f.name := by
  rintro ⟨rest, same⟩
  obtain ⟨c, head, lower⟩ := isLower_head_name f hf
  rw [← same] at head
  cases head
  exact absurd lower (by decide)

theorem isKeyword_name {t : Tool} : ∀ f ∈ schemaFields t, Naming.isKeyword f.name = false :=
  schemaFields_induction (P := fun name => Naming.isKeyword name = false)
    (fun name n _ => Naming.isKeyword_numbered name n) fun p _ => isKeyword_wantedName p

/-- The fields of any tool can be used, but for a `model` that is not the first. -/
theorem schemaFields_usable (t : Tool) : FieldsUsable t where
  parameters := parameters_schemaFields t
  distinct := by
    rw [names_schemaFields]
    exact Naming.nodup_distinct _
  spelling f hf := ⟨isLower_head_name f hf, fun _ hc => isSnakePoint_of_mem_fieldName hf hc⟩
  keyword f hf := by simp [isKeyword_name f hf]
  underscore f hf := not_underscore_name hf
  model k f here := by
    rw [← isReserved_name_iff here, isReserved_iff,
      or_iff_right (not_underscore_name (List.mem_of_getElem? here))]
  aliased f hf := alias?_eq hf

example : (schemaFields { parameters := [{ name := "model" }, { name := "model" }] }).map (·.name)
    = ["model", "model_2"] := by decide

end Tools

end AgentWorkflow
