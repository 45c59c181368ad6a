import AgentWorkflow.Proofs.Project.ToolAgreement
import AgentWorkflow.Proofs.Tools.Fields

/-!
# Which names of the tools module are covered

A function of the tools module covers every other use of its name in the module, and a field covers
its name in its class. Names made from free text never have a capital in them, so they cover neither
a class nor anything that is imported; two more names are left alone on purpose. The words for types
are not: a tool or a parameter with such a name takes it away from the fields that come later.

Whatever is done to a name to make it usable or to tell it apart brings an underscore in. The words
for types have none, so a name covers one of them just when it is that word in snake case.

Results:
1. `mem_functions_iff`, `mem_fields_iff`: the functions and the fields whose name has no underscore.
2. `toolsModule_covers`: which names are covered in the module of any agents, and by what.
-/

namespace AgentWorkflow

/-! ## Names without an underscore -/

namespace Tools

open Naming (snakeCase)

section Plain

variable {name : Text} (plain : ('_' : CodePoint) ∉ name) (free : Naming.isKeyword name = false)

include plain free

/-- A field has such a name just when a parameter has it in snake case. -/
theorem mem_fields_iff {t : Tool} : name ∈ (schemaFields t).map (·.name) ↔
    ∃ p ∈ t.parameters, snakeCase p.name = name := by
  rw [names_schemaFields, Naming.mem_distinct_iff plain, List.mem_map]
  simp only [wantedName, fieldName_eq_iff plain, Naming.identifier_eq_iff plain free]

/-- A function has such a name just when a tool has it in snake case. -/
theorem mem_functions_iff (unneeded : name ∉ Naming.toolsModuleNames) {agents : List Agent} :
    name ∈ (catalogue agents).map (·.function) ↔
      ∃ a ∈ agents, ∃ t ∈ a.tools, snakeCase t.name = name := by
  rw [mem_functions]
  simp only [functionsOf, List.mem_eraseDups, List.mem_map, functionOf,
    Naming.toolFunction_eq_iff plain free unneeded]

end Plain

end Tools

/-! ## The tools module -/

namespace Project

/-- The names that a class evaluates where it is defined. -/
def ClassReading.evaluated (c : ClassReading) : List Text :=
  c.bases ++ c.fields.flatMap fun f =>
    [("Field" : Text), f.type] ++ if f.optional then [("Optional" : Text)] else []

/-- Which names are covered in the tools module of some agents, and by what. -/
structure Covers (agents : List Agent) (tools : ToolsReading) : Prop where
  /-- Apart from the words for types, a class evaluates what is imported. -/
  evaluated : ∀ c ∈ tools.classes, ∀ name ∈ c.evaluated,
    name ∈ headerNames ∨ ∃ type, name = Tools.typeName type
  /-- No function covers what is imported, the logger, the list of the tools or a class. -/
  functions : ∀ f ∈ tools.functions,
    f.name ∉ headerNames ++ [("ALL_TOOLS" : Text)] ++ tools.classes.map (·.name)
  /-- A function covers the word for a type just when a tool has that name. -/
  functionTypes : ∀ type, Tools.typeName type ∈ tools.functions.map (·.name) ↔
    ∃ a ∈ agents, ∃ t ∈ a.tools, Naming.snakeCase t.name = Tools.typeName type
  /-- No field covers what a class takes from the imports. -/
  fields : ∀ c ∈ tools.classes, ∀ f ∈ c.fields, f.name ∉ [("Optional" : Text), "Field", "BaseModel"]
  /-- A field covers the word for a type just when a parameter of the tool has that name. -/
  fieldTypes : ∀ c ∈ tools.classes, ∃ d ∈ Tools.catalogue agents, c.name = d.schema ∧
    ∀ type, Tools.typeName type ∈ c.fields.map (·.name) ↔
      ∃ p ∈ d.tool.parameters, Naming.snakeCase p.name = Tools.typeName type

/-- The words for types have no underscore, and nothing keeps them from being names. -/
theorem typeName_plain (type : ParameterType) : ('_' : CodePoint) ∉ Tools.typeName type ∧
    Naming.isKeyword (Tools.typeName type) = false ∧
    Tools.typeName type ∉ Naming.toolsModuleNames := by
  cases type <;> decide

section Catalogue

variable {agents : List Agent} {d : ToolDefinition}

theorem evaluated_classReading {name : Text} (h : name ∈ (classReading d).evaluated) :
    name ∈ headerNames ∨ ∃ type, name = Tools.typeName type := by
  rcases List.mem_append.mp h with base | own
  · rw [List.mem_singleton.mp base]
    exact .inl (by decide)
  · obtain ⟨f, hf, used⟩ := List.mem_flatMap.mp own
    obtain ⟨field, -, rfl⟩ := List.mem_map.mp hf
    rcases List.mem_append.mp used with always | optional
    · rcases List.mem_pair.mp always with rfl | rfl
      · exact .inl (by decide)
      · exact .inr ⟨field.parameter.type, rfl⟩
    · split at optional
      · rw [List.mem_singleton.mp optional]
        exact .inl (by decide)
      · exact absurd optional List.not_mem_nil

theorem function_not_mem_classes (h : d ∈ Tools.catalogue agents) :
    d.function ∉ headerNames ++ [("ALL_TOOLS" : Text)]
      ++ ((Tools.catalogue agents).map classReading).map (·.name) := by
  rw [List.mem_append]
  rintro (used | covered)
  · exact function_not_mem h used
  · rw [List.map_map] at covered
    obtain ⟨e, he, same⟩ := List.mem_map.mp covered
    exact Tools.function_ne_schema h he same.symm

theorem field_not_mem {f : SchemaField} (h : f ∈ Tools.schemaFields d.tool) :
    f.name ∉ [("Optional" : Text), "Field", "BaseModel"] := by
  intro used
  have capital : ∀ name ∈ [("Optional" : Text), "Field", "BaseModel"],
      ∃ c ∈ name, Naming.isSnakePoint c = false := by decide
  obtain ⟨c, hc, other⟩ := capital _ used
  rw [Tools.isSnakePoint_of_mem_fieldName h hc] at other
  cases other

theorem names_classReading (d : ToolDefinition) :
    (classReading d).fields.map (·.name) = (Tools.schemaFields d.tool).map (·.name) := List.map_map

end Catalogue

/-- In the tools module of any agents, a function or a field covers nothing that is evaluated but
the words for types, and those where a tool or a parameter has such a name. -/
theorem toolsModule_covers (agents : List Agent) : ∃ reading,
    tools? (toolsModule (Tools.catalogue agents)) = some reading ∧ Covers agents reading := by
  refine ⟨_, tools?_toolsModule agents, ?evaluated, ?functions, ?functionTypes, ?fields,
    ?fieldTypes⟩
  case evaluated =>
    intro c hc name
    obtain ⟨d, -, rfl⟩ := List.mem_map.mp hc
    exact evaluated_classReading
  case functions =>
    intro f hf
    obtain ⟨d, hd, rfl⟩ := List.mem_map.mp hf
    exact function_not_mem_classes hd
  case functionTypes =>
    intro type
    obtain ⟨plain, free, unneeded⟩ := typeName_plain type
    rw [functions_toolsReading]
    exact Tools.mem_functions_iff plain free unneeded
  case fields =>
    intro c hc f hf
    obtain ⟨d, -, rfl⟩ := List.mem_map.mp hc
    obtain ⟨field, hfield, rfl⟩ := List.mem_map.mp hf
    exact field_not_mem hfield
  case fieldTypes =>
    intro c hc
    obtain ⟨d, hd, rfl⟩ := List.mem_map.mp hc
    refine ⟨d, hd, rfl, fun type => ?_⟩
    obtain ⟨plain, free, -⟩ := typeName_plain type
    rw [names_classReading]
    exact Tools.mem_fields_iff plain free

example : Naming.toolFunction "logger" = ("logger_" : Text) ∧ Naming.toolFunction "str" = "str" := by
  decide

end Project

end AgentWorkflow
