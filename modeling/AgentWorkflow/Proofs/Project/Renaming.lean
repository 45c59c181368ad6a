import AgentWorkflow.Project.Files
import AgentWorkflow.Proofs.Workflow.Renaming

/-!
# Renamed agents make the same project

Nothing in a generated project is an id. Ids only decide which agent is the parent of which, so a
workflow whose agents are renamed is made into the same files, and so is one whose tools and
parameters have other ids.

Results:
1. `files_map`: agents that read alike, in structures of one shape, make the same files.
2. `generate_rename`, `generate_withoutToolIds`: what a workflow is made into.
3. `generate_congr_ids`: both together.
-/

namespace AgentWorkflow

namespace Project

/-! ## Agents that read alike -/

/-- Agents are changed in nothing that is written into a project. -/
structure ReadsAlike (g : Agent → Agent) : Prop where
  name : ∀ a, (g a).name = a.name
  systemPrompt : ∀ a, (g a).systemPrompt = a.systemPrompt
  welcomeMessage : ∀ a, (g a).welcomeMessage = a.welcomeMessage
  inputPlaceholder : ∀ a, (g a).inputPlaceholder = a.inputPlaceholder
  toolNames : ∀ a, (g a).tools.map (·.name) = a.tools.map (·.name)
  model : ∀ a, (g a).model = a.model
  temperature : ∀ a, (g a).temperature = a.temperature

/-- `SameShape g agents h h'`: the changed agents stand in `h'` as the agents stand in `h`, and have
the same identifiers. -/
structure SameShape (g : Agent → Agent) (agents : List Agent) (h h' : Hierarchy) : Prop where
  kind : h'.kind = h.kind
  identifiers : ∀ a, Table.get? (agentIdentifiers (agents.map g)) (g a).id
    = Table.get? (agentIdentifiers agents) a.id
  assembly : Assembly.ofHierarchy (agentIdentifiers (agents.map g)) h'
    = Assembly.ofHierarchy (agentIdentifiers agents) h
  members : members (agents.map g) h' = (members agents h).map g
  ranked : ranked (agents.map g) h' = (ranked agents h).map fun e => (e.1, g e.2)

section Alike

variable {g : Agent → Agent} (alike : ReadsAlike g)

include alike

theorem functionsOf_map (a : Agent) : Tools.functionsOf (g a) = Tools.functionsOf a := by
  have functions : ∀ tools : List Tool,
      tools.map Tools.functionOf = (tools.map (·.name)).map Naming.toolFunction := by
    intro tools
    rw [List.map_map]
    rfl
  rw [Tools.functionsOf, Tools.functionsOf, functions, functions, alike.toolNames]

theorem family?_map (a : Agent) : (g a).family? = a.family? := by
  rw [Agent.family?, Agent.family?, alike.model]

theorem usesFamily_map (agents : List Agent) (family : ModelFamily) :
    usesFamily (agents.map g) family = usesFamily agents family := by
  rw [usesFamily, usesFamily, List.any_map]
  exact congrArg (List.any agents) (funext fun a => by rw [Function.comp_apply, family?_map alike])

theorem usesOther_map (agents : List Agent) : usesOther (agents.map g) = usesOther agents := by
  rw [usesOther, usesOther, List.any_map]
  exact congrArg (List.any agents) (funext fun a => by rw [Function.comp_apply, family?_map alike])

theorem usesGoogle_map (w : Workflow) :
    usesGoogle { w with agents := w.agents.map g } = usesGoogle w := by
  rw [usesGoogle, usesGoogle, usesFamily_map alike]

theorem clientExpression_map (a : Agent) : clientExpression (g a) = clientExpression a := by
  have clients : clientClass (g a) = clientClass a := by
    rw [clientClass, clientClass, family?_map alike]
  have temperatures : emittedTemperature (g a) = emittedTemperature a := by
    rw [emittedTemperature, emittedTemperature, alike.temperature]
  rw [clientExpression, clientExpression, clients, temperatures, alike.model]

theorem factory_map (memory : Memory) (identifier : Text) (a : Agent) :
    factory memory identifier (g a) = factory memory identifier a := by
  have references : toolReferences (g a) = toolReferences a := by
    rw [toolReferences, toolReferences, functionsOf_map alike]
  rw [factory, factory, references, clientExpression_map alike, alike.name, alike.systemPrompt,
    alike.welcomeMessage, alike.inputPlaceholder]

theorem isEmpty_tools_map (a : Agent) : (g a).tools.isEmpty = a.tools.isEmpty := by
  have names := congrArg List.isEmpty (alike.toolNames a)
  rwa [List.isEmpty_map, List.isEmpty_map] at names

theorem toolList_map (a : Agent) : toolList (g a) = toolList a := by
  have quoted : ∀ tools : List Tool, tools.map (fun t => ("`" : Text) ++ t.name ++ "`")
      = (tools.map (·.name)).map fun name => ("`" : Text) ++ name ++ "`" := by
    intro tools
    rw [List.map_map]
    rfl
  rw [toolList, toolList, quoted, quoted, alike.toolNames]

theorem agentEntry_map (depth : Nat) (a : Agent) : agentEntry depth (g a) = agentEntry depth a := by
  simp only [agentEntry, agentTitle, toolSuffix, toolList_map alike, isEmpty_tools_map alike,
    alike.name, alike.model]

theorem stepEntries_map (number : Nat) (agents : List Agent) :
    stepEntries number (agents.map g) = stepEntries number agents := by
  induction agents generalizing number with
  | nil => rfl
  | cons a agents ih =>
    simp only [List.map_cons, stepEntries, agentTitle, toolList_map alike, isEmpty_tools_map alike,
      alike.name, alike.model, ih]

variable {w : Workflow} {h h' : Hierarchy} (shape : SameShape g w.agents h h')

include shape

theorem factories_map (memory : Memory) :
    factories (agentIdentifiers (w.agents.map g)) memory (w.agents.map g)
      = factories (agentIdentifiers w.agents) memory w.agents := by
  rw [factories, factories, List.flatMap_map]
  exact List.flatMap_congr fun a _ => by rw [shape.identifiers, factory_map alike]

theorem mainModule_map :
    mainModule { w with agents := w.agents.map g } h' = mainModule w h := by
  have made := factories_map alike shape (Memory.ofDeployment w.deployment)
  have joined := shape.assembly
  have families := usesFamily_map alike w.agents
  have others := usesOther_map alike w.agents
  rw [mainModule, mainModule, mainLines, mainLines]
  cases hw : w.agents with
  | nil => rfl
  | cons first rest =>
    rw [hw] at made joined families others
    rw [List.map_cons] at made joined families others
    simp only [List.map_cons, imports, guards, usesGoogle, greeting, made, joined, families, others,
      alike.welcomeMessage, alike.inputPlaceholder, hw]

theorem agentEntries_map : agentEntries (w.agents.map g) h' = agentEntries w.agents h := by
  rw [agentEntries, agentEntries, shape.kind, shape.members, shape.ranked]
  cases h.kind with
  | sequential => exact stepEntries_map alike 1 _
  | hierarchical => simp only [List.map_map, Function.comp_def, agentEntry_map alike]
  | collaborative => simp only [List.map_map, Function.comp_def, agentEntry_map alike]

theorem guide_map : guide { w with agents := w.agents.map g } h' = guide w h := by
  simp only [guide, overview, agentEntries_map alike shape, shape.kind, List.isEmpty_map,
    List.length_map]

/-- The files of agents that read alike and stand alike are the same, if their tools are. -/
theorem files_map (options : GenerateOptions)
    (tools : toolsModule (Tools.catalogue (w.agents.map g))
      = toolsModule (Tools.catalogue w.agents)) :
    files options { w with agents := w.agents.map g } h' = files options w h := by
  have environment : environmentExample { w with agents := w.agents.map g }
      = environmentExample w := by
    rw [environmentExample, environmentExample, environmentSections, environmentSections,
      usesGoogle_map alike, usesOther_map alike]
  have packages : ∀ memoryBank,
      requirements (w.agents.map g) memoryBank = requirements w.agents memoryBank := by
    intro memoryBank
    rw [requirements, requirements, usesFamily_map alike, usesFamily_map alike]
  simp only [files, mainModule_map alike shape, guide_map alike shape, tools, environment, packages]

end Alike

/-- Agents that keep their ids and names stand in every structure as they stood. -/
theorem sameShape_map (g : Agent → Agent) (ids : ∀ a, (g a).id = a.id)
    (names : ∀ a, (g a).name = a.name) (agents : List Agent) (h : Hierarchy) :
    SameShape g agents h h where
  kind := rfl
  identifiers a := by rw [agentIdentifiers_map ids names, ids]
  assembly := by rw [agentIdentifiers_map ids names]
  members := by
    rw [Project.members, Project.members, List.map_filterMap]
    exact List.filterMap_congr fun id _ => Hierarchy.agent?_map ids agents id
  ranked := by
    rw [Project.ranked, Project.ranked, List.map_filterMap]
    refine List.filterMap_congr fun e _ => ?_
    simp [Hierarchy.agent?_map ids, Function.comp_def]

/-! ## Agents with other ids -/

section Rename

variable {f : Text → Text}

theorem readsAlike_rename : ReadsAlike (Agent.rename f) :=
  ⟨fun _ => rfl, fun _ => rfl, fun _ => rfl, fun _ => rfl, fun _ => rfl, fun _ => rfl, fun _ => rfl⟩

theorem catalogue_rename (agents : List Agent) :
    Tools.catalogue (agents.map (Agent.rename f)) = Tools.catalogue agents := by
  rw [Tools.catalogue, Tools.catalogue, List.flatMap_map]
  rfl

variable (hf : Function.Injective f)

include hf

/-- Renaming ids keeps the shape of a structure, which is all that a module takes from it. -/
theorem sameShape_rename (agents : List Agent) (h : Hierarchy) :
    SameShape (Agent.rename f) agents h (h.rename f) where
  kind := rfl
  identifiers a := get?_agentIdentifiers_rename hf agents a.id
  assembly := by
    have members : (h.rename f).order = h.order.map f := rfl
    have kind : (h.rename f).kind = h.kind := rfl
    simp only [Assembly.ofHierarchy, kind, members, Hierarchy.walk_rename hf, List.filter_map,
      List.map_map, Function.comp_def, renameEntry, Hierarchy.childrenOf_rename hf,
      get?_agentIdentifiers_rename hf, List.isEmpty_map]
  members := by
    rw [Project.members, Project.members, Hierarchy.rename, List.filterMap_map, List.map_filterMap]
    exact List.filterMap_congr fun id _ => Hierarchy.agent?_rename hf agents id
  ranked := by
    rw [Project.ranked, Project.ranked, Hierarchy.walk_rename hf, List.filterMap_map,
      List.map_filterMap]
    refine List.filterMap_congr fun e _ => ?_
    simp [renameEntry, Hierarchy.agent?_rename hf, Function.comp_def]

end Rename

/-! ## Tools with other ids -/

theorem readsAlike_withoutToolIds : ReadsAlike Agent.withoutToolIds where
  name _ := rfl
  systemPrompt _ := rfl
  welcomeMessage _ := rfl
  inputPlaceholder _ := rfl
  toolNames a := by
    rw [Agent.withoutToolIds, List.map_map]
    rfl
  model _ := rfl
  temperature _ := rfl

theorem toolLines_withoutIds (d : ToolDefinition) :
    toolLines (Tools.withoutIds d) = toolLines d := by
  have declarations : ∀ fields : List SchemaField,
      (fields.map Tools.fieldWithoutId).map fieldLine = fields.map fieldLine := by
    intro fields
    rw [List.map_map]
    rfl
  have summaries : ∀ fields : List SchemaField,
      (fields.map Tools.fieldWithoutId).map fieldSummary = fields.map fieldSummary := by
    intro fields
    rw [List.map_map]
    rfl
  have fields : Tools.schemaFields (Tools.withoutIds d).tool
      = (Tools.schemaFields d.tool).map Tools.fieldWithoutId := Tools.schemaFields_withoutIds d.tool
  simp only [toolLines, fields, schemaClass, stub, documentation, declarations, summaries,
    List.isEmpty_map]
  rfl

theorem toolsModule_withoutIds (definitions : List ToolDefinition) :
    toolsModule (definitions.map Tools.withoutIds) = toolsModule definitions := by
  have functions : ∀ d, (Tools.withoutIds d).function = d.function := fun _ => rfl
  simp only [toolsModule, toolsLines, List.isEmpty_map, List.flatMap_map, toolLines_withoutIds,
    allTools, List.map_map, Function.comp_def, functions]

end Project

/-! ## What is made -/

open Project

/-- Generating commutes with an injective renaming of ids: the files stay the same, and an error
is about the renamed agents. -/
theorem generate_rename {f : Text → Text} (hf : Function.Injective f) (options : GenerateOptions)
    (w : Workflow) : (w.rename f).generate options
      = (w.generate options).mapError (HierarchyError.rename f) := by
  have structured : (w.rename f).hierarchy
      = (w.hierarchy.mapError (HierarchyError.rename f)).map (Hierarchy.rename f) :=
    Hierarchy.resolve_rename hf w.agents w.kind
  rw [Workflow.generate, Workflow.generate, structured]
  cases w.hierarchy with
  | error e => rfl
  | ok h =>
    have made := files_map readsAlike_rename (sameShape_rename hf w.agents h) options
      (by rw [catalogue_rename])
    exact congrArg Except.ok made

/-- No part of a project depends on the ids of tools and parameters. -/
theorem generate_withoutToolIds (options : GenerateOptions) (w : Workflow) :
    w.withoutToolIds.generate options = w.generate options := by
  have structured : w.withoutToolIds.hierarchy = w.hierarchy :=
    Hierarchy.resolve_withoutToolIds w.agents w.kind
  rw [Workflow.generate, Workflow.generate, structured]
  cases w.hierarchy with
  | error e => rfl
  | ok h =>
    have shape := sameShape_map Agent.withoutToolIds (fun _ => rfl) (fun _ => rfl) w.agents h
    have made := files_map readsAlike_withoutToolIds shape options
      (by rw [Tools.catalogue_withoutToolIds, toolsModule_withoutIds])
    exact congrArg Except.ok made

/-- A workflow with other ids that form the same structure is made into the same files. -/
theorem generate_congr_ids {f : Text → Text} (hf : Function.Injective f) {v w : Workflow}
    (same : w.withoutToolIds = (v.rename f).withoutToolIds) (options : GenerateOptions)
    (files : Table Text) : v.generate options = .ok files ↔ w.generate options = .ok files := by
  rw [← generate_withoutToolIds options w, same, generate_withoutToolIds, generate_rename hf]
  cases v.generate options with
  | error e => simp [Except.mapError]
  | ok made => rfl

/-- A lead with a report that has a tool. -/
def pair : Workflow where
  kind := .hierarchical
  agents :=
    [{ id := "2", name := "Lead" },
     { id := "1", name := "Report", parent := some "2", tools := [{ id := "t", name := "search" }] }]

/-- The same agents, their ids changed in order. -/
def pairRenamed : Workflow where
  kind := .hierarchical
  agents :=
    [{ id := "a2", name := "Lead" },
     { id := "a1", name := "Report", parent := some "a2", tools := [{ id := "", name := "search" }] }]

/-- The hypothesis holds of a renaming of two agents, one above the other. -/
theorem pair_made_alike : Function.Injective (("a" : Text) ++ ·) ∧
    pairRenamed.withoutToolIds = (pair.rename (("a" : Text) ++ ·)).withoutToolIds ∧
    ∃ files, pair.generate {} = .ok files ∧ pairRenamed.generate {} = .ok files := by
  have injective : Function.Injective (("a" : Text) ++ ·) := fun _ _ => List.append_cancel_left
  have same : pairRenamed.withoutToolIds
      = (pair.rename (("a" : Text) ++ ·)).withoutToolIds := by decide
  have made : pair.generate {} = .ok (files {} pair (Hierarchy.forest pair.agents)) := rfl
  exact ⟨injective, same, _, made, (generate_congr_ids injective same {} _).mp made⟩

end AgentWorkflow
