import AgentWorkflow.Proofs.Preflight.Names
import AgentWorkflow.Proofs.Project.References
import AgentWorkflow.Proofs.Project.ToolsProgram

/-!
# The two modules agree on the tools

The main module names the functions of the tools module without having seen it: each agent's
functions are told apart on their own, the catalogue's all together. Both passes go by the name of a
tool's function alone, so what one refers to the other defines.

Results:
1. `toolUse?_mainModule`: what the main module takes from the tools module.
2. `nodup_bound`: the tools module binds no name twice.
3. `generate_tools_agree`: the references of one module are the definitions of the other.
-/

namespace AgentWorkflow

namespace Project

open Source

/-! ## The main module -/

/-- What a main module takes from the tools module: all references, and the lists of tools that it
gives to its agents. -/
structure ToolUse where
  references : List Text
  lists : List (List Text)

def toolUse? (program : Text) : Option ToolUse := do
  let leaves ← read? program
  let agents ← ((definitions (linesOf leaves)).filter (isFactoryWord ·.name)).mapM agent?
  return { references := referencesTo toolsAlias leaves, lists := agents.map (·.tools) }

theorem mapM_of_map_eq {α β : Type} {f : α → Option β} {xs : List α} {ys : List β}
    (h : xs.map f = ys.map some) : xs.mapM f = some ys := by
  induction xs generalizing ys with
  | nil =>
    rw [List.map_eq_nil_iff.mp h.symm]
    rfl
  | cons x xs ih =>
    obtain ⟨y, zs, rfl, hy, hz⟩ := List.map_eq_cons_iff.mp h.symm
    simp [← hy, ih hz.symm]

/-- The factories of the main module, and those of the module of a workflow without agents. -/
theorem exists_agents (w : Workflow) (h : Hierarchy) :
    ∃ functions, functions? (mainModule w h) = some functions ∧
      (functions.filter (isFactoryWord ·.name)).mapM agent? = some (w.agents.map (reading w)) := by
  obtain ⟨functions, read, factories⟩ := exists_factories w h
  refine ⟨functions, read, mapM_of_map_eq ?_⟩
  simp only [factories, List.map_map, Function.comp_def, agent?_factoryDefinition]

/-- What the main module takes from the tools module, read back from it. -/
theorem toolUse?_mainModule (w : Workflow) (h : Hierarchy) :
    toolUse? (mainModule w h)
      = some ⟨w.agents.flatMap Tools.functionsOf, w.agents.map toolNames⟩ := by
  obtain ⟨functions, read, agents⟩ := exists_agents w h
  have references := (references_mainModule w h).references
  rw [functions?, Option.map_eq_some_iff] at read
  obtain ⟨leaves, read, rfl⟩ := read
  rw [read, Option.map_some] at references
  simp only [toolUse?, read, agents, Option.bind_eq_bind, Option.bind_some,
    Option.some.inj references, List.map_map]
  rfl

/-! ## The tools module -/

section Bound

variable {agents : List Agent} {d : ToolDefinition}

theorem schema_not_mem (h : d ∈ Tools.catalogue agents) :
    d.schema ∉ headerNames ++ [("ALL_TOOLS" : Text)] := by
  intro used
  have plain : ∀ name ∈ headerNames ++ [("ALL_TOOLS" : Text)], ('I' : CodePoint) ∉ name := by decide
  exact plain _ used (Tools.capital_mem_schema h)

theorem function_not_mem (h : d ∈ Tools.catalogue agents) :
    d.function ∉ headerNames ++ [("ALL_TOOLS" : Text)] := by
  intro used
  have kinds : ∀ name ∈ headerNames ++ [("ALL_TOOLS" : Text)],
      name ∈ Naming.toolsModuleNames ∨ ∃ c ∈ name, Naming.isSnakePoint c = false := by decide
  rcases kinds _ used with needed | ⟨c, hc, capital⟩
  · rw [Tools.function_eq h] at needed
    exact Naming.toolFunction_not_mem d.tool.name needed
  · rw [Tools.isSnakePoint_of_mem_function h c hc] at capital
    contradiction

/-- The tools module binds no name twice. -/
theorem nodup_bound (agents : List Agent) : (toolsReading (Tools.catalogue agents)).bound.Nodup := by
  have others : (headerNames ++ [("ALL_TOOLS" : Text)]).Nodup := by decide
  have apart : List.Disjoint (headerNames ++ [("ALL_TOOLS" : Text)])
      ((Tools.catalogue agents).flatMap fun d => [d.schema, d.function]) := by
    intro name used given
    obtain ⟨d, hd, named⟩ := List.mem_flatMap.mp given
    rcases List.mem_cons.mp named with rfl | named
    · exact schema_not_mem hd used
    · obtain rfl := List.mem_singleton.mp named
      exact function_not_mem hd used
  have whole : (headerNames ++ ((Tools.catalogue agents).flatMap fun d => [d.schema, d.function])
      ++ [("ALL_TOOLS" : Text)]).Nodup := by
    -- the list of all tools is bound last; the names that are the same everywhere come together
    have shuffled := others.append (Tools.nodup_names agents) apart
    refine (List.Perm.nodup_iff ?_).mp shuffled
    rw [List.append_assoc, List.append_assoc]
    exact List.perm_append_comm.append_left headerNames
  rw [toolsReading]
  split
  · exact whole.sublist ((List.nil_sublist headerNames).append_right _ |>.append_right _)
  · exact whole

end Bound

/-! ## Both modules -/

def firstTool? (w : Workflow) (function : Text) : Option Tool :=
  (w.agents.flatMap (·.tools)).find? (Tools.functionOf · = function)

/-- Both modules of a workflow agree on its tools. `main` is what the main module takes from the
tools module, and `tools` is what the tools module tells. -/
structure ToolsAgree (w : Workflow) (main : ToolUse) (tools : ToolsReading) : Prop where
  /-- Nothing refers to the tools module but the lists of the agents. -/
  references : main.references.map toolReference = main.lists.flatten
  /-- Every reference is a function, and its name is bound once. -/
  defined : ∀ f ∈ main.references,
    (tools.functions.map (·.name)).count f = 1 ∧ tools.bound.count f = 1
  /-- Every function is used by an agent. -/
  used : ∀ f ∈ tools.functions, ∃ names ∈ main.lists, toolReference f.name ∈ names
  /-- Every function is listed once, and nothing else is. -/
  listed : (∀ f ∈ tools.functions, tools.listed.count f.name = 1) ∧
    ∀ name ∈ tools.listed, name ∈ tools.functions.map (·.name)
  /-- A function is that of the first tool which asks for it. Its parameter is of a class which is
  made for this tool and whose name is bound once. -/
  first : ∀ f ∈ tools.functions, ∃ d : ToolDefinition, firstTool? w f.name = some d.tool ∧
    f = functionReading d ∧ classReading d ∈ tools.classes ∧ tools.bound.count d.schema = 1
  /-- No two functions have the same class. -/
  own : (tools.functions.map (·.parameters)).Nodup
  /-- No list names a function twice. -/
  distinct : ∀ names ∈ main.lists, names.Nodup
  /-- If preflight reports no error, an agent's list has one entry for each of its tools. -/
  complete : w.preflight.hasErrors = false →
    main.lists = w.agents.map fun a => a.tools.map fun t => toolReference (Tools.functionOf t)

section Agreement

variable {w : Workflow}

theorem functions_toolsReading (ds : List ToolDefinition) :
    (toolsReading ds).functions.map (·.name) = ds.map (·.function) := List.map_map

theorem mem_bound_of_mem_catalogue {d : ToolDefinition} (h : d ∈ Tools.catalogue w.agents) :
    d.schema ∈ (toolsReading (Tools.catalogue w.agents)).bound ∧
      d.function ∈ (toolsReading (Tools.catalogue w.agents)).bound := by
  have inside : ∀ name ∈ [d.schema, d.function],
      name ∈ (toolsReading (Tools.catalogue w.agents)).bound := fun name hn =>
    List.mem_append_left _ (List.mem_append_right _ (List.mem_flatMap.mpr ⟨d, h, hn⟩))
  exact ⟨inside _ (by simp), inside _ (by simp)⟩

/-- Without errors, the functions of an agent's tools are distinct, so none is left out. -/
theorem toolNames_of_sound (sound : w.Sound) {a : Agent} (ha : a ∈ w.agents) :
    toolNames a = a.tools.map fun t => toolReference (Tools.functionOf t) := by
  have apart : (a.tools.map Tools.functionOf).Nodup := by
    have names := (sound.toolNames a ha).apart
    rwa [List.map_map] at names
  rw [toolNames, Tools.functionsOf_of_nodup apart, List.map_map]
  rfl

/-- The two modules agree on tools because both go by the catalogue. -/
theorem toolsAgree (w : Workflow) : ToolsAgree w
    ⟨w.agents.flatMap Tools.functionsOf, w.agents.map toolNames⟩
    (toolsReading (Tools.catalogue w.agents)) where
  references := by
    rw [List.map_flatMap]
    rfl
  defined := by
    intro f hf
    obtain ⟨a, ha, hfa⟩ := List.mem_flatMap.mp hf
    have known : f ∈ (Tools.catalogue w.agents).map (·.function) :=
      Tools.mem_functions.mpr ⟨a, ha, hfa⟩
    rw [functions_toolsReading]
    refine ⟨List.count_eq_one_of_mem (Tools.nodup_functions w.agents) known, ?_⟩
    obtain ⟨d, hd, rfl⟩ := List.mem_map.mp known
    exact List.count_eq_one_of_mem (nodup_bound w.agents) (mem_bound_of_mem_catalogue hd).2
  used := by
    intro f hf
    obtain ⟨d, hd, rfl⟩ := List.mem_map.mp hf
    obtain ⟨a, ha, used⟩ := Tools.mem_functions.mp (List.mem_map_of_mem hd)
    exact ⟨toolNames a, List.mem_map_of_mem ha, List.mem_map_of_mem used⟩
  listed := by
    constructor
    · intro f hf
      obtain ⟨d, hd, rfl⟩ := List.mem_map.mp hf
      exact List.count_eq_one_of_mem (Tools.nodup_functions w.agents) (List.mem_map_of_mem hd)
    · rw [functions_toolsReading]
      exact fun name hn => hn
  first := by
    intro f hf
    obtain ⟨d, hd, rfl⟩ := List.mem_map.mp hf
    exact ⟨d, Tools.find?_tool hd, rfl, List.mem_map_of_mem hd,
      List.count_eq_one_of_mem (nodup_bound w.agents) (mem_bound_of_mem_catalogue hd).1⟩
  own := by
    have injective : Function.Injective fun schema : Text => [(("inputs" : Text), schema)] :=
      fun x y same => (Prod.mk.inj (List.cons.inj same).1).2
    have schemas := (Tools.nodup_schemas w.agents).map injective
    rw [List.map_map] at schemas
    rw [toolsReading, List.map_map]
    exact schemas
  distinct := by
    intro names hn
    obtain ⟨a, -, rfl⟩ := List.mem_map.mp hn
    exact (Hierarchy.nodup_eraseDups _).map fun _ _ same => List.append_cancel_left same
  complete := by
    intro passed
    have sound := Preflight.sound_of_hasErrors passed
    exact List.map_congr_left fun a ha => toolNames_of_sound sound ha

/-- Both modules that a workflow is generated to agree on its tools. -/
theorem generate_tools_agree (options : GenerateOptions) {w : Workflow} {files : Table Text}
    (h : w.generate options = .ok files) :
    ∃ main tools use reading, Table.get? files mainName = some main ∧
      Table.get? files toolsName = some tools ∧ toolUse? main = some use ∧
      tools? tools = some reading ∧ ToolsAgree w use reading := by
  obtain ⟨g, -, rfl⟩ := generate_eq_ok h
  exact ⟨_, _, _, _, get?_mainName options w g, get?_toolsName options w g, toolUse?_mainModule w g,
    tools?_toolsModule w.agents, toolsAgree w⟩

/-- Two agents with a tool of the same name, in different spellings, and one with a name that the
tools module needs. -/
def colleagues : Workflow where
  agents :=
    [{ id := "a", name := "Editor",
       tools := [{ id := "t", name := "look up", description := "Looks up a word." },
         { id := "u", name := "Logger" }] },
     { id := "b", name := "Writer",
       tools := [{ id := "t", name := "Look Up", description := "Looks up a person." }] }]

/-- The hypotheses hold of two agents that share a tool. -/
theorem colleagues_agree : colleagues.preflight.hasErrors = false ∧
    ∃ files main tools use reading, colleagues.generate {} = .ok files ∧
      Table.get? files mainName = some main ∧ Table.get? files toolsName = some tools ∧
      toolUse? main = some use ∧ tools? tools = some reading ∧ ToolsAgree colleagues use reading ∧
      use.lists = [[("agent_tools.look_up" : Text), "agent_tools.logger_"], ["agent_tools.look_up"]] ∧
      (firstTool? colleagues "look_up").map (·.description) = some "Looks up a word." := by
  have passed : colleagues.preflight.hasErrors = false := by decide +kernel
  have generated : colleagues.generate {} = .ok (Project.files {} colleagues
      (Hierarchy.flat .sequential colleagues.agents)) := rfl
  obtain ⟨main, tools, use, reading, foundMain, foundTools, read, told, agree⟩ :=
    generate_tools_agree {} generated
  refine ⟨passed, _, main, tools, use, reading, generated, foundMain, foundTools, read, told, agree,
    (agree.complete passed).trans ?_, ?_⟩
  · decide +kernel
  · decide +kernel

end Agreement

end Project

end AgentWorkflow
