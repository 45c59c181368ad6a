import AgentWorkflow.Proofs.Project.ToolAgreement

/-!
# Tools under the names that preflight told

Preflight tells the snake case of a tool's name, and where it has no error to report a tool's
function goes by this name in both modules. It does not tell of the names that the tools module
keeps for itself: a function with such a name has an underscore behind it, and preflight tells the
name without it.

Results:
1. `toolFunction_of_free`: the function of a tool whose name passes.
2. `generate_tools_told`: by which names the tools of a workflow go that preflight lets pass.
-/

namespace AgentWorkflow

open Preflight

namespace Project

/-- The tool at `j` of the agent at `i` goes by a name in both modules: the tools module has one
function of this name, and the agent's list refers to it in the place of the tool. -/
def GoesBy (main : ToolUse) (tools : ToolsReading) (i j : Nat) (name : Text) : Prop :=
  (tools.functions.map (·.name)).count name = 1 ∧
    ∃ names, main.lists[i]? = some names ∧ names[j]? = some (toolReference name)

/-- By which names the tools of a workflow go, compared with what preflight told. -/
structure ToolsTold (w : Workflow) (main : ToolUse) (tools : ToolsReading) : Prop where
  /-- Preflight tells the snake case of a tool's name. -/
  told : ∀ i a j t, w.agents[i]? = some a → a.tools[j]? = some t → ∀ name,
    Announces w (.tools i) j name ↔ name = Naming.snakeCase t.name
  /-- The tool goes by the name that was told, unless the tools module needs that name. -/
  kept : ∀ i a j t, w.agents[i]? = some a → a.tools[j]? = some t → ∀ name,
    Announces w (.tools i) j name → name ∉ Naming.toolsModuleNames → GoesBy main tools i j name
  /-- If it does, no function has the name, and the tool goes by the name with an underscore. -/
  moved : ∀ i a j t, w.agents[i]? = some a → a.tools[j]? = some t → ∀ name,
    Announces w (.tools i) j name → name ∈ Naming.toolsModuleNames →
      name ∉ tools.functions.map (·.name) ∧ GoesBy main tools i j (name ++ ("_" : Text))

/-- The function of a tool whose name passes is its snake case, if the tools module does not need
it. -/
theorem toolFunction_of_free {name : Text} (free : ¬IsReserved name) :
    Naming.toolFunction name = if Naming.snakeCase name ∈ Naming.toolsModuleNames then
      Naming.snakeCase name ++ ("_" : Text) else Naming.snakeCase name := by
  rw [Naming.toolFunction, identifier_of_not_isReserved free]
  simp only [List.contains_iff_mem]

section Sound

variable {w : Workflow} (sound : w.Sound) {i j : Nat} {a : Agent} {t : Tool}
  (ha : w.agents[i]? = some a) (ht : a.tools[j]? = some t)

include sound ha ht

theorem announces_tool {name : Text} :
    Announces w (.tools i) j name ↔ name = Naming.snakeCase t.name := by
  have here : ((Scope.tools i).names w)[j]? = some t.name := by
    rw [names_tools ha, List.getElem?_map, ht, Option.map_some]
  have named := sound.toolNames a (List.mem_of_getElem? ha)
  have inside : t.name ∈ a.tools.map (·.name) := List.mem_map_of_mem (List.mem_of_getElem? ht)
  exact announces_iff here (named.filled _ inside) (named.free _ inside)

theorem toolFunction_of_announces {name : Text} (told : Announces w (.tools i) j name) :
    Tools.functionOf t = if name ∈ Naming.toolsModuleNames then name ++ ("_" : Text) else name := by
  have named := sound.toolNames a (List.mem_of_getElem? ha)
  have inside : t.name ∈ a.tools.map (·.name) := List.mem_map_of_mem (List.mem_of_getElem? ht)
  rw [(announces_tool sound ha ht).mp told, Tools.functionOf,
    toolFunction_of_free (named.free _ inside)]

end Sound

section Agreement

variable {w : Workflow} {main : ToolUse} {tools : ToolsReading} (agree : ToolsAgree w main tools)

include agree

/-- No function has a name that the tools module needs. -/
theorem not_mem_toolsModuleNames {name : Text} (h : name ∈ tools.functions.map (·.name)) :
    name ∉ Naming.toolsModuleNames := by
  obtain ⟨f, hf, rfl⟩ := List.mem_map.mp h
  obtain ⟨d, first, -⟩ := agree.first f hf
  have asked := List.find?_some first
  rw [decide_eq_true_eq] at asked
  exact asked ▸ Naming.toolFunction_not_mem d.tool.name

/-- A tool goes by the same name where it is defined, where it is listed and where it is used. -/
theorem goesBy_functionOf (passed : w.preflight.hasErrors = false) {i j : Nat} {a : Agent}
    {t : Tool} (ha : w.agents[i]? = some a) (ht : a.tools[j]? = some t) :
    GoesBy main tools i j (Tools.functionOf t) := by
  have names : main.lists[i]? = some (a.tools.map fun t => toolReference (Tools.functionOf t)) := by
    rw [agree.complete passed, List.getElem?_map, ha, Option.map_some]
  have entry : (a.tools.map fun t => toolReference (Tools.functionOf t))[j]?
      = some (toolReference (Tools.functionOf t)) := by
    rw [List.getElem?_map, ht, Option.map_some]
  have listed : toolReference (Tools.functionOf t) ∈ main.references.map toolReference := by
    rw [agree.references]
    exact List.mem_flatten.mpr ⟨_, List.mem_of_getElem? names, List.mem_of_getElem? entry⟩
  obtain ⟨f, hf, same⟩ := List.mem_map.mp listed
  obtain rfl := List.append_cancel_left same
  exact ⟨(agree.defined _ hf).1, _, names, entry⟩

/-- The announced name is the one in the modules, unless the tools module needs it for itself. -/
theorem toolsTold (passed : w.preflight.hasErrors = false) : ToolsTold w main tools := by
  have sound := sound_of_hasErrors passed
  refine ⟨fun i a j t ha ht name => announces_tool sound ha ht, ?kept, ?moved⟩
  case kept =>
    intro i a j t ha ht name told unneeded
    have goes := goesBy_functionOf agree passed ha ht
    rwa [toolFunction_of_announces sound ha ht told, if_neg unneeded] at goes
  case moved =>
    intro i a j t ha ht name told needed
    have goes := goesBy_functionOf agree passed ha ht
    rw [toolFunction_of_announces sound ha ht told, if_pos needed] at goes
    exact ⟨fun covered => not_mem_toolsModuleNames agree covered needed, goes⟩

end Agreement

/-- Where preflight reports no error, the tools of the two modules go by the names that it told, but
for those whose names the tools module needs. -/
theorem generate_tools_told (options : GenerateOptions) {w : Workflow} {files : Table Text}
    (passed : w.preflight.hasErrors = false) (h : w.generate options = .ok files) :
    ∃ main tools use reading, Table.get? files mainName = some main ∧
      Table.get? files toolsName = some tools ∧ toolUse? main = some use ∧
      tools? tools = some reading ∧ ToolsTold w use reading := by
  obtain ⟨g, -, rfl⟩ := generate_eq_ok h
  exact ⟨_, _, _, _, get?_mainName options w g, get?_toolsName options w g, toolUse?_mainModule w g,
    tools?_toolsModule w.agents, toolsTold (toolsAgree w) passed⟩

/-- A tool with a name that the tools module needs, behind one with another name. -/
def loggers : Workflow where
  agents :=
    [{ id := "a", name := "writer", tools := [{ id := "t", name := "Look Up" },
        { id := "u", name := "Logger" }] }]

/-- The hypotheses hold of a workflow with a tool that is announced under another name. -/
theorem loggers_told : loggers.preflight.hasErrors = false ∧
    ∃ files main tools use reading, loggers.generate {} = .ok files ∧
      Table.get? files mainName = some main ∧ Table.get? files toolsName = some tools ∧
      toolUse? main = some use ∧ tools? tools = some reading ∧ ToolsTold loggers use reading ∧
      Announces loggers (.tools 0) 0 "look_up" ∧ GoesBy use reading 0 0 "look_up" ∧
      Announces loggers (.tools 0) 1 "logger" ∧
      ("logger" : Text) ∉ reading.functions.map (·.name) ∧ GoesBy use reading 0 1 "logger_" := by
  have passed : loggers.preflight.hasErrors = false := by decide +kernel
  have generated : loggers.generate {} = .ok (Project.files {} loggers
      (Hierarchy.flat .sequential loggers.agents)) := rfl
  obtain ⟨main, tools, use, reading, foundMain, foundTools, read, told, agree⟩ :=
    generate_tools_told {} passed generated
  have lookUp := (agree.told 0 _ 0 _ rfl rfl "look_up").mpr (by decide +kernel)
  have logger := (agree.told 0 _ 1 _ rfl rfl "logger").mpr (by decide +kernel)
  have kept := agree.kept 0 _ 0 _ rfl rfl _ lookUp (by decide)
  obtain ⟨gone, moved⟩ := agree.moved 0 _ 1 _ rfl rfl _ logger (by decide)
  exact ⟨passed, _, main, tools, use, reading, generated, foundMain, foundTools, read, told, agree,
    lookUp, kept, logger, gone, moved⟩

end Project

end AgentWorkflow
