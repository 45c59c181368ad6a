import AgentWorkflow.Project.Files
import Mathlib.Data.List.Nodup

/-!
# The files of a project

A project has some of nine files, always in the same order, so that no two of its files share a
name (`names_files_sublist`, `nodup_names_files`). The first two hold its modules.
-/

namespace AgentWorkflow

namespace Project

variable {options : GenerateOptions} {w : Workflow}

/-- The files come in one fixed order, and none of them twice. -/
theorem names_files_sublist (options : GenerateOptions) (w : Workflow) (h : Hierarchy) :
    ((files options w h).map (·.1)).Sublist fileNames := by
  simp only [files, List.map_append]
  have deployed : ((if w.deployment.hasProject then
      [(buildSpecName, buildSpec w.deployment), (deployScriptName, deployScript w.deployment)]
        else []).map (·.1)).Sublist [buildSpecName, deployScriptName] := by
    split
    · exact .refl _
    · exact List.nil_sublist _
  have sample : ((if options.environmentExample then
      [(environmentName, environmentExample w)] else []).map (·.1)).Sublist [environmentName] := by
    split
    · exact .refl _
    · exact List.nil_sublist _
  exact ((List.Sublist.refl _).append deployed).append sample

theorem nodup_names_files (options : GenerateOptions) (w : Workflow) (h : Hierarchy) :
    ((files options w h).map (·.1)).Nodup := by
  have distinct : fileNames.Nodup := by decide
  exact distinct.sublist (names_files_sublist options w h)

theorem name_mem_of_mem_files {h : Hierarchy} {file : Text × Text}
    (hf : file ∈ files options w h) : file.1 ∈ fileNames :=
  (names_files_sublist options w h).subset (List.mem_map_of_mem hf)

theorem get?_mainName (options : GenerateOptions) (w : Workflow) (h : Hierarchy) :
    Table.get? (files options w h) mainName = some (mainModule w h) := rfl

theorem get?_toolsName (options : GenerateOptions) (w : Workflow) (h : Hierarchy) :
    Table.get? (files options w h) toolsName = some (toolsModule (Tools.catalogue w.agents)) := rfl

theorem generate_eq_ok {fs : Table Text} (h : w.generate options = .ok fs) :
    ∃ g, w.hierarchy = .ok g ∧ fs = files options w g := by
  cases hg : w.hierarchy with
  | error e => simp [Workflow.generate, hg, Except.map] at h
  | ok g => exact ⟨g, rfl, by simpa [Workflow.generate, hg, Except.map] using h.symm⟩

end Project

end AgentWorkflow
