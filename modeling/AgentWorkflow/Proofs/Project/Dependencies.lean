import AgentWorkflow.Project.Requirements
import AgentWorkflow.Proofs.Project.Furnishing

/-!
# What a project imports and what it lists as required

The requirements file lists packages, one on a line, and the main module imports from some of them.
The two are made from different readings of the agents' models: OpenAI's client stands in for every
model that is not Vertex's, but its package is listed only for the models that show that they are
OpenAI's.

Results:
1. `packages_requirementsFile`: the packages that the file lists.
2. `generate_declares`: what is imported from Google is listed, and what is imported from OpenAI is
   listed but in one case.
-/

namespace AgentWorkflow

namespace Project

open Source

/-! ## Reading -/

/-- The package that a line requires: what stands in front of a comment. -/
def package? (line : Text) : Option Text :=
  let package := Text.trim (line.takeWhile (· ≠ ('#' : CodePoint)))
  if package.isEmpty then none else some package

/-- The packages that a requirements file lists, in order. -/
def packages (file : Text) : List Text := Text.onLines package? file

/-- The packages of the clients: OpenAI's, and Google's for Vertex and for the memory bank. -/
def openaiPackage : Text := "openai"

def googlePackage : Text := "google-cloud-aiplatform"

/-- The packages that projects can require, in the order in which they are listed. -/
def packageTable : List Text := baseRequirements ++ [openaiPackage] ++ [googlePackage]

theorem packages_of_mem_packageTable : ∀ package ∈ packageTable, packages package = [package] := by
  decide +kernel

/-- The file lists what it is made from. -/
theorem packages_requirementsFile {required : List Text}
    (h : ∀ package ∈ required, package ∈ packageTable) :
    packages (requirementsFile required) = required := by
  have blank : package? [] = none := rfl
  have remarks : packages ("# The ADK may have optional dependencies.\n"
      ++ ("# e.g., adk[google] for full GCP support.\n"
        ++ "# python-dotenv  # Recommended for local development\n")) = [] := by
    repeat rw [Text.ofString_ofList]
    decide +kernel
  have shape : requirementsFile required = Text.join "\n" required
      ++ ('\n' : CodePoint) :: ("# The ADK may have optional dependencies.\n"
        ++ ("# e.g., adk[google] for full GCP support.\n"
          ++ "# python-dotenv  # Recommended for local development\n")) := by
    have opened : ("\n# The ADK may have optional dependencies.\n" : Text)
        = ('\n' : CodePoint) :: "# The ADK may have optional dependencies.\n" := rfl
    rw [requirementsFile, opened, List.append_assoc, List.append_assoc]
    rfl
  have each : required.flatMap (Text.onLines package?) =
      required.flatMap fun package => [package] :=
    List.flatMap_congr fun package hp => packages_of_mem_packageTable package (h package hp)
  rw [packages] at remarks ⊢
  rw [shape, Text.onLines_append_cons, remarks, List.append_nil, Text.onLines_join blank, each,
    ← List.map_eq_flatMap, List.map_id']

/-! ## What is listed -/

theorem requirements_sublist (agents : List Agent) (memoryBank : Bool) :
    (requirements agents memoryBank).Sublist packageTable := by
  have optional : ∀ (c : Bool) (package : Text),
      (if c then [package] else []).Sublist [package] := by
    rintro (_ | _) package
    · exact List.nil_sublist _
    · exact List.Sublist.refl _
  exact ((List.Sublist.refl _).append (optional _ _)).append (optional _ _)

section Mem

variable {agents : List Agent} {memoryBank : Bool}

theorem requirements_eq : requirements agents memoryBank = baseRequirements
    ++ (if usesFamily agents .openai then [openaiPackage] else [])
    ++ (if memoryBank || usesFamily agents .vertex then [googlePackage] else []) := rfl

theorem openai_mem_requirements_iff :
    openaiPackage ∈ requirements agents memoryBank ↔ usesFamily agents .openai := by
  have base : openaiPackage ∉ baseRequirements := by decide
  have other : openaiPackage ≠ googlePackage := by decide
  simp [requirements_eq, base, other]

theorem google_mem_requirements_iff :
    googlePackage ∈ requirements agents memoryBank ↔ memoryBank ∨ usesFamily agents .vertex := by
  have base : googlePackage ∉ baseRequirements := by decide
  have other : googlePackage ≠ openaiPackage := by decide
  simp [requirements_eq, base, other]

end Mem

/-! ## What is imported -/

/-- OpenAI's client stands in for every model that is not Vertex's. -/
theorem usesOther_iff {agents : List Agent} :
    usesOther agents ↔ (∃ a ∈ agents, a.family? = none) ∨ usesFamily agents .openai := by
  simp only [usesOther, usesFamily, List.any_eq_true, decide_eq_true_eq]
  constructor
  · rintro ⟨a, ha, other⟩
    cases family : a.family? with
    | none => exact .inl ⟨a, ha, family⟩
    | some f =>
      cases f with
      | openai => exact .inr ⟨a, ha, family⟩
      | vertex => exact absurd family other
  · rintro (⟨a, ha, family⟩ | ⟨a, ha, family⟩)
    · exact ⟨a, ha, by simp [family]⟩
    · exact ⟨a, ha, by simp [family]⟩

/-- No client and no memory is the class of a workflow. -/
theorem ne_kindImport {i : Import} (hi : i ∈ [openaiImport, vertexImport, bankImport])
    (kind : WorkflowKind) : i ≠ kindImport kind := by
  have apart : ∀ i ∈ [openaiImport, vertexImport, bankImport],
      i.bound ≠ (kindImport .sequential).bound ∧ i.bound ≠ (kindImport .hierarchical).bound ∧
        i.bound ≠ (kindImport .collaborative).bound := by decide
  obtain ⟨sequential, hierarchical, collaborative⟩ := apart i hi
  refine ne_of_apply_ne Import.bound ?_
  cases kind
  · exact sequential
  · exact hierarchical
  · exact collaborative

section Imports

variable {w : Workflow}

/-- So a client or a memory is imported just if it is the client of some agent or the memory. -/
theorem mem_importsOf_iff_needed {i : Import}
    (hi : i ∈ [openaiImport, vertexImport, bankImport]) : i ∈ importsOf w ↔
      i ∈ w.agents.map clientImport ∨ i = memoryImport (Memory.ofDeployment w.deployment) := by
  have other : i ≠ kindImport w.kind := ne_kindImport hi w.kind
  have optional : i ∈ provided := by
    simp only [List.mem_cons, List.not_mem_nil, or_false] at hi
    rcases hi with rfl | rfl | rfl
    · exact openaiImport_mem_provided
    · exact vertexImport_mem_provided
    · exact bankImport_mem_provided
  rw [mem_importsOf_iff optional, ← or_assoc, or_iff_left other]

theorem openai_mem_importsOf_iff : openaiImport ∈ importsOf w ↔ usesOther w.agents := by
  rw [mem_importsOf_iff_needed (by simp), openai_needed_iff]

theorem vertex_mem_importsOf_iff : vertexImport ∈ importsOf w ↔ usesFamily w.agents .vertex := by
  rw [mem_importsOf_iff_needed (by simp), vertex_needed_iff]

theorem bank_mem_importsOf_iff : bankImport ∈ importsOf w ↔ w.deployment.memoryBank := by
  rw [mem_importsOf_iff_needed (by simp), bank_needed_iff]

/-- The module of a workflow without agents imports nothing. -/
theorem main?_emptyMainModule : main? (Text.unlines emptyMainModule) = some (mainOf [idle]) := by
  refine main?_of_tells (tells_of_tells ?_)
  simp only [emptyMainModule, fixed, List.map]
  repeat rw [Text.ofString_ofList]
  decide +kernel

theorem exists_imports (w : Workflow) (h : Hierarchy) : ∃ m, main? (mainModule w h) = some m ∧
    m.imports = if w.agents.isEmpty then [] else importsOf w := by
  cases agents : w.agents with
  | nil =>
    refine ⟨mainOf [idle], ?_, rfl⟩
    rw [← main?_emptyMainModule, mainModule, mainLines, agents]
  | cons first others =>
    obtain ⟨names, read, -⟩ := main?_mainModule (agents ▸ List.cons_ne_nil first others) h
    exact ⟨_, read, rfl⟩

end Imports

/-! ## Both -/

/-- A requirements file lists packages of the table, each once and in its order. It lists Google's
if a client or a memory is imported from there. OpenAI's client is imported and its package not
listed just if some model is of no family and none is OpenAI's. -/
structure Declares (agents : List Agent) (listed : List Text) (m : MainReading) : Prop where
  order : listed.Sublist packageTable
  once : listed.Nodup
  google : vertexImport ∈ m.imports ∨ bankImport ∈ m.imports → googlePackage ∈ listed
  openai : openaiImport ∈ m.imports ∧ openaiPackage ∉ listed ↔
    (∃ a ∈ agents, a.family? = none) ∧ ∀ a ∈ agents, a.family? ≠ some .openai

/-- What the requirements have to list follows from the imports alone. -/
theorem declares_requirements {w : Workflow} {m : MainReading}
    (h : m.imports = if w.agents.isEmpty then [] else importsOf w) :
    Declares w.agents (requirements w.agents w.deployment.memoryBank) m where
  order := requirements_sublist _ _
  once := (requirements_sublist _ _).nodup (by decide)
  google imported := by
    have needed : w.deployment.memoryBank ∨ usesFamily w.agents .vertex := by
      rw [h] at imported
      split at imported
      · simp at imported
      · exact (imported.imp vertex_mem_importsOf_iff.mp bank_mem_importsOf_iff.mp).symm
    exact google_mem_requirements_iff.mpr needed
  openai := by
    have imported : openaiImport ∈ m.imports ↔ usesOther w.agents := by
      rw [h]
      split
      · next empty => simp [List.isEmpty_iff.mp empty, usesOther]
      · exact openai_mem_importsOf_iff
    have absent : ¬usesFamily w.agents .openai ↔ ∀ a ∈ w.agents, a.family? ≠ some .openai := by
      simp [usesFamily]
    rw [imported, openai_mem_requirements_iff, usesOther_iff, or_and_right, and_not_self_iff,
      or_false, absent]

/-- What every project lists, beside what its main module imports. -/
theorem generate_declares {options : GenerateOptions} {w : Workflow} {fs : Table Text}
    (hg : w.generate options = .ok fs) :
    ∃ program manifest m, Table.get? fs mainName = some program ∧
      Table.get? fs requirementsName = some manifest ∧ main? program = some m ∧
      Declares w.agents (packages manifest) m := by
  obtain ⟨h, -, rfl⟩ := generate_eq_ok hg
  obtain ⟨m, read, imports⟩ := exists_imports w h
  refine ⟨_, _, m, get?_mainName options w h, rfl, read, ?_⟩
  rw [packages_requirementsFile fun package hp => (requirements_sublist _ _).mem hp]
  exact declares_requirements imports

/-- One agent, with a model of no family. -/
def stranger : Workflow where
  agents := [{ id := "a", name := "writer", model := "claude-3" }]

/-- OpenAI's client is imported for it, and its package not listed. -/
theorem stranger_declares : ∃ fs program manifest m, stranger.generate {} = .ok fs ∧
    Table.get? fs mainName = some program ∧ Table.get? fs requirementsName = some manifest ∧
    main? program = some m ∧ Declares stranger.agents (packages manifest) m ∧
    openaiImport ∈ m.imports ∧ openaiPackage ∉ packages manifest := by
  have generated : stranger.generate {}
      = .ok (files {} stranger (Hierarchy.flat .sequential stranger.agents)) := rfl
  obtain ⟨program, manifest, m, main, requirements, read, declares⟩ := generate_declares generated
  exact ⟨_, program, manifest, m, generated, main, requirements, read, declares,
    declares.openai.mpr (by decide)⟩

end Project

end AgentWorkflow
