import AgentWorkflow.Proofs.Project.Destination
import AgentWorkflow.Proofs.Project.Furnishing

/-!
# Variables that nothing reads

The example of an environment file sets the port and the keys of the services that a program talks
to, and the program reads these. For Google's services it sets a project and a region too. No
program reads the region, and only a bank without a project reads the project. The two values are
not quoted, so a line end in either lets the rest of it set variables of its own. An example sets no
more than what is read just when the program does not talk to Google's services.

Results:
1. `mem_reads_iff`: the variables that a main module reads.
2. `mem_googleNames_iff`: the variables that the section for Google's services sets.
3. `generate_overstates`: the variables that are set and not read.
-/

namespace AgentWorkflow

namespace Project

variable {w : Workflow} {names : List Text} {name : Text}

/-! ## What is read and what is not -/

/-- The name of a variable that the main module of a workflow reads. -/
def IsRead (w : Workflow) (name : Text) : Prop :=
  name = "PORT" ∨ usesOther w.agents ∧ name = "OPENAI_API_KEY" ∨
    usesGoogle w ∧ name = "GOOGLE_APPLICATION_CREDENTIALS" ∨
    (w.deployment.memoryBank ∧ w.deployment.hasProject = false) ∧ name = "GOOGLE_CLOUD_PROJECT"

/-- The variables that lines behind the first of the project or of the region set. -/
def spilled (d : Deployment) : List Text := spilledNames d.project ++ spilledNames d.location

/-- The name of a variable that is set for Google's services, and that the main module of a workflow
does not read: the region, the project unless there is a bank without one, and what else the texts
of the two set. -/
def IsUnneeded (w : Workflow) (name : Text) : Prop :=
  name = "GCP_REGION" ∨
    (w.deployment.memoryBank → w.deployment.hasProject) ∧ name = "GOOGLE_CLOUD_PROJECT" ∨
    name ∈ spilled w.deployment ∧ ¬IsRead w name

/-- How an example of an environment file and what the main module reads compare. -/
structure Overstates (w : Workflow) (m : MainReading) (file : Text) : Prop where
  reads : ∀ name, name ∈ m.reads ↔ IsRead w name
  unread : ∀ name,
    name ∈ assignedNames file ∧ name ∉ m.reads ↔ usesGoogle w ∧ IsUnneeded w name
  exact : (∀ name ∈ assignedNames file, name ∈ m.reads) ↔ usesGoogle w = false

/-! ## The main module -/

theorem mem_memoryReads_iff {d : Deployment} : name ∈ memoryReads (Memory.ofDeployment d) ↔
    (d.memoryBank ∧ d.hasProject = false) ∧ name = "GOOGLE_CLOUD_PROJECT" := by
  cases bank : d.memoryBank <;> cases project : d.hasProject <;>
    simp [Memory.ofDeployment, memoryReads, bank, project]

/-- The variables that the main module reads, by the parts of the workflow that need them. -/
theorem mem_reads_iff (ne : w.agents ≠ []) : name ∈ (mainReading w names).reads ↔ IsRead w name := by
  obtain ⟨first, hf⟩ := List.exists_mem_of_ne_nil _ ne
  have bank : name ∈ w.agents.flatMap (fun _ => memoryReads (Memory.ofDeployment w.deployment)) ↔
      (w.deployment.memoryBank ∧ w.deployment.hasProject = false) ∧
        name = "GOOGLE_CLOUD_PROJECT" := by
    rw [← mem_memoryReads_iff, List.mem_flatMap]
    exact ⟨fun ⟨_, _, h⟩ => h, fun h => ⟨first, hf, h⟩⟩
  have openai : (openaiCheck.name : Text) = "OPENAI_API_KEY" := rfl
  have google : (googleCheck.name : Text) = "GOOGLE_APPLICATION_CREDENTIALS" := rfl
  simp only [mainReading, checksOf, List.map_append, apply_ite (List.map _), List.map_cons,
    List.map_nil, openai, google, List.mem_append, List.mem_ite_nil_right, List.mem_singleton,
    bank, IsRead]
  rw [or_comm, or_assoc]

/-! ## The example -/

theorem spilledNames_orElse_project (d : Deployment) :
    spilledNames (orElse d.project "your-gcp-project-id") = spilledNames d.project := by
  rw [orElse]
  split
  · next empty =>
    rw [List.isEmpty_iff.mp empty]
    decide +kernel
  · rfl

theorem mem_googleNames_iff {d : Deployment} : name ∈ googleNames d ↔
    name = "GOOGLE_CLOUD_PROJECT" ∨ name = "GCP_REGION" ∨
      name = "GOOGLE_APPLICATION_CREDENTIALS" ∨ name ∈ spilled d := by
  simp only [googleNames, spilledNames_orElse_project, spilled, List.mem_append, List.mem_cons,
    List.not_mem_nil, false_or, or_assoc, or_left_comm, or_comm]

theorem mem_assignedNames_iff : name ∈ assignedNames (environmentExample w) ↔
    name = "PORT" ∨ usesOther w.agents ∧ name = "OPENAI_API_KEY" ∨
      usesGoogle w ∧ (name = "GOOGLE_CLOUD_PROJECT" ∨ name = "GCP_REGION" ∨
        name = "GOOGLE_APPLICATION_CREDENTIALS" ∨ name ∈ spilled w.deployment) := by
  simp only [assignedNames_environmentExample, List.mem_append, List.mem_singleton,
    List.mem_ite_nil_right, mem_googleNames_iff, or_assoc]

theorem nodup_variables : (["GCP_REGION", "GOOGLE_CLOUD_PROJECT", "PORT", "OPENAI_API_KEY",
    "GOOGLE_APPLICATION_CREDENTIALS"] : List Text).Nodup := by decide

/-- No program reads a region. -/
theorem not_isRead_region (w : Workflow) : ¬IsRead w "GCP_REGION" := by
  have apart := nodup_variables
  simp only [List.nodup_cons, List.mem_cons, not_or] at apart
  simp [IsRead, apart]

theorem isRead_project_iff : IsRead w "GOOGLE_CLOUD_PROJECT" ↔
    w.deployment.memoryBank ∧ w.deployment.hasProject = false := by
  have apart := nodup_variables
  simp only [List.nodup_cons, List.mem_cons, not_or] at apart
  simp [IsRead, apart]

/-- A variable that is set and not read comes from the part for Google, and nothing in the
module needs it. -/
theorem unread_iff : name ∈ assignedNames (environmentExample w) ∧ ¬IsRead w name ↔
    usesGoogle w ∧ IsUnneeded w name := by
  have project : (w.deployment.memoryBank → w.deployment.hasProject) ↔
      ¬IsRead w "GOOGLE_CLOUD_PROJECT" := by simp [isRead_project_iff]
  rw [mem_assignedNames_iff, IsUnneeded, project]
  constructor
  · rintro ⟨rfl | ⟨other, rfl⟩ | ⟨google, rfl | rfl | rfl | more⟩, unread⟩
    · exact absurd (.inl rfl) unread
    · exact absurd (.inr (.inl ⟨other, rfl⟩)) unread
    · exact ⟨google, .inr (.inl ⟨unread, rfl⟩)⟩
    · exact ⟨google, .inl rfl⟩
    · exact absurd (.inr (.inr (.inl ⟨google, rfl⟩))) unread
    · exact ⟨google, .inr (.inr ⟨more, unread⟩)⟩
  · rintro ⟨google, rfl | ⟨unread, rfl⟩ | ⟨more, unread⟩⟩
    · exact ⟨.inr (.inr ⟨google, .inr (.inl rfl)⟩), not_isRead_region w⟩
    · exact ⟨.inr (.inr ⟨google, .inl rfl⟩), unread⟩
    · exact ⟨.inr (.inr ⟨google, .inr (.inr (.inr more))⟩), unread⟩

theorem overstates_mainReading (ne : w.agents ≠ []) (names : List Text) :
    Overstates w (mainReading w names) (environmentExample w) where
  reads _ := mem_reads_iff ne
  unread name := by rw [mem_reads_iff ne, unread_iff]
  exact := by
    constructor
    · intro all
      refine Bool.eq_false_iff.mpr fun google => ?_
      obtain ⟨assigned, unread⟩ := unread_iff.mpr ⟨google, .inl rfl⟩
      exact unread ((mem_reads_iff ne).mp (all _ assigned))
    · intro other name assigned
      by_contra unread
      have google := (unread_iff.mp ⟨assigned, mt (mem_reads_iff ne).mpr unread⟩).1
      exact Bool.false_ne_true (other.symm.trans google)

/-- The example sets what the main module reads, and for a program that talks to Google's services
it sets more. -/
theorem generate_overstates {options : GenerateOptions} {files : Table Text} (ne : w.agents ≠ [])
    (asked : options.environmentExample) (hg : w.generate options = .ok files) :
    ∃ program m file, Table.get? files mainName = some program ∧ main? program = some m ∧
      Table.get? files environmentName = some file ∧ Overstates w m file := by
  obtain ⟨h, -, rfl⟩ := generate_eq_ok hg
  obtain ⟨names, read, -⟩ := main?_mainModule ne h
  exact ⟨_, _, _, get?_mainName options w h, read, get?_environmentName h asked,
    overstates_mainReading ne names⟩

/-- One agent with a model of Google's, and a project whose text goes on behind its first line. -/
def verbose : Workflow where
  agents := [{ id := "a", name := "writer" }]
  deployment := { projectId := "my-gcp-project\nPATH=/tmp" }

/-- The hypotheses hold of a project with a line feed in its name. -/
theorem verbose_overstates : ∃ files program m file,
    verbose.generate ⟨true⟩ = .ok files ∧ Table.get? files mainName = some program ∧
      main? program = some m ∧ Table.get? files environmentName = some file ∧
      Overstates verbose m file ∧
      ∀ name ∈ (["GOOGLE_CLOUD_PROJECT", "PATH", "GCP_REGION"] : List Text),
        name ∈ assignedNames file ∧ name ∉ m.reads := by
  have generated : verbose.generate ⟨true⟩
      = .ok (files ⟨true⟩ verbose (Hierarchy.flat .sequential verbose.agents)) := rfl
  obtain ⟨program, m, file, found, read, example_, compared⟩ :=
    generate_overstates (List.cons_ne_nil _ _) rfl generated
  refine ⟨_, program, m, file, generated, found, read, example_, compared, fun name hn => ?_⟩
  have google : usesGoogle verbose := rfl
  have unread : ¬IsRead verbose "PATH" := by unfold IsRead; decide
  have spills : ("PATH" : Text) ∈ spilled verbose.deployment := by decide +kernel
  refine (compared.unread name).mpr ⟨google, ?_⟩
  simp only [List.mem_cons, List.not_mem_nil, or_false] at hn
  obtain rfl | rfl | rfl := hn
  · exact .inr (.inl ⟨fun _ => rfl, rfl⟩)
  · exact .inr (.inr ⟨spills, unread⟩)
  · exact .inl rfl

end Project

end AgentWorkflow
