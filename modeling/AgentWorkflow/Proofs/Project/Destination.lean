import AgentWorkflow.Project.Files
import AgentWorkflow.Proofs.Project.BuildSpec
import AgentWorkflow.Proofs.Project.DeployScript
import AgentWorkflow.Proofs.Project.Program
import AgentWorkflow.Proofs.Workflow.RoundTrip

/-!
# Where a project is deployed to

Five files name the project of a deployment, and most of them its region. The build, the deploy
script and the example of an environment file are made from the settings without the blanks around
them, and with the default region where none is left. The main module and the guide take the
settings as they are, so they name another project when there are blanks around it, and the main
module another region. A document is read without these blanks, so only a workflow that has not been
read from one shows the difference.

Results:
1. `bank?_factoryDefinition`: the memory bank that a factory gives its agent.
2. `bankDestination_eq_iff`: when the bank is where the agents are deployed to.
3. `bankDestination_of_ofJson`: it is for every workflow that was read from a document.
-/

namespace AgentWorkflow

namespace Project

open Source

structure Destination where
  project : Text
  region : Text
deriving DecidableEq

/-- Where the settings say that a service is deployed to. -/
def destination (d : Deployment) : Destination := ⟨d.project, d.location⟩

/-- The settings as they are, but for a region that is left empty. -/
def bankDestination (d : Deployment) : Destination := ⟨d.projectId, orElse d.region defaultRegion⟩

/-! ## The bank -/

/-- The bank that is made with the given keyword arguments of an agent. -/
def bankOf? (agent : Table (List Leaf)) : Option Destination := do
  let (constructor, runs) ← call? (← Table.get? agent "memory")
  let bank ← if constructor = "MemoryBank" then keywords? runs else none
  return {
    project := ← text? (← Table.get? bank "project_id")
    region := ← text? (← Table.get? bank "location") }

/-- The bank of the agent that a function makes, if its project and region are texts. -/
def bank? (d : Definition) : Option Destination := do
  let (_, runs) ← returnedCall? d
  bankOf? (← keywords? runs)

theorem ofDeployment_of_bank {d : Deployment} (bank : d.memoryBank) (project : d.hasProject) :
    Memory.ofDeployment d
      = .bank (some (bankDestination d).project) (bankDestination d).region := by
  rw [Memory.ofDeployment, if_pos bank, if_pos project]
  rfl

theorem bankOf?_factoryArguments (project region i : Text) (a : Agent) :
    bankOf? (argumentTable (factoryArguments (.bank (some project) region)
      (memoryRun (.bank (some project) region)) i a)) = some ⟨project, region⟩ := by
  have sound := sound_bankArguments (some project) region
  have call : call? (memoryRun (.bank (some project) region))
      = some (("MemoryBank" : Text), argumentRuns (bankArguments (some project) region)) := by
    rw [memoryRun, call?_points (by decide) (by decide),
      items_inline (item_of_mem_argumentRuns sound)]
  have bank := keywords?_argumentRuns sound (by simp only [bankArguments, List.map]; decide)
  have memory : Table.get? (argumentTable (factoryArguments (.bank (some project) region)
      (memoryRun (.bank (some project) region)) i a)) "memory"
      = some (memoryRun (.bank (some project) region)) := rfl
  have named : Table.get? (argumentTable (bankArguments (some project) region)) "project_id"
      = some [.text project] := rfl
  have located : Table.get? (argumentTable (bankArguments (some project) region)) "location"
      = some [.text region] := rfl
  simp only [bankOf?, memory, call, bank, named, located, text?_text, Option.bind_eq_bind,
    Option.bind_some, if_true]
  rfl

/-- Every agent is given the bank that the settings name as they are. -/
theorem bank?_factoryDefinition {w : Workflow} (bank : w.deployment.memoryBank)
    (project : w.deployment.hasProject) (a : Agent) :
    bank? (factoryDefinition w a) = some (bankDestination w.deployment) := by
  have memory := expresses_memory (Memory.ofDeployment w.deployment)
  have keywords := keywords?_argumentRuns
    (sound_factoryArguments memory (identifierOf w.agents a.id) a)
    (by simp only [factoryArguments, List.map]; decide)
  rw [bank?, factoryDefinition, returnedCall?_factory memory]
  simp only [Option.bind_eq_bind, Option.bind_some, keywords]
  rw [ofDeployment_of_bank bank project]
  exact bankOf?_factoryArguments _ _ _ a

/-! ## Blanks -/

/-- A default in place of an empty text and one in place of a blank text give the same exactly
when there is nothing to trim. -/
theorem orElse_eq_location_iff (d : Deployment) :
    orElse d.region defaultRegion = d.location ↔ d.region.trim = d.region := by
  by_cases empty : d.region = []
  · have trimmed : Text.trim [] = [] := rfl
    simp [orElse, Deployment.location, empty, trimmed]
  · have shown : orElse d.region defaultRegion = d.region := by simp [orElse, empty]
    rw [shown, Deployment.location]
    split
    next blank =>
      -- the default region is no blank text
      have blank : d.region.trim = [] := List.isEmpty_iff.mp blank
      have full : defaultRegion.trim ≠ [] := by decide +kernel
      exact ⟨fun same => absurd (same ▸ blank) full, fun same => absurd (same ▸ blank) empty⟩
    next => exact eq_comm

/-- Where the agents are deployed to is where their bank is, unless there are blanks around what the
settings say. -/
theorem bankDestination_eq_iff (d : Deployment) : bankDestination d = destination d ↔
    d.projectId.trim = d.projectId ∧ d.region.trim = d.region := by
  rw [bankDestination, destination, Destination.mk.injEq, orElse_eq_location_iff]
  exact and_congr_left' eq_comm

theorem bankDestination_of_ofJson {document : Json} {w : Workflow}
    (h : Workflow.ofJson document = .ok w) :
    bankDestination w.deployment = destination w.deployment := by
  have normal := (Workflow.normal_ofJson h).deployment
  exact (bankDestination_eq_iff _).mpr ⟨normal.projectId, normal.region⟩

/-! ## The guide -/

/-- What stands between the first and the last backtick of a text. -/
def codeIn (t : Text) : Text :=
  ((t.dropWhile (· ≠ ('`' : CodePoint))).tail.rdropWhile (· ≠ ('`' : CodePoint))).dropLast

theorem codeIn_append {front behind : Text} (hf : ('`' : CodePoint) ∉ front)
    (hb : ('`' : CodePoint) ∉ behind) (code : Text) :
    codeIn (front ++ ('`' : CodePoint) :: (code ++ ('`' : CodePoint) :: behind)) = code := by
  have first := (Text.span_ne hf (code ++ ('`' : CodePoint) :: behind)).2
  have hidden : ('`' : CodePoint) ∉ behind.reverse := fun hc => hb (List.mem_reverse.mp hc)
  have last := (Text.span_ne hidden code.reverse).2
  have turned : (code ++ ('`' : CodePoint) :: behind).reverse
      = behind.reverse ++ ('`' : CodePoint) :: code.reverse := by simp
  rw [codeIn, first, List.tail_cons, List.rdropWhile, turned, last]
  simp

/-- What the guide says in front of the project of a bank. -/
def bankFront : Text :=
  Text.unlines ["### Memory Bank", ""]
    ++ ("This agent is configured to use **GCP Memory Bank**, providing a persistent, managed "
      : Text)
    ++ "memory solution. Ensure your deployment environment has permission to access the "
    ++ "Memory Bank API in project "

theorem memorySection_eq {d : Deployment} (bank : d.memoryBank) (project : d.projectId ≠ []) :
    memorySection d
      = bankFront ++ ('`' : CodePoint) :: (d.projectId ++ ('`' : CodePoint) :: (".\n" : Text)) := by
  have opened : ("Memory Bank API in project `" : Text)
      = "Memory Bank API in project " ++ [('`' : CodePoint)] := by decide +kernel
  have closed : ("`." : Text) = ('`' : CodePoint) :: ("." : Text) := by decide
  have ended : (".\n" : Text) = "." ++ "\n" := by decide
  rw [memorySection, if_pos bank, if_neg (by simpa using project)]
  simp [bankFront, Text.unlines, opened, closed, ended]

theorem codeIn_memorySection {d : Deployment} (bank : d.memoryBank) (project : d.projectId ≠ []) :
    codeIn (memorySection d) = d.projectId := by
  have front : ('`' : CodePoint) ∉ bankFront := by
    rw [bankFront]
    repeat rw [Text.ofString_ofList]
    decide +kernel
  rw [memorySection_eq bank project]
  exact codeIn_append front (by decide) d.projectId

/-! ## The files -/

/-- The address of the image of a service that is deployed somewhere. -/
def imageAt (place : Destination) (service : Text) : Text :=
  place.region ++ "-docker.pkg.dev/" ++ place.project ++ "/" ++ imageRepository ++ "/" ++ service

structure NamesDestinations (options : GenerateOptions) (w : Workflow) (files : Table Text) :
    Prop where
  banks : ∃ program functions, Table.get? files mainName = some program ∧
    functions? program = some functions ∧
    (functions.filter (isFactoryWord ·.name)).map bank?
      = w.agents.map fun _ => some (bankDestination w.deployment)
  guide : ∃ front behind,
    Table.get? files guideName = some (front ++ memorySection w.deployment ++ behind) ∧
    codeIn (memorySection w.deployment) = (bankDestination w.deployment).project
  build : ∃ spec lines, Table.get? files buildSpecName = some spec ∧
    Yaml.lines? spec = some lines ∧ itemsBehind "images:" "- " lines
      = [(imageAt (destination w.deployment) w.deployment.service).squeeze]
  script : Shell.null ∉ w.deployment.projectId → Shell.null ∉ w.deployment.region →
    ∃ script commands, Table.get? files deployScriptName = some script ∧
      Shell.commands? script = some commands ∧
      commands.filterMap exported?
        = ([("PROJECT_ID", (destination w.deployment).project),
            ("REGION", (destination w.deployment).region),
            ("SERVICE_NAME", w.deployment.service)] : List (Text × Text))
  environment : options.environmentExample → ∃ front behind,
    Table.get? files environmentName = some (front
      ++ Text.unlines [("GOOGLE_CLOUD_PROJECT=" : Text) ++ (destination w.deployment).project,
        ("GCP_REGION=" : Text) ++ (destination w.deployment).region]
      ++ behind)

section Lookup

variable {options : GenerateOptions} {w : Workflow} (h : Hierarchy)

theorem get?_guideName : Table.get? (files options w h) guideName = some (guide w h) := rfl

theorem get?_buildSpecName (project : w.deployment.hasProject) :
    Table.get? (files options w h) buildSpecName = some (buildSpec w.deployment) := by
  rw [files, if_pos project]
  rfl

theorem get?_deployScriptName (project : w.deployment.hasProject) :
    Table.get? (files options w h) deployScriptName = some (deployScript w.deployment) := by
  rw [files, if_pos project]
  rfl

theorem get?_environmentName (asked : options.environmentExample) :
    Table.get? (files options w h) environmentName = some (environmentExample w) := by
  rw [files, if_pos asked]
  split <;> rfl

end Lookup

theorem exists_guide (w : Workflow) (h : Hierarchy) :
    ∃ front behind, guide w h = front ++ memorySection w.deployment ++ behind :=
  Text.exists_join_eq_of_mem _ (by simp)

theorem exists_environmentExample {w : Workflow} (bank : w.deployment.memoryBank)
    (project : w.deployment.hasProject) : ∃ front behind, environmentExample w = front
      ++ Text.unlines [("GOOGLE_CLOUD_PROJECT=" : Text) ++ w.deployment.project,
        ("GCP_REGION=" : Text) ++ w.deployment.location]
      ++ behind := by
  have google : usesGoogle w := by simp [usesGoogle, bank]
  have named : orElse w.deployment.project "your-gcp-project-id" = w.deployment.project :=
    if_neg (by simpa [Deployment.hasProject] using project)
  have listed : googleVariables w.deployment ∈ environmentSections w := by
    simp [environmentSections, google]
  obtain ⟨front, behind, shape⟩ := Text.exists_join_eq_of_mem "\n"
    (List.mem_map_of_mem (f := Text.unlines) listed)
  refine ⟨front ++ Text.unlines ["# Google Cloud"], Text.unlines
    ["GOOGLE_APPLICATION_CREDENTIALS=/path/to/your/service-account-key.json"] ++ behind, ?_⟩
  rw [environmentExample, shape, googleVariables, named]
  simp [Text.unlines]

/-- The files name the project and the region of a deployment, but those that tell of the bank take
them with the blanks around them. -/
theorem generate_names_destinations {options : GenerateOptions} {w : Workflow} {files : Table Text}
    (h : w.generate options = .ok files) (bank : w.deployment.memoryBank)
    (project : w.deployment.hasProject) :
    NamesDestinations options w files ∧
      (bankDestination w.deployment = destination w.deployment ↔
        w.deployment.projectId.trim = w.deployment.projectId ∧
        w.deployment.region.trim = w.deployment.region) ∧
      (∀ document, Workflow.ofJson document = .ok w →
        bankDestination w.deployment = destination w.deployment) := by
  obtain ⟨g, -, rfl⟩ := generate_eq_ok h
  have named : w.deployment.projectId ≠ [] := by
    intro empty
    have none : Text.trim [] = [] := rfl
    simp [Deployment.hasProject, Deployment.project, empty, none] at project
  refine ⟨⟨?banks, ?guide, ?build, ?script, ?environment⟩, bankDestination_eq_iff _,
    fun _ read => bankDestination_of_ofJson read⟩
  case banks =>
    obtain ⟨functions, read, factories⟩ := exists_factories w g
    refine ⟨_, functions, get?_mainName options w g, read, ?_⟩
    simp only [factories, List.map_map, Function.comp_def, bank?_factoryDefinition bank project]
  case guide =>
    obtain ⟨front, behind, shape⟩ := exists_guide w g
    exact ⟨front, behind, (get?_guideName g).trans (congrArg some shape),
      codeIn_memorySection bank named⟩
  case build =>
    exact ⟨_, _, get?_buildSpecName g project, lines?_buildSpec _, itemsBehind_images _ _⟩
  case script =>
    intro wholeProject wholeRegion
    exact ⟨_, _, get?_deployScriptName g project,
      Shell.commands?_unlines (isRead_scriptLines wholeProject wholeRegion),
      filterMap_exported? _ _ _⟩
  case environment =>
    intro asked
    obtain ⟨front, behind, shape⟩ := exists_environmentExample bank project
    exact ⟨front, behind, (get?_environmentName g asked).trans (congrArg some shape)⟩

/-- Settings with blanks around them, and a region of blanks alone. -/
def padded : Workflow where
  agents := [{ id := "a", name := "writer" }]
  deployment := { projectId := " my-gcp-project ", region := " ", memoryBank := true }

/-- The hypotheses hold of settings with blanks around them. -/
theorem padded_destinations : ∃ files, padded.generate {} = .ok files ∧
    NamesDestinations {} padded files ∧
    bankDestination padded.deployment = ⟨" my-gcp-project ", " "⟩ ∧
    destination padded.deployment = ⟨"my-gcp-project", "us-central1"⟩ := by
  have generated : padded.generate {}
      = .ok (files {} padded (Hierarchy.flat .sequential padded.agents)) := rfl
  exact ⟨_, generated, (generate_names_destinations generated rfl (by decide)).1, rfl,
    by decide +kernel⟩

end Project

end AgentWorkflow
