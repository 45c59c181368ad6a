import AgentWorkflow.Project.DeploymentFiles
import AgentWorkflow.Proofs.Naming.Words
import AgentWorkflow.Proofs.Text.Commands
import AgentWorkflow.Proofs.Text.Points

/-!
# What the deploy script does

The script exports three settings and then runs commands that are the same for every deployment. The
settings are any text, so they are quoted for the shell; a null point is the one thing that quotes
do not keep.

Results:
1. `null_not_mem_project`, `null_not_mem_location`, `null_not_mem_service`: where null points can
   come from.
2. `commands?_deployScript`: the commands of the script.
3. `filterMap_exported?`: what they export.
-/

namespace AgentWorkflow

namespace Project

open Shell (Command IsRead literal null)

/-! ## Commands -/

def literalCommand (words : List Text) : Command := words.map literal

/-- The command that exports a variable with a value that is not expanded. -/
def exportCommand (name value : Text) : Command := literalCommand ["export", name ++ "=" ++ value]

def deployCommands (project region service : Text) : List Command :=
  [literalCommand ["set", "-euo", "pipefail"],
   exportCommand "PROJECT_ID" project,
   exportCommand "REGION" region,
   exportCommand "SERVICE_NAME" service,
   literalCommand ["gcloud", "config", "set", "project"] ++ [[.variable true "PROJECT_ID"]],
   literalCommand ["gcloud", "services", "enable", "cloudbuild.googleapis.com",
     "run.googleapis.com", "artifactregistry.googleapis.com", "agentengine.googleapis.com"],
   literalCommand ["gcloud", "builds", "submit", "--config", "cloudbuild.yaml", "."]]

/-! ## Null points -/

section

variable {d : Deployment}

theorem null_not_mem_project (h : null ∉ d.projectId) : null ∉ d.project :=
  fun hc => h (Text.mem_trim hc)

theorem null_not_mem_location (h : null ∉ d.region) : null ∉ d.location := by
  rw [Deployment.location]
  split
  · decide
  · exact fun hc => h (Text.mem_trim hc)

/-- The name of a service is brought to kebab case, which has no null points. -/
theorem null_not_mem_service : null ∉ d.service := by
  rw [Deployment.service]
  split
  · decide
  · intro hc
    rcases Naming.mem_collapse (Text.mem_trimBy hc) with ⟨-, kept⟩ | filler
    · exact absurd kept (by decide)
    · exact absurd filler (by decide)

end

/-! ## The script -/

theorem isRead_export {front name value : Text}
    (h : Text.Goes Shell.step .start front
      ⟨.plain, literalCommand ["export"], some (literal (name ++ "="))⟩ [])
    (hv : null ∉ value) : IsRead (front ++ value.shellWord, [exportCommand name value]) := by
  have word := h.append (Shell.goes_shellWord hv)
  rw [Option.getD_some, ← Shell.literal_append] at word
  exact word.append rfl

def scriptLines (d : Deployment) : List (Text × List Command) :=
  [("#!/bin/bash", []),
   ("set -euo pipefail", [literalCommand ["set", "-euo", "pipefail"]]),
   ("", []),
   (("export PROJECT_ID=" : Text) ++ d.project.shellWord, [exportCommand "PROJECT_ID" d.project]),
   (("export REGION=" : Text) ++ d.location.shellWord, [exportCommand "REGION" d.location]),
   (("export SERVICE_NAME=" : Text) ++ d.service.shellWord,
    [exportCommand "SERVICE_NAME" d.service]),
   ("", []),
   ("gcloud config set project \"$PROJECT_ID\"",
    [literalCommand ["gcloud", "config", "set", "project"] ++ [[.variable true "PROJECT_ID"]]]),
   (("gcloud services enable cloudbuild.googleapis.com run.googleapis.com " : Text)
      ++ "artifactregistry.googleapis.com agentengine.googleapis.com",
    [literalCommand ["gcloud", "services", "enable", "cloudbuild.googleapis.com",
      "run.googleapis.com", "artifactregistry.googleapis.com", "agentengine.googleapis.com"]]),
   ("gcloud builds submit --config cloudbuild.yaml .",
    [literalCommand ["gcloud", "builds", "submit", "--config", "cloudbuild.yaml", "."]])]

theorem deployScript_eq (d : Deployment) :
    deployScript d = Text.unlines ((scriptLines d).map Prod.fst) := rfl

theorem isRead_scriptLines {d : Deployment} (project : null ∉ d.projectId)
    (region : null ∉ d.region) : ∀ entry ∈ scriptLines d, IsRead entry := by
  simp only [scriptLines, List.forall_mem_cons]
  refine ⟨?_, ?_, ?_, isRead_export ?_ (null_not_mem_project project),
    isRead_export ?_ (null_not_mem_location region), isRead_export ?_ null_not_mem_service,
    ?_, ?_, ?_, ?_, List.forall_mem_nil _⟩
  all_goals
    repeat rw [Text.ofString_ofList]
    decide +kernel

/-- Whatever the settings of a deployment are, only three words of the script hang on them, and
nothing of these is expanded. -/
theorem commands?_deployScript (d : Deployment) (project : null ∉ d.projectId)
    (region : null ∉ d.region) :
    Shell.commands? (deployScript d) = some (deployCommands d.project d.location d.service) := by
  rw [deployScript_eq, Shell.commands?_unlines (isRead_scriptLines project region)]
  rfl

/-- A deployment whose settings look like parts of a script. -/
def roughDeployment : Deployment :=
  { projectId := " it's$(ls)`;\n# ", region := "\t", serviceName := "\"; exit" }

/-- The hypothesis holds of settings with quotes, blanks and an expansion in them. -/
theorem commands?_roughDeployment :
    (null ∉ roughDeployment.projectId ∧ null ∉ roughDeployment.region) ∧
      Shell.commands? (deployScript roughDeployment)
        = some (deployCommands "it's$(ls)`;\n#" "us-central1" "exit") := by
  have project : roughDeployment.project = "it's$(ls)`;\n#" := by decide +kernel
  have region : roughDeployment.location = "us-central1" := by decide +kernel
  have service : roughDeployment.service = "exit" := by decide +kernel
  have read := commands?_deployScript roughDeployment (by decide +kernel) (by decide +kernel)
  rw [project, region, service] at read
  exact ⟨by decide +kernel, read⟩

/-! ## Exports -/

/-- What an argument assigns to a variable. -/
def setting? (t : Text) : Option (Text × Text) :=
  match t.dropWhile (· ≠ ('=' : CodePoint)) with
  | [] => none
  | _ :: value => some (t.takeWhile (· ≠ ('=' : CodePoint)), value)

/-- What a command exports, if nothing of it is expanded. -/
def exported? : Command → Option (Text × Text)
  | [first, word] => if first = literal "export" then Shell.literal? word >>= setting? else none
  | _ => none

theorem setting?_append {name : Text} (h : ('=' : CodePoint) ∉ name) (value : Text) :
    setting? (name ++ "=" ++ value) = some (name, value) := by
  have shape : name ++ "=" ++ value = name ++ ('=' : CodePoint) :: value := by
    rw [List.append_assoc]
    rfl
  obtain ⟨taken, left⟩ := Text.span_ne h value
  rw [setting?, shape, taken, left]

theorem exported?_exportCommand (name : Text) (h : ('=' : CodePoint) ∉ name) (value : Text) :
    exported? (exportCommand name value) = some (name, value) := by
  rw [exportCommand, literalCommand, List.map_cons, List.map_cons, List.map_nil, exported?,
    if_pos rfl, Shell.literal?_literal]
  exact setting?_append h value

theorem filterMap_exported? (project region service : Text) :
    (deployCommands project region service).filterMap exported?
      = ([("PROJECT_ID", project), ("REGION", region), ("SERVICE_NAME", service)]
        : List (Text × Text)) := by
  rw [deployCommands, List.filterMap_cons_none rfl,
    List.filterMap_cons_some (exported?_exportCommand "PROJECT_ID" (by decide) project),
    List.filterMap_cons_some (exported?_exportCommand "REGION" (by decide) region),
    List.filterMap_cons_some (exported?_exportCommand "SERVICE_NAME" (by decide) service)]
  rfl

end Project

end AgentWorkflow
