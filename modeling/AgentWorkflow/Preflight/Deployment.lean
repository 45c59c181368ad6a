import AgentWorkflow.Preflight.Agents
import AgentWorkflow.Workflow.Deployment

/-!
# Checking the deployment

The checks on the deployment settings, and the report on a whole workflow.
-/

namespace AgentWorkflow

namespace Preflight

/-- The form of a project id: six to thirty small letters, digits and hyphens, a letter first and
no hyphen last. -/
def isProjectId (t : Text) : Bool :=
  6 ≤ t.length && t.length ≤ 30
    && t.all (fun c => c.isLower || c.isDigit || c = '-')
    && (t.head?.any CodePoint.isLower)
    && (t.getLast?.any fun c => c.isLower || c.isDigit)

/-- The form of a region: letters, a hyphen, letters, digits; at least one of each. -/
def isRegion (t : Text) : Bool :=
  let area := t.takeWhile CodePoint.isLower
  match t.dropWhile CodePoint.isLower with
  | c :: rest =>
    let place := rest.takeWhile CodePoint.isLower
    let number := rest.dropWhile CodePoint.isLower
    !area.isEmpty && c = '-' && !place.isEmpty && !number.isEmpty && number.all CodePoint.isDigit
  | [] => false

/-- Checks the project id. Without one, the other settings have little effect. -/
def checkProject (d : Deployment) : List Issue :=
  let path := Path.deployment "projectId"
  if d.project.isEmpty then
    [.on path (if d.memoryBank then .memoryWithoutProject else .settingsWithoutProject)]
  else if isProjectId d.project then []
  else [.on path (.invalidProject d.project)]

def checkRegion (d : Deployment) : List Issue :=
  let region := d.region.trim
  if region.isEmpty || isRegion region then []
  else [.on (Path.deployment "region") (.invalidRegion region)]

def checkService (d : Deployment) : List Issue :=
  let service := d.serviceName.trim
  let sanitized := Naming.kebabCase service
  let path := Path.deployment "serviceName"
  if service.isEmpty then []
  else if sanitized.isEmpty then [.on path (.unusableService service)]
  else if sanitized ≠ service then [.on path (.changedService service sanitized)]
  else []

/-- The issues of deployment settings; there are none when nothing is set. -/
def deploymentIssues (d : Deployment) : List Issue :=
  if d.isVoid then [] else checkProject d ++ checkRegion d ++ checkService d

end Preflight

def Workflow.preflight (w : Workflow) : Report :=
  .ofIssues (Preflight.agentIssues w.agents ++ Preflight.deploymentIssues w.deployment)

example : Preflight.isProjectId "my-gcp-project" = true := by decide
example : Preflight.isRegion "us-central1" = true := by decide

end AgentWorkflow
