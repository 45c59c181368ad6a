import AgentWorkflow.Naming.Case
import AgentWorkflow.Workflow.Model

/-!
# Effective deployment settings

What the generated project is deployed as, with the defaults for settings left blank.
-/

namespace AgentWorkflow

def defaultRegion : Text := "us-central1"

/-- The service name of a deployment without a usable one. -/
def defaultService : Text := "my-adk-agent"

def imageRepository : Text := "agent-engine-images"

namespace Deployment

/-- The project, without blanks around it. -/
def project (d : Deployment) : Text := d.projectId.trim

def hasProject (d : Deployment) : Bool := !d.project.isEmpty

/-- True when nothing is set that would be deployed. -/
def isVoid (d : Deployment) : Bool :=
  !d.hasProject && d.serviceName.isBlank && d.region.isBlank && !d.memoryBank

def service (d : Deployment) : Text :=
  let name := Naming.kebabCase d.serviceName
  if name.isEmpty then defaultService else name

def location (d : Deployment) : Text :=
  let region := d.region.trim
  if region.isEmpty then defaultRegion else region

def image (d : Deployment) : Text :=
  d.location ++ "-docker.pkg.dev/" ++ d.project ++ "/" ++ imageRepository ++ "/" ++ d.service

end Deployment

end AgentWorkflow
