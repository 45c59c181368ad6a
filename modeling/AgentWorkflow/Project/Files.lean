import AgentWorkflow.Project.DeploymentFiles
import AgentWorkflow.Project.Environment
import AgentWorkflow.Project.Guide
import AgentWorkflow.Project.Requirements
import AgentWorkflow.Project.ToolsModule

/-!
# The files of a project

All files that a workflow is made into, in a fixed order. The files for deployment are there only
when a project is named, the example of an environment file only when asked for.
-/

namespace AgentWorkflow

/-- What can be asked for in addition to the files of every project. -/
structure GenerateOptions where
  environmentExample : Bool := false
deriving DecidableEq

namespace Project

def mainName : Text := "main.py"

def toolsName : Text := "tools.py"

def requirementsName : Text := "requirements.txt"

def guideName : Text := "README.md"

def dockerfileName : Text := "Dockerfile"

/-- The name of the list of paths that are not uploaded. -/
def ignoreName : Text := ".gcloudignore"

def buildSpecName : Text := "cloudbuild.yaml"

def deployScriptName : Text := "deploy.sh"

def environmentName : Text := ".env.example"

def fileNames : List Text :=
  [mainName, toolsName, requirementsName, guideName, dockerfileName, ignoreName, buildSpecName,
   deployScriptName, environmentName]

/-- The files of a project whose agents form the given structure. -/
def files (options : GenerateOptions) (w : Workflow) (h : Hierarchy) : Table Text :=
  [(mainName, mainModule w h),
   (toolsName, toolsModule (Tools.catalogue w.agents)),
   (requirementsName, requirementsFile (requirements w.agents w.deployment.memoryBank)),
   (guideName, guide w h),
   (dockerfileName, dockerfile),
   (ignoreName, ignoreFile)]
    ++ (if w.deployment.hasProject then
          [(buildSpecName, buildSpec w.deployment),
           (deployScriptName, deployScript w.deployment)]
        else [])
    ++ (if options.environmentExample then
          [(environmentName, environmentExample w)]
        else [])

end Project

/-- The files that a workflow is made into, or why its agents form no structure. -/
def Workflow.generate (options : GenerateOptions) (w : Workflow) :
    Except HierarchyError (Table Text) :=
  w.hierarchy.map (Project.files options w)

end AgentWorkflow
