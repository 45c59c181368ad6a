import AgentWorkflow.Number.Binary64

/-!
# Workflows

A workflow is a list of agents with the tools they may call, the way they work together, and the
settings for deploying the generated project.
-/

namespace AgentWorkflow

/-- The type of a tool's parameter. -/
inductive ParameterType
  | string
  | number
  | boolean
deriving DecidableEq

/-- How the agents of a workflow work together. -/
inductive WorkflowKind
  | sequential
  | hierarchical
  | collaborative
deriving DecidableEq

/-- A typed input of a tool. -/
structure Parameter where
  id : Text := []
  name : Text := []
  type : ParameterType := .string
  description : Text := []
  required : Bool := true
deriving DecidableEq

/-- Something an agent can call. -/
structure Tool where
  id : Text := []
  name : Text := []
  description : Text := []
  parameters : List Parameter := []
deriving DecidableEq

/-- The model an agent runs on unless it names one. -/
def defaultModel : Text := "gemini-2.5-flash"

/-- The temperature of an agent that names none: seven tenths. -/
def defaultTemperature : Binary64 := .finite false ⟨6305039478318694, 1021, by decide⟩

/-- An agent. The parent, by its id, supervises it in a hierarchical workflow. -/
structure Agent where
  id : Text := []
  name : Text := []
  systemPrompt : Text := []
  welcomeMessage : Text := []
  inputPlaceholder : Text := []
  tools : List Tool := []
  parent : Option Text := none
  model : Text := defaultModel
  temperature : Binary64 := defaultTemperature
deriving DecidableEq

/-- Deployment settings. Of the credentials only a file name is kept. -/
structure Deployment where
  projectId : Text := []
  serviceName : Text := []
  region : Text := []
  memoryBank : Bool := false
  credentialRef : Text := []
deriving DecidableEq

/-- A workflow with its deployment settings. -/
structure Workflow where
  agents : List Agent := []
  deployment : Deployment := {}
  kind : WorkflowKind := .sequential
deriving DecidableEq

def ParameterType.name : ParameterType → Text
  | .string => "string"
  | .number => "number"
  | .boolean => "boolean"

/-- The parameter types, in the order in which messages list them. -/
def ParameterType.all : List ParameterType := [.string, .number, .boolean]

def WorkflowKind.name : WorkflowKind → Text
  | .sequential => "Sequential"
  | .hierarchical => "Hierarchical"
  | .collaborative => "Collaborative"

/-- The kinds of workflow, in the order in which messages list them. -/
def WorkflowKind.all : List WorkflowKind := [.sequential, .hierarchical, .collaborative]

/-- The agents ready for a workflow of the given kind: only a hierarchy keeps the parents. -/
def switchAgents (kind : WorkflowKind) (agents : List Agent) : List Agent :=
  if kind = .hierarchical then agents else agents.map fun a => { a with parent := none }

/-- The workflow switched to another kind. Switching to a flat kind loses the parents for good. -/
def Workflow.withKind (w : Workflow) (kind : WorkflowKind) : Workflow :=
  { w with agents := switchAgents kind w.agents, kind := kind }

example : Binary64.ofDecimal false 7 (-1) = defaultTemperature := by decide +kernel

end AgentWorkflow
