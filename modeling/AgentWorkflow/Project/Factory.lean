import AgentWorkflow.Number.Shortest
import AgentWorkflow.Source.Literal
import AgentWorkflow.Tools.Catalogue
import AgentWorkflow.Workflow.Deployment
import AgentWorkflow.Workflow.Family

/-!
# Agent factories

The functions of the main module that make the agents, and what they make them with: a model's
client and a memory.
-/

namespace AgentWorkflow

namespace Project

open Source (line)

/-- What agents remember with. A bank without a project asks the environment for one. -/
inductive Memory
  | session
  | bank (project : Option Text) (region : Text)
deriving DecidableEq

namespace Memory

/-- The memory that deployment settings ask for. -/
def ofDeployment (d : Deployment) : Memory :=
  if d.memoryBank then
    .bank (if d.hasProject then some d.projectId else none)
      (if d.region.isEmpty then defaultRegion else d.region)
  else .session

def importLine : Memory → Text
  | .session => "from adk.memory.memory import Memory as LocalMemory"
  | .bank .. => "from adk.memory.google.memory_bank import MemoryBank"

/-- The expression for a bank's project. -/
def projectExpression : Option Text → Text
  | none => "os.environ.get(\"GOOGLE_CLOUD_PROJECT\", \"\")"
  | some project => Source.literal project

def expression : Memory → Text
  | .session => "LocalMemory()"
  | .bank project region =>
    ("MemoryBank(project_id=" : Text) ++ projectExpression project ++ ", location="
      ++ Source.literal region ++ ")"

end Memory

def clientClass (a : Agent) : Text :=
  if a.family? = some .vertex then "VertexAI" else "OpenAI"

/-- The temperature that the program gives an agent: the default stands in for one that is not
finite. -/
def emittedTemperature (a : Agent) : Binary64 :=
  if a.temperature.isFinite then a.temperature else defaultTemperature

def clientExpression (a : Agent) : Text :=
  clientClass a ++ "(model=" ++ Source.literal a.model ++ ", temperature="
    ++ (emittedTemperature a).text ++ ")"

def toolReferences (a : Agent) : List Text :=
  let functions := Tools.functionsOf a
  if functions.isEmpty then [line 2 "tools=[],"]
  else
    [line 2 "tools=["]
      ++ functions.map (fun f => line 3 (("agent_tools." : Text) ++ f ++ ","))
      ++ [line 2 "],"]

def factoryName (identifier : Text) : Text := ("create_agent_" : Text) ++ identifier

def factory (memory : Memory) (identifier : Text) (a : Agent) : List Text :=
  [("def " : Text) ++ factoryName identifier ++ "() -> Agent:"]
    ++ Source.docstring (Source.indent 1) [("Instantiate the '" : Text) ++ a.name ++ "' agent."]
    ++ [line 1 "return Agent(",
        line 2 (("name=" : Text) ++ Source.literal identifier ++ ","),
        line 2 (("llm=" : Text) ++ clientExpression a ++ ","),
        line 2 (("memory=" : Text) ++ memory.expression ++ ","),
        line 2 (("system_prompt=" : Text)
          ++ Source.multilineLiteral (Source.indent 2) a.systemPrompt ++ ","),
        line 2 (("welcome_message=" : Text) ++ Source.literal a.welcomeMessage ++ ","),
        line 2 (("input_placeholder=" : Text) ++ Source.literal a.inputPlaceholder ++ ",")]
    ++ toolReferences a
    ++ [line 1 ")"]

end Project

end AgentWorkflow
