import AgentWorkflow.Text.Blank
import AgentWorkflow.Workflow.Model

/-!
# Model families

Models come from two providers; the beginning of a model's name tells which.
-/

namespace AgentWorkflow

/-- A provider of models. -/
inductive ModelFamily
  | openai
  | vertex
deriving DecidableEq

def ModelFamily.name : ModelFamily → Text
  | .openai => "openai"
  | .vertex => "vertex"

def supportedModels : List Text :=
  ["gemini-2.5-flash", "gemini-1.5-flash", "gemini-1.5-pro", "gpt-4o"]

/-- The family of a model, if its name shows one: `gemini-` for Vertex; `gpt-`, or the letter o and
a digit, for OpenAI. -/
def modelFamily? (model : Text) : Option ModelFamily :=
  let name := model.trim
  if ("gemini-" : Text).isPrefixOf name then some .vertex
  else if ("gpt-" : Text).isPrefixOf name then some .openai
  else match name with
    | c :: d :: _ => if c = 'o' && d.isDigit then some .openai else none
    | _ => none

def Agent.family? (a : Agent) : Option ModelFamily := modelFamily? a.model

def usesFamily (agents : List Agent) (family : ModelFamily) : Bool :=
  agents.any fun a => a.family? = some family

/-- True when some agent's model is not Vertex's; such an agent is given OpenAI's client. -/
def usesOther (agents : List Agent) : Bool := agents.any fun a => a.family? ≠ some .vertex

end AgentWorkflow
