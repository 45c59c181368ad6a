import AgentWorkflow.Workflow.Family

/-!
# Requirements

The packages that a generated project needs, always in the same order.
-/

namespace AgentWorkflow

namespace Project

/-- The packages that every project needs. -/
def baseRequirements : List Text := ["chainlit", "adk", "pydantic"]

/-- The packages that a project needs: OpenAI's client for its models, and Vertex's for its models
and for the memory bank. -/
def requirements (agents : List Agent) (memoryBank : Bool) : List Text :=
  baseRequirements
    ++ (if usesFamily agents .openai then [("openai" : Text)] else [])
    ++ (if memoryBank || usesFamily agents .vertex then [("google-cloud-aiplatform" : Text)] else [])

def requirementsFile (requirements : List Text) : Text :=
  Text.join "\n" requirements ++ "\n# The ADK may have optional dependencies.\n"
    ++ "# e.g., adk[google] for full GCP support.\n"
    ++ "# python-dotenv  # Recommended for local development\n"

end Project

end AgentWorkflow
