import AgentWorkflow.Project.MainModule

/-!
# The environment file

An example of the file that sets the variables which the program reads.
-/

namespace AgentWorkflow

namespace Project

def generalVariables : List Text :=
  Source.fixed
    ["# Environment configuration for the generated agent workflow.",
     "# Copy this file to .env and fill in your values.",
     "# NEVER commit the .env file to version control.",
     "",
     "PORT=8000"]

def openaiVariables : List Text :=
  Source.fixed ["# OpenAI", "OPENAI_API_KEY=your-openai-api-key"]

def googleVariables (d : Deployment) : List Text :=
  ["# Google Cloud",
   ("GOOGLE_CLOUD_PROJECT=" : Text) ++ orElse d.project "your-gcp-project-id",
   ("GCP_REGION=" : Text) ++ d.location,
   "GOOGLE_APPLICATION_CREDENTIALS=/path/to/your/service-account-key.json"]

def environmentSections (w : Workflow) : List (List Text) :=
  [generalVariables]
    ++ (if usesOther w.agents then [openaiVariables] else [])
    ++ (if usesGoogle w then [googleVariables w.deployment] else [])

def environmentExample (w : Workflow) : Text :=
  Text.join "\n" ((environmentSections w).map Text.unlines)

end Project

end AgentWorkflow
