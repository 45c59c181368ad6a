import AgentWorkflow.Text.Shell
import AgentWorkflow.Workflow.Deployment
import AgentWorkflow.Workflow.Hierarchy

/-!
# The guide

The readme of a generated project: what its agents are, how to run it and how to deploy it.
-/

namespace AgentWorkflow

namespace Project

/-- The names of an agent's tools, as code. -/
def toolList (a : Agent) : Text :=
  Text.join ", " (a.tools.map fun t => ("`" : Text) ++ t.name ++ "`")

/-- An agent's name and model. -/
def agentTitle (a : Agent) : Text :=
  a.name ++ "** (LLM: `" ++ a.model ++ "`)"

/-- What stands behind an agent's title in a list of agents. -/
def toolSuffix (a : Agent) : Text :=
  if a.tools.isEmpty then [] else (" (Tools: " : Text) ++ toolList a ++ ")"

/-- The entry of an agent in a list of agents, two blanks in for every level. -/
def agentEntry (depth : Nat) (a : Agent) : Text :=
  List.replicate (2 * depth) (' ' : CodePoint) ++ ("- **" : Text) ++ agentTitle a ++ toolSuffix a

/-- The entries of agents that hand work on, with the number of the first. -/
def stepEntries (number : Nat) : List Agent → List Text
  | [] => []
  | a :: rest =>
    [("**Step " : Text) ++ Text.ofNat number ++ ": " ++ agentTitle a,
     ("   - **Tools:** " : Text) ++ (if a.tools.isEmpty then ("None" : Text) else toolList a)]
      ++ stepEntries (number + 1) rest

def members (agents : List Agent) (h : Hierarchy) : List Agent :=
  h.order.filterMap (Hierarchy.agent? agents)

/-- The agents of a structure in the order of a walk, each with its depth. -/
def ranked (agents : List Agent) (h : Hierarchy) : List (Nat × Agent) :=
  h.walk.filterMap fun (id, depth) => (Hierarchy.agent? agents id).map (depth, ·)

/-- How the agents of a kind of workflow work together. -/
def kindSummary (kind : WorkflowKind) (count : Nat) : Text :=
  match kind with
  | .hierarchical =>
    ("This is a hierarchical workflow where agents operate in a " : Text)
      ++ "supervisor-subordinate structure."
  | .collaborative =>
    ("This is a collaborative workflow where " : Text) ++ Text.ofNat count
      ++ " agents work as a team of peers."
  | .sequential =>
    ("This is a sequential workflow consisting of " : Text) ++ Text.ofNat count
      ++ " agent(s). The output of one agent is passed as the input to the next."

def agentEntries (agents : List Agent) (h : Hierarchy) : List Text :=
  match h.kind with
  | .hierarchical => (ranked agents h).map fun (depth, a) => agentEntry depth a
  | .collaborative => (members agents h).map (agentEntry 0)
  | .sequential => stepEntries 1 (members agents h)

/-- What the guide says of the agents. -/
def overview (agents : List Agent) (h : Hierarchy) : Text :=
  if agents.isEmpty then "No agents defined. Add an agent in the builder and regenerate."
  else kindSummary h.kind agents.length ++ "\n\n" ++ Text.join "\n" (agentEntries agents h)

def memorySection (d : Deployment) : Text :=
  if d.memoryBank then
    Text.unlines
      ["### Memory Bank",
       "",
       ("This agent is configured to use **GCP Memory Bank**, providing a persistent, managed " : Text)
         ++ "memory solution. Ensure your deployment environment has permission to access the "
         ++ "Memory Bank API in project `"
         ++ (if d.projectId.isEmpty then ("(set GOOGLE_CLOUD_PROJECT)" : Text) else d.projectId)
         ++ "`."]
  else
    Text.unlines
      ["### Local Memory",
       "",
       ("This agent uses in-memory storage, which is reset on each session start. " : Text)
         ++ "For persistent memory, enable Memory Bank in the deployment settings and regenerate."]

/-- The last part of a path, parts that are empty or a single dot not counted. -/
def fileName (path : Text) : Text :=
  (((Text.splitOn '/' path).filter fun p => !p.isEmpty && p ≠ ("." : Text)).getLast?).getD []

/-- What the guide says of the key file that the settings name. -/
def keyHint (d : Deployment) : Text :=
  let credential := d.credentialRef.trim
  if credential.isEmpty then []
  else
    Text.unlines
      ["",
       ("The builder was configured with a key file named `" : Text) ++ fileName credential
         ++ "`. Keep it outside this directory and point the variable at it."]

def credentialsSection (d : Deployment) : Text :=
  Text.unlines
      ["### SECURITY WARNING: credentials",
       "",
       ("NEVER commit service account keys or `.env` files to version control. " : Text)
         ++ "Store the key outside the project and reference it with "
         ++ "`GOOGLE_APPLICATION_CREDENTIALS`:",
       "",
       "```bash",
       "export GOOGLE_APPLICATION_CREDENTIALS=/path/to/your/service-account-key.json",
       "```"]
    ++ keyHint d

def deploymentSection (d : Deployment) : Text :=
  if d.hasProject then
    Text.unlines
      ["## Deploy to GCP Agent Engine",
       "",
       "This project is pre-configured for deployment to Google Cloud Agent Engine.",
       "",
       "**Prerequisites:**",
       "",
       "1.  Install the Google Cloud SDK and authenticate (`gcloud auth login`).",
       ("2.  Enable the Cloud Build, Artifact Registry and Agent Engine APIs for project `" : Text)
         ++ d.project ++ "`:",
       "    ```bash",
       ("    gcloud services enable cloudbuild.googleapis.com artifactregistry.googleapis.com " : Text)
         ++ "agentengine.googleapis.com --project=" ++ d.project.shellWord,
       "    ```",
       ("3.  The deploying account needs the Agent Engine Admin, Cloud Build Editor, " : Text)
         ++ "Artifact Registry Admin and Service Account User roles.",
       "",
       "**Deploy:**",
       "",
       "```bash",
       "bash ./deploy.sh",
       "```",
       "",
       ("The service `" : Text) ++ d.service ++ "` is deployed to region `" ++ d.location ++ "`."]
  else
    Text.unlines
      ["## Deploy to GCP Agent Engine",
       "",
       ("Set a GCP project ID in the builder's deployment settings and regenerate to get " : Text)
         ++ "`cloudbuild.yaml` and `deploy.sh`."]

/-- What the guide says of running a project locally. -/
def setupSection : Text :=
  Text.unlines
    (["## Local Setup & Run",
      "",
      "1.  **Install Dependencies:**",
      "    ```bash",
      "    pip install -r requirements.txt",
      "    ```",
      "",
      "2.  **Set Environment Variables:** create a `.env` file with the API keys your models need "
        ++ "(`OPENAI_API_KEY` for OpenAI models, `GOOGLE_APPLICATION_CREDENTIALS` for Vertex AI and "
        ++ "Memory Bank).",
      "",
      "3.  **Run the Chainlit App:**",
      "    ```bash",
      "    chainlit run main.py -w",
      "    ```",
      "",
      "4.  Open `http://localhost:8000` to start chatting."].map Text.ofString)

def guide (w : Workflow) (h : Hierarchy) : Text :=
  Text.join "\n"
    [Text.unlines
       ["# Multi-Agent Workflow - ADK & Chainlit",
        "",
        ("This multi-agent workflow was configured and generated using the " : Text)
          ++ "ADK & Chainlit Agent Builder.",
        "",
        ("## Workflow Overview: " : Text) ++ w.kind.name,
        "",
        overview w.agents h],
     memorySection w.deployment,
     setupSection,
     credentialsSection w.deployment,
     deploymentSection w.deployment]

end Project

end AgentWorkflow
