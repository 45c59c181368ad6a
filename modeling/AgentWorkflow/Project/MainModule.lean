import AgentWorkflow.Project.Assembly

/-!
# The main module

The module of the generated program that runs the chat: imports, checks of the environment, one
factory per agent, and the handlers of the chat.
-/

namespace AgentWorkflow

namespace Project

open Source (line)

/-- The greeting when the first agent has none. -/
def defaultWelcome : Text := "Welcome to the agent workflow!"

/-- The input's placeholder when the first agent has none. -/
def defaultPlaceholder : Text := "Start the workflow..."

def emptyMainModule : List Text :=
  Source.fixed
    ["\"\"\"Chainlit entry point for the generated workflow.\"\"\"",
     "",
     "# No agents defined. Please add an agent to the workflow."]

def mainHeader (kind : WorkflowKind) : List Text :=
  [("\"\"\"Chainlit entry point for the " : Text) ++ kind.name ++ " multi-agent workflow."]
    ++ Source.fixed
      ["", "Generated by agent-builder. Implement tool logic in tools.py.", "\"\"\"", ""]

def imports (w : Workflow) : List Text :=
  Source.fixed
      ["import logging", "import os", "", "import chainlit as cl", "from adk.agent import Agent"]
    ++ [("from adk.workflow import " : Text) ++ w.kind.name]
    ++ (if usesOther w.agents then [("from adk.llm.provider.openai import OpenAI" : Text)] else [])
    ++ (if usesFamily w.agents .vertex then
          [("from adk.llm.provider.vertex import VertexAI" : Text)]
        else [])
    ++ [(Memory.ofDeployment w.deployment).importLine]
    ++ Source.fixed
      ["", "import tools as agent_tools", "", "logging.basicConfig(level=logging.INFO)",
       "logger = logging.getLogger(__name__)", ""]

/-- The check for OpenAI's key. -/
def openaiGuard : List Text :=
  Source.fixed
    ["if not os.getenv(\"OPENAI_API_KEY\"):",
     "    raise ValueError(\"OPENAI_API_KEY environment variable not set\")",
     ""]

/-- The check for Google's credentials. -/
def googleGuard : List Text :=
  Source.fixed
    ["if not os.getenv(\"GOOGLE_APPLICATION_CREDENTIALS\"):",
     "    logger.warning(",
     "        \"GOOGLE_APPLICATION_CREDENTIALS environment variable not set. \"",
     "        \"Using default credentials.\"",
     "    )",
     ""]

/-- True when the program talks to Google's services. -/
def usesGoogle (w : Workflow) : Bool :=
  usesFamily w.agents .vertex || w.deployment.memoryBank

def guards (w : Workflow) : List Text :=
  (if usesOther w.agents then openaiGuard else []) ++ (if usesGoogle w then googleGuard else [])

/-- A text, or another in place of the empty one. -/
def orElse (t default : Text) : Text := if t.isEmpty then default else t

/-- The texts that greet the user; they come from the first agent. -/
def greeting (first : Agent) : List Text :=
  [("WELCOME_MESSAGE = " : Text) ++ Source.literal (orElse first.welcomeMessage defaultWelcome),
   ("INPUT_PLACEHOLDER = " : Text)
     ++ Source.literal (orElse first.inputPlaceholder defaultPlaceholder)]

def factories (identifiers : Table Text) (memory : Memory) (agents : List Agent) : List Text :=
  agents.flatMap fun a =>
    [[], []] ++ factory memory ((Table.get? identifiers a.id).getD []) a

def chatStart (assembly : Assembly) : List Text :=
  Source.fixed ["", "", "@cl.on_chat_start", "async def start_chat():"]
    ++ assembly.lines
    ++ [line 1 "await cl.Message(content=WELCOME_MESSAGE).send()"]

def profileDescription : WorkflowKind → Text
  | .sequential => "This chat is powered by a sequence of specialized agents."
  | .hierarchical => "This chat is powered by a supervisor and its team of agents."
  | .collaborative => "This chat is powered by a team of collaborating agents."

def messageHandler : List Text :=
  Source.fixed
    ["",
     "",
     "@cl.on_message",
     "async def main(message: cl.Message):",
     "    workflow = cl.user_session.get(\"workflow\")",
     "    response_message = cl.Message(content=\"\")",
     "",
     "    # Collect the streamed response and send it as a single payload",
     "    chunks: list[str] = []",
     "    async for chunk in workflow.astream(message.content):",
     "        if chunk:",
     "            chunks.append(str(chunk))",
     "",
     "    response_message.content = \"\".join(chunks)",
     "    await response_message.send()"]

def chatProfile (kind : WorkflowKind) : List Text :=
  Source.fixed
      ["",
       "",
       "@cl.set_chat_profiles",
       "async def chat_profile():",
       "    return [",
       "        cl.ChatProfile(",
       "            name=\"Multi-Agent Workflow\","]
    ++ [line 3 (("markdown_description=" : Text) ++ Source.literal (profileDescription kind) ++ ",")]
    ++ Source.fixed ["        ),", "    ]"]

def server : List Text :=
  Source.fixed
    ["",
     "",
     "# Get the port from the environment variable, default to 8000 for local development",
     "port = int(os.environ.get(\"PORT\", 8000))",
     "os.environ.setdefault(\"CHAINLIT_PORT\", str(port))",
     "",
     "Copilot = getattr(cl, \"Copilot\", None)",
     "if Copilot is not None:",
     "    Copilot(route=\"/\", chat_input_placeholder=INPUT_PLACEHOLDER).mount_app(port=port)",
     "else:",
     "    logger.info(\"Chainlit Copilot API not available; using the default UI on port %s\", port)"]

/-- The lines of the main module of a workflow whose agents form the given structure. -/
def mainLines (w : Workflow) (h : Hierarchy) : List Text :=
  match w.agents with
  | [] => emptyMainModule
  | first :: _ =>
    let identifiers := agentIdentifiers w.agents
    mainHeader w.kind ++ imports w ++ guards w ++ greeting first
      ++ factories identifiers (Memory.ofDeployment w.deployment) w.agents
      ++ chatStart (Assembly.ofHierarchy identifiers h)
      ++ messageHandler ++ chatProfile w.kind ++ server

def mainModule (w : Workflow) (h : Hierarchy) : Text := Text.unlines (mainLines w h)

end Project

end AgentWorkflow
