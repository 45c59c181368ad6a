import AgentWorkflow.Project.Factory
import AgentWorkflow.Workflow.Hierarchy

/-!
# The assembly

The part of the main module that makes every agent and joins the agents into a workflow. An
assembly names agents by their identifiers.
-/

namespace AgentWorkflow

namespace Project

open Source (line)

/-- How agents are joined: all of them in order, and under each supervisor its reports. -/
structure Assembly where
  kind : WorkflowKind
  members : List Text
  reports : List (Text × List Text)
deriving DecidableEq

namespace Assembly

/-- The assembly of a structure of agents, whose identifiers are given by id. Supervisors come in
the order of a walk. -/
def ofHierarchy (identifiers : Table Text) (h : Hierarchy) : Assembly :=
  let identifier := fun id => (Table.get? identifiers id).getD []
  { kind := h.kind,
    members := h.order.map identifier,
    reports := (h.walk.filter fun (id, _) => !(h.childrenOf id).isEmpty).map fun (id, _) =>
      (identifier id, (h.childrenOf id).map identifier) }

def agentVariable (identifier : Text) : Text := ("agent_" : Text) ++ identifier

def instances (a : Assembly) : List Text :=
  [line 1 "# Create instances of each agent"]
    ++ a.members.map (fun i => line 1 (agentVariable i ++ " = " ++ factoryName i ++ "()"))

def agentsArgument (a : Assembly) : List Text :=
  [line 2 "agents=["] ++ a.members.map (fun i => line 3 (agentVariable i ++ ",")) ++ [line 2 "],"]

def supervisorLine (entry : Text × List Text) : Text :=
  line 3 (Source.literal entry.1 ++ ": [" ++ Text.join ", " (entry.2.map Source.literal) ++ "],")

def structureArgument (a : Assembly) : List Text :=
  if a.reports.isEmpty then [line 2 "structure=\x7b\x7d,"]
  else [line 2 "structure=\x7b"] ++ a.reports.map supervisorLine ++ [line 2 "\x7d,"]

/-- The comment that explains how the agents are joined. -/
def comment (a : Assembly) : List Text :=
  match a.kind with
  | .sequential =>
    [line 1 "# Assemble the agents into a sequential workflow.",
     line 1 "# The output of each agent becomes the input of the next:",
     line 1 (("# " : Text) ++ Text.join " -> " (a.members.map agentVariable))]
  | .hierarchical =>
    [line 1 "# Assemble the agents into a hierarchical workflow.",
     line 1 "# structure maps each supervisor to its direct reports."]
  | .collaborative =>
    [line 1 "# Assemble the agents into a collaborative workflow.",
     line 1 "# Agents are peers; list order carries no meaning."]

def statement (a : Assembly) : List Text :=
  [line 1 (("workflow = " : Text) ++ a.kind.name ++ "(")]
    ++ a.agentsArgument
    ++ (if a.kind = .hierarchical then a.structureArgument else [])
    ++ [line 1 ")"]

def lines (a : Assembly) : List Text :=
  a.instances ++ [[]] ++ a.comment ++ a.statement
    ++ [line 1 "cl.user_session.set(\"workflow\", workflow)"]

end Assembly

end Project

end AgentWorkflow
