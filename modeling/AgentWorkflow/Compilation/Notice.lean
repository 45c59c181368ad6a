import AgentWorkflow.Compilation.Outcome
import AgentWorkflow.Text.Quoted

/-!
# Notices

What compiling a workflow tells of itself on the side, in the order in which it happens.
-/

namespace AgentWorkflow

/-- How important a notice is. -/
inductive NoticeLevel
  | debug
  | info
  | warning
  | error
  | critical
deriving DecidableEq

def NoticeLevel.rank : NoticeLevel → Nat
  | .debug => 10
  | .info => 20
  | .warning => 30
  | .error => 40
  | .critical => 50

def NoticeLevel.name : NoticeLevel → Text
  | .debug => "DEBUG"
  | .info => "INFO"
  | .warning => "WARNING"
  | .error => "ERROR"
  | .critical => "CRITICAL"

def NoticeLevel.ofName? (name : Text) : Option NoticeLevel :=
  if name = ("DEBUG" : Text) then some .debug
  else if name = ("INFO" : Text) then some .info
  else if name = ("WARNING" : Text) || name = ("WARN" : Text) || name = ("NOTSET" : Text) then
    some .warning
  else if name = ("ERROR" : Text) then some .error
  else if name = ("CRITICAL" : Text) || name = ("FATAL" : Text) then some .critical
  else none

/-- What is told. -/
inductive Notice
  | cycle (ids : List Text)
  | unknownParent (agent parent : Text)
  | droppedTool (tool agent function : Text)
  | requirements (packages : List Text)
  | temperature (value : Binary64)
  | generated (files agents tools : Nat) (kind : WorkflowKind)
  | blocked (errors : Nat)
  | aborted (reason : HierarchyError)
  | unencodable (names : List Text)
  | compiled (files : Nat) (hash : Text)
  | unparsable (file problem : Text) (line : Nat)
  | wrote (path : Text)
deriving DecidableEq

namespace Notice

def level : Notice → NoticeLevel
  | .cycle _ | .unparsable .. => .error
  | .unknownParent .. | .temperature _ | .aborted _ | .unencodable _ => .warning
  | .generated .. | .blocked _ | .wrote _ => .info
  | .droppedTool .. | .requirements _ | .compiled .. => .debug

def message : Notice → Text
  | .cycle ids => ("Cyclic agent hierarchy detected: " : Text) ++ Text.quotedList ids
  | .unknownParent agent parent =>
    ("Agent " : Text) ++ agent.quoted ++ " references unknown parent " ++ parent.quoted
      ++ "; treating it as a root"
  | .droppedTool tool agent function =>
    ("Dropping tool " : Text) ++ tool.quoted ++ " on agent " ++ agent.quoted ++ ": "
      ++ function.quoted ++ " already defined"
  | .requirements packages => ("Computed requirements: " : Text) ++ Text.quotedList packages
  | .temperature value =>
    ("Non-finite temperature " : Text) ++ value.text ++ " replaced with " ++ defaultTemperature.text
  | .generated files agents tools kind =>
    ("Generated " : Text) ++ Text.ofNat files ++ " files for " ++ Text.ofNat agents ++ " agent(s), "
      ++ Text.ofNat tools ++ " tool(s), workflow=" ++ kind.name
  | .blocked errors =>
    ("Generation blocked by " : Text) ++ Text.ofNat errors ++ " preflight error(s)"
  | .aborted reason => ("Generation aborted: " : Text) ++ reason.message
  | .unencodable names =>
    ("Generation aborted: " : Text) ++ Text.join ", " names ++ " not encodable as UTF-8"
  | .compiled files hash =>
    ("Compiled " : Text) ++ Text.ofNat files ++ " files, payload_hash=" ++ hash.take 12
  | .unparsable file problem line =>
    ("Generated " : Text) ++ file ++ " does not parse: " ++ problem ++ " (line " ++ Text.ofNat line
      ++ ")"
  | .wrote path => ("Wrote " : Text) ++ path

def line (n : Notice) : Text := n.level.name ++ ": " ++ n.message

/-- The notices on agents whose parent is none of the agents. -/
def ofParents (agents : List Agent) : List Notice :=
  agents.filterMap fun a =>
    a.parent.bind fun p =>
      if (Hierarchy.agent? agents p).isSome then none else some (.unknownParent a.id p)

def ofHierarchy (w : Workflow) : List Notice :=
  match w.hierarchy with
  | .error (.cycle ids) => [.cycle ids]
  | .error _ => []
  | .ok _ => if w.kind = .hierarchical then ofParents w.agents else []

/-- The notices on tools of which an earlier one has the function; `seen` holds the functions of
the tools before. -/
def ofTools (seen : List Text) : List (Agent × Tool) → List Notice
  | [] => []
  | (a, t) :: rest =>
    let function := Tools.functionOf t
    if seen.contains function then .droppedTool t.name a.name function :: ofTools seen rest
    else ofTools (function :: seen) rest

/-- The notices on temperatures that the program cannot carry. -/
def ofTemperatures (agents : List Agent) : List Notice :=
  (agents.filter (!·.temperature.isFinite)).map fun a => .temperature a.temperature

def ofFiles (w : Workflow) (files : Table Text) : List Notice :=
  ofTools [] (w.agents.flatMap fun a => a.tools.map (a, ·))
    ++ [.requirements (Project.requirements w.agents w.deployment.memoryBank)]
    ++ ofTemperatures w.agents
    ++ [.generated files.length w.agents.length (Tools.catalogue w.agents).length w.kind]

end Notice

def Workflow.notices (block : Bool) (options : GenerateOptions) (w : Workflow) : List Notice :=
  match w.outcome block options with
  | .blocked => [.blocked w.preflight.errors.length]
  | .unresolved reason => Notice.ofHierarchy w ++ [.aborted reason]
  | .unencodable names =>
    Notice.ofHierarchy w ++ Notice.ofFiles w ((w.generate options).toOption.getD [])
      ++ [.unencodable names]
  | .generated files =>
    Notice.ofHierarchy w ++ Notice.ofFiles w files
      ++ [.compiled files.length (Project.payloadHash files)]

end AgentWorkflow
