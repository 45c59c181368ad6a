import AgentWorkflow.Naming.Identifier
import AgentWorkflow.Preflight.Issue

/-!
# Checking agents

The checks on agents, their tools and the tools' parameters. Every item is checked against those
before it in the same scope, so of several items with one name all but the first are at fault.
-/

namespace AgentWorkflow

namespace Preflight

/-- The name under which things of a kind are told apart. -/
def key : NameKind → Text → Text
  | .tool, name => Naming.toolFunction name
  | _, name => Naming.snakeCase name

/-- The keys of the names that are not blank. -/
def keys (kind : NameKind) (names : List Text) : List Text :=
  (names.filter (!·.isBlank)).map fun name => key kind name.trim

/-- Checks every item against those before it, `earlier` being the first of them. -/
def checkEach {α : Type} (check : List α → α → List Issue) (earlier : List α) :
    List α → List Issue
  | [] => []
  | x :: rest => check earlier x ++ checkEach check (earlier ++ [x]) rest

/-- Checks the form of a name that is not blank: it may be no keyword, nor become one. -/
def checkForm (kind : NameKind) (path : Path) (name : Text) : List Issue :=
  let sanitized := Naming.snakeCase name.trim
  if Naming.isKeyword name.trim || !Naming.isUsable sanitized then
    [.on path (.invalidName kind name)]
  else if name ≠ sanitized then [.on path (.changedName kind name sanitized)]
  else []

/-- Checks a name against the names before it. A blank name is reported as missing and takes no
part in any comparison. -/
def checkName (kind : NameKind) (path : Path) (earlier : List Text) (name : Text) : List Issue :=
  if name.isBlank then [.on path (.missingName kind)]
  else
    checkForm kind path name
      ++ (if (keys kind earlier).contains (key kind name.trim) then
            [.on path (.repeatedName kind name)]
          else [])

/-- Checks a parameter of the tool at `path`. -/
def checkParameter (path : Path) (earlier : List Parameter) (p : Parameter) : List Issue :=
  checkName .parameter ((path.parameter earlier.length).field "name") (earlier.map (·.name)) p.name

/-- Checks a tool of the agent at `path`. -/
def checkTool (path : Path) (earlier : List Tool) (t : Tool) : List Issue :=
  let path := path.tool earlier.length
  checkName .tool (path.field "name") (earlier.map (·.name)) t.name
    ++ checkEach (checkParameter path) [] t.parameters

def checkAgent (earlier : List Agent) (a : Agent) : List Issue :=
  let path := Path.agent earlier.length
  (if (earlier.map (·.id)).contains a.id then [.on (path.field "id") (.repeatedId a.id)] else [])
    ++ checkName .agent (path.field "name") (earlier.map (·.name)) a.name
    ++ (if a.temperature.isWithin 2 then []
        else [.on (path.field "temperature") (.temperature a.temperature)])
    ++ (if supportedModels.contains a.model then []
        else [.on (path.field "llmModel") (.unsupportedModel a.model)])
    ++ checkEach (checkTool path) [] a.tools

/-- The issues of a list of agents. -/
def agentIssues (agents : List Agent) : List Issue :=
  (if agents.isEmpty then [.on [.field "agents"] .noAgents] else [])
    ++ checkEach checkAgent [] agents

end Preflight

end AgentWorkflow
