import AgentWorkflow.Number.Shortest
import AgentWorkflow.Workflow.Family
import AgentWorkflow.Workflow.Hierarchy
import AgentWorkflow.Workflow.Path

/-!
# Issues

What can be wrong with a workflow. An error means that the generated project would be invalid or
wrong; a warning tells of a name that will be changed or of settings without effect.
-/

namespace AgentWorkflow

/-- How grave an issue is. -/
inductive Severity
  | error
  | warning
deriving DecidableEq

def Severity.name : Severity → Text
  | .error => "error"
  | .warning => "warning"

inductive NameKind
  | agent
  | tool
  | parameter
deriving DecidableEq

/-- What is found in a workflow. -/
inductive Finding
  | noAgents
  | repeatedId (id : Text)
  | missingName (kind : NameKind)
  | invalidName (kind : NameKind) (name : Text)
  | changedName (kind : NameKind) (name sanitized : Text)
  | repeatedName (kind : NameKind) (name : Text)
  | temperature (value : Binary64)
  | unsupportedModel (model : Text)
  | memoryWithoutProject
  | settingsWithoutProject
  | invalidProject (project : Text)
  | invalidRegion (region : Text)
  | unusableService (service : Text)
  | changedService (service sanitized : Text)
  | unresolved (reason : HierarchyError)
  | unencodable (file : Text)
deriving DecidableEq

structure Issue where
  finding : Finding
  path : Option Path
deriving DecidableEq

/-- The kind in a sentence's beginning. -/
def NameKind.title : NameKind → Text
  | .agent => "Agent"
  | .tool => "Tool"
  | .parameter => "Parameter"

/-- The kind inside a sentence. -/
def NameKind.word : NameKind → Text
  | .agent => "agent"
  | .tool => "tool"
  | .parameter => "parameter"

/-- Among what the names of a kind have to be distinct. -/
def NameKind.rule : NameKind → Text
  | .agent => "Agent names must be unique."
  | .tool => "Tool names must be unique per agent."
  | .parameter => "Parameter names must be unique per tool."

/-- A text between double quotes, as it is. -/
def inQuotes (t : Text) : Text := ("\"" : Text) ++ t ++ "\""

namespace Finding

def severity : Finding → Severity
  | .changedName .. | .memoryWithoutProject | .settingsWithoutProject | .changedService .. =>
    .warning
  | _ => .error

def message : Finding → Text
  | .noAgents => "At least one agent is required."
  | .repeatedId id =>
    ("Duplicate agent id " : Text) ++ inQuotes id ++ " found. Agent ids must be unique."
  | .missingName kind => kind.title ++ " name is required."
  | .invalidName kind name =>
    kind.title ++ " name " ++ inQuotes name ++ " must be a valid Python identifier "
      ++ "(letters, numbers, underscore; cannot start with a number or be a Python keyword)."
  | .changedName kind name sanitized =>
    kind.title ++ " name " ++ inQuotes name ++ " will be sanitized to " ++ inQuotes sanitized
      ++ " in the generated code."
  | .repeatedName kind name =>
    ("Duplicate " : Text) ++ kind.word ++ " name " ++ inQuotes name ++ " found. " ++ kind.rule
  | .temperature value =>
    ("Temperature " : Text) ++ value.text ++ " is out of range; it must be between 0.0 and 2.0."
  | .unsupportedModel model =>
    ("Unsupported LLM model " : Text) ++ inQuotes model ++ ". Allowed values: "
      ++ Text.join ", " supportedModels ++ "."
  | .memoryWithoutProject =>
    ("Memory Bank is enabled but no project ID is set; " : Text)
      ++ "the generated code will read GOOGLE_CLOUD_PROJECT at runtime."
  | .settingsWithoutProject =>
    ("Deployment settings are set but no project ID is given; " : Text)
      ++ "deployment files will not be generated."
  | .invalidProject project =>
    ("Project ID " : Text) ++ inQuotes project ++ " is invalid. Use 6-30 lowercase letters, "
      ++ "digits or hyphens, starting with a letter."
  | .invalidRegion region =>
    ("Region " : Text) ++ inQuotes region ++ " is invalid. Expected a form like \"us-central1\"."
  | .unusableService service =>
    ("Service name " : Text) ++ inQuotes service ++ " has no usable characters."
  | .changedService service sanitized =>
    ("Service name " : Text) ++ inQuotes service ++ " will be sanitized to " ++ inQuotes sanitized
      ++ "."
  | .unresolved reason => reason.message
  | .unencodable file =>
    ("Generated " : Text) ++ file ++ " contains text that cannot be encoded as UTF-8 "
      ++ "(unpaired surrogate)."

end Finding

namespace Issue

def on (path : Path) (finding : Finding) : Issue := ⟨finding, some path⟩

def severity (i : Issue) : Severity := i.finding.severity

def message (i : Issue) : Text := i.finding.message

end Issue

/-- Issues, the errors apart from the warnings, each in the order found. -/
structure Report where
  errors : List Issue := []
  warnings : List Issue := []
deriving DecidableEq

namespace Report

def ofIssues (issues : List Issue) : Report where
  errors := issues.filter fun i => i.severity = .error
  warnings := issues.filter fun i => i.severity = .warning

def hasErrors (r : Report) : Bool := !r.errors.isEmpty

def hasWarnings (r : Report) : Bool := !r.warnings.isEmpty

/-- All issues, the errors first. -/
def issues (r : Report) : List Issue := r.errors ++ r.warnings

end Report

end AgentWorkflow
