import AgentWorkflow.Hash.Payload
import AgentWorkflow.Preflight.Deployment
import AgentWorkflow.Project.Files

/-!
# Compiling a workflow

A workflow is checked first and then made into files. There are four outcomes: the check found
errors and those block; the agents form no structure; some file cannot be written in UTF-8; or
there are files. Only the last has any files.
-/

namespace AgentWorkflow

/-- How compiling a workflow ends. -/
inductive Outcome
  | blocked
  | unresolved (reason : HierarchyError)
  | unencodable (names : List Text)
  | generated (files : Table Text)
deriving DecidableEq

namespace Outcome

/-- The names of the files that cannot be written in UTF-8. -/
def unencodableNames (files : Table Text) : List Text :=
  (files.filter fun (_, content) => !content.isEncodable).map (·.1)

def ofFiles (files : Table Text) : Outcome :=
  if (unencodableNames files).isEmpty then .generated files
  else .unencodable (unencodableNames files)

def files : Outcome → Table Text
  | .generated files => files
  | _ => []

/-- The issues that an outcome adds to those of the check. -/
def issues : Outcome → List Issue
  | .unresolved reason => [.on [.field "agents"] (.unresolved reason)]
  | .unencodable names => names.map fun name => ⟨.unencodable name, none⟩
  | _ => []

end Outcome

/-- The outcome of compiling a workflow. `block` tells whether errors of the check block. -/
def Workflow.outcome (block : Bool) (options : GenerateOptions) (w : Workflow) : Outcome :=
  if block && w.preflight.hasErrors then .blocked
  else match w.generate options with
    | .error reason => .unresolved reason
    | .ok files => .ofFiles files

/-- What compiling a workflow gives. The hash is empty when there are no files. -/
structure Compilation where
  files : Table Text
  errors : List Issue
  warnings : List Issue
  hash : Text
deriving DecidableEq

namespace Compilation

/-- True when there are files and no errors. -/
def succeeded (c : Compilation) : Bool := c.errors.isEmpty && !c.files.isEmpty

/-- What an outcome gives, together with the report of the check. -/
def ofOutcome (report : Report) (o : Outcome) : Compilation where
  files := o.files
  errors := report.errors ++ o.issues
  warnings := report.warnings
  hash := if o.files.isEmpty then [] else Project.payloadHash o.files

end Compilation

def Workflow.compile (block : Bool) (options : GenerateOptions) (w : Workflow) : Compilation :=
  .ofOutcome w.preflight (w.outcome block options)

end AgentWorkflow
