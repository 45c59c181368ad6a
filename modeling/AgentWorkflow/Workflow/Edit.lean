import AgentWorkflow.Workflow.Document

/-!
# Edits

What an editor does to the workflow at hand: load another one, switch its kind, or read it anew
from its own document.
-/

namespace AgentWorkflow

/-- A change of the workflow at hand. -/
inductive Edit
  | load (document : Json)
  | switch (target : Json)
  | reparse

def Workflow.edit (w : Workflow) : Edit → Reading Workflow
  | .load document => Workflow.ofJson document
  | .switch target => w.withKind <$> Document.readTarget target
  | .reparse => Workflow.ofJson w.toJson

/-- The workflow after a run of changes, of which those that fail are left out. -/
def Workflow.run (w : Workflow) (edits : List Edit) : Workflow :=
  edits.foldl (fun w e => (w.edit e).toOption.getD w) w

end AgentWorkflow
