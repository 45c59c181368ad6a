import AgentWorkflow.Service.Problem
import AgentWorkflow.Service.Request

/-!
# Forms

The bodies that the endpoints take. A form keeps the fields it knows and drops all others. Fields
are checked in a fixed order, each on its own, so that one body can have several problems.
-/

namespace AgentWorkflow

/-- What the body of a request holds. -/
inductive Content
  | nothing
  | plain (t : Text)
  | value (v : Json)

/-- The part of every form that gives a workflow. -/
structure WorkflowForm where
  agents : List Json.Fields
  deployment : Option Json.Fields
  kind : Text

/-- What is sent to have a project generated. -/
structure GenerateForm where
  workflow : WorkflowForm
  environmentExample : Bool
  blockOnErrors : Option Bool

/-- What is sent to have a workflow switched to another kind. -/
structure SwitchForm where
  workflow : WorkflowForm
  target : Text

def WorkflowForm.document (f : WorkflowForm) : Json :=
  .object [("agents", .array (f.agents.map .object)),
    ("deploymentConfig", .object (f.deployment.getD [])), ("workflowType", .text f.kind)]

namespace Form

def trueWords : List Text := ["1", "on", "t", "true", "y", "yes"]

def falseWords : List Text := ["0", "off", "f", "false", "n", "no"]

/-- The truth value that a text says. ASCII letters have no case here, and blanks count. -/
def wordFlag? (t : Text) : Option Bool :=
  let word := t.map CodePoint.asciiLower
  if trueWords.contains word then some true
  else if falseWords.contains word then some false
  else none

/-- The truth value that a whole number says, or what is wrong with it. Numbers of at most 64 bits
are unclear; beyond, they are nothing like a truth value. -/
def wholeFlag (n : Int) : Except Complaint Bool :=
  if n = 0 then .ok false
  else if n = 1 then .ok true
  else if -0x8000000000000000 ≤ n && n < 0x8000000000000000 then .error .unclearFlag
  else .error .noFlag

/-- The whole number that a magnitude is, if it is one. -/
def whole? (m : Magnitude) : Option Nat :=
  if m.units % Nat.pow 2 1074 = 0 then some (m.units / Nat.pow 2 1074) else none

/-- The truth value that a value says, or what is wrong with it. -/
def flagOf : Json → Except Complaint Bool
  | .bool b => .ok b
  | .text t =>
    if t.isEncodable then
      match wordFlag? t with
      | some b => .ok b
      | none => .error .unclearFlag
    else .error .unencodableText
  | .int n => wholeFlag n
  | .real (.finite negative m) =>
    match whole? m with
    | some n =>
      if n < 0x8000000000000000 then wholeFlag (if negative then -(n : Int) else n) else .error .noFlag
    | none => .error .noFlag
  | _ => .error .noFlag

def checkFlag (name : Text) (value : Json) : Checked Bool :=
  match flagOf value with
  | .ok b => .ok b
  | .error complaint => .wrong complaint [.field name] value

def checkText (name : Text) : Json → Checked Text
  | .text t => .ok t
  | value => .wrong .noText [.field name] value

def checkObject (path : Path) : Json → Checked Json.Fields
  | .object fields => .ok fields
  | value => .wrong .noObject path value

/-- Checks the agents, which are objects of whatever shape. -/
def checkAgents (fields : Json.Fields) : Checked (List Json.Fields) :=
  match Table.get? fields "agents" with
  | none => .ok []
  | some (.array items) => Checked.each (fun i => checkObject (Path.agent i)) 0 items
  | some value => .wrong .noList [.field "agents"] value

/-- Checks the deployment settings, which may be missing or null. -/
def checkDeployment (fields : Json.Fields) : Checked (Option Json.Fields) :=
  match Table.get? fields "deploymentConfig" with
  | none | some .null => .ok none
  | some value => some <$> checkObject [.field "deploymentConfig"] value

def checkKind (fields : Json.Fields) : Checked Text :=
  match Table.get? fields "workflowType" with
  | none => .ok "Sequential"
  | some value => checkText "workflowType" value

def checkWorkflow (fields : Json.Fields) : Checked WorkflowForm :=
  .both (fun (agents, deployment) kind => { agents, deployment, kind })
    (.both Prod.mk (checkAgents fields) (checkDeployment fields)) (checkKind fields)

/-- Checks whether the example of an environment file is wanted. -/
def checkExample (fields : Json.Fields) : Checked Bool :=
  match Table.get? fields "include_env_example" with
  | none => .ok false
  | some value => checkFlag "include_env_example" value

/-- Checks whether errors are to block, which may be left open. -/
def checkBlock (fields : Json.Fields) : Checked (Option Bool) :=
  match Table.get? fields "block_on_errors" with
  | none | some .null => .ok none
  | some value => some <$> checkFlag "block_on_errors" value

def checkGenerate (fields : Json.Fields) : Checked GenerateForm :=
  .both (fun workflow (environmentExample, blockOnErrors) =>
      { workflow, environmentExample, blockOnErrors })
    (checkWorkflow fields) (.both Prod.mk (checkExample fields) (checkBlock fields))

def checkTarget (fields : Json.Fields) : Checked Text :=
  match Table.get? fields "target" with
  | none => .wrong .missing [.field "target"] (.object fields)
  | some value => checkText "target" value

def checkSwitch (fields : Json.Fields) : Checked SwitchForm :=
  .both (fun workflow target => { workflow, target }) (checkWorkflow fields) (checkTarget fields)

/-- Checks the content of a body, which has to be an object. -/
def check {α : Type} (checkFields : Json.Fields → Checked α) : Content → Checked α
  | .value (.object fields) => checkFields fields
  | .value v => .wrong .noFields [] v
  | .plain t => .wrong .noFields [] (.text t)
  | .nothing => .wrong .missing [] .null

example : wordFlag? "Off" = some false ∧ wordFlag? " on" = none := by decide

end Form

end AgentWorkflow
