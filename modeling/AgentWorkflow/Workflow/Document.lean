import AgentWorkflow.Json.Value
import AgentWorkflow.Text.Blank
import AgentWorkflow.Text.Case
import AgentWorkflow.Number.Literal
import AgentWorkflow.Workflow.Model
import AgentWorkflow.Workflow.Path

/-!
# Workflow documents

Reading a workflow from the document that an editor keeps, and writing it back. Reading drops the
fields it does not know, takes several spellings of some names, and refuses a wrong shape at the
first place it meets one: agent by agent, then the deployment settings, then the kind.
-/

namespace AgentWorkflow

/-- Why a document is refused. -/
inductive Malformation
  | notAnObject (found : Json)
  | agentsNotAList (found : Json)
  | objectExpected (path : Path) (found : Json)
  | listExpected (path : Path) (found : Json)
  | numberExpected (path : Path) (found : Json)
  | flagExpected (path : Path) (found : Json)
  | unknownType (path : Path) (found : Json)
  | unknownKind (found : Json)
  | unencodable (name : Text) (position : Nat)

/-- What stops the reading of a document: it is refused, or it gives a temperature as an integer
beyond every floating-point number. -/
inductive DocumentError
  | malformed (reason : Malformation)
  | temperatureTooLarge

/-- A reading that may stop. -/
abbrev Reading := Except DocumentError

def Malformation.message : Malformation → Text
  | .notAnObject found => ("Expected a JSON object, got " : Text) ++ found.typeName
  | .agentsNotAList found => ("'agents' must be a list, got " : Text) ++ found.typeName
  | .objectExpected path found => path.text ++ " must be an object, got " ++ found.typeName
  | .listExpected path found => path.text ++ " must be a list, got " ++ found.typeName
  | .numberExpected path found => path.text ++ " must be a number, got " ++ found.shown
  | .flagExpected path found =>
    path.text ++ " must be true or false, got " ++ found.typeName ++ " " ++ found.shown
  | .unknownType path found =>
    path.text ++ ": unknown parameter type " ++ found.shown ++ ". Valid types: "
      ++ Text.quotedList (ParameterType.all.map ParameterType.name)
  | .unknownKind found =>
    ("Unknown workflowType: " : Text) ++ found.shown ++ ". Valid types: "
      ++ Text.quotedList (WorkflowKind.all.map WorkflowKind.name)
  | .unencodable name position =>
    name ++ ": text cannot be encoded as UTF-8 (unpaired surrogate at position "
      ++ Text.ofNat position ++ ")"

/-- What is said of a temperature beyond every floating-point number. -/
def temperatureTooLargeMessage : Text := "int too large to convert to float"

def DocumentError.message : DocumentError → Text
  | .malformed reason => reason.message
  | .temperatureTooLarge => temperatureTooLargeMessage

namespace Document

def refuse {α : Type} (reason : Malformation) : Reading α := .error (.malformed reason)

/-- A value as a keyword: as text, without blanks around it, in lower case. -/
def keyword (value : Json) : Text := value.asText.trim.lower

/-- The first of the named fields that is there and not null, with its name. -/
def firstGiven? (fields : Json.Fields) : List Text → Option (Text × Json)
  | [] => none
  | name :: names =>
    match Table.get? fields name with
    | none | some .null => firstGiven? fields names
    | some value => some (name, value)

/-- The text under the first given of several names; empty when none is. -/
def readText (fields : Json.Fields) (names : List Text) : Reading Text :=
  match firstGiven? fields names with
  | none => .ok []
  | some (name, value) =>
    match value.asText.findIdx? CodePoint.isSurrogate with
    | none => .ok value.asText
    | some position => refuse (.unencodable name position)

/-- The truth value under the first given of several names. -/
def readFlag (fields : Json.Fields) (path : Path) (default : Bool) (names : List Text) :
    Reading Bool :=
  match firstGiven? fields names with
  | none => .ok default
  | some (_, .bool b) => .ok b
  | some (name, value) => refuse (.flagExpected (path.field name) value)

def readObject (path : Path) : Json → Reading Json.Fields
  | .object fields => .ok fields
  | value => refuse (.objectExpected path value)

/-- The items of the list at `path`; none when the list is missing or null. -/
def readList (path : Path) : Option Json → Reading (List Json)
  | none | some .null => .ok []
  | some (.array items) => .ok items
  | some value => refuse (.listExpected path value)

/-- Reads the items of a list in order, the first of them at position `i`. -/
def readEach {α : Type} (read : Nat → Json → Reading α) (i : Nat) : List Json → Reading (List α)
  | [] => .ok []
  | item :: items => do
    let x ← read i item
    let xs ← readEach read (i + 1) items
    return x :: xs

/-- The parameter type that a value names. -/
def parameterType? (value : Json) : Option ParameterType :=
  let word := keyword value
  if word = ("string" : Text) || word = ("text" : Text) || word = ("str" : Text) then some .string
  else if word = ("number" : Text) || word = ("numeric" : Text) || word = ("float" : Text) then
    some .number
  else if word = ("boolean" : Text) || word = ("bool" : Text) then some .boolean
  else none

/-- The kind of workflow that a value names. -/
def workflowKind? (value : Json) : Option WorkflowKind :=
  WorkflowKind.all.find? fun kind => keyword value = kind.name.lower

/-- The temperature of the agent at `path`: a number, a truth value or a text that spells a
number. -/
def readTemperature (path : Path) : Option Json → Reading Binary64
  | none => .ok defaultTemperature
  | some value =>
    match value with
    | .real x => .ok x
    | .bool b => .ok (.ofDecimal false (if b then 1 else 0) 0)
    | .int n =>
      match Binary64.ofInt? n with
      | some x => .ok x
      | none => .error .temperatureTooLarge
    | .text t =>
      match Binary64.ofText? t with
      | some x => .ok x
      | none => refuse (.numberExpected (path.field "temperature") value)
    | _ => refuse (.numberExpected (path.field "temperature") value)

def readParameter (path : Path) (value : Json) : Reading Parameter := do
  let fields ← readObject path value
  let given := (Table.get? fields "type").getD (.text "string")
  match parameterType? given with
  | none => refuse (.unknownType (path.field "type") given)
  | some type =>
    let id ← readText fields ["id"]
    let name ← readText fields ["name"]
    let description ← readText fields ["description"]
    let required ← readFlag fields path true ["required"]
    return { id, name, type, description, required }

def readTool (path : Path) (value : Json) : Reading Tool := do
  let fields ← readObject path value
  let items ← readList (path.field "parameters") (Table.get? fields "parameters")
  let id ← readText fields ["id"]
  let name ← readText fields ["name"]
  let description ← readText fields ["description"]
  let parameters ← readEach (fun i => readParameter (path.parameter i)) 0 items
  return { id, name, description, parameters }

def readAgent (path : Path) (value : Json) : Reading Agent := do
  let fields ← readObject path value
  let items ← readList (path.field "tools") (Table.get? fields "tools")
  let temperature ← readTemperature path (Table.get? fields "temperature")
  let id ← readText fields ["id"]
  let name ← readText fields ["name"]
  let systemPrompt ← readText fields ["system_prompt", "systemPrompt"]
  let welcomeMessage ← readText fields ["welcome_message", "welcomeMessage"]
  let inputPlaceholder ← readText fields ["input_placeholder", "inputPlaceholder"]
  let tools ← readEach (fun i => readTool (path.tool i)) 0 items
  let parent ← readText fields ["parentId", "parent_id"]
  let model ← readText fields ["llmModel", "llm_model", "model"]
  return { id, name, systemPrompt, welcomeMessage, inputPlaceholder, tools,
           parent := if parent.isEmpty then none else some parent,
           model := if model.isEmpty then defaultModel else model, temperature }

def readDeployment (value : Json) : Reading Deployment := do
  let fields ← readObject [.field "deploymentConfig"] value
  let projectId ← readText fields ["projectId", "project_id"]
  let serviceName ← readText fields ["serviceName", "service_name"]
  let region ← readText fields ["region"]
  let memoryBank ←
    readFlag fields [.field "deploymentConfig"] false ["useMemoryBank", "use_memory_bank"]
  let credentialRef ←
    readText fields ["credentialRef", "serviceAccountKeyName", "credential_ref"]
  return { projectId := projectId.trim, serviceName := serviceName.trim, region := region.trim,
           memoryBank, credentialRef }

def readAgents (fields : Json.Fields) : Reading (List Agent) :=
  match Table.get? fields "agents" with
  | none => .ok []
  | some (.array items) => readEach (fun i => readAgent (Path.agent i)) 0 items
  | some value => refuse (.agentsNotAList value)

/-- The deployment settings that a document gives; an empty object when there are none. -/
def deploymentValue (fields : Json.Fields) : Json :=
  let given := (Table.get? fields "deploymentConfig").orElse fun _ => Table.get? fields "gcpConfig"
  match given with
  | none => .object []
  | some value => if value.isVoid then .object [] else value

/-- The kind of workflow that a value names, or the error that it names none. -/
def readTarget (value : Json) : Reading WorkflowKind :=
  match workflowKind? value with
  | some kind => .ok kind
  | none => refuse (.unknownKind value)

def readKind (fields : Json.Fields) : Reading WorkflowKind :=
  match (Table.get? fields "workflowType").orElse fun _ => Table.get? fields "workflow_type" with
  | none => .ok .sequential
  | some value => readTarget value

end Document

def Workflow.ofJson : Json → Reading Workflow
  | .object fields => do
    let agents ← Document.readAgents fields
    let deployment ← Document.readDeployment (Document.deploymentValue fields)
    let kind ← Document.readKind fields
    return { agents, deployment, kind }
  | value => Document.refuse (.notAnObject value)

def Parameter.toJson (p : Parameter) : Json :=
  .object [("id", .text p.id), ("name", .text p.name), ("type", .text p.type.name),
    ("description", .text p.description), ("required", .bool p.required)]

def Tool.toJson (t : Tool) : Json :=
  .object [("id", .text t.id), ("name", .text t.name), ("description", .text t.description),
    ("parameters", .array (t.parameters.map Parameter.toJson))]

def Agent.toJson (a : Agent) : Json :=
  .object [("id", .text a.id), ("name", .text a.name), ("system_prompt", .text a.systemPrompt),
    ("welcome_message", .text a.welcomeMessage), ("input_placeholder", .text a.inputPlaceholder),
    ("tools", .array (a.tools.map Tool.toJson)),
    ("parentId", (a.parent.map Json.text).getD .null), ("llmModel", .text a.model),
    ("temperature", .real a.temperature)]

def Deployment.toJson (d : Deployment) : Json :=
  .object [("projectId", .text d.projectId), ("serviceName", .text d.serviceName),
    ("region", .text d.region), ("useMemoryBank", .bool d.memoryBank),
    ("credentialRef", .text d.credentialRef)]

def Workflow.toJson (w : Workflow) : Json :=
  .object [("agents", .array (w.agents.map Agent.toJson)), ("deploymentConfig", w.deployment.toJson),
    ("workflowType", .text w.kind.name)]

end AgentWorkflow
