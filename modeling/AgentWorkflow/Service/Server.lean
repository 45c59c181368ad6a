import AgentWorkflow.Service.Form
import AgentWorkflow.Service.Reply
import AgentWorkflow.Text.Utf8
import AgentWorkflow.Text.Wide
import AgentWorkflow.Workflow.Edit

/-!
# The service

How requests are answered. A request is accepted first: its body is read, its key compared and its
form checked, in that order, and the first of them that fails decides. An accepted request is
counted, unless it only asks after the service's health, and is handled while fewer requests have
been counted at its path than the limit allows. All requests are taken to come from one client
within one minute.
-/

namespace AgentWorkflow

/-- An accepted request. -/
inductive Call
  | health
  | preflight (form : WorkflowForm)
  | generate (form : GenerateForm) (strict : Bool)
  | switch (form : SwitchForm)

def Call.endpoint : Call → Endpoint
  | .health => .health
  | .preflight _ => .preflight
  | .generate _ _ => .generate
  | .switch _ => .workflowType

namespace Service

def version : Text := "0.1.0"

def refuse {α : Type} (reason : Refusal) : Handling α := .error (.refused reason)

/-- Leaves a request without a reply. -/
def fail {α : Type} (failure : ServiceFailure) : Handling α := .error (.failed failure)

/-- The text of a body that holds JSON, none if it is spelled in no encoding. A byte order mark in
front of it does not count. -/
def jsonText? (body : Text) : Option Text :=
  let bytes := body.utf8
  match WideEncoding.ofJson? bytes with
  | some encoding => encoding.decode? bytes
  | none => some ((Text.after? [CodePoint.ofNat 0xFEFF] body).getD body)

def readJson (depth : Nat) (t : Text) : Handling Json :=
  match Json.read depth t with
  | .ok v => .ok v
  | .error (.problem what left) =>
    refuse (.invalid [⟨.notJson what, [.item (t.length - left)], .object []⟩])
  | .error (.excess _) => refuse .unreadable

def readContent (depth : Nat) (r : Request) : Handling Content :=
  if r.body.isEmpty then .ok .nothing
  else if r.hasJsonBody then
    match jsonText? r.body with
    | some t => .value <$> readJson depth t
    | none => refuse .unreadable
  else .ok (.plain r.body)

/-- The settings, for a request whose key they let in. -/
def authorize (environment : Table Text) (r : Request) : Handling Settings :=
  match Settings.ofEnvironment environment with
  | .error e => fail (.settings e)
  | .ok settings =>
    if settings.apiKey.isEmpty || r.key? = some settings.apiKey then .ok settings
    else refuse .wrongKey

/-- A checked form, or the refusal that lists its problems. -/
def ofChecked {α : Type} : Checked α → Handling α
  | .ok x => .ok x
  | .error problems => refuse (.invalid problems)

def acceptAt (depth : Nat) (environment : Table Text) (r : Request) : Endpoint → Handling Call
  | .health => do
    let _ ← authorize environment r
    return .health
  | .preflight => do
    let content ← readContent depth r
    let _ ← authorize environment r
    return .preflight (← ofChecked (Form.check Form.checkWorkflow content))
  | .generate => do
    let content ← readContent depth r
    let settings ← authorize environment r
    return .generate (← ofChecked (Form.check Form.checkGenerate content)) settings.strict
  | .workflowType => do
    let content ← readContent depth r
    let _ ← authorize environment r
    return .switch (← ofChecked (Form.check Form.checkSwitch content))

def accept (depth : Nat) (environment : Table Text) (r : Request) : Handling Call :=
  match r.endpoint? with
  | none => refuse .unknownPath
  | some endpoint =>
    if r.suits endpoint then acceptAt depth environment r endpoint else refuse .wrongMethod

/-- A reading as part of handling a request. -/
def ofReading {α : Type} : Reading α → Handling α
  | .ok x => .ok x
  | .error (.malformed reason) => refuse (.malformed reason)
  | .error .temperatureTooLarge => fail .temperatureTooLarge

def readWorkflow (f : WorkflowForm) : Handling Workflow := ofReading (Workflow.ofJson f.document)

def preflight (f : WorkflowForm) : Handling Json := do
  let w ← readWorkflow f
  return w.preflight.toJson

/-- The project of a workflow. Agents that form no structure are refused before anything else. -/
def generate (f : GenerateForm) (strict : Bool) : Handling Json := do
  let w ← readWorkflow f.workflow
  match w.hierarchy with
  | .error reason => refuse (.unresolved reason)
  | .ok _ =>
    let result := w.compile (f.blockOnErrors.getD strict)
      { environmentExample := f.environmentExample }
    if result.files.isEmpty then refuse (.blocked result) else return result.toJson

def switch (f : SwitchForm) : Handling Json := do
  let w ← readWorkflow f.workflow
  let switched ← ofReading (w.edit (.switch (.text f.target)))
  return switched.toJson

def handle : Call → Handling Json
  | .health => .ok (.object [("api", .text "ok"), ("version", .text version)])
  | .preflight form => preflight form
  | .generate form strict => generate form strict
  | .switch form => switch form

end Service

/-- A running service: how deep the JSON of a body may nest, how many calls at a path it handles, if
that is limited, and the paths of the counted calls, the latest first. -/
structure Server where
  depth : Nat
  limit : Option Nat := none
  counted : List Text := []
deriving DecidableEq

namespace Server

/-- The limit that a call at a path has reached, if it has. -/
def exceeded? (s : Server) (path : Text) (c : Call) : Option Nat :=
  match s.limit, c with
  | none, _ | _, .health => none
  | some limit, _ => if s.counted.count path < limit then none else some limit

def count (s : Server) (path : Text) (c : Call) : Server :=
  if c.endpoint = .health then s else { s with counted := path :: s.counted }

def answer (s : Server) (environment : Table Text) (r : Request) : Server × Answer :=
  match Service.accept s.depth environment r with
  | .error stop => (s, Handling.answer (.error stop))
  | .ok call =>
    match s.exceeded? r.path call with
    | some limit => (s, Handling.answer (Service.refuse (.tooMany limit)))
    | none => (s.count r.path call, Handling.answer (Service.handle call))

/-- Answers requests one after another, each in its environment. -/
def answerAll (s : Server) : List (Table Text × Request) → List Answer
  | [] => []
  | (environment, r) :: rest =>
    let (next, a) := s.answer environment r
    a :: next.answerAll rest

end Server

end AgentWorkflow
