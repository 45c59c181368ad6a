import AgentWorkflow.Compilation.Outcome
import AgentWorkflow.Service.Problem
import AgentWorkflow.Service.Settings
import AgentWorkflow.Workflow.Document

/-!
# Replies

A request is granted, refused for a reason that the reply tells, or the service fails and there is
no reply. A reply is sent as JSON in UTF-8. What is granted comes from a workflow, whose texts have
such a form, and null stands for its numbers that have none; a refusal may repeat anything that was
sent, and fails when that has no such form.
-/

namespace AgentWorkflow

structure Reply where
  status : Nat
  body : Json

/-- Why a request is refused. -/
inductive Refusal
  | unknownPath
  | wrongMethod
  | unreadable
  | wrongKey
  | invalid (problems : List Problem)
  | tooMany (limit : Nat)
  | malformed (reason : Malformation)
  | unresolved (reason : HierarchyError)
  | blocked (result : Compilation)

/-- A stretch of unpaired surrogates in a text, which UTF-8 cannot write. -/
structure SurrogateRun where
  first : CodePoint
  position : Nat
  count : Nat
deriving DecidableEq

/-- What is wrong with the stretch, in words. -/
def SurrogateRun.message (s : SurrogateRun) : Text :=
  if s.count = 1 then
    ("'utf-8' codec can't encode character '\\u" : Text) ++ Text.hex 4 s.first.val
      ++ "' in position " ++ Text.ofNat s.position ++ ": surrogates not allowed"
  else
    ("'utf-8' codec can't encode characters in position " : Text) ++ Text.ofNat s.position ++ "-"
      ++ Text.ofNat (s.position + s.count - 1) ++ ": surrogates not allowed"

/-- The first stretch of unpaired surrogates in a text. -/
def Text.surrogates? (t : Text) : Option SurrogateRun :=
  let clear := t.takeWhile (!·.isSurrogate)
  match t.drop clear.length with
  | [] => none
  | c :: rest => some ⟨c, clear.length, (rest.takeWhile CodePoint.isSurrogate).length + 1⟩

/-- What leaves a request without a reply. -/
inductive ServiceFailure
  | settings (e : SettingsError)
  | temperatureTooLarge
  | notFinite
  | unencodable (run : SurrogateRun)
deriving DecidableEq

def ServiceFailure.message : ServiceFailure → Text
  | .settings e => e.message
  | .temperatureTooLarge => DocumentError.temperatureTooLarge.message
  | .notFinite => "Out of range float values are not JSON compliant"
  | .unencodable run => run.message

/-- What stops the handling of a request. -/
inductive Stop
  | refused (reason : Refusal)
  | failed (failure : ServiceFailure)

/-- A result that a request may not get to. -/
abbrev Handling := Except Stop

def Issue.toJson (i : Issue) : Json :=
  let place : Json.Fields := i.path.toList.map fun p => ("path", .text p.text)
  .object (("severity", .text i.severity.name) :: ("message", .text i.message) :: place)

def Report.toJson (r : Report) : Json :=
  .object [("errors", .array (r.errors.map Issue.toJson)),
    ("warnings", .array (r.warnings.map Issue.toJson)), ("has_errors", .bool r.hasErrors),
    ("has_warnings", .bool r.hasWarnings)]

/-- The fields of a result behind its files. -/
def Compilation.issueFields (c : Compilation) : Json.Fields :=
  [("errors", .array (c.errors.map Issue.toJson)),
    ("warnings", .array (c.warnings.map Issue.toJson)), ("payload_hash", .text c.hash)]

def Compilation.toJson (c : Compilation) : Json :=
  .object (("ok", .bool c.succeeded)
    :: ("files", .object (c.files.map fun (name, content) => (name, .text content)))
    :: c.issueFields)

def Compilation.toJsonWithoutFiles (c : Compilation) : Json :=
  .object (("ok", .bool c.succeeded) :: c.issueFields)

namespace Refusal

def status : Refusal → Nat
  | .unreadable => 400
  | .wrongKey => 401
  | .unknownPath => 404
  | .wrongMethod => 405
  | .blocked _ => 409
  | .invalid _ | .malformed _ | .unresolved _ => 422
  | .tooMany _ => 429

def body : Refusal → Json
  | .unknownPath => .object [("detail", .text "Not Found")]
  | .wrongMethod => .object [("detail", .text "Method Not Allowed")]
  | .unreadable => .object [("detail", .text "There was an error parsing the body")]
  | .wrongKey => .object [("detail", .text "Invalid or missing API key")]
  | .invalid problems => .object [("detail", .array (problems.map Problem.toJson))]
  | .tooMany limit =>
    .object [("error",
      .text (("Rate limit exceeded: " : Text) ++ Text.ofNat limit ++ " per 1 minute"))]
  | .malformed reason => .object [("detail", .text reason.message)]
  | .unresolved reason => .object [("detail", .text reason.message)]
  | .blocked result => .object [("detail", result.toJsonWithoutFiles)]

end Refusal

/-- What comes of a request: a reply or a failure. -/
abbrev Answer := Except ServiceFailure Reply

/-- The reply that grants a request. Null stands for a number that JSON cannot write. -/
def Reply.grant (body : Json) : Reply := ⟨200, body.withoutNonFinite⟩

/-- The reply that refuses a request, unless it cannot be written as a whole. -/
def Reply.refuse (reason : Refusal) : Answer :=
  let body := reason.body
  if body.isFinite then
    match body.compact.surrogates? with
    | some run => .error (.unencodable run)
    | none => .ok ⟨reason.status, body⟩
  else .error .notFinite

/-- The reply to a request, unless the service fails. -/
def Handling.answer : Handling Json → Answer
  | .ok body => .ok (.grant body)
  | .error (.refused reason) => Reply.refuse reason
  | .error (.failed f) => .error f

end AgentWorkflow
