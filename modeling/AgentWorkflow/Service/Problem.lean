import AgentWorkflow.Json.Compact
import AgentWorkflow.Json.Reader
import AgentWorkflow.Workflow.Path

/-!
# Problems of a body

What can be wrong with the body of a request before the workflow in it is read. Every problem says
where it is and what stands there, and all problems of a body are reported together.
-/

namespace AgentWorkflow

/-- What is wrong at one place of a body. -/
inductive Complaint
  | missing
  | noFields
  | noList
  | noObject
  | noText
  | unencodableText
  | noFlag
  | unclearFlag
  | notJson (what : Json.Problem)
deriving DecidableEq

namespace Complaint

def name : Complaint → Text
  | .missing => "missing"
  | .noFields => "model_attributes_type"
  | .noList => "list_type"
  | .noObject => "dict_type"
  | .noText => "string_type"
  | .unencodableText => "string_unicode"
  | .noFlag => "bool_type"
  | .unclearFlag => "bool_parsing"
  | .notJson _ => "json_invalid"

def message : Complaint → Text
  | .missing => "Field required"
  | .noFields => "Input should be a valid dictionary or object to extract fields from"
  | .noList => "Input should be a valid list"
  | .noObject => "Input should be a valid dictionary"
  | .noText => "Input should be a valid string"
  | .unencodableText =>
    "Input should be a valid string, unable to parse raw data as a unicode string"
  | .noFlag => "Input should be a valid boolean"
  | .unclearFlag => "Input should be a valid boolean, unable to interpret input"
  | .notJson _ => "JSON decode error"

/-- What is told beside the message. -/
def context : Complaint → Json.Fields
  | .notJson what => [("ctx", .object [("error", .text what.message)])]
  | _ => []

end Complaint

/-- A complaint about the value that stands at a place below the body. -/
structure Problem where
  complaint : Complaint
  path : Path
  found : Json

/-- A value that was checked: itself, or everything that is wrong with it. -/
abbrev Checked := Except (List Problem)

namespace Checked

/-- A value of which nothing but one thing is wrong. -/
def wrong {α : Type} (complaint : Complaint) (path : Path) (found : Json) : Checked α :=
  .error [⟨complaint, path, found⟩]

/-- Two checked values together: either's problems are reported, the first one's first. -/
def both {α β γ : Type} (f : α → β → γ) : Checked α → Checked β → Checked γ
  | .ok x, .ok y => .ok (f x y)
  | .ok _, .error q => .error q
  | .error p, .ok _ => .error p
  | .error p, .error q => .error (p ++ q)

/-- Checks the items of a list, the first of them at position `i`. -/
def each {α : Type} (check : Nat → Json → Checked α) (i : Nat) : List Json → Checked (List α)
  | [] => .ok []
  | item :: items => both (· :: ·) (check i item) (each check (i + 1) items)

end Checked

def Step.toJson : Step → Json
  | .field name => .text name
  | .item index => .int index

/-- True of the name of a field that is not repeated in a problem. -/
def isHiddenField (name : Text) : Bool := ("_sa" : Text).isPrefixOf name

/-- A problem as a value, with what was found apart from hidden fields. -/
def Problem.toJson (p : Problem) : Json :=
  let fields : Json.Fields :=
    [("type", .text p.complaint.name),
      ("loc", .array ((Step.field "body" :: p.path).map Step.toJson)),
      ("msg", .text p.complaint.message), ("input", p.found.withoutFields isHiddenField)]
  .object (fields ++ p.complaint.context)

end AgentWorkflow
