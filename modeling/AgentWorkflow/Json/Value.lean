import AgentWorkflow.Number.Shortest
import AgentWorkflow.Text.Quoted
import AgentWorkflow.Text.Table

/-!
# JSON values

The values that a document is made of. Integers stay apart from floating-point numbers, and an
object keeps its fields in order, each name once.
-/

namespace AgentWorkflow

inductive Json
  | null
  | bool (b : Bool)
  | int (n : Int)
  | real (x : Binary64)
  | text (t : Text)
  | array (items : List Json)
  | object (fields : List (Text × Json))

/-- The fields of an object, in order. -/
abbrev Json.Fields := Table Json

namespace Json

def typeName : Json → Text
  | .null => "NoneType"
  | .bool _ => "bool"
  | .int _ => "int"
  | .real _ => "float"
  | .text _ => "str"
  | .array _ => "list"
  | .object _ => "dict"

/-- True of the values that stand for nothing given: null, false, zero and whatever is empty. -/
def isVoid : Json → Bool
  | .null => true
  | .bool b => !b
  | .int n => n = 0
  | .real x => x.isZero
  | .text t => t.isEmpty
  | .array items => items.isEmpty
  | .object fields => fields.isEmpty

mutual

def shown : Json → Text
  | .null => "None"
  | .bool true => "True"
  | .bool false => "False"
  | .int n => Text.ofInt n
  | .real x => x.text
  | .text t => t.quoted
  | .array items => ("[" : Text) ++ Text.join ", " (shownItems items) ++ "]"
  | .object fields => ("\x7b" : Text) ++ Text.join ", " (shownFields fields) ++ "\x7d"

def shownItems : List Json → List Text
  | [] => []
  | item :: items => item.shown :: shownItems items

def shownFields : List (Text × Json) → List Text
  | [] => []
  | (name, value) :: fields => (name.quoted ++ ": " ++ value.shown) :: shownFields fields

end

/-- A value taken as text: a text is itself, and anything else is as shown in a message. -/
def asText : Json → Text
  | .text t => t
  | value => value.shown

example : asText (.array [.text "it's", .bool true, .null]) = ("[\"it's\", True, None]" : Text) := by
  decide +kernel

end Json

end AgentWorkflow
