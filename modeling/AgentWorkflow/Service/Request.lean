import AgentWorkflow.Service.Url
import AgentWorkflow.Text.Blank
import AgentWorkflow.Text.Case

/-!
# Requests

What the service reads off a request: the path and which of the four endpoints is asked for there,
whether the body is to be read as JSON, and the key that the request carries.
-/

namespace AgentWorkflow

/-- A request. The body is given as the text that its bytes spell in UTF-8. -/
structure Request where
  method : Text
  url : Text
  headers : List (Text × Text) := []
  body : Text := []

/-- What can be asked of the service. -/
inductive Endpoint
  | health
  | preflight
  | generate
  | workflowType
deriving DecidableEq

namespace Endpoint

def all : List Endpoint := [.health, .preflight, .generate, .workflowType]

def path : Endpoint → Text
  | .health => "/health"
  | .preflight => "/preflight"
  | .generate => "/generate"
  | .workflowType => "/workflow-type"

def method : Endpoint → Text
  | .health => "GET"
  | _ => "POST"

/-- The endpoint at a path. A line feed may end the path, as it may end what `$` matches. -/
def atPath? (path : Text) : Option Endpoint := all.find? fun e => e.path = path || e.path ++ "\n" = path

end Endpoint

namespace Request

/-- The value of a header; names of headers have no case. -/
def header? (r : Request) (name : Text) : Option Text :=
  (r.headers.find? fun h => h.1.lower = name).map (·.2)

/-- True of a media type that is written in JSON, whatever its parameters. -/
def isJsonType (mediaType : Text) : Bool :=
  let bare : Text := mediaType.takeWhile fun (c : CodePoint) => c ≠ ';'
  match Text.splitOn '/' bare.trim.lower with
  | [main, sub] =>
    main = ("application" : Text) && (sub = ("json" : Text) || ("+json" : Text).isSuffixOf sub)
  | _ => false

/-- True of a request whose body is JSON, which is also assumed where no header says otherwise. -/
def hasJsonBody (r : Request) : Bool :=
  match r.header? "content-type" with
  | none => true
  | some mediaType => isJsonType mediaType

/-- The path at which a request is handled. A path that ends in slashes is redirected to the one
without them. -/
def path (r : Request) : Text :=
  ((Url.ofText r.url).seenPath.reverse.dropWhile fun (c : CodePoint) => c = '/').reverse

def endpoint? (r : Request) : Option Endpoint := Endpoint.atPath? r.path

/-- True of a request with the method that an endpoint takes; methods have no case. -/
def suits (r : Request) (e : Endpoint) : Bool := r.method.upper = e.method

/-- The key that a request carries: what follows the word `bearer` and a space. -/
def key? (r : Request) : Option Text :=
  match r.header? "authorization" with
  | none => none
  | some value =>
    let scheme : Text := value.takeWhile fun (c : CodePoint) => c ≠ ' '
    let key := Text.trim (value.drop (scheme.length + 1))
    if scheme.lower = ("bearer" : Text) && !key.isEmpty then some key else none

end Request

example : Endpoint.atPath? "/generate\n" = some .generate := by decide
example : Request.path { method := "GET", url := "/health//" } = ("/health" : Text) := by
  decide +kernel
example : Request.isJsonType "Application/vnd.x+json; a=b" := by decide +kernel

end AgentWorkflow
