import AgentWorkflow.Naming.Distinct
import AgentWorkflow.Naming.Identifier
import AgentWorkflow.Text.Table
import AgentWorkflow.Workflow.Model

/-!
# The tool catalogue

The tools of all agents, each once. Tools are told apart by the name of their function, and the
first with a name is kept. Every tool has a class of its own for its inputs, with one field per
parameter.
-/

namespace AgentWorkflow

/-- A tool with the names of its function and of the class of its inputs. -/
structure ToolDefinition where
  function : Text
  schema : Text
  tool : Tool
deriving DecidableEq

/-- A field of an inputs class. The alias is the name under which its value is passed when the
field itself cannot have that name. -/
structure SchemaField where
  name : Text
  alias? : Option Text
  parameter : Parameter
deriving DecidableEq

namespace Tools

def functionOf (t : Tool) : Text := Naming.toolFunction t.name

/-- The tools whose function is not among `seen` and not that of an earlier one. -/
def keepFirst (seen : List Text) : List Tool → List Tool
  | [] => []
  | t :: rest =>
    if seen.contains (functionOf t) then keepFirst seen rest
    else t :: keepFirst (functionOf t :: seen) rest

def schemaName (t : Tool) : Text := Naming.pascalCase t.name ++ "Input"

def catalogue (agents : List Agent) : List ToolDefinition :=
  let tools := keepFirst [] (agents.flatMap (·.tools))
  tools.zipWith (fun t schema => { function := functionOf t, schema, tool := t })
    (Naming.distinct (tools.map schemaName))

/-- The functions of an agent's tools, each once. -/
def functionsOf (a : Agent) : List Text := (a.tools.map functionOf).eraseDups

/-- A beginning that no field name may have. -/
def isReserved (name : Text) : Bool :=
  ("_" : Text).isPrefixOf name || ("model_" : Text).isPrefixOf name

/-- The name with a word in front if its beginning is reserved. -/
def fieldName (name : Text) : Text :=
  if ("_" : Text).isPrefixOf name then ("param" : Text) ++ name
  else if ("model_" : Text).isPrefixOf name then ("param_" : Text) ++ name
  else name

/-- The fields of a tool's inputs class, one per parameter. -/
def schemaFields (t : Tool) : List SchemaField :=
  let raw := t.parameters.map fun p => Naming.identifier p.name
  (Naming.distinct (raw.map fieldName)).zipWith
    (fun name (wanted, parameter) =>
      { name, alias? := if name ≠ wanted && isReserved wanted then some wanted else none, parameter })
    (raw.zip t.parameters)

/-- The type of a field's values in the generated program. -/
def typeName : ParameterType → Text
  | .string => "str"
  | .number => "float"
  | .boolean => "bool"

/-- The annotation of a field: a parameter that is not required may be left out. -/
def annotation (p : Parameter) : Text :=
  if p.required then typeName p.type else ("Optional[" : Text) ++ typeName p.type ++ "]"

end Tools

/-- The identifiers of agents in the generated program, by id. -/
def agentIdentifiers (agents : List Agent) : Table Text :=
  Table.ofList ((agents.map (·.id)).zip
    (Naming.distinct (agents.map fun a => Naming.identifier a.name)))

end AgentWorkflow
