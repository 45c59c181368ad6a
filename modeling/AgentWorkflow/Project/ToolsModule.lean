import AgentWorkflow.Source.Literal
import AgentWorkflow.Text.Blank
import AgentWorkflow.Tools.Catalogue

/-!
# The tools module

The module of the generated program that holds, for every tool, the class of its inputs and a
function to be filled in.
-/

namespace AgentWorkflow

namespace Project

open Source (line)

/-- The arguments that declare a field: its default, its alias if it has one, its description. -/
def fieldArguments (f : SchemaField) : List Text :=
  [if f.parameter.required then ("..." : Text) else "None"]
    ++ f.alias?.toList.map (fun a => ("alias=" : Text) ++ Source.literal a)
    ++ [("description=" : Text) ++ Source.literal f.parameter.description]

def fieldLine (f : SchemaField) : Text :=
  line 1 (f.name ++ ": " ++ Tools.annotation f.parameter ++ " = Field("
    ++ Text.join ", " (fieldArguments f) ++ ")")

/-- What a function's docstring says of a field. -/
def fieldSummary (f : SchemaField) : Text :=
  let description := f.parameter.description.squeeze
  ("    " : Text) ++ f.name ++ ": " ++ (if f.parameter.required then "" else "Optional. ")
    ++ (if description.isEmpty then ("No description." : Text) else description)

/-- The lines of a tool's description. -/
def descriptionLines (t : Tool) : List Text :=
  if t.description.isBlank then ["No description provided."]
  else Text.splitOn '\n' t.description.trim

/-- What a function's docstring says. -/
def documentation (t : Tool) (fields : List SchemaField) : List Text :=
  descriptionLines t ++ (if fields.isEmpty then [] else [[], ("Args:" : Text)] ++ fields.map fieldSummary)

def schemaClass (d : ToolDefinition) (fields : List SchemaField) : List Text :=
  [("class " : Text) ++ d.schema ++ "(BaseModel):"]
    ++ Source.docstring (Source.indent 1)
      [("Input schema for the '" : Text) ++ d.tool.name ++ "' tool."]
    ++ fields.map fieldLine

def stub (d : ToolDefinition) (fields : List SchemaField) : List Text :=
  [("def " : Text) ++ d.function ++ "(inputs: " ++ d.schema ++ ") -> str:"]
    ++ Source.docstring (Source.indent 1) (documentation d.tool fields)
    ++ [line 1 "# TODO: Implement the actual logic for this tool.",
        line 1 (("logger.info(\"Executing tool %s with inputs: %s\", \"" : Text) ++ d.function
          ++ "\", inputs.model_dump())"),
        line 1 (("return \"Tool '" : Text) ++ d.function
          ++ "' executed successfully with inputs: \" + inputs.model_dump_json()")]

def toolLines (d : ToolDefinition) : List Text :=
  let fields := Tools.schemaFields d.tool
  schemaClass d fields ++ [[], []] ++ stub d fields

def emptyToolsModule : List Text :=
  Source.fixed
    ["\"\"\"Tool implementations for the generated workflow.",
     "",
     "No tools defined across any agents.",
     "\"\"\"",
     "",
     "# This workflow has no tools defined. Add tools in the builder and",
     "# regenerate to get typed input schemas and stubs here.",
     "ALL_TOOLS: list = []"]

/-- The lines before the first tool. -/
def toolsHeader : List Text :=
  Source.fixed
    ["\"\"\"Tool implementations for the generated workflow.",
     "",
     "Each tool has a pydantic input schema and a stub function. Replace the",
     "stub bodies with real logic.",
     "\"\"\"",
     "",
     "import logging",
     "from typing import Optional",
     "",
     "from pydantic import BaseModel, Field",
     "",
     "logger = logging.getLogger(__name__)"]

def allTools (definitions : List ToolDefinition) : List Text :=
  [("ALL_TOOLS = [" : Text)] ++ definitions.map (fun d => line 1 (d.function ++ ",")) ++ [("]" : Text)]

def toolsLines (definitions : List ToolDefinition) : List Text :=
  if definitions.isEmpty then emptyToolsModule
  else
    toolsHeader ++ definitions.flatMap (fun d => [[], []] ++ toolLines d) ++ [[], []]
      ++ allTools definitions

def toolsModule (definitions : List ToolDefinition) : Text := Text.unlines (toolsLines definitions)

end Project

end AgentWorkflow
