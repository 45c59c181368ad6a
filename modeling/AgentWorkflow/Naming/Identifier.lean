import AgentWorkflow.Naming.Case
import AgentWorkflow.Text.Identifier

/-!
# Identifiers of the generated program

The generated program is written in Python. A name is usable there when it is an identifier and no
keyword; a tool's function must also leave alone two names that its module needs.
-/

namespace AgentWorkflow

namespace Naming

def keywords : List Text :=
  ["False", "None", "True", "and", "as", "assert", "async", "await", "break", "class", "continue",
   "def", "del", "elif", "else", "except", "finally", "for", "from", "global", "if", "import",
   "in", "is", "lambda", "nonlocal", "not", "or", "pass", "raise", "return", "try", "while",
   "with", "yield"].map Text.ofString

/-- The names that the tools module uses itself. -/
def toolsModuleNames : List Text := ["logging", "logger"]

def isKeyword (name : Text) : Bool := keywords.contains name

/-- True of a name that can stand in the program as it is. -/
def isUsable (name : Text) : Bool := name.isIdentifier && !isKeyword name

/-- The text as an identifier: snake case, with an underscore behind a keyword. -/
def identifier (t : Text) : Text :=
  let name := snakeCase t
  if isKeyword name then name ++ "_" else name

/-- The name of a tool's function, by which tools are told apart. -/
def toolFunction (t : Text) : Text :=
  let name := identifier t
  if toolsModuleNames.contains name then name ++ "_" else name

example : identifier "Class" = ("class_" : Text) := by decide
example : toolFunction "logger" = ("logger_" : Text) := by decide
example : toolFunction "logger_" = toolFunction "logger" := by decide

end Naming

end AgentWorkflow
