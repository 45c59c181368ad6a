import AgentWorkflow.Text.Blank
import AgentWorkflow.Text.Case

/-!
# Naming conventions

Free text brought to the three spellings that generated projects use: `snake_case` for functions,
fields and agents, `PascalCase` for classes, `kebab-case` for deployed services.
-/

namespace AgentWorkflow

namespace Naming

/-- True of a point that snake case keeps. -/
def isSnakePoint (c : CodePoint) : Bool := c.isLower || c.isDigit || c = '_'

/-- True of a point that kebab case keeps. -/
def isKebabPoint (c : CodePoint) : Bool := c.isLower || c.isDigit

/-- Every run of points that `keep` rejects becomes one `filler`. `inRun` tells that the run being
read has its filler already. -/
def collapse (keep : CodePoint → Bool) (filler : CodePoint) (inRun : Bool) : Text → Text
  | [] => []
  | c :: rest =>
    if keep c then c :: collapse keep filler false rest
    else if inRun then collapse keep filler true rest
    else filler :: collapse keep filler true rest

/-- An underscore in front of a leading digit. -/
def guardDigit : Text → Text
  | [] => []
  | c :: rest => if c.isDigit then '_' :: c :: rest else c :: rest

/-- The text in snake case: lower case, with one underscore for every run of other points. -/
def snakeCase (t : Text) : Text :=
  let name := collapse isSnakePoint '_' false t.trim.lower
  if name.isEmpty then "unnamed" else guardDigit name

/-- A word with its first letter in upper case. -/
def capitalize : Text → Text
  | [] => []
  | c :: rest => c.asciiUpper :: rest

/-- The text in Pascal case: its stretches of letters and digits, each capitalized, joined. -/
def pascalCase (t : Text) : Text :=
  let name := (t.runs CodePoint.isAlnum).flatMap capitalize
  if name.isEmpty then "Unnamed" else guardDigit name

/-- A hyphen between a small letter or digit and a capital. -/
def splitCamel : Text → Text
  | [] => []
  | [c] => [c]
  | c :: d :: rest =>
    if isKebabPoint c && d.isUpper then c :: '-' :: splitCamel (d :: rest)
    else c :: splitCamel (d :: rest)

/-- The text in kebab case: lower-case words, camel case split, joined by single hyphens. It is
empty when the text has no letter or digit. -/
def kebabCase (t : Text) : Text :=
  Text.trimBy (· = ('-' : CodePoint)) (collapse isKebabPoint '-' false (splitCamel t.trim).lower)

example : snakeCase " 123 Test" = ("_123_test" : Text) := by decide
example : snakeCase "  " = ("unnamed" : Text) := by decide
example : pascalCase "search docs" = ("SearchDocs" : Text) := by decide
example : kebabCase "My ADKAgent2Go!" = ("my-adkagent2-go" : Text) := by decide

end Naming

end AgentWorkflow
