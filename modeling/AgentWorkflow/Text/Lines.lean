import AgentWorkflow.Text.Basic

/-!
# Line ends

Three line ends are in use: a line feed, a carriage return, and both.
-/

namespace AgentWorkflow

/-- The text with a line feed at the end of every line. -/
def Text.unifyLineEnds : Text → Text
  | [] => []
  | [c] => [if c = '\r' then '\n' else c]
  | c :: d :: rest =>
    if c = '\r' then
      if d = '\n' then unifyLineEnds (d :: rest) else ('\n' : CodePoint) :: unifyLineEnds (d :: rest)
    else c :: unifyLineEnds (d :: rest)

/-- The text with a line feed behind its last line, unless that ends with a carriage return or with
a line feed that does not belong to one. -/
def Text.endLastLine (t : Text) : Text :=
  let last := t.getLast?
  if last = none || last = some '\r' || (last = some '\n' && !("\r\n" : Text).isSuffixOf t) then t
  else t ++ "\n"

example : Text.unifyLineEnds "a\r\nb\rc\n" = ("a\nb\nc\n" : Text) := by decide

end AgentWorkflow
