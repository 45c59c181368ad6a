import AgentWorkflow.Text.Basic

/-!
# Shell words

A text as one word of a shell command: as it is when no point of it means anything to a shell,
else between single quotes. A single quote in it stands between double quotes.
-/

namespace AgentWorkflow

/-- True of a point that means nothing to a shell. -/
def CodePoint.isPlainInShell (c : CodePoint) : Bool :=
  c.isAlnum || ("_@%+=:,./-" : Text).contains c

def Text.shellWord (t : Text) : Text :=
  if t.isEmpty then "''"
  else if t.all CodePoint.isPlainInShell then t
  else ("'" : Text) ++ Text.replace '\'' "'\"'\"'" t ++ "'"

example : Text.shellWord "a-b" = ("a-b" : Text) := by decide
example : Text.shellWord "it's" = ("'it'\"'\"'s'" : Text) := by decide

end AgentWorkflow
