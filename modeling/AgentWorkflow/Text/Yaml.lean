import AgentWorkflow.Text.Blank

/-!
# YAML scalars

A text as a single-quoted YAML scalar on one line: its words with single blanks between, every
quote twice.
-/

namespace AgentWorkflow

/-- The text as a single-quoted scalar. -/
def Text.yamlScalar (t : Text) : Text := ("'" : Text) ++ Text.replace '\'' "''" t.squeeze ++ "'"

example : Text.yamlScalar "it's \n so" = ("'it''s so'" : Text) := by decide

end AgentWorkflow
