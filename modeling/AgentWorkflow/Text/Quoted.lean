import AgentWorkflow.Text.Printable

/-!
# Quoted text

How a text is shown inside a message: between single quotes, or between double quotes when it
holds a single quote and no double one, with everything unprintable escaped.
-/

namespace AgentWorkflow

/-- A point inside quotes. The quote, the backslash and every unprintable point are escaped, the
latter by the shortest of the two-, four- and eight-digit forms that has room. -/
def CodePoint.quoted (quote c : CodePoint) : Text :=
  if c = quote || c = '\\' then ['\\', c]
  else if c = '\n' then "\\n"
  else if c = '\r' then "\\r"
  else if c = '\t' then "\\t"
  else if c.isPrintable then [c]
  else if c.val < 0x100 then ("\\x" : Text) ++ Text.hex 2 c.val
  else if c.val < 0x10000 then ("\\u" : Text) ++ Text.hex 4 c.val
  else ("\\U" : Text) ++ Text.hex 8 c.val

namespace Text

def quoteMark (t : Text) : CodePoint :=
  if t.contains ('\'' : CodePoint) && !t.contains ('"' : CodePoint) then '"' else '\''

def quoted (t : Text) : Text :=
  let quote := t.quoteMark
  quote :: t.flatMap (CodePoint.quoted quote) ++ [quote]

/-- Quoted texts in square brackets. -/
def quotedList (ts : List Text) : Text := ("[" : Text) ++ join ", " (ts.map quoted) ++ "]"

example : quoted "it's" = ("\"it's\"" : Text) := by decide
example : quoted "a\n'\"" = ("'a\\n\\'\"'" : Text) := by decide
example : quoted [CodePoint.ofNat 0x7F] = ("'\\x7f'" : Text) := by decide +kernel

end Text

end AgentWorkflow
