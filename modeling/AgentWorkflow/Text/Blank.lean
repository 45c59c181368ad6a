import AgentWorkflow.Text.Basic

/-!
# Blanks

The blank characters: Unicode white space and the four information separators below the space.
Trimming and cutting into words go by them.
-/

namespace AgentWorkflow

/-- The blank code points, as inclusive ranges in order. -/
def blankRanges : List (Nat × Nat) :=
  [(0x9, 0xD), (0x1C, 0x20), (0x85, 0x85), (0xA0, 0xA0), (0x1680, 0x1680), (0x2000, 0x200A),
   (0x2028, 0x2029), (0x202F, 0x202F), (0x205F, 0x205F), (0x3000, 0x3000)]

def CodePoint.isBlank (c : CodePoint) : Bool := inRanges c.val blankRanges

namespace Text

def trim (t : Text) : Text := t.trimBy CodePoint.isBlank

/-- The stretches between blanks. -/
def words (t : Text) : List Text := t.runs (!·.isBlank)

/-- True of a text of blanks alone, the empty text included. -/
def isBlank (t : Text) : Bool := t.trim.isEmpty

/-- The words with single spaces between them. -/
def squeeze (t : Text) : Text := join " " t.words

end Text

example : Text.trim " a b\t" = ("a b" : Text) := by decide
example : Text.words " a\n b " = (["a", "b"] : List Text) := by decide

end AgentWorkflow
