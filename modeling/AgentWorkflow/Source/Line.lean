import AgentWorkflow.Source.Bracket
import AgentWorkflow.Source.Token

/-!
# Lines

The lines of a program as its blocks see them. A line ends where a physical line ends outside
brackets, so a bracket or a joint carries it on; a line without tokens does not count. What counts
else is its indentation and its tokens.
-/

namespace AgentWorkflow

namespace Source

structure CodeLine where
  indentation : Nat
  tokens : List (Located Token)
deriving DecidableEq

/-- The number of open brackets behind a piece. -/
def Piece.depthAfter (depth : Nat) : Piece → Nat
  | .point c => Source.depthAfter depth c
  | _ => depth

/-- The number of open brackets behind a token. -/
def Token.depthAfter (depth : Nat) : Token → Nat
  | .sign c => Source.depthAfter depth c
  | _ => depth

/-- The pieces cut at the ends of lines outside brackets. `current` holds the pieces of the line
being read, the last one first. -/
def logicalLines (depth : Nat) (current : List (Located Piece)) :
    List (Located Piece) → List (List (Located Piece))
  | [] => if current.isEmpty then [] else [current.reverse]
  | p :: rest =>
    if p.value = .lineEnd && depth = 0 then current.reverse :: logicalLines 0 [] rest
    else logicalLines (p.value.depthAfter depth) (p :: current) rest

/-- A place at the start of a line: its column, and the column of the first joint that does not
stand at the margin. -/
structure Margin where
  column : Nat := 0
  joint? : Option Nat := none

/-- The place behind one more piece, none if the piece is not blank. A tab goes on to the next
multiple of eight, and a form feed goes back to the margin. -/
def Margin.step? (m : Margin) : Piece → Option Margin
  | .joint => some { m with joint? := m.joint? <|> (if m.column = 0 then none else some m.column) }
  | .point c =>
    if c = ' ' then some { m with column := m.column + 1 }
    else if c = '\t' then some { m with column := (m.column / 8 + 1) * 8 }
    else if c = '\x0c' then some { m with column := 0 }
    else none
  | _ => none

/-- The indentation of a line, where `m` is the place in front of its pieces. A line that is joined
inside its indentation is indented as far as its first joint. -/
def indentation (m : Margin) : List (Located Piece) → Nat
  | [] => m.joint?.getD m.column
  | p :: rest =>
    match m.step? p.value with
    | some next => indentation next rest
    | none => m.joint?.getD m.column

/-- The lines of a program that hold a token. -/
def codeLines (pieces : List (Located Piece)) : List CodeLine :=
  ((logicalLines 0 [] pieces).map fun line => ⟨indentation {} line, tokens line⟩).filter
    fun l => !l.tokens.isEmpty

example : codeLines (scan "a\n  # b\n\t(\n1)\n").pieces.reverse =
    [⟨0, [⟨1, .word "a"⟩]⟩, ⟨8, [⟨3, .sign '('⟩, ⟨4, .number .whole⟩, ⟨4, .sign ')'⟩]⟩] := by
  decide +kernel
example : codeLines (scan "  \\\n    a \\\n b\n").pieces.reverse =
    [⟨2, [⟨2, .word "a"⟩, ⟨3, .word "b"⟩]⟩] := by decide +kernel

end Source

end AgentWorkflow
