import AgentWorkflow.Source.Scan

/-!
# Brackets

The brackets of a program outside its literals and comments: each closing one closes the last one
that is open, and it has to be of the same kind.
-/

namespace AgentWorkflow

namespace Source

/-- The closing bracket that goes with an opening one. -/
def closing? (c : CodePoint) : Option CodePoint :=
  if c = '(' then some ')' else if c = '[' then some ']' else if c = '\x7b' then some '\x7d'
  else none

def isClosing (c : CodePoint) : Bool := c = ')' || c = ']' || c = '\x7d'

/-- An open bracket and its line. -/
structure Bracket where
  point : CodePoint
  line : Nat
deriving DecidableEq

/-- A bracket that closes nothing, or something else. -/
inductive BracketFault
  | unmatched (point : CodePoint) (line : Nat)
  | mismatch (point : CodePoint) (line : Nat) (opened : Bracket)
deriving DecidableEq

/-- The open brackets after one more piece, the last opened first. -/
def bracketStep (stack : List Bracket) (p : Located Piece) :
    Except BracketFault (List Bracket) :=
  match p.value with
  | .point c =>
    if (closing? c).isSome then .ok (⟨c, p.line⟩ :: stack)
    else if isClosing c then
      match stack with
      | [] => .error (.unmatched c p.line)
      | b :: rest => if closing? b.point = some c then .ok rest else .error (.mismatch c p.line b)
    else .ok stack
  | _ => .ok stack

/-- The brackets that are open after the pieces of a program. -/
def openBrackets (pieces : List (Located Piece)) : Except BracketFault (List Bracket) :=
  pieces.foldlM bracketStep []

/-- The number of open brackets behind a point. -/
def depthAfter (depth : Nat) (c : CodePoint) : Nat :=
  if (closing? c).isSome then depth + 1 else if isClosing c then depth - 1 else depth

end Source

end AgentWorkflow
