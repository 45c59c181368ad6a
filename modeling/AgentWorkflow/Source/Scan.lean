import AgentWorkflow.Text.Lines

/-!
# Scanning a program

A scanner reads a program point by point and keeps what stands outside string literals and
comments: single points, one mark for every literal, the ends of lines, and the places where two
lines are joined. A literal stands between quotes of one kind, one or three on each side; a
backslash takes the meaning from the point behind it, and joins two lines outside literals. A
comment reaches to the end of its line.

A carriage return ends a line wherever it stands, so lines are given one kind of end before anything
is read. A zero is no part of any program; one that holds it is not read.
-/

namespace AgentWorkflow

namespace Source

/-- What is left of a program outside its literals and comments. -/
inductive Piece
  | point (c : CodePoint)
  | literal
  | joint
  | lineEnd
deriving DecidableEq

/-- A value and the line on which it begins. -/
structure Located (α : Type) where
  line : Nat
  value : α
deriving DecidableEq

/-- What a scanner is inside of. A literal remembers its quote and the line on which it began;
`quotes` counts the quotes just read. -/
inductive Mode
  | code
  | comment
  | joint
  | opening (quote : CodePoint) (quotes start : Nat)
  | short (quote : CodePoint) (start : Nat)
  | shortEscape (quote : CodePoint) (start : Nat)
  | long (quote : CodePoint) (quotes start : Nat)
  | longEscape (quote : CodePoint) (start : Nat)
  | brokenLiteral (start : Nat)
  | brokenJoint
  | brokenText
deriving DecidableEq

/-- A scanner: its mode, the number of the line, and the pieces so far, the last one first. -/
structure Scanner where
  mode : Mode := .code
  line : Nat := 1
  pieces : List (Located Piece) := []
deriving DecidableEq

namespace Scanner

def goto (s : Scanner) (mode : Mode) : Scanner := { s with mode := mode }

def nextLine (s : Scanner) (mode : Mode) : Scanner := { s with mode := mode, line := s.line + 1 }

def keep (s : Scanner) (line : Nat) (piece : Piece) : Scanner :=
  { s with mode := .code, pieces := ⟨line, piece⟩ :: s.pieces }

/-- The end of a line outside literals. -/
def endLine (s : Scanner) : Scanner := (s.keep s.line .lineEnd).nextLine .code

/-- The end of a line that goes on in the next one. -/
def joinLine (s : Scanner) : Scanner := (s.keep s.line .joint).nextLine .code

/-- Reads a point outside literals and comments. -/
def readCode (s : Scanner) (c : CodePoint) : Scanner :=
  if c = '"' || c = '\'' then s.goto (.opening c 1 s.line)
  else if c = '#' then s.goto .comment
  else if c = '\\' then s.goto .joint
  else if c = '\n' then s.endLine
  else s.keep s.line (.point c)

/-- Reads a point of a literal between single quotes. -/
def readShort (s : Scanner) (quote : CodePoint) (start : Nat) (c : CodePoint) : Scanner :=
  if c = quote then s.keep start .literal
  else if c = '\\' then s.goto (.shortEscape quote start)
  else if c = '\n' then s.goto (.brokenLiteral start)
  else s.goto (.short quote start)

/-- Reads a point of a literal between triple quotes. -/
def readLong (s : Scanner) (quote : CodePoint) (quotes start : Nat) (c : CodePoint) : Scanner :=
  if c = quote then
    if quotes = 2 then s.keep start .literal else s.goto (.long quote (quotes + 1) start)
  else if c = '\\' then s.goto (.longEscape quote start)
  else if c = '\n' then s.nextLine (.long quote 0 start)
  else s.goto (.long quote 0 start)

def read (s : Scanner) (c : CodePoint) : Scanner :=
  match s.mode with
  | .code => s.readCode c
  | .comment => if c = '\n' then s.endLine else s
  | .joint => if c = '\n' then s.joinLine else s.goto .brokenJoint
  | .opening quote quotes start =>
    if c = quote then
      if quotes = 2 then s.goto (.long quote 0 start) else s.goto (.opening quote 2 start)
    else if quotes = 2 then (s.keep start .literal).readCode c
    else s.readShort quote start c
  | .short quote start => s.readShort quote start c
  | .shortEscape quote start =>
    if c = '\n' then s.nextLine (.short quote start) else s.goto (.short quote start)
  | .long quote quotes start => s.readLong quote quotes start c
  | .longEscape quote start =>
    if c = '\n' then s.nextLine (.long quote 0 start) else s.goto (.long quote 0 start)
  | .brokenLiteral _ | .brokenJoint | .brokenText => s

/-- The scanner after lines that line feeds end. -/
def ofLines (t : Text) : Scanner := t.foldl read {}

theorem ofLines_append (s t : Text) : ofLines (s ++ t) = t.foldl read (ofLines s) :=
  List.foldl_append

end Scanner

def scan (program : Text) : Scanner :=
  if program.contains '\x00' then { mode := .brokenText } else .ofLines program.unifyLineEnds

example :
    (scan "a\"\\\"\"#b\n").pieces = [⟨1, .lineEnd⟩, ⟨1, .literal⟩, ⟨1, .point 'a'⟩] := by decide

example : (scan "\"\"\"\"\n\"\"\"").mode = .code := by decide

example : (scan "\"a\rb\"").mode = .brokenLiteral 1 := by decide

end Source

end AgentWorkflow
