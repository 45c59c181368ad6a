import AgentWorkflow.Source.Line
import AgentWorkflow.Text.Table

/-!
# Syntax

What a parser says against the programs among files, and a check of the outline of a program:
literals and brackets are closed, the lines of a block are indented alike, a header ends with a
colon, no operator waits for an operand. Of several faults one is reported: first those of literals
and brackets, then those of lines, and at last a bracket that is left open.

The check is no parser. A program in which it finds no fault may still be refused by one, since it
does not look at how words, literals and signs make up expressions.
-/

namespace AgentWorkflow

namespace Source

/-- What is wrong with a program. -/
inductive SyntaxProblem
  | unmatched (closing : CodePoint)
  | mismatch (closing : CodePoint) (opened : Bracket) (sameLine : Bool)
  | neverClosed (opening : CodePoint)
  | unterminated (long : Bool) (detected : Nat)
  | strayJoint
  | zero
  | unexpectedIndent
  | unevenDedent
  | missingBlock (header : Text) (line : Nat)
  | missingColon
  | invalid
deriving DecidableEq

structure SyntaxFault where
  line : Nat
  problem : SyntaxProblem
deriving DecidableEq

/-- What a header with the given first word begins. -/
def statementName (header : Text) : Text :=
  if header = ("def" : Text) then "function definition"
  else if header = ("class" : Text) then "class definition"
  else ("'" : Text) ++ header ++ "' statement"

def SyntaxProblem.message : SyntaxProblem → Text
  | .unmatched c => ("unmatched '" : Text) ++ [c] ++ "'"
  | .mismatch c opened sameLine =>
    ("closing parenthesis '" : Text) ++ [c] ++ "' does not match opening parenthesis '"
      ++ [opened.point] ++ "'"
      ++ (if sameLine then [] else (" on line " : Text) ++ Text.ofNat opened.line)
  | .neverClosed c => ("'" : Text) ++ [c] ++ "' was never closed"
  | .unterminated long detected =>
    ("unterminated " : Text) ++ (if long then ("triple-quoted string" : Text) else "string")
      ++ " literal (detected at line " ++ Text.ofNat detected ++ ")"
  | .strayJoint => "unexpected character after line continuation character"
  | .zero => "source code string cannot contain null bytes"
  | .unexpectedIndent => "unexpected indent"
  | .unevenDedent => "unindent does not match any outer indentation level"
  | .missingBlock header line =>
    ("expected an indented block after " : Text) ++ statementName header ++ " on line "
      ++ Text.ofNat line
  | .missingColon => "expected ':'"
  | .invalid => "invalid syntax"

def BracketFault.toSyntax : BracketFault → SyntaxFault
  | .unmatched c line => ⟨line, .unmatched c⟩
  | .mismatch c line opened => ⟨line, .mismatch c opened (opened.line = line)⟩

/-- The fault of a program that ends inside a literal or behind a stray backslash, or that is not
read. -/
def Scanner.fault? (s : Scanner) : Option SyntaxFault :=
  match s.mode with
  | .brokenLiteral start => some ⟨start, .unterminated false s.line⟩
  | .long _ _ start | .longEscape _ start => some ⟨start, .unterminated true (s.line - 1)⟩
  | .brokenJoint => some ⟨s.line, .strayJoint⟩
  | .brokenText => some ⟨s.line, .zero⟩
  | _ => none

/-- The words that the headers of blocks begin with and nothing else does. -/
def headerWords : List Text :=
  ["if", "elif", "else", "for", "while", "with", "try", "except", "finally", "def", "class",
   "async"]

/-- The words that the headers of blocks may begin with, among other lines. -/
def softHeaderWords : List Text := ["match", "case"]

/-- The first colon or comma right behind an opening bracket in which none can stand. -/
def misplaced? : List (Located Token) → Option (Located Token)
  | s :: t :: rest =>
    if (s.value = .sign '(' || s.value = .sign '\x7b')
        && (t.value = .sign ':' || t.value = .sign ',') then some t
    else misplaced? (t :: rest)
  | _ => none

/-- True when tokens have a colon outside brackets. -/
def hasColon (depth : Nat) : List (Located Token) → Bool
  | [] => false
  | t :: rest =>
    (depth = 0 && t.value = .sign ':') || hasColon (t.value.depthAfter depth) rest

/-- The tokens cut at the semicolons outside brackets. `current` holds the tokens of the statement
being read, the last one first. -/
def statements (depth : Nat) (current : List (Located Token)) :
    List (Located Token) → List (List (Located Token))
  | [] => [current.reverse]
  | t :: rest =>
    if t.value = .sign ';' && depth = 0 then current.reverse :: statements 0 [] rest
    else statements (t.value.depthAfter depth) (t :: current) rest

/-- The signs that wait for an operand. -/
def operators : Text := "+-*/%@&|^<>=~!"

/-- True of a token that waits for an operand when it stands behind `before`. The star that stands
for all names of a module waits for none. -/
def Token.waits (before : Option Token) : Token → Bool
  | .sign c => operators.contains c && !(c = '*' && before = some (.word "import"))
  | .dots count => count ≠ 3
  | _ => false

/-- The last token of a statement, if it waits for an operand. -/
def dangling? (statement : List (Located Token)) : Option (Located Token) :=
  match statement.reverse with
  | [] => none
  | t :: before => if t.value.waits (before.head?.map (·.value)) then some t else none

namespace CodeLine

def word (l : CodeLine) : Text :=
  match l.tokens with
  | ⟨_, .word w⟩ :: _ => w
  | _ => []

def firstLine (l : CodeLine) : Nat := (l.tokens.head?.map (·.line)).getD 0

def lastLine (l : CodeLine) : Nat := (l.tokens.getLast?.map (·.line)).getD 0

def isClosed (l : CodeLine) : Bool := l.tokens.foldl (fun d t => t.value.depthAfter d) 0 = 0

/-- True when a line ends with a colon outside brackets, so that a block follows. -/
def opensBlock (l : CodeLine) : Bool :=
  (l.tokens.getLast?.map (·.value)) = some (.sign ':') && l.isClosed

/-- True of a line whose first word says that it is the header of a block. -/
def isHeader (l : CodeLine) : Bool := headerWords.contains l.word

def fault? (l : CodeLine) : Option SyntaxFault :=
  match misplaced? l.tokens with
  | some t => some ⟨t.line, .invalid⟩
  | none =>
    if !l.isClosed then none
    else match (statements 0 [] l.tokens).findSome? dangling? with
      | some t => some ⟨t.line, .invalid⟩
      | none =>
        if l.opensBlock && !l.isHeader && !softHeaderWords.contains l.word then
          some ⟨l.lastLine, .invalid⟩
        else if l.isHeader && !hasColon 0 l.tokens then some ⟨l.lastLine, .missingColon⟩
        else none

end CodeLine

/-- The first fault in the layout of lines. `levels` holds the indentations of the blocks around
the next line, the innermost first; `header` is the header that the next line has to follow. -/
def layoutFault? (levels : List Nat) (header : Option CodeLine) :
    List CodeLine → Option SyntaxFault
  | [] => header.map fun h => ⟨h.lastLine, .missingBlock h.word h.lastLine⟩
  | l :: rest =>
    let opened := if l.opensBlock then some l else none
    match header with
    | some h =>
      if l.indentation ≤ levels.headD 0 then
        some ⟨l.firstLine, .missingBlock h.word h.lastLine⟩
      else l.fault? <|> layoutFault? (l.indentation :: levels) opened rest
    | none =>
      let outer := levels.dropWhile (l.indentation < ·)
      if levels.headD 0 < l.indentation then some ⟨l.firstLine, .unexpectedIndent⟩
      else if outer.headD 0 ≠ l.indentation then some ⟨l.firstLine, .unevenDedent⟩
      else l.fault? <|> layoutFault? outer opened rest

/-- The fault of a program, if it has one. -/
def syntaxFault? (program : Text) : Option SyntaxFault :=
  let s := scan program.endLastLine
  let pieces := s.pieces.reverse
  match openBrackets pieces with
  | .error f => some f.toSyntax
  | .ok stack =>
    s.fault? <|> layoutFault? [0] none (codeLines pieces)
      <|> stack.head?.map fun b => ⟨b.line, .neverClosed b.point⟩

/-- What a parser says against a program, and the line. -/
structure Objection where
  line : Nat
  message : Text
deriving DecidableEq

/-- What is to be said against the outline of a program. -/
def outlineObjection? (program : Text) : Option Objection :=
  (syntaxFault? program).map fun f => ⟨f.line, f.problem.message⟩

def isProgramName (name : Text) : Bool := (".py" : Text).isSuffixOf name

/-- What a parser says against the programs among files, each with the name of its file. -/
def objections (parser : Text → Option Objection) (files : Table Text) : List (Text × Objection) :=
  files.filterMap fun (name, content) =>
    if isProgramName name then (parser content).map (name, ·) else none

/-- An objection to a file in words. -/
def Objection.report (name : Text) (o : Objection) : Text :=
  name ++ ":" ++ Text.ofNat o.line ++ ": " ++ o.message

example : syntaxFault? "x = 1\ndef broken(:\n" = some ⟨2, .invalid⟩ := by decide +kernel
example : syntaxFault? "x = (\n" = some ⟨1, .neverClosed '('⟩ := by decide +kernel
example : syntaxFault? "x = 'abc\n" = some ⟨1, .unterminated false 1⟩ := by decide +kernel
example : syntaxFault? "\"\"\"open" = some ⟨1, .unterminated true 1⟩ := by decide +kernel
example : syntaxFault? "if x\n  y\n" = some ⟨1, .missingColon⟩ := by decide +kernel
example : syntaxFault? "  x = 1\n" = some ⟨1, .unexpectedIndent⟩ := by decide +kernel
example : syntaxFault? "1 +" = some ⟨1, .invalid⟩ := by decide +kernel
example : syntaxFault? ")" = some ⟨1, .unmatched ')'⟩ := by decide +kernel
example : syntaxFault? "def f(a):\n    return -a\n" = none := by decide +kernel
example : syntaxFault? "match a:\n  case 1.: b; c = 1.\n" = none := by decide +kernel

end Source

end AgentWorkflow
