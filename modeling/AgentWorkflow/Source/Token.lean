import AgentWorkflow.Source.Scan

/-!
# Tokens

The words, numbers, literals and signs of a program. A token takes the points right behind it as
long as they belong to it: a word takes letters, digits and underscores, a number also one point
and one signed exponent, and points stand together up to three. So the point of `1.` is part of a
number and that of `a.` is a sign, and `...` is one token.
-/

namespace AgentWorkflow

/-- True of a point that a word or a number may go on with. What is not ASCII counts as a
letter. -/
def CodePoint.isWordPoint (c : CodePoint) : Bool := c.isAlnum || c = '_' || 0x80 ≤ c.val

namespace Source

/-- How much of a number is read: digits, also a point, a mark of the exponent at the end, or all
that may hold a point or a sign. -/
inductive NumberStage
  | whole
  | fraction
  | exponent
  | closed
deriving DecidableEq

/-- A number with one more point, unless the point is not part of it. -/
def NumberStage.extend? (s : NumberStage) (c : CodePoint) : Option NumberStage :=
  if c = '.' then if s = .whole then some .fraction else none
  else if c = '+' || c = '-' then if s = .exponent then some .closed else none
  else if !c.isWordPoint then none
  else if s = .exponent || s = .closed then some .closed
  else if c.isDigit || c = '_' then some s
  else if c = 'e' || c = 'E' then some .exponent
  else some .closed

/-- The smallest parts of a program that have a meaning. -/
inductive Token
  | word (spelling : Text)
  | number (stage : NumberStage)
  | literal
  | dots (count : Nat)
  | sign (c : CodePoint)
deriving DecidableEq

namespace Token

def ofPoint (c : CodePoint) : Token :=
  if c.isDigit then .number .whole
  else if c.isWordPoint then .word [c]
  else if c = '.' then .dots 1
  else .sign c

/-- The token with one more point, unless the point is not part of it. -/
def extend? (t : Token) (c : CodePoint) : Option Token :=
  match t with
  | .word spelling => if c.isWordPoint then some (.word (spelling ++ [c])) else none
  | .number stage => (stage.extend? c).map .number
  | .dots count =>
    if c = '.' then if count < 3 then some (.dots (count + 1)) else none
    else if count = 1 && c.isDigit then some (.number .fraction)
    else none
  | .literal | .sign _ => none

end Token

/-- A list of tokens, the last one first, and whether the next point may belong to the last. -/
structure TokenReader where
  tokens : List (Located Token) := []
  isOpen : Bool := false

namespace TokenReader

def push (r : TokenReader) (line : Nat) (t : Token) (isOpen : Bool) : TokenReader :=
  ⟨⟨line, t⟩ :: r.tokens, isOpen⟩

/-- Reads a point that is not blank. -/
def readPoint (r : TokenReader) (line : Nat) (c : CodePoint) : TokenReader :=
  match r.isOpen, r.tokens with
  | true, t :: rest =>
    match t.value.extend? c with
    | some more => ⟨⟨t.line, more⟩ :: rest, true⟩
    | none => r.push line (.ofPoint c) true
  | _, _ => r.push line (.ofPoint c) true

def read (r : TokenReader) (p : Located Piece) : TokenReader :=
  match p.value with
  | .point c =>
    if c = ' ' || c = '\t' || c = '\x0c' then { r with isOpen := false } else r.readPoint p.line c
  | .literal => r.push p.line .literal false
  | .joint | .lineEnd => { r with isOpen := false }

end TokenReader

def tokens (pieces : List (Located Piece)) : List (Located Token) :=
  (pieces.foldl TokenReader.read {}).tokens.reverse

example : (tokens (scan "ab 1.5e-3.c").pieces.reverse).map (·.value) =
    [.word "ab", .number .closed, .dots 1, .word "c"] := by decide +kernel
example : (tokens (scan "a...;1..b").pieces.reverse).map (·.value) =
    [.word "a", .dots 3, .sign ';', .number .fraction, .dots 1, .word "b"] := by decide +kernel

end Source

end AgentWorkflow
