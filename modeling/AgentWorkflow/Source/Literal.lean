import AgentWorkflow.Text.Basic

/-!
# String literals of the generated program

Text that goes into the program stands inside double quotes, escaped so that it can neither end
the literal nor break its line. A text of several lines becomes one literal per line, in
parentheses; a docstring stands between triple quotes.
-/

namespace AgentWorkflow

/-- A point inside a double-quoted literal. -/
def CodePoint.escaped (c : CodePoint) : Text :=
  if c = '\\' then "\\\\"
  else if c = '"' then "\\\""
  else if c = '\n' then "\\n"
  else if c = '\r' then "\\r"
  else if c = '\t' then "\\t"
  else if c.val < 0x20 || c.val = 0x7F then ("\\x" : Text) ++ Text.hex 2 c.val
  else [c]

/-- A point is escaped by a backslash and one more point, by its number, or not at all. -/
theorem CodePoint.escaped_cases (c : CodePoint) :
    (c.val < 0x80 ∧ ∃ d ∈ ("\\\"nrt" : Text), c.escaped = [('\\' : CodePoint), d]) ∨
      (c.val < 0x80 ∧ c.escaped = ("\\x" : Text) ++ Text.hex 2 c.val) ∨
      ((c ≠ '\\' ∧ c ≠ '"' ∧ 0x20 ≤ c.val ∧ c.val ≠ 0x7F) ∧ c.escaped = [c]) := by
  have low : ∀ d : CodePoint, c = d → d.val < 0x80 → c.val < 0x80 := fun d same hd => same ▸ hd
  unfold escaped
  split
  · next h => exact .inl ⟨low _ h (by decide), '\\', by decide, rfl⟩
  split
  · next h => exact .inl ⟨low _ h (by decide), '"', by decide, rfl⟩
  split
  · next h => exact .inl ⟨low _ h (by decide), 'n', by decide, rfl⟩
  split
  · next h => exact .inl ⟨low _ h (by decide), 'r', by decide, rfl⟩
  split
  · next h => exact .inl ⟨low _ h (by decide), 't', by decide, rfl⟩
  split
  · next control =>
    simp only [Bool.or_eq_true, decide_eq_true_eq] at control
    exact .inr (.inl ⟨by omega, rfl⟩)
  · next backslash quote _ _ _ control =>
    simp only [Bool.or_eq_true, decide_eq_true_eq, not_or] at control
    exact .inr (.inr ⟨⟨backslash, quote, Nat.not_lt.mp control.1, control.2⟩, rfl⟩)

namespace Source

/-- The text escaped for the inside of a double-quoted literal. -/
def escape (t : Text) : Text := t.flatMap CodePoint.escaped

def literal (t : Text) : Text := ("\"" : Text) ++ escape t ++ "\""

/-- The text cut behind each line feed. -/
def chunks : Text → List Text
  | [] => []
  | c :: rest =>
    if c = '\n' then [c] :: chunks rest
    else match chunks rest with
      | [] => [[c]]
      | chunk :: more => (c :: chunk) :: more

/-- The text as one literal per line inside parentheses, or as a plain literal if it has no line
feed. `indent` is the indentation of the line on which the expression starts. -/
def multilineLiteral (indent t : Text) : Text :=
  if t.contains ('\n' : CodePoint) then
    let lines := (chunks t).map fun chunk => indent ++ "    " ++ literal chunk
    ("(\n" : Text) ++ Text.unlines lines ++ indent ++ ")"
  else literal t

/-- The lines of a docstring with the given contents; blank lines in it are not indented. -/
def docstring (indent : Text) : List Text → List Text
  | [] => []
  | [line] => [indent ++ "\"\"\"" ++ escape line ++ "\"\"\""]
  | line :: more =>
    [indent ++ "\"\"\"" ++ escape line]
      ++ more.map (fun l => if l.isEmpty then [] else indent ++ escape l)
      ++ [indent ++ "\"\"\""]

/-- As many levels of indentation, four blanks each. -/
def indent (level : Nat) : Text := List.replicate (4 * level) (' ' : CodePoint)

def line (level : Nat) (t : Text) : Text := indent level ++ t

/-- Lines that are the same in every program. -/
def fixed (lines : List String) : List Text := lines.map Text.ofString

theorem flatten_chunks (t : Text) : (chunks t).flatten = t := by
  induction t with
  | nil => rfl
  | cons c rest ih =>
    simp only [chunks]
    split
    · simp [ih]
    · split <;> simp_all

example : multilineLiteral "" "a\nb" = ("(\n    \"a\\n\"\n    \"b\"\n)" : Text) := by decide
example : literal "a\\\"" = ("\"a\\\\\\\"\"" : Text) := by decide

end Source

end AgentWorkflow
