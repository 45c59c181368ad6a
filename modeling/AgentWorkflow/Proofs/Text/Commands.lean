import AgentWorkflow.Proofs.Text.Advancing
import AgentWorkflow.Text.Shell

/-!
# Reading the commands of a script

A shell reads a script point by point. Outside quotes a blank ends a word and a line end ends a
command; single quotes keep every point as it is; between double quotes a dollar still stands for a
variable and a backslash may still stand in front of a point. A word keeps track of what of it is
taken literally and what is still expanded.

The reader gives up where it meets anything else: what joins commands, redirects or substitutes
them, a dollar that no name follows, and the null point, which no shell accepts.

Results:
1. `goes_shellWord`: a text without null point is read as itself, and nothing of it is expanded.
2. `commands?_unlines`: a script whose commands each end with their line is read line by line.
-/

namespace AgentWorkflow

namespace Shell

/-- What a point or a variable of a script is to a word: a literal point, a point that is expanded
to something else unless it is quoted, or the value of a variable. -/
inductive Part
  | literal (c : CodePoint)
  | active (c : CodePoint)
  | variable (quoted : Bool) (name : Text)
deriving DecidableEq

abbrev Word := List Part

/-- A command: its words in order. -/
abbrev Command := List Word

def literal (t : Text) : Word := t.map .literal

/-- The text that a word is, if nothing of it is expanded. -/
def literal? (word : Word) : Option Text :=
  word.mapM fun
    | .literal c => some c
    | _ => none

/-- What the points read are taken for. -/
inductive Mode
  | plain
  | comment
  | single
  | double
  | escape (quoted : Bool)
  | name (quoted : Bool) (read : Text)
deriving DecidableEq

/-- What has been read of a command: its words, and the points of the one being read, if any. -/
structure State where
  mode : Mode
  command : Command
  word : Option Word
deriving DecidableEq

namespace State

/-- The state between two commands. -/
def start : State := ⟨.plain, [], none⟩

/-- A word is being read, from here on in another mode. -/
def turn (s : State) (mode : Mode) : State := { s with mode, word := some (s.word.getD []) }

/-- The word being read goes on with a part. -/
def add (s : State) (mode : Mode) (part : Part) : State :=
  { s with mode, word := some (s.word.getD [] ++ [part]) }

/-- The words of the command when the one being read has ended. -/
def words (s : State) : Command := s.command ++ s.word.toList

end State

def null : CodePoint := '\x00'

/-- True of a point that joins commands, redirects them or substitutes them. -/
def isOperator (c : CodePoint) : Bool := ("|&;<>()`" : Text).contains c

/-- True of a point that stands for something else outside quotes. -/
def isActive (c : CodePoint) : Bool := ("*?[]\x7b\x7d~!^" : Text).contains c

/-- Reads a point outside quotes. -/
def plainStep (s : State) (c : CodePoint) : Option (State × List Command) :=
  if c = '\n' then some (.start, [s.words].filter (!·.isEmpty))
  else if c = ' ' || c = '\t' then some (⟨.plain, s.words, none⟩, [])
  else if c = '#' && s.word.isNone then some (⟨.comment, s.command, none⟩, [])
  else if c = '\'' then some (s.turn .single, [])
  else if c = '"' then some (s.turn .double, [])
  else if c = '\\' then some (s.turn (.escape false), [])
  else if c = '$' then some (s.turn (.name false []), [])
  else if isOperator c then none
  else some (s.add .plain (if isActive c then .active c else .literal c), [])

/-- Reads a point between double quotes. -/
def doubleStep (s : State) (c : CodePoint) : Option (State × List Command) :=
  if c = '"' then some (s.turn .plain, [])
  else if c = '\\' then some (s.turn (.escape true), [])
  else if c = '$' then some (s.turn (.name true []), [])
  else if c = '`' then none
  else some (s.add .double (.literal c), [])

/-- Reads a point behind a backslash. Between double quotes only some points are escaped by it. -/
def escapeStep (quoted : Bool) (s : State) (c : CodePoint) : Option (State × List Command) :=
  if c = '\n' then none
  else if !quoted then some (s.add .plain (.literal c), [])
  else if ("$`\"\\" : Text).contains c then some (s.add .double (.literal c), [])
  else some ((s.add .double (.literal '\\')).add .double (.literal c), [])

def isNamePoint (read : Text) (c : CodePoint) : Bool :=
  c.isLetter || c = '_' || (c.isDigit && !read.isEmpty)

/-- Reads a point behind the part of a variable's name that has been read. -/
def nameStep (quoted : Bool) (read : Text) (s : State) (c : CodePoint) :
    Option (State × List Command) :=
  if isNamePoint read c then some (s.turn (.name quoted (read ++ [c])), [])
  else if read.isEmpty then none
  else if quoted then doubleStep (s.add .double (.variable quoted read)) c
  else plainStep (s.add .plain (.variable quoted read)) c

def step (s : State) (c : CodePoint) : Option (State × List Command) :=
  if c = null then none
  else match s.mode with
    | .plain => plainStep s c
    | .comment =>
      if c = '\n' then some (.start, [s.words].filter (!·.isEmpty)) else some (s, [])
    | .single =>
      if c = '\'' then some (s.turn .plain, []) else some (s.add .single (.literal c), [])
    | .double => doubleStep s c
    | .escape quoted => escapeStep quoted s c
    | .name quoted read => nameStep quoted read s c

/-- The commands of a script whose last line is ended. -/
def commands? (script : Text) : Option (List Command) := do
  let (last, commands) ← Text.advance step .start script
  if last = .start then some commands else none

example : commands? "echo a\\ b 'c'\"$D e\" # f\n"
    = some [[literal "echo", literal "a b", literal "c" ++ .variable true "D" :: literal " e"]] := by
  decide +kernel
example : commands? "echo *.md\n\nls ''\n"
    = some [[literal "echo", .active '*' :: literal ".md"], [literal "ls", []]] := by decide +kernel
example : commands? "echo 'a\n" = none ∧ commands? "echo $(ls)\n" = none := by decide +kernel

/-! ## Quoted texts -/

variable {command : Command} {word : Option Word} {c : CodePoint} {t : Text}

/-- The points that are not read as themselves, as far as they stand outside quotes. -/
def signs : Text := "\x00\n \t#'\"\\$|&;<>()`*?[]\x7b\x7d~!^"

theorem step_of_not_mem_signs (h : c ∉ signs) :
    step ⟨.plain, command, word⟩ c
      = some (⟨.plain, command, some (word.getD [] ++ literal [c])⟩, []) := by
  simp [signs, Text.ofString] at h
  simp [step, plainStep, null, isOperator, isActive, State.add, literal, Text.ofString, h]

theorem not_mem_signs (h : c.isPlainInShell) : c ∉ signs := by
  have meaning : ∀ d ∈ signs, d.isPlainInShell = false := by decide +kernel
  intro hc
  simp [meaning c hc] at h

theorem literal?_literal (t : Text) : literal? (literal t) = some t := by
  rw [literal?, literal, List.mapM_map]
  exact (List.mapM_pure (f := id)).trans (congrArg some (List.map_id t))

theorem literal_append (t u : Text) : literal (t ++ u) = literal t ++ literal u := List.map_append

/-- Points that mean nothing to a shell go into the word as they are. -/
theorem goes_plain (h : ∀ c ∈ t, c.isPlainInShell) (w : Word) :
    Text.Goes step ⟨.plain, command, some w⟩ t ⟨.plain, command, some (w ++ literal t)⟩ [] := by
  induction t generalizing w with
  | nil =>
    rw [literal, List.map_nil, List.append_nil]
    exact Text.goes_nil
  | cons c t ih =>
    obtain ⟨first, more⟩ := List.forall_mem_cons.mp h
    have rest := ih more (w ++ literal [c])
    rw [List.append_assoc, ← literal_append] at rest
    exact .cons (step_of_not_mem_signs (not_mem_signs first)) rest

/-- A quote inside single quotes is written by leaving them; the word goes on behind it. -/
theorem goes_single (h : null ∉ t) (w : Word) :
    Text.Goes step ⟨.single, command, some w⟩ (Text.replace '\'' "'\"'\"'" t)
      ⟨.single, command, some (w ++ literal t)⟩ [] := by
  induction t generalizing w with
  | nil =>
    rw [literal, List.map_nil, List.append_nil]
    exact Text.goes_nil
  | cons c t ih =>
    rw [List.mem_cons, not_or] at h
    obtain ⟨first, more⟩ := h
    have rest := ih more (w ++ literal [c])
    rw [List.append_assoc, ← literal_append] at rest
    have point : Text.Goes step ⟨.single, command, some w⟩ (if c = '\'' then "'\"'\"'" else [c])
        ⟨.single, command, some (w ++ literal [c])⟩ [] := by
      by_cases quote : c = '\''
      · rw [if_pos quote, quote]
        -- the quotes are closed, the quote stands between double quotes, and another one is opened
        rfl
      · rw [if_neg quote]
        have stepped : step ⟨.single, command, some w⟩ c
            = some (⟨.single, command, some (w ++ literal [c])⟩, []) := by
          simp [step, Ne.symm first, quote, State.add, literal]
        exact Text.goes_point stepped
    exact point.append rest

/-- A text that no null point is in is read as itself, as a word or as the rest of one. -/
theorem goes_shellWord (h : null ∉ t) :
    Text.Goes step ⟨.plain, command, word⟩ t.shellWord
      ⟨.plain, command, some (word.getD [] ++ literal t)⟩ [] := by
  have opened : Text.Goes step ⟨.plain, command, word⟩ "'"
      ⟨.single, command, some (word.getD [])⟩ [] := rfl
  have closed (w : Word) : Text.Goes step ⟨.single, command, some w⟩ "'"
      ⟨.plain, command, some w⟩ [] := rfl
  rw [Text.shellWord]
  split
  next empty =>
    rw [List.isEmpty_iff.mp empty, literal, List.map_nil, List.append_nil]
    exact opened.append (closed _)
  next =>
    split
    next plain =>
      have plain := List.all_eq_true.mp plain
      cases t with
      | nil => contradiction
      | cons c t =>
        obtain ⟨first, more⟩ := List.forall_mem_cons.mp plain
        have rest : Text.Goes step ⟨.plain, command, some (word.getD [] ++ literal [c])⟩ t _ [] :=
          goes_plain more _
        rw [List.append_assoc, ← literal_append] at rest
        exact .cons (step_of_not_mem_signs (not_mem_signs first)) rest
    next => exact (opened.append (goes_single h _)).append (closed _)

/-- A line is read as commands that end with it. -/
def IsRead (entry : Text × List Command) : Prop :=
  Text.Goes step .start (entry.1 ++ ("\n" : Text)) .start entry.2

instance (entry : Text × List Command) : Decidable (IsRead entry) :=
  inferInstanceAs (Decidable (Text.Goes step .start _ .start _))

theorem commands?_unlines {entries : List (Text × List Command)} (h : ∀ e ∈ entries, IsRead e) :
    commands? (Text.unlines (entries.map Prod.fst)) = some (entries.flatMap Prod.snd) := by
  have gone : Text.advance step .start (Text.unlines (entries.map Prod.fst))
      = some (.start, entries.flatMap Prod.snd) := by
    rw [Text.unlines, List.flatMap_map]
    exact Text.Goes.flatMap h
  rw [commands?, gone]
  rfl

end Shell

end AgentWorkflow
