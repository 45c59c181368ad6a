import AgentWorkflow.Proofs.Source.Scanning

/-!
# Literals hold whatever they are given

Text that goes into a program is escaped point by point. No escaped point begins with a quote, and
none breaks a line, so a scanner that is inside a literal is still inside it behind the escaped text
and has kept nothing. From this follows what each of the three renderings of a text spells.

Results:
1. `foldl_read_escape`: escaped text leaves a scanner inside a literal as it was.
2. `spells_literal_append`: a literal is one piece, provided that no quote follows it.
3. `spells_docstring`: a docstring is its indentation, one piece and the end of a line.
4. `spells_multilineLiteral`: a text of several lines is a bracket around one piece per line.
-/

namespace AgentWorkflow

namespace Source

/-! ## Inside a literal -/

/-- True of a point that means nothing inside a double-quoted literal of either length. -/
def isInner (c : CodePoint) : Bool := !(c = '"' || c = '\\' || c = '\n')

/-- The scanner is inside a double-quoted literal and has no quote of its end behind it. -/
def Scanner.InLiteral (s : Scanner) : Prop :=
  ∃ n, s.mode = .short '"' n ∨ s.mode = .long '"' 0 n

namespace Scanner

variable {s : Scanner}

theorem goto_mode (s : Scanner) : s.goto s.mode = s := rfl

theorem InLiteral.read_inner (hs : s.InLiteral) {c : CodePoint} (hc : isInner c) :
    s.read c = s := by
  simp only [isInner, Bool.not_eq_true', Bool.or_eq_false_iff, decide_eq_false_iff_not] at hc
  obtain ⟨n, h | h⟩ := hs
  · simp only [Scanner.read, h, readShort, hc, if_false]
    rw [← h, goto_mode]
  · simp only [Scanner.read, h, readLong, hc, if_false]
    rw [← h, goto_mode]

theorem InLiteral.foldl_read_inner (hs : s.InLiteral) {t : Text} (ht : ∀ c ∈ t, isInner c) :
    t.foldl Scanner.read s = s := by
  induction t with
  | nil => rfl
  | cons c t ih =>
    rw [List.foldl_cons, hs.read_inner (ht c List.mem_cons_self)]
    exact ih fun d hd => ht d (List.mem_cons_of_mem c hd)

/-- A backslash takes the meaning from the point behind it. -/
theorem InLiteral.read_pair (hs : s.InLiteral) {c : CodePoint} (hc : c ≠ '\n') :
    (s.read '\\').read c = s := by
  have hq : ('\\' : CodePoint) ≠ '"' := by decide
  obtain ⟨n, h | h⟩ := hs
  · have hr : s.read '\\' = s.goto (.shortEscape '"' n) := by
      simp [Scanner.read, h, readShort, hq]
    rw [hr]
    simp only [Scanner.read, mode_goto, if_neg hc]
    exact (congrArg s.goto h.symm).trans (goto_mode s)
  · have hr : s.read '\\' = s.goto (.longEscape '"' n) := by
      simp [Scanner.read, h, readLong, hq]
    rw [hr]
    simp only [Scanner.read, mode_goto, if_neg hc]
    exact (congrArg s.goto h.symm).trans (goto_mode s)

end Scanner

/-! ## Escaped text -/

theorem isInner_of_mem_hex : ∀ n < 0x80, ∀ c ∈ Text.hex 2 n, isInner c := by decide +kernel

/-- An escaped point leaves a scanner inside its literal, whichever point it is. -/
theorem foldl_read_escaped {s : Scanner} (hs : s.InLiteral) (c : CodePoint) :
    c.escaped.foldl Scanner.read s = s := by
  have pair : ∀ d : CodePoint, d ≠ '\n' → [('\\' : CodePoint), d].foldl Scanner.read s = s :=
    fun d hd => hs.read_pair hd
  rcases c.escaped_cases with ⟨-, d, hd, h⟩ | ⟨low, h⟩ | ⟨⟨backslash, quote, graphic, -⟩, h⟩
  · rw [h]
    exact pair d ((by decide : ∀ d ∈ ("\\\"nrt" : Text), d ≠ '\n') d hd)
  · rw [h, List.foldl_append, show (("\\x" : Text).foldl Scanner.read s) = s from
      pair 'x' (by decide)]
    exact hs.foldl_read_inner (isInner_of_mem_hex c.val low)
  · have newline : c ≠ '\n' := by
      rintro rfl
      exact absurd graphic (by decide)
    rw [h]
    exact hs.read_inner (by simp [isInner, backslash, quote, newline])

/-- Escaped text leaves a scanner that is inside a literal as it was. -/
theorem foldl_read_escape {s : Scanner} (hs : s.InLiteral) (t : Text) :
    (escape t).foldl Scanner.read s = s := by
  induction t with
  | nil => rfl
  | cons c t ih =>
    rw [escape, List.flatMap_cons, List.foldl_append, foldl_read_escaped hs]
    exact ih

theorem escaped_eq_cons (c : CodePoint) :
    ∃ d rest, c.escaped = d :: rest ∧ d ≠ '"' := by
  rcases c.escaped_cases with ⟨-, d, -, h⟩ | ⟨-, h⟩ | ⟨⟨-, quote, -⟩, h⟩
  · exact ⟨'\\', [d], h, by decide⟩
  · exact ⟨'\\', _, h, by decide⟩
  · exact ⟨c, [], h, quote⟩

/-- Where a literal has just been opened, the first point of an escaped text only tells that the
literal is not a long one. -/
theorem foldl_read_escape_opening {s : Scanner} {n : Nat} (hs : s.mode = .opening '"' 1 n)
    (c : CodePoint) (t : Text) :
    (escape (c :: t)).foldl Scanner.read s = s.goto (.short '"' n) := by
  have inside : (s.goto (.short '"' n)).InLiteral := ⟨n, .inl rfl⟩
  obtain ⟨d, rest, hd, hq⟩ := escaped_eq_cons c
  have first : s.read d = (s.goto (.short '"' n)).read d := by
    simp only [Scanner.read, hs, if_neg hq, Scanner.mode_goto]
    rfl
  have hcons : escape (c :: t) = d :: (rest ++ escape t) := by simp [escape, hd]
  calc (escape (c :: t)).foldl Scanner.read s
      = (escape (c :: t)).foldl Scanner.read (s.goto (.short '"' n)) := by
        rw [hcons, List.foldl_cons, List.foldl_cons, first]
    _ = s.goto (.short '"' n) := foldl_read_escape inside _

/-- True of a text that begins with a point other than a double quote. -/
def startsApart : Text → Bool
  | [] => false
  | c :: _ => c ≠ '"'

/-- A literal is read as one piece. Behind an empty literal a scanner has to see one more point to
know that it was not the beginning of a long one, hence the condition on what follows. -/
theorem foldl_read_literal {s : Scanner} (hs : s.mode = .code) (t : Text) {u : Text}
    (hu : startsApart u) :
    (literal t ++ u).foldl Scanner.read s = u.foldl Scanner.read (s.keep s.line .literal) := by
  have opened : s.read '"' = s.goto (.opening '"' 1 s.line) := by rw [Scanner.read_code hs]; rfl
  have split : literal t ++ u = ('"' : CodePoint) :: (escape t ++ ('"' : CodePoint) :: u) := by
    simp only [literal, List.append_assoc]
    rfl
  rw [split, List.foldl_cons, opened, List.foldl_append, List.foldl_cons]
  cases t with
  | cons c t =>
    rw [foldl_read_escape_opening rfl]
    rfl
  | nil =>
    cases u with
    | nil => simp [startsApart] at hu
    | cons c u =>
      -- two quotes are behind the scanner, so the next point decides between the two lengths
      have hc : c ≠ '"' := by simpa [startsApart] using hu
      have behind : ((s.goto (.opening '"' 1 s.line)).read '"').read c
          = (s.keep s.line .literal).read c := by
        rw [Scanner.read_code (Scanner.mode_keep s s.line .literal)]
        change (s.goto (.opening '"' 2 s.line)).read c = _
        simp only [Scanner.read, Scanner.mode_goto, if_neg hc, if_true]
        rfl
      simp only [escape, List.flatMap_nil, List.foldl_nil, List.foldl_cons, behind]

theorem spells_literal_append (t : Text) {u : Text} {ps : List Piece} (hu : startsApart u)
    (h : Spells u ps) : Spells (literal t ++ u) (.literal :: ps) := by
  intro s hs
  rw [foldl_read_literal hs t hu]
  obtain ⟨hm, hv⟩ := h (s.keep s.line .literal) rfl
  exact ⟨hm, by simp [hv]⟩

/-! ## Docstrings -/

/-- `Quiet t`: inside a literal between triple quotes the text ends nothing. -/
def Quiet (t : Text) : Prop :=
  ∀ (s : Scanner) (n : Nat), s.mode = .long '"' 0 n →
    (t.foldl Scanner.read s).mode = .long '"' 0 n ∧ (t.foldl Scanner.read s).values = s.values

theorem Quiet.append {t u : Text} (ht : Quiet t) (hu : Quiet u) : Quiet (t ++ u) := by
  intro s n hs
  obtain ⟨hm, hv⟩ := ht s n hs
  obtain ⟨hm', hv'⟩ := hu _ n hm
  rw [List.foldl_append]
  exact ⟨hm', hv'.trans hv⟩

theorem quiet_nil : Quiet [] := fun _ _ hs => ⟨hs, rfl⟩

theorem quiet_escape (t : Text) : Quiet (escape t) := by
  intro s n hs
  rw [foldl_read_escape ⟨n, .inr hs⟩]
  exact ⟨hs, rfl⟩

theorem quiet_of_isInner {t : Text} (h : ∀ c ∈ t, isInner c) : Quiet t := by
  intro s n hs
  rw [Scanner.InLiteral.foldl_read_inner ⟨n, .inr hs⟩ h]
  exact ⟨hs, rfl⟩

theorem quiet_newline : Quiet "\n" := by
  intro s n hs
  have hr : s.read '\n' = s.nextLine (.long '"' 0 n) := by
    simp only [Scanner.read, hs, Scanner.readLong]
    rfl
  change (s.read '\n').mode = _ ∧ (s.read '\n').values = _
  simp [hr]

theorem quiet_unlines {lines : List Text} (h : ∀ l ∈ lines, Quiet l) :
    Quiet (Text.unlines lines) := by
  induction lines with
  | nil => exact quiet_nil
  | cons l lines ih =>
    have head : Quiet (l ++ "\n") := (h l List.mem_cons_self).append quiet_newline
    exact head.append (ih fun k hk => h k (List.mem_cons_of_mem l hk))

theorem spells_longLiteral {t : Text} (h : Quiet t) :
    Spells ("\"\"\"" ++ t ++ "\"\"\"") [.literal] := by
  intro s hs
  have opened : ("\"\"\"" : Text).foldl Scanner.read s = s.goto (.long '"' 0 s.line) := by
    change ((s.read '"').read '"').read '"' = _
    rw [Scanner.read_code hs]
    rfl
  rw [List.foldl_append, List.foldl_append, opened]
  obtain ⟨hm, hv⟩ := h (s.goto (.long '"' 0 s.line)) s.line rfl
  generalize t.foldl Scanner.read (s.goto (.long '"' 0 s.line)) = z at hm hv
  have closed : ("\"\"\"" : Text).foldl Scanner.read z = z.keep s.line .literal := by
    change ((z.read '"').read '"').read '"' = _
    have hr : z.read '"' = z.goto (.long '"' 1 s.line) := by
      simp only [Scanner.read, hm, Scanner.readLong]
      rfl
    rw [hr]
    rfl
  rw [closed]
  exact ⟨rfl, by simp [hv]⟩

theorem isInner_of_mem_indent {level : Nat} {c : CodePoint} (h : c ∈ indent level) :
    isInner c := by
  rw [List.eq_of_mem_replicate h]
  decide

theorem isPlain_of_mem_indent {level : Nat} {c : CodePoint} (h : c ∈ indent level) :
    isPlain c := by
  rw [List.eq_of_mem_replicate h]
  decide

def blanks (level : Nat) : List Piece := (indent level).map .point

theorem spells_indent (level : Nat) : Spells (indent level) (blanks level) :=
  spells_of_isPlain fun _ => isPlain_of_mem_indent

/-- However many lines a docstring has, it is one piece behind its indentation. -/
theorem spells_docstring (level : Nat) {contents : List Text} (h : contents ≠ []) :
    Spells (Text.unlines (docstring (indent level) contents))
      (blanks level ++ [.literal, .lineEnd]) := by
  have shape : ∀ t, Quiet t →
      Spells (indent level ++ (("\"\"\"" ++ t ++ "\"\"\"") ++ "\n"))
        (blanks level ++ [.literal, .lineEnd]) := fun t ht =>
    (spells_indent level).append ((spells_longLiteral ht).append spells_newline)
  match contents, h with
  | [line], _ =>
    simpa [docstring, Text.unlines] using shape (escape line) (quiet_escape line)
  | line :: next :: more, _ =>
    -- the quotes at the end stand on a line of their own, behind an indentation
    let rest := (next :: more).map fun l => if l.isEmpty then [] else indent level ++ escape l
    have body : Quiet (escape line ++ "\n" ++ Text.unlines rest ++ indent level) := by
      refine (((quiet_escape line).append quiet_newline).append (quiet_unlines ?_)).append
        (quiet_of_isInner fun _ => isInner_of_mem_indent)
      intro l hl
      obtain ⟨k, -, rfl⟩ := List.mem_map.mp hl
      split
      · exact quiet_nil
      · exact (quiet_of_isInner fun _ => isInner_of_mem_indent).append (quiet_escape k)
    simpa [docstring, Text.unlines, rest] using shape _ body

/-! ## Texts of several lines -/

/-- The pieces of a text of several lines: a bracket around one literal per line. -/
def bracketedLiterals (level count : Nat) : List Piece :=
  [.point '(', .lineEnd] ++ (List.replicate count (blanks (level + 1) ++ [.literal, .lineEnd])).flatten
    ++ blanks level ++ [.point ')']

theorem indent_succ (level : Nat) : indent (level + 1) = indent level ++ "    " := by
  rw [indent, indent, Nat.mul_add, ← List.replicate_append_replicate]
  rfl

theorem chunks_ne_nil {t : Text} (h : t ≠ []) : chunks t ≠ [] := by
  intro hc
  apply h
  rw [← flatten_chunks t, hc]
  rfl

theorem spells_literalLines (level : Nat) (cs : List Text) :
    Spells (Text.unlines (cs.map fun c => indent (level + 1) ++ literal c))
      (List.replicate cs.length (blanks (level + 1) ++ [.literal, .lineEnd])).flatten := by
  induction cs with
  | nil => exact spells_nil
  | cons c cs ih =>
    have head := (spells_indent (level + 1)).append
      (spells_literal_append c (by decide) spells_newline)
    simpa [Text.unlines, List.replicate_succ] using head.append ih

theorem spells_multilineLiteral (level : Nat) {t : Text} (h : ('\n' : CodePoint) ∈ t) :
    Spells (multilineLiteral (indent level) t) (bracketedLiterals level (chunks t).length) := by
  have opened : Spells "(\n" [.point '(', .lineEnd] := by
    exact @spells_of_ofLines "(\n" (by decide)
  have closed : Spells ")" [.point ')'] := spells_of_isPlain (by decide)
  have whole := ((opened.append (spells_literalLines level (chunks t))).append
    (spells_indent level)).append closed
  simpa [multilineLiteral, h, bracketedLiterals, indent_succ] using whole

end Source

end AgentWorkflow
