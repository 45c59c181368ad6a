import AgentWorkflow.Proofs.Text.Advancing
import AgentWorkflow.Proofs.Text.Points
import AgentWorkflow.Text.Yaml

/-!
# Reading scalars back

In YAML a single quote opens a scalar where a value may begin: behind a blank or behind the bracket
of a list. Inside, two quotes stand for one, and a quote that stands alone closes the scalar; then
the line ends, or a blank, a comma or a bracket follows. What follows a number sign behind a blank
is a comment. A scalar here has to end on its line, whatever a reader takes for the end of a line.

A text is written as a scalar of its words, so all that is left of its blanks is a space between two
words, and no point that ends a line is anything but a blank.

Results:
1. `goes_yamlScalar`: a scalar is read as the words of the text with single blanks between them.
2. `isFlat_yamlScalar`: it stays on its line.
3. `Row.line?_text`: what is read of a line that fixed text and scalars make up.
4. `lines?_unlines`: the lines of a file are read one by one.
-/

namespace AgentWorkflow

/-! ## Line breaks -/

/-- True of a point at which some reader of lines ends one. -/
def CodePoint.isLineBreak (c : CodePoint) : Bool :=
  inRanges c.val [(0xA, 0xD), (0x1C, 0x1E), (0x85, 0x85), (0x2028, 0x2029)]

theorem CodePoint.isBlank_of_isLineBreak {c : CodePoint} (h : c.isLineBreak) : c.isBlank := by
  simp only [isLineBreak, isBlank, blankRanges, inRanges] at *
  grind

namespace Text

/-- True of a text that stays on its line. -/
def isFlat (t : Text) : Bool := t.all (!·.isLineBreak)

variable {t u : Text}

theorem isFlat_iff : t.isFlat ↔ ∀ c ∈ t, c.isLineBreak = false := by simp [isFlat]

@[simp] theorem isFlat_append (t u : Text) : isFlat (t ++ u) = (t.isFlat && u.isFlat) :=
  List.all_append

theorem not_isBlank_of_mem_words {word : Text} {c : CodePoint} (h : word ∈ t.words)
    (hc : c ∈ word) : c.isBlank = false := by
  simpa using (mem_runs h hc).2

/-- Of all blanks only the space is left. -/
theorem isFlat_squeeze (t : Text) : t.squeeze.isFlat := by
  refine isFlat_iff.mpr fun c hc => ?_
  rcases mem_join hc with hc | ⟨word, hw, hc⟩
  · exact (by decide : ∀ c ∈ (" " : Text), c.isLineBreak = false) c hc
  · have blank := not_isBlank_of_mem_words hw hc
    exact Bool.eq_false_iff.mpr fun ends => by
      simp [CodePoint.isBlank_of_isLineBreak ends] at blank

@[simp] theorem isFlat_yamlScalar (t : Text) : t.yamlScalar.isFlat = true := by
  have quotes : isFlat "''" := by decide
  have body : (replace '\'' "''" t.squeeze).isFlat := isFlat_iff.mpr fun c hc =>
    (mem_replace hc).elim (isFlat_iff.mp quotes c) (isFlat_iff.mp (isFlat_squeeze t) c)
  have quote : isFlat "'" := by decide
  simp [yamlScalar, body, quote]

theorem splitOnP_unlines {lines : List Text} (h : ∀ line ∈ lines, line.isFlat) :
    (unlines lines).splitOnP CodePoint.isLineBreak = lines ++ [[]] := by
  induction lines with
  | nil => rfl
  | cons line lines ih =>
    obtain ⟨flat, rest⟩ := List.forall_mem_cons.mp h
    have whole : line.splitOnP CodePoint.isLineBreak = [line] :=
      List.splitOnP_eq_singleton fun c hc => by simp [isFlat_iff.mp flat c hc]
    rw [unlines_feed_cons, List.splitOnP_append_cons _ _ (by decide), whole, ih rest]
    rfl

end Text

namespace Yaml

/-! ## Lines -/

/-- A part of a line: a point outside quotes, or what a scalar stands for. -/
inductive Leaf
  | point (c : CodePoint)
  | scalar (value : Text)
deriving DecidableEq

/-- Where on a line a reader is: outside quotes behind a point, in a comment, in a scalar, or behind
a quote in a scalar, which closes it unless another quote follows. -/
inductive Place
  | outside (before : CodePoint)
  | comment
  | inside (value : Text)
  | quote (value : Text)
deriving DecidableEq

/-- True of a point behind which a scalar may be opened. -/
def opens (c : CodePoint) : Bool := c = ' ' || c = '['

/-- True of a point that may stand behind a scalar. -/
def closes (c : CodePoint) : Bool := c = ' ' || c = ',' || c = ']'

def step : Place → CodePoint → Option (Place × List Leaf)
  | .outside before, c =>
    if c = '\'' then if opens before then some (.inside [], []) else none
    else if c = '#' && before = ' ' then some (.comment, [.point c])
    else some (.outside c, [.point c])
  | .comment, c => some (.comment, [.point c])
  | .inside value, c =>
    if c = '\'' then some (.quote value, []) else some (.inside (value ++ [c]), [])
  | .quote value, c =>
    if c = '\'' then some (.inside (value ++ [c]), [])
    else if closes c then some (.outside c, [.scalar value, .point c])
    else none

/-- The leaves that are left at the end of a line. -/
def finish : Place → Option (List Leaf)
  | .inside _ => none
  | .quote value => some [.scalar value]
  | _ => some []

def rest? (place : Place) (t : Text) : Option (List Leaf) := do
  let (last, leaves) ← Text.advance step place t
  return leaves ++ (← finish last)

def line? (line : Text) : Option (List Leaf) := rest? (.outside ' ') line

/-- The leaves of the lines of a file. What stands behind the last line break counts as a line. -/
def lines? (file : Text) : Option (List (List Leaf)) :=
  (file.splitOnP CodePoint.isLineBreak).mapM line?

/-- What of a line stands outside scalars; each scalar leaves a gap. -/
def outline (line : List Leaf) : List (Option CodePoint) :=
  line.map fun
    | .point c => some c
    | .scalar _ => none

/-- The outline of a line that consists of texts with a scalar between any two of them. -/
def gapped (texts : List Text) : List (Option CodePoint) :=
  [none].intercalate (texts.map (·.map some))

def scalars (line : List Leaf) : List Text :=
  line.filterMap fun
    | .point _ => none
    | .scalar value => some value

theorem outline_points (t : Text) : outline (t.map .point) = gapped [t] := by
  simp [outline, gapped]

theorem scalars_points (t : Text) : scalars (t.map .point) = [] := by
  simp [scalars]

example : line? "- 'it''s: #1'" = some [.point '-', .point ' ', .scalar "it's: #1"] := by decide
example : (line? "['a', 'b'] # 'c").map scalars = some (["a", "b"] : List Text) := by decide
example : line? "- 'a'b'" = none := by decide

variable {t u : Text} {place next : Place} {read more : List Leaf}

theorem rest?_append (h : Text.Goes step place t next read) (rest : rest? next u = some more) :
    rest? place (t ++ u) = some (read ++ more) := by
  obtain ⟨⟨last, behind⟩, gone, rest⟩ := Option.bind_eq_some_iff.mp rest
  obtain ⟨left, finished, same⟩ := Option.bind_eq_some_iff.mp rest
  have whole : Text.advance step place (t ++ u) = some (last, read ++ behind) := h.append gone
  rw [rest?, whole, ← Option.some.inj same, ← List.append_assoc]
  exact congrArg (·.bind fun left => some (read ++ behind ++ left)) finished

/-- Flat lines are read one by one. -/
theorem lines?_unlines {lines : List Text} {reads : List (List Leaf)}
    (flat : ∀ line ∈ lines, line.isFlat) (h : lines.mapM line? = some reads) :
    lines? (Text.unlines lines) = some (reads ++ [[]]) := by
  have last : line? [] = some [] := rfl
  rw [lines?, Text.splitOnP_unlines flat, List.mapM_append, h]
  simp [last]

/-! ## Scalars -/

/-- Quotes are doubled inside a scalar, and a reader takes two of them for one. -/
theorem goes_inside (value t : Text) :
    Text.Goes step (.inside value) (Text.replace '\'' "''" t) (.inside (value ++ t)) [] := by
  induction t generalizing value with
  | nil =>
    rw [List.append_nil]
    exact Text.goes_nil
  | cons c t ih =>
    have rest := ih (value ++ [c])
    rw [List.append_assoc, List.singleton_append] at rest
    have first : Text.Goes step (.inside value) (if c = '\'' then "''" else [c])
        (.inside (value ++ [c])) [] := by
      by_cases quote : c = '\''
      · have once : step (.inside value) '\'' = some (.quote value, []) := rfl
        have twice : step (.quote value) '\'' = some (.inside (value ++ ("'" : Text)), []) := rfl
        rw [if_pos quote, quote]
        exact .cons once (Text.goes_point twice)
      · rw [if_neg quote]
        exact Text.goes_point (if_neg quote)
    exact first.append rest

/-- Where a scalar may be opened, a text comes back from what it is written as, its words with
single blanks between them. -/
theorem goes_yamlScalar {before : CodePoint} (h : opens before) (t : Text) :
    Text.Goes step (.outside before) t.yamlScalar (.quote t.squeeze) [] := by
  have opened : step (.outside before) '\'' = some (.inside [], []) := by simp [step, h]
  exact ((Text.goes_point opened).append (goes_inside [] t.squeeze)).append (Text.goes_point rfl)

/-! ## Rows -/

/-- True of text that stays on its line, opens no scalar and begins no comment. -/
def isPlain (t : Text) : Bool := t.isFlat && t.all fun c => c ≠ '\'' && c ≠ '#'

/-- Outside of scalars every point is kept, and the last one decides whether a scalar may begin. -/
theorem goes_plain {before : CodePoint} (h : isPlain t) :
    Text.Goes step (.outside before) t (.outside (t.getLastD before)) (t.map .point) := by
  induction t generalizing before with
  | nil => exact Text.goes_nil
  | cons c t ih =>
    have plain : isPlain t := by simp_all [isPlain, Text.isFlat]
    have stepped : step (.outside before) c = some (.outside c, [.point c]) := by
      simp_all [step, isPlain]
    rw [List.getLastD_cons]
    exact .cons stepped (ih plain)

/-- A line that is made of text and of scalars, each with the text behind it. -/
structure Row where
  front : Text
  values : List (Text × Text)

namespace Row

def text (r : Row) : Text :=
  r.front ++ r.values.flatMap fun (value, behind) => value.yamlScalar ++ behind

def leaves (r : Row) : List Leaf :=
  r.front.map .point
    ++ r.values.flatMap fun (value, behind) => .scalar value.squeeze :: behind.map .point

/-- True if scalars may follow a point with these texts behind them. -/
def fits (before : CodePoint) : List Text → Bool
  | [] => true
  | behind :: more =>
    opens before && isPlain behind && behind.head?.all closes
      -- no scalar stands behind a quote
      && fits (behind.getLastD '\'') more

/-- True of a row that can be told from its scalars, whatever these say. -/
def isSound (r : Row) : Bool :=
  isPlain r.front && fits (r.front.getLastD ' ') (r.values.map Prod.snd)

/-- A line of scalars is read back, when what stands between them lets a scalar begin and end. -/
theorem rest?_values {before : CodePoint} {values : List (Text × Text)}
    (h : fits before (values.map Prod.snd)) :
    rest? (.outside before) (values.flatMap fun (value, behind) => value.yamlScalar ++ behind)
      = some (values.flatMap fun (value, behind) =>
          .scalar value.squeeze :: behind.map Leaf.point) := by
  induction values generalizing before with
  | nil => rfl
  | cons entry values ih =>
    obtain ⟨value, behind⟩ := entry
    simp only [List.map_cons, fits, Bool.and_eq_true] at h
    obtain ⟨⟨⟨opened, plain⟩, closed⟩, fit⟩ := h
    have scalar := goes_yamlScalar opened value
    rw [List.flatMap_cons, List.flatMap_cons, List.append_assoc]
    cases behind with
    | nil =>
      obtain rfl : values = [] := by
        cases values with
        | nil => rfl
        | cons _ _ =>
          have shut : opens '\'' = false := by decide
          simp [fits, shut] at fit
      have last : rest? (.quote value.squeeze) [] = some [.scalar value.squeeze] := rfl
      simpa using rest?_append scalar last
    | cons c behind =>
      have stepped : step (.quote value.squeeze) c
          = some (.outside c, [.scalar value.squeeze, .point c]) := by
        simp_all [step, isPlain]
      have plain : isPlain behind := by simp_all [isPlain, Text.isFlat]
      rw [List.getLastD_cons] at fit
      have text := Text.Goes.cons stepped (goes_plain plain)
      simpa using rest?_append (scalar.append text) (ih fit)

/-- A sound row is read as its text and the words of its values. -/
theorem line?_text {r : Row} (h : r.isSound) : line? r.text = some r.leaves := by
  obtain ⟨front, values⟩ := (Bool.and_eq_true _ _).mp h
  exact rest?_append (goes_plain front) (rest?_values values)

theorem isFlat_values {before : CodePoint} {values : List (Text × Text)}
    (h : fits before (values.map Prod.snd)) :
    Text.isFlat (values.flatMap fun (value, behind) => value.yamlScalar ++ behind) := by
  induction values generalizing before with
  | nil => rfl
  | cons entry values ih =>
    simp only [List.map_cons, fits, Bool.and_eq_true, isPlain] at h
    rw [List.flatMap_cons, Text.isFlat_append, ih h.2]
    simp [h.1.1.2.1]

/-- Nothing that a value says ends the row. -/
theorem isFlat_text {r : Row} (h : r.isSound) : Text.isFlat r.text := by
  simp only [isSound, isPlain, Bool.and_eq_true] at h
  rw [text, Text.isFlat_append, h.1.1, isFlat_values h.2]
  rfl

/-- The texts of the row, which are the same whatever its values are. -/
def frame (r : Row) : List Text := r.front :: r.values.map Prod.snd

theorem outline_leaves (r : Row) : outline r.leaves = gapped r.frame := by
  obtain ⟨front, values⟩ := r
  induction values generalizing front with
  | nil => simp [leaves, frame, outline, gapped]
  | cons entry values ih =>
    obtain ⟨value, behind⟩ := entry
    have rest := ih behind
    simp_all [leaves, frame, outline, gapped, List.intercalate_cons_cons]

theorem scalars_leaves (r : Row) : scalars r.leaves = r.values.map fun v => v.1.squeeze := by
  simp [scalars, leaves, List.filterMap_flatMap, ← List.map_eq_flatMap]

end Row

end Yaml

end AgentWorkflow
