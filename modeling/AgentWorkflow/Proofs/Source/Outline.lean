import AgentWorkflow.Proofs.Source.Views
import AgentWorkflow.Proofs.Text.Points

/-!
# The outline of a program

A program is a list of lines with their indentation; what stands in brackets belongs to the line on
which they open, and blank lines and comments do not count. A function is a line at the margin that
begins with `def`, and its body is the indented lines behind it.

A text of whole lines has the same lines wherever it stands, so the outline of a program is put
together from the outlines of its parts.

Results:
1. `Lays.append`, `lays_line`, `lays_of_isLaid`: the lines of a text from those of its parts.
2. `Shows.unlines`, `definitions_append`, `definitions_block`: what a program shows, its functions
   among others.
3. `stretches_append_cons`, `isCallView_stretches`: the words and the names of a run from those of
   its parts.
-/

namespace AgentWorkflow

namespace Source

/-! ## Lines -/

/-- A line without the blanks at either end. -/
structure Line where
  indentation : Nat
  content : List Leaf

def line? (run : List Leaf) : Option Line :=
  let content := trimRun run
  if content.isEmpty then none else some ⟨(run.takeWhile (·.isBlank)).length, content⟩

def linesOf (program : List Leaf) : List Line := (program.splitOnP (·.isLineEnd)).filterMap line?

/-! ## Functions -/

/-- The name of the function that a line begins. -/
def Line.defined? (l : Line) : Option Text :=
  let (first, behind) := takePoints CodePoint.isWordPoint l.content
  let (keyword, rest) :=
    if first = "async" then takePoints CodePoint.isWordPoint (behind.dropWhile (·.isBlank))
    else (first, behind)
  match takePoints CodePoint.isWordPoint (rest.dropWhile (·.isBlank)) with
  | (name, .group c _ :: _) =>
    if l.indentation = 0 && keyword = "def" && c = '(' && !name.isEmpty then some name else none
  | _ => none

structure Definition where
  name : Text
  body : List Line

/-- The functions that lines define at the margin. -/
def definitions : List Line → List Definition
  | [] => []
  | l :: rest =>
    match l.defined? with
    | some name => ⟨name, rest.takeWhile (0 < ·.indentation)⟩ :: definitions rest
    | none => definitions rest

/-- The statements of a function whose body is a plain sequence of them, without nested blocks. -/
def Definition.statements? (d : Definition) : Option (List (List Leaf)) :=
  if d.body.all fun l => d.body.head?.all (·.indentation = l.indentation) then
    some (d.body.map (·.content))
  else none

def returned? (statement : List Leaf) : Option (List Leaf) :=
  match takePoints CodePoint.isWordPoint statement with
  | (word, value) => if word = "return" then some (trimRun value) else none

/-! ## Words -/

mutual

/-- What is seen of a leaf when literals are blanked out. -/
def Leaf.visible : Leaf → Text
  | .point c | .opened c => [c]
  | .group c inner => c :: (visible inner ++ " ")
  | .text _ | .lineEnd => " "

/-- What is seen of a run. -/
def visible : List Leaf → Text
  | [] => []
  | l :: run => l.visible ++ visible run

end

/-- The words of a run, also those inside brackets. -/
def words (run : List Leaf) : List Text := Text.runs CodePoint.isWordPoint (visible run)

/-! ## The lines of a text -/

/-- `Lays t ls`: the text is made of whole lines, and they are `ls`. -/
def Lays (t : Text) (ls : List Line) : Prop :=
  ∃ leaves, Reads t leaves ∧ leaves.getLast?.all (·.isLineEnd) ∧ linesOf leaves = ls

theorem linesOf_nil : linesOf [] = [] := rfl

theorem linesOf_append_cons {run : List Leaf} (rest : List Leaf) :
    linesOf (run ++ .lineEnd :: rest) = linesOf run ++ linesOf rest := by
  rw [linesOf, List.splitOnP_append_cons _ _ rfl, List.filterMap_append]
  rfl

theorem linesOf_append {leaves : List Leaf} (h : leaves.getLast?.all (·.isLineEnd))
    (rest : List Leaf) : linesOf (leaves ++ rest) = linesOf leaves ++ linesOf rest := by
  rcases List.eq_nil_or_concat leaves with rfl | ⟨front, l, rfl⟩
  · rfl
  · have last : l = .lineEnd := by
      cases l <;> simp_all [Leaf.isLineEnd]
    subst last
    rw [List.concat_eq_append, List.append_assoc, List.singleton_append, linesOf_append_cons,
      linesOf_append_cons, linesOf_nil, List.append_nil]

theorem linesOf_of_flat {run : List Leaf} (flat : ∀ l ∈ run, l.isLineEnd = false) :
    linesOf run = (line? run).toList := by
  rw [linesOf, List.splitOnP_eq_singleton flat]
  cases h : line? run <;> simp [h]

theorem lays_nil : Lays [] [] := ⟨[], reads_nil, rfl, rfl⟩

theorem Lays.append {t u : Text} {ls ks : List Line} (ht : Lays t ls) (hu : Lays u ks) :
    Lays (t ++ u) (ls ++ ks) := by
  obtain ⟨leaves, ht, hl, rfl⟩ := ht
  obtain ⟨leaves', hu, hl', rfl⟩ := hu
  refine ⟨leaves ++ leaves', ht.append hu, ?_, linesOf_append hl leaves'⟩
  rw [List.getLast?_append]
  cases h : leaves'.getLast? with
  | none => simpa using hl
  | some l => simpa [h] using hl'

theorem Lays.unlines {texts more : List Text} {ls ks : List Line} (h : Lays (Text.unlines texts) ls)
    (h' : Lays (Text.unlines more) ks) : Lays (Text.unlines (texts ++ more)) (ls ++ ks) := by
  rw [Text.unlines_append]
  exact h.append h'

theorem lays_flatMap {α : Type} {f : α → List Text} {g : α → List Line} {xs : List α}
    (h : ∀ x ∈ xs, Lays (Text.unlines (f x)) (g x)) :
    Lays (Text.unlines (xs.flatMap f)) (xs.flatMap g) := by
  induction xs with
  | nil => exact lays_nil
  | cons x xs ih =>
    exact (h x List.mem_cons_self).unlines (ih fun y hy => h y (List.mem_cons_of_mem x hy))

theorem Lays.read? {t : Text} {ls : List Line} (h : Lays t ls) :
    (read? t).map linesOf = some ls := by
  obtain ⟨leaves, hr, -, rfl⟩ := h
  rw [read?_of_reads hr, Option.map_some]

theorem linesOf_line (level : Nat) {run : List Leaf} (hs : Starts run) (he : Ends run)
    (flat : ∀ l ∈ run, l.isLineEnd = false) :
    linesOf (blankLeaves level ++ (run ++ [.lineEnd])) = [⟨4 * level, run⟩] := by
  have blank := blank_blankLeaves level
  have apart : ∀ l ∈ blankLeaves level ++ run, l.isLineEnd = false := by
    refine List.forall_mem_append.mpr ⟨fun l hl => ?_, flat⟩
    obtain ⟨c, -, rfl⟩ := List.mem_map.mp hl
    rfl
  have content : trimRun (blankLeaves level ++ run) = run := trimRun_append hs he blank
  have nonempty : run.isEmpty = false := by
    obtain ⟨l, rest, rfl, -⟩ := hs
    rfl
  have depth : ((blankLeaves level ++ run).takeWhile (·.isBlank)).length = 4 * level := by
    obtain ⟨l, rest, rfl, hl⟩ := hs
    rw [List.takeWhile_append_of_pos blank, List.takeWhile_cons_of_neg (by simp [hl])]
    simp [blankLeaves, indent]
  rw [← List.append_assoc, linesOf_append_cons, linesOf_nil, List.append_nil, linesOf,
    List.splitOnP_eq_singleton apart]
  simp [line?, content, nonempty, depth]

/-- A line of code. -/
theorem lays_line (level : Nat) {t : Text} {run : List Leaf} (h : Awaits t run) (hs : Starts run)
    (he : Ends run) (flat : ∀ l ∈ run, l.isLineEnd = false) :
    Lays (line level t ++ "\n") [⟨4 * level, run⟩] := by
  refine ⟨blankLeaves level ++ (run ++ [.lineEnd]), ?_, by simp [Leaf.isLineEnd],
    linesOf_line level hs he flat⟩
  rw [line, List.append_assoc]
  exact (reads_indent level).append (h.append reads_newline rfl)

def assignmentRun (name : Text) (value : List Leaf) : List Leaf :=
  name.map .point ++ ([.point ' '] ++ .point '=' :: ([.point ' '] ++ value))

section Assignment

variable {name t : Text} {value : List Leaf} (hn : isKeyName name)

include hn

/-- An assignment on a line of its own. -/
theorem lays_assignment (level : Nat) (h : Expresses t value) :
    Lays (line level (name ++ ((" = " : Text) ++ t)) ++ "\n")
      [⟨4 * level, assignmentRun name value⟩] := by
  obtain ⟨ne, word⟩ := isKeyName_iff.mp hn
  have front : Expresses name (name.map .point) := expresses_points ne fun c hc =>
    isPlainPoint_of_isNamePoint (isNamePoint_of_isWordPoint (word c hc))
  have sign : Reads " = " ([.point ' '] ++ .point '=' :: [.point ' ']) := reads_points (by decide)
  refine lays_line level ?_ (front.starts.append _) ?_ ?_
  · have read := (reads_points fun c hc => isBare_of_isWordPoint (word c hc)).append_awaits
      (sign.append_awaits h.awaits)
    simpa [assignmentRun] using read
  · exact Ends.append (Ends.append (Ends.append h.ends [.point '=', .point ' ']) _) _
  · refine List.forall_mem_append.mpr ⟨front.level, ?_⟩
    intro l hl
    rcases hl with _ | ⟨_, _ | ⟨_, _ | ⟨_, hl⟩⟩⟩
    · rfl
    · rfl
    · rfl
    · exact h.level l hl

theorem binding?_assignmentRun (h : Value value) :
    binding? (assignmentRun name value) = some (name, value) := by
  obtain ⟨ne, word⟩ := isKeyName_iff.mp hn
  exact binding?_points ne word (blank_nil.cons rfl) h.toItem h.unlike

end Assignment

theorem lays_docstring (level : Nat) {contents : List Text} (h : contents ≠ []) :
    Lays (Text.unlines (docstring (indent level) contents))
      [⟨4 * level, [.text (docText level contents)]⟩] := by
  refine ⟨_, reads_docstring level h, by simp [Leaf.isLineEnd], ?_⟩
  exact linesOf_line level (item_text _).starts (item_text _).ends (level_singleton rfl)

/-- The leaves of a line that begins a function or a class. -/
def headRun (keyword name : Text) (inner : List Leaf) (behind : Text) : List Leaf :=
  keyword.map .point ++ .point ' ' ::
    (name.map .point ++ .group '(' inner :: (behind ++ ":").map .point)

/-- A line that begins a function or a class. -/
theorem lays_head {keyword name t behind : Text} {inner : List Leaf} (hk : isKeyName keyword)
    (hn : isKeyName name) (h : Awaits t inner) (hb : ∀ c ∈ behind, isBare c) :
    Lays (keyword ++ " " ++ name ++ "(" ++ t ++ ")" ++ behind ++ ":" ++ "\n")
      [⟨0, headRun keyword name inner behind⟩] := by
  obtain ⟨nonempty, front⟩ := isKeyName_iff.mp hk
  obtain ⟨-, word⟩ := isKeyName_iff.mp hn
  have bare : ∀ {u : Text}, (∀ c ∈ u, c.isWordPoint) → Reads u (u.map .point) := fun hu =>
    reads_points fun c hc => isBare_of_isWordPoint (hu c hc)
  have blank : Reads " " [.point ' '] := reads_point (by decide)
  have tail : Reads (behind ++ ":") ((behind ++ ":").map .point) :=
    reads_points (List.forall_mem_append.mpr ⟨hb, by decide⟩)
  have reads := (bare front).append (blank.append
    ((bare word).append ((reads_parentheses h).append tail)))
  have starts : Starts (headRun keyword name inner behind) :=
    (item_points nonempty fun c hc =>
      isItemPoint_of_isNamePoint (isNamePoint_of_isWordPoint (front c hc))).starts.append _
  have ends : Ends (headRun keyword name inner behind) := by
    refine ⟨keyword.map .point ++ .point ' ' ::
      (name.map .point ++ .group '(' inner :: behind.map .point), .point ':', ?_, rfl⟩
    simp [headRun, Text.ofString]
  have flat : ∀ l ∈ headRun keyword name inner behind, l.isLineEnd = false :=
    List.forall_mem_append.mpr ⟨level_points _, List.forall_mem_cons.mpr ⟨rfl,
      List.forall_mem_append.mpr ⟨level_points _, List.forall_mem_cons.mpr
        ⟨rfl, level_points _⟩⟩⟩⟩
  have awaits : Awaits (keyword ++ " " ++ name ++ "(" ++ t ++ ")" ++ behind ++ ":")
      (headRun keyword name inner behind) := by
    simpa [headRun] using reads.awaits
  simpa [line, indent] using lays_line 0 awaits starts ends flat

/-- A line that is blank but for a comment. -/
theorem lays_comment (level : Nat) {t : Text} (h : ('\n' : CodePoint) ∉ t) :
    Lays (line level ("#" ++ t) ++ "\n") [] := by
  refine ⟨blankLeaves level ++ [.lineEnd], ?_, by simp [Leaf.isLineEnd], ?_⟩
  · rw [line, List.append_assoc]
    exact (reads_indent level).append (reads_comment h)
  · have apart : ∀ l ∈ blankLeaves level, l.isLineEnd = false := by
      intro l hl
      obtain ⟨c, -, rfl⟩ := List.mem_map.mp hl
      rfl
    rw [linesOf_append_cons, linesOf_nil, List.append_nil, linesOf,
      List.splitOnP_eq_singleton apart]
    simp [line?, trimRun_of_blank (blank_blankLeaves level)]

/-! ## Texts that are the same in every program -/

/-- The lines that a text has on its own. -/
def layout (t : Text) : List Line := linesOf (run t).leaves.reverse

/-- True of a text of whole lines. -/
def isLaid (t : Text) : Bool :=
  (run t).mode = .code && (run t).leaves.all (!·.isOpened) && (run t).leaves.head?.all (·.isLineEnd)

theorem lays_of_isLaid {t : Text} (h : isLaid t) : Lays t (layout t) := by
  simp only [isLaid, Bool.and_eq_true, decide_eq_true_eq] at h
  obtain ⟨⟨mode, whole⟩, last⟩ := h
  refine ⟨_, reads_of_run mode whole, ?_, rfl⟩
  rwa [List.getLast?_reverse]

/-- True of a text of whole lines, each of which satisfies `p`. -/
def allLines (p : Line → Bool) (t : Text) : Bool := isLaid t && (layout t).all p

theorem lays_of_allLines {p : Line → Bool} {t : Text} (h : allLines p t) :
    Lays t (layout t) ∧ ∀ l ∈ layout t, p l := by
  rw [allLines, Bool.and_eq_true] at h
  exact ⟨lays_of_isLaid h.1, List.all_eq_true.mp h.2⟩

/-- A text of comments and blank lines. -/
theorem lays_nil_of_allLines {t : Text} (h : allLines (fun _ => false) t) : Lays t [] := by
  obtain ⟨lays, none⟩ := lays_of_allLines h
  rwa [List.eq_nil_iff_forall_not_mem.mpr fun l hl => nomatch none l hl] at lays

/-! ## The functions of a program -/

/-- The lines begin at the margin. -/
def AtMargin (ls : List Line) : Prop := ∀ l ∈ ls.head?, l.indentation = 0

theorem takeWhile_append_atMargin (ls : List Line) {ks : List Line} (h : AtMargin ks) :
    (ls ++ ks).takeWhile (0 < ·.indentation) = ls.takeWhile (0 < ·.indentation) := by
  induction ls with
  | nil =>
    cases ks with
    | nil => rfl
    | cons k ks =>
      have margin : k.indentation = 0 := h k rfl
      rw [List.nil_append, List.takeWhile_cons_of_neg (by simp [margin]), List.takeWhile_nil]
  | cons l ls ih => rw [List.cons_append, List.takeWhile_cons, List.takeWhile_cons, ih]

theorem definitions_append (ls : List Line) {ks : List Line} (h : AtMargin ks) :
    definitions (ls ++ ks) = definitions ls ++ definitions ks := by
  induction ls with
  | nil => rfl
  | cons l ls ih =>
    rw [List.cons_append, definitions, definitions, ih, takeWhile_append_atMargin ls h]
    split <;> rfl

theorem definitions_of_forall {ls : List Line} (h : ∀ l ∈ ls, l.defined? = none) :
    definitions ls = [] := by
  induction ls with
  | nil => rfl
  | cons l ls ih =>
    rw [definitions, h l List.mem_cons_self]
    exact ih fun k hk => h k (List.mem_cons_of_mem l hk)

theorem Line.defined?_of_indented {l : Line} (h : 0 < l.indentation) : l.defined? = none := by
  have off : ¬l.indentation = 0 := by omega
  simp only [Line.defined?, off]
  split <;> rfl

/-- The name behind a keyword. -/
theorem takePoints_behind_blank {name : Text} (h : isKeyName name) {rest : List Leaf}
    (stops : Stops CodePoint.isWordPoint rest) :
    takePoints CodePoint.isWordPoint
      ((Leaf.point ' ' :: (name.map .point ++ rest)).dropWhile (·.isBlank)) = (name, rest) := by
  obtain ⟨ne, word⟩ := isKeyName_iff.mp h
  obtain ⟨l, front, hl, hb⟩ := (item_points ne fun c hc =>
    isItemPoint_of_isNamePoint (isNamePoint_of_isWordPoint (word c hc))).starts
  have unblank : (name.map Leaf.point ++ rest).dropWhile (·.isBlank) = name.map .point ++ rest := by
    rw [hl, List.cons_append, List.dropWhile_cons_of_neg (by simp [hb])]
  rw [List.dropWhile_cons_of_pos rfl, unblank]
  exact takePoints_append word stops

theorem takePoints_headRun {keyword : Text} (h : isKeyName keyword) (name : Text)
    (inner : List Leaf) (behind : Text) :
    takePoints CodePoint.isWordPoint (headRun keyword name inner behind)
      = (keyword, .point ' ' :: (name.map .point ++ .group '(' inner ::
        (behind ++ ":").map .point)) :=
  takePoints_append (isKeyName_iff.mp h).2 (stops_point (by decide))

/-- The line that begins a function. -/
theorem Line.defined?_headRun {name : Text} (h : isKeyName name) (inner : List Leaf)
    (behind : Text) : Line.defined? ⟨0, headRun "def" name inner behind⟩ = some name := by
  have other : ¬("def" : Text) = ("async" : Text) := by decide
  simp only [Line.defined?, takePoints_headRun (show isKeyName "def" by decide), if_neg other,
    takePoints_behind_blank h (stops_group _ _ _ _)]
  simp [(isKeyName_iff.mp h).1]

theorem returned?_return {value : List Leaf} (hs : Starts value) (he : Ends value) :
    returned? (("return " : Text).map .point ++ value) = some value := by
  have keyword : takePoints CodePoint.isWordPoint (("return " : Text).map .point ++ value)
      = (("return" : Text), .point ' ' :: value) := rfl
  have trimmed : trimRun (.point ' ' :: value) = value := trimRun_append hs he (blank_nil.cons rfl)
  simp only [returned?, keyword, if_true, trimmed]

/-- A line that begins a function, and its body. -/
theorem definitions_block {l : Line} {name : Text} {body : List Line} (h : l.defined? = some name)
    (hb : ∀ k ∈ body, 0 < k.indentation) : definitions (l :: body) = [⟨name, body⟩] := by
  have inner : definitions body = [] :=
    definitions_of_forall fun k hk => Line.defined?_of_indented (hb k hk)
  have whole : body.takeWhile (0 < ·.indentation) = body :=
    List.takeWhile_eq_self_iff.mpr fun k hk => decide_eq_true (hb k hk)
  rw [definitions, h, inner, whole]

/-- Lines with the same indentation are a plain sequence of statements. -/
theorem Definition.statements?_of_even {d : Definition} {n : Nat}
    (h : ∀ l ∈ d.body, l.indentation = n) : d.statements? = some (d.body.map (·.content)) := by
  have even : d.body.all fun l => d.body.head?.all (·.indentation = l.indentation) := by
    refine List.all_eq_true.mpr fun l hl => ?_
    cases first : d.body.head? with
    | none => rfl
    | some k =>
      have hk := h k (List.mem_of_mem_head? first)
      simp [hk, h l hl]
  rw [Definition.statements?, if_pos even]

/-! ## What a program shows -/

/-- `Shows view t xs`: the text is made of whole lines that begin at the margin, and `xs` is what a
view finds in them. -/
def Shows {α : Type} (view : List Line → List α) (t : Text) (xs : List α) : Prop :=
  ∃ ls, Lays t ls ∧ AtMargin ls ∧ view ls = xs

/-- A view that finds in a program what it finds in its parts. -/
structure IsPartwise {α : Type} (view : List Line → List α) : Prop where
  nil : view [] = []
  append : ∀ (ls : List Line) {ks : List Line}, AtMargin ks → view (ls ++ ks) = view ls ++ view ks

section Shows

variable {α β : Type} {view : List Line → List α} (hv : IsPartwise view)

include hv

theorem shows_nil : Shows view [] [] := ⟨[], lays_nil, by rintro l ⟨⟩, hv.nil⟩

theorem Shows.unlines {texts more : List Text} {xs ys : List α}
    (h : Shows view (Text.unlines texts) xs) (h' : Shows view (Text.unlines more) ys) :
    Shows view (Text.unlines (texts ++ more)) (xs ++ ys) := by
  obtain ⟨ls, hl, margin, rfl⟩ := h
  obtain ⟨ks, hk, margin', rfl⟩ := h'
  refine ⟨ls ++ ks, hl.unlines hk, ?_, hv.append ls margin'⟩
  cases ls with
  | nil => exact margin'
  | cons l ls => exact margin

/-- A text that shows nothing in front of another. -/
theorem Shows.before {texts more : List Text} {ys : List α} (h : Shows view (Text.unlines texts) [])
    (h' : Shows view (Text.unlines more) ys) : Shows view (Text.unlines (texts ++ more)) ys :=
  h.unlines hv h'

theorem shows_flatMap {f : β → List Text} {g : β → List α} {items : List β}
    (h : ∀ x ∈ items, Shows view (Text.unlines (f x)) (g x)) :
    Shows view (Text.unlines (items.flatMap f)) (items.flatMap g) := by
  induction items with
  | nil => exact shows_nil hv
  | cons x items ih =>
    exact (h x List.mem_cons_self).unlines hv (ih fun y hy => h y (List.mem_cons_of_mem x hy))

end Shows

theorem Shows.read? {α : Type} {view : List Line → List α} {t : Text} {xs : List α}
    (h : Shows view t xs) : (read? t).map (fun leaves => view (linesOf leaves)) = some xs := by
  obtain ⟨ls, lays, -, rfl⟩ := h
  rw [← Function.comp_def, ← Option.map_map, lays.read?]
  rfl

/-- A text that is the same in every program shows what it shows on its own. -/
theorem shows_of_isLaid {α : Type} {view : List Line → List α} {t : Text} (h : isLaid t)
    (margin : (layout t).head?.all (·.indentation = 0)) : Shows view t (view (layout t)) := by
  refine ⟨layout t, lays_of_isLaid h, fun l hl => ?_, rfl⟩
  rw [hl] at margin
  exact of_decide_eq_true margin

/-- `Defines t ds`: the text is made of whole lines that begin at the margin, and `ds` are the
functions they define. -/
def Defines (t : Text) (ds : List Definition) : Prop :=
  ∃ ls, Lays t ls ∧ AtMargin ls ∧ definitions ls = ds

theorem isPartwise_definitions : IsPartwise definitions := ⟨rfl, definitions_append⟩

theorem defines_nil : Defines [] [] := shows_nil isPartwise_definitions

theorem Defines.unlines {texts more : List Text} {ds es : List Definition}
    (h : Defines (Text.unlines texts) ds) (h' : Defines (Text.unlines more) es) :
    Defines (Text.unlines (texts ++ more)) (ds ++ es) :=
  Shows.unlines isPartwise_definitions h h'

/-- A text without functions in front of another. -/
theorem Defines.before {texts more : List Text} {ds : List Definition}
    (h : Defines (Text.unlines texts) []) (h' : Defines (Text.unlines more) ds) :
    Defines (Text.unlines (texts ++ more)) ds := Shows.before isPartwise_definitions h h'

theorem defines_flatMap {α : Type} {f : α → List Text} {g : α → Definition} {xs : List α}
    (h : ∀ x ∈ xs, Defines (Text.unlines (f x)) [g x]) :
    Defines (Text.unlines (xs.flatMap f)) (xs.map g) := by
  rw [List.map_eq_flatMap]
  exact shows_flatMap isPartwise_definitions h

/-- True of a text that is the same in every program and defines functions with the given names. -/
def definesNames (names : List Text) (t : Text) : Bool :=
  isLaid t && (layout t).head?.all (·.indentation = 0)
    && (definitions (layout t)).map (·.name) = names

theorem exists_defines {names : List Text} {t : Text} (h : definesNames names t) :
    ∃ ds, Defines t ds ∧ ds.map (·.name) = names := by
  simp only [definesNames, Bool.and_eq_true, decide_eq_true_eq] at h
  obtain ⟨⟨laid, margin⟩, named⟩ := h
  exact ⟨_, shows_of_isLaid laid margin, named⟩

theorem defines_nothing {t : Text} (h : definesNames [] t) : Defines t [] := by
  obtain ⟨ds, defines, named⟩ := exists_defines h
  rwa [List.map_eq_nil_iff.mp named] at defines

def functions? (program : Text) : Option (List Definition) :=
  (read? program).map fun leaves => definitions (linesOf leaves)

theorem Defines.functions? {t : Text} {ds : List Definition} (h : Defines t ds) :
    functions? t = some ds := Shows.read? h

/-! ## The words of a run -/

section Views

variable {α : Type} {view : List Leaf → List α}

theorem IsCutView.assignmentRun (hv : IsCutView view) (name : Text) (value : List Leaf) :
    view (assignmentRun name value) = view (name.map .point) ++ view value := by
  rw [Source.assignmentRun, ← List.append_assoc, hv.cut _ _ rfl, hv.cut _ _ rfl, hv.nil,
    List.append_nil, hv.blank (blank_nil.cons rfl)]

/-- A blank stands between the keyword and what is returned. -/
theorem IsCutView.returned (hv : IsCutView view) (run : List Leaf) :
    view (("return " : Text).map .point ++ run)
      = view (("return" : Text).map .point) ++ view run :=
  hv.cut (("return" : Text).map .point) run (l := .point ' ') rfl

theorem IsCallView.headRun (hv : IsCallView view) {name : Text} (h : isKeyName name)
    (keyword behind : Text) (inner : List Leaf) :
    view (headRun keyword name inner behind) = view (keyword.map .point)
      ++ (view (name.map .point) ++ (view inner ++ view ((behind ++ ":").map .point))) := by
  rw [Source.headRun, hv.cut _ _ rfl, hv.call h]

end Views

theorem visible_append (run run' : List Leaf) :
    visible (run ++ run') = visible run ++ visible run' := by
  induction run with
  | nil => rfl
  | cons l run ih => rw [List.cons_append, visible, visible, ih, List.append_assoc]

theorem visible_points (t : Text) : visible (t.map .point) = t := by
  induction t with
  | nil => rfl
  | cons c t ih =>
    rw [List.map_cons, visible, ih]
    rfl

/-- The stretches of points of a kind that are seen in a run. -/
def stretches (p : CodePoint → Bool) (run : List Leaf) : List Text := Text.runs p (visible run)

theorem words_eq_stretches (run : List Leaf) : words run = stretches CodePoint.isWordPoint run := rfl

/-- A kind of points that names are made of: the points of words, but no blank and no sign that may
stand beside a name. -/
structure IsNameKind (p : CodePoint → Bool) : Prop where
  word : ∀ c : CodePoint, c.isWordPoint → p c
  apart : ∀ c ∈ (" ,=:([\x7b" : Text), p c = false

theorem isNameKind_isWordPoint : IsNameKind CodePoint.isWordPoint := ⟨fun _ h => h, by decide⟩

theorem isNameKind_isNamePoint : IsNameKind isNamePoint :=
  ⟨fun _ h => isNamePoint_of_isWordPoint h, by decide⟩

section Stretches

variable {p : CodePoint → Bool}

/-- A leaf that no stretch goes through cuts a run in two. -/
theorem stretches_append_cons (run : List Leaf) {l : Leaf} {c : CodePoint}
    (hl : l.visible = [c]) (hc : p c = false) (run' : List Leaf) :
    stretches p (run ++ l :: run') = stretches p run ++ stretches p run' := by
  rw [stretches, visible_append, visible, hl]
  exact Text.runsFrom_append_cons _ _ _ hc _

theorem stretches_points {t : Text} (ne : t ≠ []) (h : ∀ c ∈ t, p c) :
    stretches p (t.map .point) = [t] := by
  rw [stretches, visible_points]
  exact Text.runs_of_all ne h

variable (hp : IsNameKind p)

include hp

theorem IsNameKind.blank : p ' ' = false := hp.apart ' ' (by decide)

theorem stretches_append_group (run : List Leaf) {c : CodePoint} (hc : p c = false)
    (inner run' : List Leaf) : stretches p (run ++ .group c inner :: run')
      = stretches p run ++ (stretches p inner ++ stretches p run') := by
  have shape : visible (run ++ .group c inner :: run')
      = visible run ++ c :: (visible inner ++ (' ' : CodePoint) :: visible run') := by
    rw [visible_append, visible, Leaf.visible]
    simp
    rfl
  rw [stretches, shape, Text.runs, Text.runsFrom_append_cons _ _ _ hc, Text.runs,
    Text.runsFrom_append_cons _ _ _ hp.blank]
  rfl

theorem isCallView_stretches : IsCallView (stretches p) where
  nil := rfl
  cut run l rest hl := by
    cases l with
    | point c =>
      have sign : c ∈ (" ,=:([\x7b" : Text) := by
        simp only [Leaf.isCut, Bool.or_eq_true, decide_eq_true_eq] at hl
        rcases hl with ((rfl | rfl) | rfl) | rfl <;> decide
      exact stretches_append_cons run rfl (hp.apart c sign) rest
    | text | lineEnd => exact stretches_append_cons run rfl hp.blank rest
    | group | opened => cases hl
  group c inner rest hc := by
    have apart : ∀ d ∈ ("([\x7b" : Text), d ∈ (" ,=:([\x7b" : Text) := by decide
    exact stretches_append_group hp [] (hp.apart c (apart c hc)) inner rest
  call _ inner rest := stretches_append_group hp _ (hp.apart '(' (by decide)) inner rest

theorem stretches_word {name : Text} (h : isKeyName name) : stretches p (name.map .point) = [name] := by
  obtain ⟨ne, word⟩ := isKeyName_iff.mp h
  exact stretches_points ne fun c hc => hp.word c (word c hc)

theorem stretches_assignmentRun {name : Text} (h : isKeyName name) (value : List Leaf) :
    stretches p (assignmentRun name value) = name :: stretches p value := by
  rw [(isCallView_stretches hp).assignmentRun, stretches_word hp h]
  rfl

end Stretches

end Source

end AgentWorkflow
