import AgentWorkflow.Proofs.Source.Blocks
import AgentWorkflow.Proofs.Source.SoundLines

/-!
# Sound statements

The statements of a generated program are put together from values: texts, names, numbers, calls,
lists. A value is steady: nothing in it is misplaced, and it can stand behind any bracket. A
statement that is made of steady values and ends with one is sound, and so is the header of a
function or a class.

Results:
1. `steady_call`, `enclosed_inline`, `enclosed_blockLeaves`: values from their parts.
2. `plain_assignmentRun`, `plain_typedRun`, `plain_return`: statements.
3. `isSound_headRun`: headers.
-/

namespace AgentWorkflow

namespace Source

/-! ## Values -/

/-- True of a leaf that a value can begin with. -/
def Leaf.isFirst (l : Leaf) : Bool := !(l.isBlank || l.isSign ':' || l.isSign ',')

/-- `Steady run`: a calm run that begins with neither a blank nor a colon nor a comma. -/
structure Steady (run : List Leaf) : Prop where
  calm : areCalm run
  first : run.head?.any (·.isFirst)

/-- A run that can stand behind any bracket. -/
structure Enclosed (run : List Leaf) : Prop where
  calm : areCalm run
  fine : beginsBroken run = false

variable {run run' : List Leaf}

@[simp] theorem areCalm_append (run run' : List Leaf) :
    areCalm (run ++ run') = (areCalm run && areCalm run') := by
  induction run with
  | nil => rfl
  | cons l run ih => rw [List.cons_append, areCalm, ih, areCalm, Bool.and_assoc]

theorem areCalm_flatMap {α : Type} {f : α → List Leaf} {xs : List α}
    (h : ∀ x ∈ xs, areCalm (f x)) : areCalm (xs.flatMap f) := by
  refine areCalm_iff.mpr fun l hl => ?_
  obtain ⟨x, hx, hl⟩ := List.mem_flatMap.mp hl
  exact areCalm_iff.mp (h x hx) l hl

theorem areCalm_of_blank (h : Blank run) : areCalm run := by
  refine areCalm_iff.mpr fun l hl => ?_
  cases l with
  | point c =>
    have blank : c = ' ' := of_decide_eq_true (h _ hl)
    rw [blank]
    rfl
  | lineEnd => rfl
  | _ => cases h _ hl

theorem Steady.append (h : Steady run) (h' : areCalm run') : Steady (run ++ run') := by
  refine ⟨by rw [areCalm_append, h.calm, h', Bool.and_true], ?_⟩
  have first := h.first
  cases run with
  | nil => cases first
  | cons l run => exact first

theorem beginsBroken_append (h : Blank run) (run' : List Leaf) :
    beginsBroken (run ++ run') = beginsBroken run' := by
  induction run with
  | nil => rfl
  | cons l run ih =>
    obtain ⟨hl, rest⟩ := List.forall_mem_cons.mp h
    rw [← ih rest]
    simp [beginsBroken, hl]

theorem Steady.beginsBroken_append (h : Steady run) (run' : List Leaf) :
    beginsBroken (run ++ run') = false := by
  have first := h.first
  cases run with
  | nil => cases first
  | cons l run =>
    simp only [List.head?_cons, Option.any_some, Leaf.isFirst, Bool.not_eq_true',
      Bool.or_eq_false_iff] at first
    simp [beginsBroken, first]

theorem enclosed_nil : Enclosed [] := ⟨rfl, rfl⟩

theorem Steady.enclosed (h : Steady run) : Enclosed run := by
  have fine := h.beginsBroken_append []
  rw [List.append_nil] at fine
  exact ⟨h.calm, fine⟩

theorem steady_text (t : Text) : Steady [.text t] := ⟨rfl, rfl⟩

theorem steady_group (c : CodePoint) (h : Enclosed run) : Steady [.group c run] :=
  ⟨by simp [areCalm, Leaf.isCalm, h.calm, h.fine], rfl⟩

/-- True of a point that can stand anywhere in a value. -/
def isSteadyPoint (c : CodePoint) : Bool := !(c = ' ' || c = ':' || c = ',' || c = ';')

theorem areCalm_points {t : Text} (h : (';' : CodePoint) ∉ t) : areCalm (t.map .point) := by
  refine areCalm_iff.mpr fun l hl => ?_
  obtain ⟨c, hc, rfl⟩ := List.mem_map.mp hl
  refine decide_eq_true ?_
  rintro rfl
  exact h hc

theorem steady_points {t : Text} (ne : t ≠ []) (h : ∀ c ∈ t, isSteadyPoint c) :
    Steady (t.map .point) := by
  refine ⟨areCalm_points fun mem => absurd (h _ mem) (by decide), ?_⟩
  cases t with
  | nil => exact absurd rfl ne
  | cons c t =>
    have point := h c List.mem_cons_self
    simp only [isSteadyPoint, Bool.not_eq_true', Bool.or_eq_false_iff,
      decide_eq_false_iff_not] at point
    simp [Leaf.isFirst, Leaf.isBlank, Leaf.isSign, point]

theorem isSteadyPoint_of_isNamePoint {c : CodePoint} (h : isNamePoint c) : isSteadyPoint c := by
  have apart : ∀ d : CodePoint, isNamePoint d = false → c ≠ d := by
    rintro d hd rfl
    rw [hd] at h
    cases h
  simp [isSteadyPoint, apart ' ' (by decide), apart ':' (by decide), apart ',' (by decide),
    apart ';' (by decide)]

theorem steady_name {name : Text} (ne : name ≠ []) (h : ∀ c ∈ name, isNamePoint c) :
    Steady (name.map .point) :=
  steady_points ne fun c hc => isSteadyPoint_of_isNamePoint (h c hc)

theorem steady_word {name : Text} (h : isKeyName name) : Steady (name.map .point) := by
  obtain ⟨ne, word⟩ := isKeyName_iff.mp h
  exact steady_name ne fun c hc => isNamePoint_of_isWordPoint (word c hc)

/-- A call. -/
theorem steady_call (name : Text) (ne : name ≠ []) (h : ∀ c ∈ name, isNamePoint c)
    (inner : Enclosed run) : Steady (name.map .point ++ [.group '(' run]) :=
  (steady_name ne h).append (steady_group '(' inner).calm

/-- A keyword argument. -/
theorem steady_keywordRun {name : Text} (h : isKeyName name) (value : areCalm run) :
    Steady (keywordRun (name, run)) :=
  (steady_word h).append (by rw [areCalm, value]; rfl)

/-! ### Several values -/

section Several

variable {runs : List (List Leaf)} (h : ∀ run ∈ runs, Steady run)

include h

theorem enclosed_inline : Enclosed (inline runs) := by
  have comma : areCalm [.point ',', .point ' '] := by decide
  induction runs with
  | nil => exact enclosed_nil
  | cons first rest ih =>
    obtain ⟨steady, others⟩ := List.forall_mem_cons.mp h
    cases rest with
    | nil => simpa [inline, List.intercalate] using steady.enclosed
    | cons next more =>
      have shape : inline (first :: next :: more)
          = first ++ ([.point ',', .point ' '] ++ inline (next :: more)) := by
        simp [inline, List.intercalate]
      rw [shape]
      refine ⟨?_, steady.beginsBroken_append _⟩
      rw [areCalm_append, areCalm_append, steady.calm, comma, (ih others).calm]
      rfl

theorem enclosed_blockLeaves (level : Nat) : Enclosed (blockLeaves level runs) := by
  have blank := blank_blankLeaves (level + 1)
  have behind : areCalm [.point ',', .lineEnd] := by decide
  have calm : areCalm (rows (level + 1) runs) := by
    refine areCalm_flatMap fun run hrun => ?_
    rw [areCalm_append, areCalm_append, areCalm_of_blank blank, (h run hrun).calm, behind]
    rfl
  refine ⟨?_, ?_⟩
  · rw [blockLeaves, areCalm, areCalm_append, calm, areCalm_of_blank (blank_blankLeaves level)]
    rfl
  · have front : Blank [.lineEnd] := blank_nil.cons rfl
    rw [blockLeaves, ← List.singleton_append, beginsBroken_append front]
    cases runs with
    | nil =>
      have none := beginsBroken_append (blank_blankLeaves level) []
      rw [List.append_nil] at none
      exact none
    | cons run runs =>
      have shape : rows (level + 1) (run :: runs) ++ blankLeaves level
          = blankLeaves (level + 1) ++ (run ++ ([.point ',', .lineEnd]
            ++ (rows (level + 1) runs ++ blankLeaves level))) := by
        simp [rows]
      rw [shape, beginsBroken_append blank, (h run List.mem_cons_self).beginsBroken_append]

end Several

theorem steady_of_mem_argumentRuns {arguments : List Argument} (h : ∀ a ∈ arguments, a.Sound)
    (values : ∀ a ∈ arguments, areCalm a.run) : ∀ run ∈ argumentRuns arguments, Steady run := by
  intro run hrun
  obtain ⟨_, he, rfl⟩ := List.mem_map.mp hrun
  obtain ⟨a, ha, rfl⟩ := List.mem_map.mp he
  exact steady_keywordRun (h a ha).name (values a ha)

theorem steady_namesRun (level : Nat) {names : List Text}
    (h : ∀ name ∈ names, name ≠ [] ∧ ∀ c ∈ name, isNamePoint c) :
    Steady (namesRun level names) := by
  refine steady_group '[' (enclosed_blockLeaves (fun run hrun => ?_) level)
  obtain ⟨name, hn, rfl⟩ := List.mem_map.mp hrun
  exact steady_name (h name hn).1 (h name hn).2

/-- Blanks and texts can stand anywhere. -/
theorem enclosed_of_silent (h : ∀ l ∈ run, l.isBlank ∨ l.isText) : Enclosed run := by
  refine ⟨areCalm_iff.mpr fun l hl => ?_, ?_⟩
  · rcases h l hl with blank | text
    · have calm : areCalm [l] := areCalm_of_blank (List.forall_mem_singleton.mpr blank)
      exact areCalm_iff.mp calm l List.mem_cons_self
    · cases l with
      | text t => rfl
      | _ => cases text
  · rw [beginsBroken]
    cases found : run.find? (!·.isBlank) with
    | none => rfl
    | some l =>
      have text := (h l (List.mem_of_find?_eq_some found)).resolve_left
        (by simpa using List.find?_some found)
      cases l with
      | text t => rfl
      | _ => cases text

theorem steady_promptLeaves (level : Nat) (t : Text) : Steady (promptLeaves level t) := by
  unfold promptLeaves
  split
  · exact steady_group '(' (enclosed_of_silent isBlank_or_isText_of_mem_literalLeaves)
  · exact steady_text t

/-! ## Statements -/

/-- The run ends with a leaf that waits for nothing and opens no block. -/
def Rests (run : List Leaf) : Prop := run.getLast?.any fun l => l.isRest && !l.isSign ':'

theorem Rests.append (h : Rests run') (run : List Leaf) : Rests (run ++ run') := by
  rw [Rests, List.getLast?_append]
  cases last : run'.getLast? with
  | none =>
    rw [Rests, last] at h
    cases h
  | some l =>
    rw [Rests, last] at h
    exact h

theorem rests_text (t : Text) : Rests [.text t] := rfl

theorem rests_group (c : CodePoint) (inner : List Leaf) : Rests [.group c inner] := rfl

/-- `Plain l`: a sound line that opens no block. -/
structure Line.Plain (l : Line) : Prop where
  sound : l.isSound
  closed : l.opens = false

/-- A calm line that begins with no keyword of a block and does not end with a colon is plain. -/
theorem plain_of_rests {l : Line} (calm : areCalm l.content) (rests : Rests l.content)
    (word : headerWords.contains l.word = false) : l.Plain := by
  cases last : l.content.getLast? with
  | none =>
    rw [Rests, last] at rests
    cases rests
  | some k =>
    rw [Rests, last, Option.any_some, Bool.and_eq_true, Bool.not_eq_true'] at rests
    have closed : l.opens = false := by rw [Line.opens, last, Option.any_some, rests.2]
    refine ⟨?_, closed⟩
    rw [Line.isSound, calm, last, Option.any_some, rests.1, word, closed]
    rfl

theorem word_points {name : Text} (h : ∀ c ∈ name, c.isWordPoint) {rest : List Leaf}
    (stops : Stops CodePoint.isWordPoint rest) (level : Nat) :
    Line.word ⟨level, name.map .point ++ rest⟩ = name := by
  rw [Line.word, takePoints_append h stops]

/-- A text on a line of its own. -/
theorem plain_text (level : Nat) (t : Text) : Line.Plain ⟨level, [.text t]⟩ :=
  plain_of_rests rfl (rests_text t) rfl

section Assignment

variable {name : Text} (hn : isKeyName name) (free : headerWords.contains name = false)
  {value : List Leaf} (calm : areCalm value) (rests : Rests value)

include hn free calm rests

theorem plain_assignmentRun (level : Nat) : Line.Plain ⟨level, assignmentRun name value⟩ := by
  have word : Line.word ⟨level, assignmentRun name value⟩ = name :=
    word_points (isKeyName_iff.mp hn).2 (stops_point rfl) level
  have sign : areCalm [.point ' ', .point '=', .point ' '] := by decide
  have shape : assignmentRun name value
      = name.map .point ++ ([.point ' ', .point '=', .point ' '] ++ value) := by
    simp [assignmentRun]
  refine plain_of_rests ?_ ?_ (word.symm ▸ free)
  · rw [shape, areCalm_append, areCalm_append, (steady_word hn).calm, sign, calm]
    rfl
  · rw [shape]
    exact (rests.append _).append _

theorem plain_typedRun {type : List Leaf} (typed : areCalm type) (level : Nat) :
    Line.Plain ⟨level, typedRun name type value⟩ := by
  have word : Line.word ⟨level, typedRun name type value⟩ = name :=
    word_points (isKeyName_iff.mp hn).2 (stops_point rfl) level
  have colon : areCalm [.point ':', .point ' '] := by decide
  have sign : areCalm [.point ' ', .point '=', .point ' '] := by decide
  have shape : typedRun name type value = name.map .point ++ ([.point ':', .point ' ']
      ++ (type ++ ([.point ' ', .point '=', .point ' '] ++ value))) := by
    simp [typedRun]
  refine plain_of_rests ?_ ?_ (word.symm ▸ free)
  · rw [shape, areCalm_append, areCalm_append, areCalm_append, areCalm_append,
      (steady_word hn).calm, colon, typed, sign, calm]
    rfl
  · rw [shape]
    exact (((rests.append _).append _).append _).append _

end Assignment

/-- A value that a function returns. -/
theorem plain_return {value : List Leaf} (calm : areCalm value) (rests : Rests value)
    (level : Nat) : Line.Plain ⟨level, ("return " : Text).map .point ++ value⟩ := by
  have word : Line.word ⟨level, ("return " : Text).map .point ++ value⟩ = "return" := rfl
  refine plain_of_rests ?_ (rests.append _) (word.symm ▸ rfl)
  rw [areCalm_append, areCalm_points (by decide), calm]
  rfl

/-! ## Headers -/

/-- The header of a function or a class. -/
theorem isSound_headRun {keyword name : Text} {inner : List Leaf} (hk : isKeyName keyword)
    (header : headerWords.contains keyword) (hn : isKeyName name) (enclosed : Enclosed inner)
    (behind : Text) (hb : (';' : CodePoint) ∉ behind) (level : Nat) :
    Line.isSound ⟨level, headRun keyword name inner behind⟩ ∧
      Line.opens ⟨level, headRun keyword name inner behind⟩ := by
  have word : Line.word ⟨level, headRun keyword name inner behind⟩ = keyword :=
    word_points (isKeyName_iff.mp hk).2 (stops_point rfl) level
  have blank : areCalm [.point ' '] := by decide
  have shape : headRun keyword name inner behind = (keyword.map .point ++ ([.point ' ']
      ++ (name.map .point ++ ([.group '(' inner] ++ behind.map .point)))) ++ [.point ':'] := by
    simp [headRun, Text.ofString]
  have calm : areCalm (headRun keyword name inner behind) := by
    rw [shape, areCalm_append, areCalm_append, areCalm_append, areCalm_append, areCalm_append,
      (steady_word hk).calm, blank, (steady_word hn).calm, (steady_group '(' enclosed).calm,
      areCalm_points hb]
    rfl
  have last : (headRun keyword name inner behind).getLast? = some (.point ':') := by
    rw [shape, List.getLast?_concat]
  have opens : Line.opens ⟨level, headRun keyword name inner behind⟩ := by
    rw [Line.opens, last]
    rfl
  refine ⟨?_, opens⟩
  rw [Line.isSound, calm, last, opens, word, header]
  rfl

end Source

end AgentWorkflow
