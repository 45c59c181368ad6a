import AgentWorkflow.Proofs.Source.Outline

/-!
# The blocks of a program

A program is a sequence of blocks: a line at the margin and the indented lines behind it. A block is
a function, a class, an assignment, an import, or none of these; what it is stands in its first
line.

Results:
1. `isPartwise_blocks`, `blocks_block`, `flatMap_lines_blocks`: the blocks of a program from those of
   its parts, and its lines from its blocks.
2. `declared?_headRun`, `assignment?_assignmentRun`, `assignment?_typedRun`: what the first line
   of a block tells.
3. `bound_function`, `bound_class`: a function and a class bind their names and no others.
-/

namespace AgentWorkflow

namespace Source

/-! ## Blocks -/

/-- A line at the margin and the indented lines behind it. -/
structure Block where
  head : List Leaf
  body : List Line

def blocks : List Line → List Block
  | [] => []
  | l :: rest =>
    if l.indentation = 0 then ⟨l.content, rest.takeWhile (0 < ·.indentation)⟩ :: blocks rest
    else blocks rest

theorem isPartwise_blocks : IsPartwise blocks where
  nil := rfl
  append ls ks h := by
    induction ls with
    | nil => rfl
    | cons l ls ih =>
      rw [List.cons_append, blocks, blocks, ih, takeWhile_append_atMargin ls h]
      split <;> rfl

theorem blocks_of_indented {body : List Line} (h : ∀ k ∈ body, 0 < k.indentation) :
    blocks body = [] := by
  induction body with
  | nil => rfl
  | cons k body ih =>
    obtain ⟨hk, hbody⟩ := List.forall_mem_cons.mp h
    rw [blocks, if_neg (Nat.ne_of_gt hk), ih hbody]

/-- A line at the margin and its body. -/
theorem blocks_block (head : List Leaf) {body : List Line} (h : ∀ k ∈ body, 0 < k.indentation) :
    blocks (⟨0, head⟩ :: body) = [⟨head, body⟩] := by
  have whole : body.takeWhile (0 < ·.indentation) = body :=
    List.takeWhile_eq_self_iff.mpr fun k hk => decide_eq_true (h k hk)
  rw [blocks, if_pos rfl, blocks_of_indented h, whole]

def Block.lines (b : Block) : List Line := ⟨0, b.head⟩ :: b.body

/-- Lines that begin at the margin are those of their blocks. -/
theorem flatMap_lines_blocks {ls : List Line} (h : AtMargin ls) :
    (blocks ls).flatMap Block.lines = ls := by
  -- further on, the body of a block that is being read stands in front
  have behind : ∀ ls : List Line,
      ls.takeWhile (0 < ·.indentation) ++ (blocks ls).flatMap Block.lines = ls := by
    intro ls
    induction ls with
    | nil => rfl
    | cons l ls ih =>
      rw [blocks]
      split
      · next margin =>
        rw [List.takeWhile_cons_of_neg (by simp [margin]), List.nil_append, List.flatMap_cons,
          Block.lines, List.cons_append, ih, ← margin]
      · next indented =>
        rw [List.takeWhile_cons_of_pos (by simp; omega), List.cons_append, ih]
  have whole := behind ls
  cases ls with
  | nil => rfl
  | cons l ls =>
    have margin : l.indentation = 0 := h l rfl
    rwa [List.takeWhile_cons_of_neg (by simp [margin]), List.nil_append] at whole

/-! ## First lines -/

/-- The name behind a keyword, and what follows it. -/
def named? (keyword : Text) (run : List Leaf) : Option (Text × List Leaf) :=
  let (first, behind) := takePoints CodePoint.isWordPoint run
  let (name, rest) := takePoints CodePoint.isWordPoint (behind.dropWhile (·.isBlank))
  if first = keyword && !name.isEmpty then some (name, rest) else none

/-- The name that a keyword declares, and what the brackets behind it hold. -/
def declared? (keyword : Text) (run : List Leaf) : Option (Text × List Leaf) :=
  match named? keyword run with
  | some (name, .group c inner :: _) => if c = '(' then some (name, inner) else none
  | _ => none

/-- An assignment: a name, the type behind it if one is given, and a value. -/
structure Assignment where
  name : Text
  type : List Leaf
  value : List Leaf

def assignment? (run : List Leaf) : Option Assignment :=
  let (name, rest) := takePoints CodePoint.isWordPoint run
  match rest.dropWhile (!·.isSign '=') with
  | [] => none
  | _ :: value =>
    if name.isEmpty || value.head?.any (·.isSign '=') then none
    else match trimRun (rest.takeWhile (!·.isSign '=')) with
      | [] => some ⟨name, [], trimRun value⟩
      | l :: type =>
        if l.isSign ':' then some ⟨name, trimRun type, trimRun value⟩ else none

/-- The words that an import tells, among them the names that it binds. -/
def imported (run : List Leaf) : List Text :=
  match words run with
  | first :: rest =>
    if first = "import" then rest
    else if first = "from" then (rest.dropWhile (· ≠ ("import" : Text))).drop 1
    else []
  | [] => []

def Block.bound (b : Block) : List Text :=
  (Line.defined? ⟨0, b.head⟩).toList ++ ((named? "class" b.head).map (·.1)).toList
    ++ ((assignment? b.head).map (·.name)).toList ++ imported b.head

/-! ### Functions and classes -/

section Head

variable {keyword name behind : Text} {inner : List Leaf} (hk : isKeyName keyword)

include hk

theorem named?_headRun_of_ne {other : Text} (h : keyword ≠ other) :
    named? other (headRun keyword name inner behind) = none := by
  simp only [named?, takePoints_headRun hk, decide_eq_false h, Bool.false_and]
  rfl

theorem imported_headRun (h : keyword ≠ "import") (h' : keyword ≠ "from") :
    imported (headRun keyword name inner behind) = [] := by
  obtain ⟨ne, word⟩ := isKeyName_iff.mp hk
  have seen : ∃ rest, words (headRun keyword name inner behind) = keyword :: rest := by
    rw [words_eq_stretches, headRun,
      stretches_append_cons _ rfl isNameKind_isWordPoint.blank, stretches_points ne word]
    exact ⟨_, rfl⟩
  obtain ⟨rest, hrest⟩ := seen
  simp only [imported, hrest, if_neg h, if_neg h']

variable (hn : isKeyName name)

include hn

theorem named?_headRun : named? keyword (headRun keyword name inner behind)
    = some (name, .group '(' inner :: (behind ++ ":").map .point) := by
  simp only [named?, takePoints_headRun hk, takePoints_behind_blank hn (stops_group _ _ _ _)]
  simp [(isKeyName_iff.mp hn).1]

theorem declared?_headRun :
    declared? keyword (headRun keyword name inner behind) = some (name, inner) := by
  rw [declared?, named?_headRun hk hn]
  rfl

end Head

/-- Without a sign there is no assignment. -/
theorem assignment?_of_apart {run : List Leaf} (h : ∀ l ∈ run, l.isSign '=' = false) :
    assignment? run = none := by
  -- what follows the points of a name is a part of the run
  have rest : ∀ run : List Leaf, (∀ l ∈ run, l.isSign '=' = false) →
      ∀ l ∈ (takePoints CodePoint.isWordPoint run).2, l.isSign '=' = false := by
    intro run
    induction run with
    | nil => exact fun h => h
    | cons l run ih =>
      intro h
      obtain ⟨-, hrun⟩ := List.forall_mem_cons.mp h
      cases l with
      | point c =>
        rw [takePoints]
        split
        · exact ih hrun
        · exact h
      | _ => exact h
  have none : (takePoints CodePoint.isWordPoint run).2.dropWhile (!·.isSign '=') = [] :=
    List.dropWhile_eq_nil_iff.mpr fun l hl => by simp [rest run h l hl]
  simp only [assignment?, none]

theorem apart_points {t : Text} (h : ('=' : CodePoint) ∉ t) :
    ∀ l ∈ t.map Leaf.point, l.isSign '=' = false := by
  intro l hl
  obtain ⟨c, hc, rfl⟩ := List.mem_map.mp hl
  exact decide_eq_false fun same => h (same ▸ hc)

theorem equals_not_mem_of_isKeyName {name : Text} (h : isKeyName name) :
    ('=' : CodePoint) ∉ name :=
  fun hc => absurd ((isKeyName_iff.mp h).2 _ hc) (by decide)

theorem assignment?_headRun {keyword name behind : Text} (hk : isKeyName keyword)
    (hn : isKeyName name) (hb : ('=' : CodePoint) ∉ behind) (inner : List Leaf) :
    assignment? (headRun keyword name inner behind) = none := by
  have tail : ('=' : CodePoint) ∉ behind ++ ":" := by
    rw [List.mem_append, not_or]
    exact ⟨hb, by decide⟩
  refine assignment?_of_apart (List.forall_mem_append.mpr
    ⟨apart_points (equals_not_mem_of_isKeyName hk), List.forall_mem_cons.mpr ⟨by decide, ?_⟩⟩)
  exact List.forall_mem_append.mpr ⟨apart_points (equals_not_mem_of_isKeyName hn),
    List.forall_mem_cons.mpr ⟨rfl, apart_points tail⟩⟩

/-- A function binds its name. -/
theorem bound_function {name behind : Text} (hn : isKeyName name)
    (hb : ('=' : CodePoint) ∉ behind) (inner : List Leaf) (body : List Line) :
    Block.bound ⟨headRun "def" name inner behind, body⟩ = [name] := by
  have keyword : isKeyName "def" := by decide
  rw [Block.bound, Line.defined?_headRun hn, named?_headRun_of_ne keyword (by decide),
    assignment?_headRun keyword hn hb, imported_headRun keyword (by decide) (by decide)]
  rfl

theorem defined?_class {name behind : Text} (hn : isKeyName name) (inner : List Leaf) :
    Line.defined? ⟨0, headRun "class" name inner behind⟩ = none := by
  have keyword : isKeyName "class" := by decide
  have other : ¬("class" : Text) = ("async" : Text) := by decide
  have unlike : ¬("class" : Text) = ("def" : Text) := by decide
  simp only [Line.defined?, takePoints_headRun keyword, if_neg other,
    takePoints_behind_blank hn (stops_group _ _ _ _), unlike]
  rfl

/-- A class binds its name. -/
theorem bound_class {name behind : Text} (hn : isKeyName name)
    (hb : ('=' : CodePoint) ∉ behind) (inner : List Leaf) (body : List Line) :
    Block.bound ⟨headRun "class" name inner behind, body⟩ = [name] := by
  have keyword : isKeyName "class" := by decide
  rw [Block.bound, defined?_class hn, named?_headRun keyword hn,
    assignment?_headRun keyword hn hb, imported_headRun keyword (by decide) (by decide)]
  rfl

/-! ### Assignments -/

def typedRun (name : Text) (type value : List Leaf) : List Leaf :=
  name.map .point ++ ((.point ':' :: .point ' ' :: (type ++ [.point ' ']))
    ++ .point '=' :: ([.point ' '] ++ value))

/-- An assignment with a type on a line of its own. -/
theorem lays_typed (level : Nat) {name t u : Text} {type value : List Leaf} (hn : isKeyName name)
    (ht : Reads t type) (flat : ∀ l ∈ type, l.isLineEnd = false) (hu : Expresses u value) :
    Lays (line level (name ++ ": " ++ t ++ " = " ++ u) ++ "\n")
      [⟨4 * level, typedRun name type value⟩] := by
  obtain ⟨ne, word⟩ := isKeyName_iff.mp hn
  have front : Expresses name (name.map .point) := expresses_points ne fun c hc =>
    isPlainPoint_of_isNamePoint (isNamePoint_of_isWordPoint (word c hc))
  have colon : Reads ": " [.point ':', .point ' '] := reads_points (by decide)
  have sign : Reads " = " [.point ' ', .point '=', .point ' '] := reads_points (by decide)
  have reads := (reads_points fun c hc => isBare_of_isWordPoint (word c hc)).append_awaits
    ((colon.append (ht.append sign)).append_awaits hu.awaits)
  have awaits : Awaits (name ++ ": " ++ t ++ " = " ++ u) (typedRun name type value) := by
    simpa [typedRun] using reads
  have shape : typedRun name type value = (name.map .point ++ ([.point ':', .point ' ']
      ++ (type ++ [.point ' ', .point '=', .point ' ']))) ++ value := by
    simp [typedRun]
  refine lays_line level awaits (front.starts.append _) ?ends ?flat
  case ends =>
    rw [shape]
    exact hu.ends.append _
  case flat =>
    rw [shape]
    simp only [List.forall_mem_append, List.forall_mem_cons]
    exact ⟨⟨level_points name, ⟨rfl, rfl, List.forall_mem_nil _⟩, flat,
      rfl, rfl, rfl, List.forall_mem_nil _⟩, hu.level⟩

section Assignment

variable {name : Text} {value : List Leaf} (hn : isKeyName name) (hv : Value value)

include hn hv

/-- The name, what stands in front of the sign, and the value. -/
theorem assignment?_front {front : List Leaf} (stops : Stops CodePoint.isWordPoint front)
    (ne : front ≠ []) (apart : ∀ l ∈ front, l.isSign '=' = false) :
    assignment? (name.map .point ++ (front ++ .point '=' :: ([.point ' '] ++ value)))
      = match trimRun front with
        | [] => some ⟨name, [], value⟩
        | l :: type =>
          if l.isSign ':' then some ⟨name, trimRun type, value⟩ else none := by
  obtain ⟨named, word⟩ := isKeyName_iff.mp hn
  -- the name ends where `front` begins, and `front` at the sign
  have stops' : Stops CodePoint.isWordPoint (front ++ .point '=' :: ([.point ' '] ++ value)) := by
    cases front with
    | nil => exact absurd rfl ne
    | cons l front =>
      rintro c rest hl
      obtain ⟨rfl, -⟩ := List.cons.inj hl
      exact stops c front rfl
  have unlike : ∀ l ∈ front, (!l.isSign '=') = true := fun l hl => by simp [apart l hl]
  have behind : (front ++ Leaf.point '=' :: ([.point ' '] ++ value)).dropWhile (!·.isSign '=')
      = .point '=' :: ([.point ' '] ++ value) := by
    rw [List.dropWhile_append_of_pos unlike, List.dropWhile_cons_of_neg (by decide)]
  have before : (front ++ Leaf.point '=' :: ([.point ' '] ++ value)).takeWhile (!·.isSign '=')
      = front := by
    rw [List.takeWhile_append_of_pos unlike, List.takeWhile_cons_of_neg (by decide),
      List.append_nil]
  have trimmed : trimRun ([.point ' '] ++ value) = value :=
    trimRun_append hv.starts hv.ends (blank_nil.cons rfl)
  have first : ([Leaf.point ' '] ++ value).head?.any (·.isSign '=') = false := rfl
  simp only [assignment?, takePoints_append word stops', behind, before, trimmed, first]
  simp [named]

theorem assignment?_assignmentRun : assignment? (assignmentRun name value) = some ⟨name, [], value⟩ :=
  @assignment?_front _ _ hn hv [.point ' '] (stops_point (by decide)) (List.cons_ne_nil _ _)
    (List.forall_mem_singleton.mpr rfl)

theorem assignment?_typedRun {type : List Leaf} (ha : Item type)
    (apart : ∀ l ∈ type, l.isSign '=' = false) :
    assignment? (typedRun name type value) = some ⟨name, type, value⟩ := by
  have front : trimRun (.point ':' :: .point ' ' :: (type ++ [.point ' ']))
      = .point ':' :: .point ' ' :: type := by
    have starts : Starts (.point ':' :: .point ' ' :: type) := ⟨_, _, rfl, rfl⟩
    have ends := ha.ends.append [.point ':', .point ' ']
    have blank : Blank [.point ' '] := blank_nil.cons rfl
    exact trimRun_eq starts ends blank_nil blank
  have inner : trimRun (.point ' ' :: type) = type :=
    trimRun_append ha.starts ha.ends (blank_nil.cons rfl)
  have unlike : ∀ l ∈ Leaf.point ':' :: .point ' ' :: (type ++ [.point ' ']),
      l.isSign '=' = false := by
    simp only [List.forall_mem_cons, List.forall_mem_append]
    exact ⟨by decide, by decide, apart, by decide, List.forall_mem_nil _⟩
  rw [typedRun, assignment?_front hn hv (stops_point (by decide)) (List.cons_ne_nil _ _) unlike,
    front]
  simp only [inner]
  rfl

end Assignment

end Source

end AgentWorkflow
