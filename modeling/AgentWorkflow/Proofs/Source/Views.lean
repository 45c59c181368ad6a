import AgentWorkflow.Proofs.Source.Expressions

/-!
# Views that are cut

Some views of a run find nothing that goes over a blank, a comma, a colon, an equals sign, a literal
or the end of a line, and go into brackets. What such a view finds in rows of items, in arguments or
in a list is what it finds in each of them, one after the other. Most of them also find in a call what
they find in the name and in the arguments.
-/

namespace AgentWorkflow

namespace Source

def Leaf.isCut : Leaf → Bool
  | .point c => c = ' ' || c = ',' || c = '=' || c = ':'
  | .text _ | .lineEnd => true
  | _ => false

theorem Leaf.isCut_of_silent {l : Leaf} (h : l.isBlank ∨ l.isText) : l.isCut := by
  cases l with
  | point c =>
    have blank : c = ' ' := of_decide_eq_true (h.resolve_right (by simp [Leaf.isText]))
    subst blank
    rfl
  | text | lineEnd => rfl
  | group | opened => simp [Leaf.isBlank, Leaf.isText] at h

/-- A view that finds in a run what it finds in front of a cut and behind it, and in what stands in
brackets at its beginning what stands inside. -/
structure IsCutView {α : Type} (view : List Leaf → List α) : Prop where
  nil : view [] = []
  cut : ∀ (run : List Leaf) {l : Leaf} (rest : List Leaf), l.isCut →
    view (run ++ l :: rest) = view run ++ view rest
  group : ∀ (c : CodePoint) (inner rest : List Leaf), c ∈ ("([\x7b" : Text) →
    view (.group c inner :: rest) = view inner ++ view rest

namespace IsCutView

variable {α : Type} {view : List Leaf → List α} (hv : IsCutView view)

include hv

theorem cons {l : Leaf} (h : l.isCut) (run : List Leaf) : view (l :: run) = view run := by
  rw [← List.nil_append (l :: run), hv.cut [] run h, hv.nil, List.nil_append]

/-- Blanks and literals show nothing. -/
theorem silent {run : List Leaf} (h : ∀ l ∈ run, l.isBlank ∨ l.isText) (run' : List Leaf) :
    view (run ++ run') = view run' := by
  induction run with
  | nil => rfl
  | cons l run ih =>
    obtain ⟨hl, hrun⟩ := List.forall_mem_cons.mp h
    rw [List.cons_append, hv.cons (Leaf.isCut_of_silent hl), ih hrun]

theorem blank {run : List Leaf} (h : Blank run) (run' : List Leaf) :
    view (run ++ run') = view run' :=
  hv.silent (fun l hl => .inl (h l hl)) run'

theorem eq_nil_of_silent {run : List Leaf} (h : ∀ l ∈ run, l.isBlank ∨ l.isText) :
    view run = [] := by
  rw [← List.append_nil run, hv.silent h, hv.nil]

theorem text (t : Text) : view [.text t] = [] :=
  hv.eq_nil_of_silent (List.forall_mem_singleton.mpr (.inr rfl))

theorem singleton {c : CodePoint} (hc : c ∈ ("([\x7b" : Text)) (inner : List Leaf) :
    view [.group c inner] = view inner := by
  rw [hv.group c inner [] hc, hv.nil, List.append_nil]

/-- What is made of what a view finds, item by item. -/
theorem comp {β : Type} {f : List α → List β} (nil : f [] = [])
    (append : ∀ xs ys, f (xs ++ ys) = f xs ++ f ys) : IsCutView fun run => f (view run) where
  nil := (congrArg f hv.nil).trans nil
  cut run _ rest h := (congrArg f (hv.cut run rest h)).trans (append _ _)
  group c inner rest h := (congrArg f (hv.group c inner rest h)).trans (append _ _)

/-! ## Several items -/

theorem rows (level : Nat) (runs : List (List Leaf)) {post : List Leaf} (h : Blank post) :
    view (rows level runs ++ post) = runs.flatMap view := by
  induction runs with
  | nil => exact hv.eq_nil_of_silent fun l hl => .inl (h l hl)
  | cons run runs ih =>
    have shape : Source.rows level (run :: runs) ++ post
        = blankLeaves level
          ++ (run ++ .point ',' :: ([.lineEnd] ++ (Source.rows level runs ++ post))) := by
      simp [Source.rows]
    rw [shape, hv.blank (blank_blankLeaves level), hv.cut run _ rfl,
      hv.blank (blank_nil.cons rfl), ih, List.flatMap_cons]

theorem blockLeaves (level : Nat) (runs : List (List Leaf)) :
    view (blockLeaves level runs) = runs.flatMap view := by
  rw [Source.blockLeaves, hv.cons rfl, hv.rows _ runs (blank_blankLeaves level)]

theorem inline (runs : List (List Leaf)) : view (inline runs) = runs.flatMap view := by
  induction runs with
  | nil => exact hv.nil
  | cons run runs ih =>
    cases runs with
    | nil => simp [Source.inline, List.intercalate]
    | cons next more =>
      have shape : Source.inline (run :: next :: more)
          = run ++ .point ',' :: ([.point ' '] ++ Source.inline (next :: more)) := by
        simp [Source.inline, List.intercalate]
      rw [shape, hv.cut run _ rfl, hv.blank (blank_nil.cons rfl), ih]
      rfl

/-- A list of names. -/
theorem namesRun (level : Nat) (names : List Text) :
    view (namesRun level names) = names.flatMap fun name => view (name.map .point) := by
  rw [Source.namesRun, hv.singleton (by decide), hv.blockLeaves, List.flatMap_map]

/-- A text that stands on one line or on several. -/
theorem promptLeaves (level : Nat) (t : Text) : view (promptLeaves level t) = [] := by
  unfold Source.promptLeaves
  split
  · rw [hv.singleton (by decide), hv.eq_nil_of_silent isBlank_or_isText_of_mem_literalLeaves]
  · exact hv.text t

/-! ## Arguments -/

theorem keywordRun (name : Text) (value : List Leaf) :
    view (keywordRun (name, value)) = view (name.map .point) ++ view value :=
  hv.cut _ _ rfl

theorem argumentRuns (arguments : List Argument) : (argumentRuns arguments).flatMap view
    = arguments.flatMap fun a => view (a.name.map .point) ++ view a.run := by
  rw [Source.argumentRuns, argumentTable, List.flatMap_map, List.flatMap_map]
  exact List.flatMap_congr fun a _ => hv.keywordRun a.name a.run

end IsCutView

/-! ## Calls -/

/-- A view that finds in a call what it finds in the name and in the arguments. -/
structure IsCallView {α : Type} (view : List Leaf → List α) : Prop extends IsCutView view where
  call : ∀ {name : Text}, isKeyName name → ∀ inner rest : List Leaf,
    view (name.map .point ++ .group '(' inner :: rest)
      = view (name.map .point) ++ (view inner ++ view rest)

namespace IsCallView

variable {α : Type} {view : List Leaf → List α} (hv : IsCallView view)

include hv

theorem comp {β : Type} {f : List α → List β} (nil : f [] = [])
    (append : ∀ xs ys, f (xs ++ ys) = f xs ++ f ys) : IsCallView fun run => f (view run) where
  toIsCutView := hv.toIsCutView.comp nil append
  call h inner rest := by rw [hv.call h, append, append]

/-- A call with nothing behind it. -/
theorem call_last {name : Text} (h : isKeyName name) (inner : List Leaf) :
    view (name.map .point ++ [.group '(' inner]) = view (name.map .point) ++ view inner := by
  rw [hv.call h, hv.nil, List.append_nil]

theorem call_inline {name : Text} (h : isKeyName name) (arguments : List Argument) :
    view (name.map .point ++ [.group '(' (inline (argumentRuns arguments))])
      = view (name.map .point)
        ++ arguments.flatMap fun a => view (a.name.map .point) ++ view a.run := by
  rw [hv.call_last h, hv.inline, hv.argumentRuns]

theorem call_block {name : Text} (h : isKeyName name) (level : Nat) (arguments : List Argument) :
    view (name.map .point ++ [.group '(' (blockLeaves level (argumentRuns arguments))])
      = view (name.map .point)
        ++ arguments.flatMap fun a => view (a.name.map .point) ++ view a.run := by
  rw [hv.call_last h, hv.blockLeaves, hv.argumentRuns]

end IsCallView

end Source

end AgentWorkflow
