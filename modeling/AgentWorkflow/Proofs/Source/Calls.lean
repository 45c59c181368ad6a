import AgentWorkflow.Proofs.Source.Blocks

/-!
# The calls and the names of a program

A call is a name, which may have several parts, directly in front of a parenthesis. It is found
however deep it stands in brackets, and nothing that stands in a literal is one. The variables that
a program reads from its environment are the first arguments of two of its calls. What a program
uses it calls by a name, of which the first part is what has to be imported.

Results:
1. `calls_call`, `isCutView_calls`: the calls of a run from those of its parts.
2. `isCallView_environmentReads`: the same for readings of the environment.
3. `isCallView_firstNames`: the same for names.
-/

namespace AgentWorkflow

namespace Source

/-! ## Calls -/

/-- The name that has been read behind a leaf, where `name` has been read in front of it. -/
def Leaf.nameBehind (name : Text) : Leaf → Text
  | .point c => if isNamePoint c then name ++ [c] else []
  | _ => []

mutual

/-- The calls in a leaf behind a name, each with what stands in its parentheses. -/
def Leaf.calls (name : Text) : Leaf → List (Text × List Leaf)
  | .group c inner =>
    (if c = '(' && !name.isEmpty then [(name, inner)] else []) ++ callsFrom [] inner
  | _ => []

/-- The calls of a run behind a name. -/
def callsFrom (name : Text) : List Leaf → List (Text × List Leaf)
  | [] => []
  | l :: run => l.calls name ++ callsFrom (l.nameBehind name) run

end

/-- The calls of a run, outermost first. -/
def calls (run : List Leaf) : List (Text × List Leaf) := callsFrom [] run

def readsEnvironment (call : Text × List Leaf) : Bool :=
  call.1 = "os.getenv" || call.1 = "os.environ.get"

def environmentReads (run : List Leaf) : List (Text × List Leaf) :=
  (calls run).filter readsEnvironment

/-- The variable that such a call reads, if it is given by a literal. -/
def readName? (call : Text × List Leaf) : Option Text := (items call.2).head?.bind text?

/-! ## The calls of parts -/

theorem callsFrom_append (name : Text) (run rest : List Leaf) : callsFrom name (run ++ rest)
    = callsFrom name run ++ callsFrom (run.foldl Leaf.nameBehind name) rest := by
  induction run generalizing name with
  | nil => rfl
  | cons l run ih =>
    rw [List.cons_append, callsFrom, callsFrom, ih, List.append_assoc, List.foldl_cons]

theorem callsFrom_points (name t : Text) : callsFrom name (t.map .point) = [] := by
  induction t generalizing name with
  | nil => rfl
  | cons c t ih =>
    rw [List.map_cons, callsFrom, ih]
    rfl

theorem calls_points (t : Text) : calls (t.map .point) = [] := callsFrom_points [] t

theorem nameBehind_of_isCut {l : Leaf} (h : l.isCut) (name : Text) : l.nameBehind name = [] := by
  cases l with
  | point c =>
    refine if_neg ?_
    simp only [Leaf.isCut, Bool.or_eq_true, decide_eq_true_eq] at h
    rcases h with ((rfl | rfl) | rfl) | rfl <;> decide
  | _ => rfl

theorem calls_of_isCut {l : Leaf} (h : l.isCut) (name : Text) : l.calls name = [] := by
  cases l with
  | group => cases h
  | _ => rfl

theorem isCutView_calls : IsCutView calls where
  nil := rfl
  cut run l rest h := by
    rw [calls, callsFrom_append, callsFrom, calls_of_isCut h, nameBehind_of_isCut h]
    rfl
  group c inner rest _ := by
    rw [calls, callsFrom, Leaf.calls]
    simp only [List.isEmpty_nil, Bool.not_true, Bool.and_false, Bool.false_eq_true, if_false]
    rfl

/-- The points of a name are read one after the other. -/
theorem foldl_nameBehind {name : Text} (h : ∀ c ∈ name, isNamePoint c) (before : Text) :
    (name.map Leaf.point).foldl Leaf.nameBehind before = before ++ name := by
  induction name generalizing before with
  | nil => rw [List.append_nil]; rfl
  | cons c name ih =>
    obtain ⟨hc, hname⟩ := List.forall_mem_cons.mp h
    rw [List.map_cons, List.foldl_cons, Leaf.nameBehind, if_pos hc, ih hname, List.append_assoc,
      List.singleton_append]

theorem calls_call {name : Text} (ne : name ≠ []) (h : ∀ c ∈ name, isNamePoint c)
    (inner rest : List Leaf) : calls (name.map .point ++ .group '(' inner :: rest)
      = (name, inner) :: (calls inner ++ calls rest) := by
  have named : name.isEmpty = false := by simp [ne]
  rw [calls, callsFrom_append, callsFrom_points, foldl_nameBehind h, callsFrom, Leaf.calls]
  simp only [List.nil_append, named, decide_true, Bool.not_false, Bool.and_self, if_true]
  rfl

/-! ## Readings of the environment -/

theorem environmentReads_points (t : Text) : environmentReads (t.map .point) = [] := by
  rw [environmentReads, calls_points]
  rfl

/-- What reads the environment has a name of several parts. -/
theorem not_readsEnvironment {name : Text} (h : isKeyName name) (inner : List Leaf) :
    ¬readsEnvironment (name, inner) := by
  have dotted : ∀ reader ∈ ([("os.getenv" : Text), "os.environ.get"] : List Text),
      ¬isKeyName reader := by decide
  simp only [readsEnvironment, Bool.or_eq_true, decide_eq_true_eq]
  rintro (rfl | rfl)
  · exact dotted _ (by decide) h
  · exact dotted _ (by decide) h

theorem isCallView_environmentReads : IsCallView environmentReads where
  toIsCutView := isCutView_calls.comp rfl fun _ _ => List.filter_append ..
  call h inner rest := by
    obtain ⟨ne, word⟩ := isKeyName_iff.mp h
    rw [environmentReads, calls_call ne fun c hc => isNamePoint_of_isWordPoint (word c hc),
      List.filter_cons_of_neg (not_readsEnvironment h inner), List.filter_append,
      environmentReads_points]
    rfl

/-! ## Names -/

def firstPart (name : Text) : Text := name.takeWhile (· ≠ '.')

/-- The first parts of the names in a run: what they are found by. -/
def firstNames (run : List Leaf) : List Text := (stretches isNamePoint run).map firstPart

theorem firstPart_of_isKeyName {name : Text} (h : isKeyName name) : firstPart name = name := by
  refine List.takeWhile_eq_self_iff.mpr fun c hc => decide_eq_true ?_
  rintro rfl
  exact absurd ((isKeyName_iff.mp h).2 _ hc) (by decide)

theorem isCallView_firstNames : IsCallView firstNames :=
  (isCallView_stretches isNameKind_isNamePoint).comp rfl fun _ _ => List.map_append

theorem firstNames_word {name : Text} (h : isKeyName name) :
    firstNames (name.map .point) = [name] := by
  rw [firstNames, stretches_word isNameKind_isNamePoint h, List.map_singleton,
    firstPart_of_isKeyName h]

/-! ## Blocks -/

/-- The first parts of the names in a block. -/
def Block.names (b : Block) : List Text := b.lines.flatMap fun l => firstNames l.content

def Block.environmentReads (b : Block) : List (Text × List Leaf) :=
  b.lines.flatMap fun l => Source.environmentReads l.content

end Source

end AgentWorkflow
