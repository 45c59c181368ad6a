import AgentWorkflow.Proofs.Source.Outline

/-!
# References to another module

A program names what another module defines by the name of that module, a dot and the name there.
Names do not go on over the end of a line, so the references of a program are those of its lines.

Results:
1. `stretches_linesOf`: what is seen of a program is seen of its lines.
2. `Shows.references`: the references of a program from those of its parts.
-/

namespace AgentWorkflow

theorem Text.after?_eq_some_iff {start t rest : Text} :
    after? start t = some rest ↔ t = start ++ rest := by
  induction start generalizing t with
  | nil => simp [after?, eq_comm]
  | cons c start ih =>
    cases t with
    | nil => simp [after?]
    | cons d t =>
      rw [after?]
      split
      · next same =>
        rw [ih, same]
        simp
      · next other => simp [Ne.symm other]

namespace Source

/-- The names behind the name of a module. -/
def referencesTo (module : Text) (run : List Leaf) : List Text :=
  (stretches isNamePoint run).filterMap (Text.after? (module ++ "."))

def referencesOf (module : Text) (ls : List Line) : List Text :=
  ls.flatMap fun l => referencesTo module l.content

/-! ## Lines -/

section Lines

variable {p : CodePoint → Bool} (hp : IsNameKind p) {run : List Leaf}

include hp

theorem stretches_append_blank {post : List Leaf} (h : Blank post) :
    stretches p (run ++ post) = stretches p run := by
  have none : ∀ {post}, Blank post → stretches p post = [] := fun h => by
    have all := (isCallView_stretches hp).blank h []
    rwa [List.append_nil] at all
  cases post with
  | nil => rw [List.append_nil]
  | cons l post =>
    obtain ⟨hl, hpost⟩ := List.forall_mem_cons.mp h
    have seen : l.visible = [' '] := by
      cases l with
      | point c =>
        have hc : c = ' ' := of_decide_eq_true hl
        subst hc
        rfl
      | lineEnd => rfl
      | _ => exact nomatch hl
    rw [stretches_append_cons run seen hp.blank, none hpost, List.append_nil]

theorem stretches_trimRun (run : List Leaf) : stretches p (trimRun run) = stretches p run := by
  have front : stretches p (run.dropWhile (·.isBlank)) = stretches p run := by
    conv_rhs => rw [← List.takeWhile_append_dropWhile (p := (·.isBlank)) (l := run)]
    rw [(isCallView_stretches hp).blank fun l hl => List.mem_takeWhile_imp hl]
  have back : ∀ run : List Leaf, stretches p (run.rdropWhile (·.isBlank)) = stretches p run := by
    intro run
    conv_rhs => rw [← List.rdropWhile_append_rtakeWhile (p := (·.isBlank)) (l := run)]
    rw [stretches_append_blank hp fun l hl => List.mem_rtakeWhile_imp hl]
  rw [trimRun, back, front]

theorem stretches_line? (run : List Leaf) :
    stretches p run = (line? run).toList.flatMap fun l => stretches p l.content := by
  rw [← stretches_trimRun hp, line?]
  split
  · next empty =>
    rw [List.isEmpty_iff.mp empty]
    rfl
  · simp

/-- What is seen of a program is seen of its lines, one after the other. -/
theorem stretches_linesOf (program : List Leaf) :
    stretches p program = (linesOf program).flatMap fun l => stretches p l.content := by
  -- `run` is the beginning of a line that is still being read
  have step : ∀ run : List Leaf, (∀ l ∈ run, l.isLineEnd = false) →
      stretches p (run ++ program)
        = (linesOf (run ++ program)).flatMap fun l => stretches p l.content := by
    induction program with
    | nil =>
      intro run flat
      rw [List.append_nil, linesOf_of_flat flat, stretches_line? hp]
    | cons l program ih =>
      intro run flat
      cases ended : l.isLineEnd with
      | true =>
        have newline : l = .lineEnd := by
          cases l <;> simp_all [Leaf.isLineEnd]
        rw [newline, stretches_append_cons run rfl hp.blank, linesOf_append_cons,
          List.flatMap_append, linesOf_of_flat flat, ← stretches_line? hp]
        exact congrArg _ (ih [] (List.forall_mem_nil _))
      | false =>
        have shift : run ++ l :: program = (run ++ [l]) ++ program := by simp
        rw [shift]
        exact ih _ (List.forall_mem_append.mpr ⟨flat, List.forall_mem_singleton.mpr ended⟩)
  exact step [] (List.forall_mem_nil _)

end Lines

/-! ## References -/

section References

variable {module : Text}

theorem isPartwise_referencesOf : IsPartwise (referencesOf module) :=
  ⟨rfl, fun _ _ _ => List.flatMap_append⟩

theorem referencesTo_eq_referencesOf (program : List Leaf) :
    referencesTo module program = referencesOf module (linesOf program) := by
  rw [referencesTo, stretches_linesOf isNameKind_isNamePoint, List.filterMap_flatMap]
  rfl

/-- The references of a program from those of its parts. -/
theorem Shows.references {t : Text} {names : List Text} (h : Shows (referencesOf module) t names) :
    (Source.read? t).map (referencesTo module) = some names := by
  rw [← h.read?]
  exact congrFun (congrArg Option.map (funext referencesTo_eq_referencesOf)) _

/-- True of a text of whole lines, at the margin, that names nothing of the module. -/
def refersToNothing (module t : Text) : Bool :=
  isLaid t && (layout t).head?.all (·.indentation = 0) && (referencesOf module (layout t)).isEmpty

theorem shows_no_references {t : Text} (h : refersToNothing module t) :
    Shows (referencesOf module) t [] := by
  simp only [refersToNothing, Bool.and_eq_true, List.isEmpty_iff] at h
  obtain ⟨⟨laid, margin⟩, none⟩ := h
  rw [← none]
  exact shows_of_isLaid laid margin

/-! ### Silent parts -/

/-- A text that defines no function and refers to nothing of a module. -/
structure Silent (module t : Text) : Prop where
  defines : Defines t []
  refers : Shows (referencesOf module) t []

theorem Silent.unlines {texts more : List Text} (h : Silent module (Text.unlines texts))
    (h' : Silent module (Text.unlines more)) : Silent module (Text.unlines (texts ++ more)) where
  defines := h.defines.before h'.defines
  refers := h.refers.before isPartwise_referencesOf h'.refers

/-! ## The references of an expression -/

theorem isCallView_referencesTo : IsCallView (referencesTo module) :=
  (isCallView_stretches isNameKind_isNamePoint).comp rfl fun _ _ => List.filterMap_append

/-- A reference has a dot in it. -/
theorem referencesTo_word {name : Text} (h : isKeyName name) :
    referencesTo module (name.map .point) = [] := by
  rw [referencesTo, stretches_word isNameKind_isNamePoint h]
  refine List.filterMap_eq_nil_iff.mpr (List.forall_mem_singleton.mpr ?_)
  refine Option.eq_none_iff_forall_not_mem.mpr fun rest hrest => ?_
  have dot : ('.' : CodePoint) ∈ name := by
    rw [Text.after?_eq_some_iff.mp hrest]
    simp [Text.ofString]
  exact absurd ((isKeyName_iff.mp h).2 _ dot) (by decide)

end References

end Source

end AgentWorkflow
