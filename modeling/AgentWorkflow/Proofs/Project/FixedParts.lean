import AgentWorkflow.Project.MainModule
import AgentWorkflow.Proofs.Project.Factories
import AgentWorkflow.Proofs.Source.Acceptance
import AgentWorkflow.Proofs.Source.References

/-!
# Fixed parts of a main module

Much of a main module is the same in all programs of a kind. Of such a part it can be evaluated
which functions it defines, that it takes nothing from the tools module, and that it has no faults.
All three are kept when parts are put one after another, so every part is evaluated once, for all
that is shown of main modules.
-/

namespace AgentWorkflow

namespace Project

open Source

/-- `FixedPart names t`: the text defines functions with the given names, refers to nothing of the
tools module and parses. -/
structure FixedPart (names : List Text) (t : Text) : Prop where
  defines : ∃ ds, Defines t ds ∧ ds.map (·.name) = names
  refers : Shows (referencesOf toolsAlias) t []
  parses : Parses t

/-- True of a text that is the same in every program and is a fixed part. -/
def isFixedPart (names : List Text) (t : Text) : Bool :=
  definesNames names t && refersToNothing toolsAlias t && isParsable t

theorem fixedPart_of_isFixedPart {names : List Text} {t : Text} (h : isFixedPart names t) :
    FixedPart names t := by
  simp only [isFixedPart, Bool.and_eq_true] at h
  obtain ⟨⟨defines, refers⟩, parsable⟩ := h
  exact ⟨exists_defines defines, shows_no_references refers, parses_of_isParsable parsable⟩

example : isFixedPart ["f"] (Text.unlines ["def f():", "    return 1"]) := by decide +kernel

namespace FixedPart

theorem nil : FixedPart [] [] :=
  ⟨⟨[], defines_nil, rfl⟩, shows_nil isPartwise_referencesOf, parses_nil⟩

/-- A part without functions is silent. -/
theorem silent {t : Text} (h : FixedPart [] t) : Silent toolsAlias t := by
  obtain ⟨ds, defines, named⟩ := h.defines
  rw [List.map_eq_nil_iff.mp named] at defines
  exact ⟨defines, h.refers⟩

theorem unlines {texts more : List Text} (h : FixedPart [] (Text.unlines texts))
    (h' : FixedPart [] (Text.unlines more)) : FixedPart [] (Text.unlines (texts ++ more)) where
  defines := ⟨[], h.silent.defines.before h'.silent.defines, rfl⟩
  refers := h.refers.before isPartwise_referencesOf h'.refers
  parses := h.parses.unlines h'.parses

end FixedPart

/-- The parts that are the same in every program of a kind, each with the functions it defines. -/
def fixedParts (kind : WorkflowKind) : List (List Text × List Text) :=
  [([], mainHeader kind), ([], openaiGuard), ([], googleGuard), (["main"], messageHandler),
   (["chat_profile"], chatProfile kind), ([], server), ([], emptyMainModule)]

/-- One evaluation of what all kinds have in common, and one for each kind of what is its own. -/
theorem isFixedPart_of_mem (kind : WorkflowKind) {names lines : List Text}
    (h : (names, lines) ∈ fixedParts kind) : isFixedPart names (Text.unlines lines) := by
  have shared : ∀ part ∈ [(([] : List Text), openaiGuard), ([], googleGuard),
      (["main"], messageHandler), ([], server), ([], emptyMainModule)],
      isFixedPart part.1 (Text.unlines part.2) := by
    simp only [openaiGuard, googleGuard, messageHandler, server, emptyMainModule, fixed, List.map]
    repeat rw [Text.ofString_ofList]
    decide +kernel
  have own : ∀ part ∈ [(([] : List Text), mainHeader kind), (["chat_profile"], chatProfile kind)],
      isFixedPart part.1 (Text.unlines part.2) := by
    cases kind
    all_goals
      simp only [mainHeader, chatProfile, WorkflowKind.name, profileDescription, fixed, List.map]
      repeat rw [Text.ofString_ofList]
      decide +kernel
  have all : ∀ part ∈ fixedParts kind, isFixedPart part.1 (Text.unlines part.2) := by
    simp only [fixedParts, List.forall_mem_cons] at shared own ⊢
    exact ⟨own.1, shared.1, shared.2.1, shared.2.2.1, own.2.1, shared.2.2.2⟩
  exact all (names, lines) h

section Parts

variable (kind : WorkflowKind)

theorem fixedPart_mainHeader : FixedPart [] (Text.unlines (mainHeader kind)) :=
  fixedPart_of_isFixedPart (isFixedPart_of_mem kind (by simp [fixedParts]))

theorem fixedPart_openaiGuard : FixedPart [] (Text.unlines openaiGuard) :=
  fixedPart_of_isFixedPart (isFixedPart_of_mem .sequential (by simp [fixedParts]))

theorem fixedPart_googleGuard : FixedPart [] (Text.unlines googleGuard) :=
  fixedPart_of_isFixedPart (isFixedPart_of_mem .sequential (by simp [fixedParts]))

theorem fixedPart_messageHandler : FixedPart ["main"] (Text.unlines messageHandler) :=
  fixedPart_of_isFixedPart (isFixedPart_of_mem .sequential (by simp [fixedParts]))

theorem fixedPart_chatProfile : FixedPart ["chat_profile"] (Text.unlines (chatProfile kind)) :=
  fixedPart_of_isFixedPart (isFixedPart_of_mem kind (by simp [fixedParts]))

theorem fixedPart_server : FixedPart [] (Text.unlines server) :=
  fixedPart_of_isFixedPart (isFixedPart_of_mem .sequential (by simp [fixedParts]))

theorem fixedPart_emptyMainModule : FixedPart [] (Text.unlines emptyMainModule) :=
  fixedPart_of_isFixedPart (isFixedPart_of_mem .sequential (by simp [fixedParts]))

end Parts

/-! ## Parts that depend on the workflow -/

/-- Which imports there are depends on the workflow; each of them is a fixed part. -/
theorem fixedPart_imports (w : Workflow) : FixedPart [] (Text.unlines (imports w)) := by
  unfold imports
  refine .unlines (.unlines (.unlines (.unlines (.unlines
    (fixedPart_of_isFixedPart ?first) (fixedPart_of_isFixedPart ?kind)) ?openai) ?vertex) ?memory)
    (fixedPart_of_isFixedPart ?last)
  case first | last =>
    simp only [fixed, List.map]
    repeat rw [Text.ofString_ofList]
    decide +kernel
  case kind =>
    cases w.kind
    all_goals
      simp only [WorkflowKind.name]
      repeat rw [Text.ofString_ofList]
      decide +kernel
  case openai | vertex =>
    split
    · refine fixedPart_of_isFixedPart ?_
      rw [Text.ofString_ofList]
      decide +kernel
    · exact .nil
  case memory =>
    cases Memory.ofDeployment w.deployment
    all_goals
      refine fixedPart_of_isFixedPart ?_
      simp only [Memory.importLine]
      rw [Text.ofString_ofList]
      decide +kernel

theorem fixedPart_guards (w : Workflow) : FixedPart [] (Text.unlines (guards w)) := by
  unfold guards
  refine .unlines ?openai ?google
  case openai =>
    split
    · exact fixedPart_openaiGuard
    · exact .nil
  case google =>
    split
    · exact fixedPart_googleGuard
    · exact .nil

end Project

end AgentWorkflow
