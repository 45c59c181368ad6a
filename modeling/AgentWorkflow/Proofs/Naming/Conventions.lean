import AgentWorkflow.Proofs.Naming.Words
import AgentWorkflow.Proofs.Text.Points

/-!
# What the naming conventions make of a text

No convention heeds the blanks around a text. Snake case makes an identifier of every text, blank
ones included, so the only names that cannot stand in a program as they are are keywords.

Results:
1. `snakeCase_trim`, `toolFunction_trim`, `kebabCase_trim`: blanks at the ends do not count.
2. `isUsable_snakeCase`: snake case gives a usable name unless it gives a keyword.
3. `identifier_eq_snakeCase`: a name that makes no keyword is its own identifier.
4. `isKeyword_identifier`, `toolFunction_not_mem`: no identifier is a keyword, and no function of a
   tool has a name that its module needs.
-/

namespace AgentWorkflow

namespace Naming

variable {c : CodePoint} {t : Text}

/-! ## Blanks at the ends -/

@[simp] theorem snakeCase_trim (t : Text) : snakeCase t.trim = snakeCase t := by
  rw [snakeCase, snakeCase, Text.trim_trim]

@[simp] theorem identifier_trim (t : Text) : identifier t.trim = identifier t := by
  rw [identifier, identifier, snakeCase_trim]

@[simp] theorem toolFunction_trim (t : Text) : toolFunction t.trim = toolFunction t := by
  rw [toolFunction, toolFunction, identifier_trim]

@[simp] theorem kebabCase_trim (t : Text) : kebabCase t.trim = kebabCase t := by
  rw [kebabCase, kebabCase, Text.trim_trim]

/-! ## Identifiers -/

theorem snakeCase_ne_nil (t : Text) : snakeCase t ≠ [] := by
  simp only [snakeCase]
  split
  · decide
  · next named =>
    rw [List.isEmpty_iff] at named
    obtain ⟨c, rest, hname⟩ := List.exists_cons_of_ne_nil named
    rw [hname, guardDigit]
    split
    · exact List.cons_ne_nil _ _
    · exact List.cons_ne_nil _ _

theorem isDigit_head_guardDigit (h : c ∈ (guardDigit t).head?) : c.isDigit = false := by
  cases t with
  | nil => cases h
  | cons d t =>
    rw [guardDigit] at h
    split at h
    · cases h
      decide
    · next other =>
      cases h
      simpa using other

theorem isDigit_head_snakeCase (h : c ∈ (snakeCase t).head?) : c.isDigit = false := by
  simp only [snakeCase] at h
  split at h
  · cases h
    decide
  · exact isDigit_head_guardDigit h

/-- The points of snake case are ASCII, for which identifiers have only small letters, capitals and
the underscore in front, and digits as well behind. -/
theorem ascii_identifier_points : ∀ n < 0x80,
    (inRanges n identifierStartRanges = true ↔
      (0x61 ≤ n ∧ n ≤ 0x7A) ∨ (0x41 ≤ n ∧ n ≤ 0x5A) ∨ n = 0x5F) ∧
    (inRanges n identifierExtendRanges = true ↔ 0x30 ≤ n ∧ n ≤ 0x39) := by
  decide

theorem startsIdentifier_of_isSnakePoint (h : isSnakePoint c) (letter : c.isDigit = false) :
    c.startsIdentifier := by
  simp only [isSnakePoint, letter, Bool.or_false, Bool.or_eq_true, decide_eq_true_eq] at h
  rcases h with h | rfl
  · simp only [CodePoint.isLower, Bool.and_eq_true, decide_eq_true_eq] at h
    exact (ascii_identifier_points c.val (by omega)).1.mpr (.inl h)
  · decide

theorem continuesIdentifier_of_isSnakePoint (h : isSnakePoint c) : c.continuesIdentifier := by
  by_cases digit : c.isDigit
  · simp only [CodePoint.isDigit, Bool.and_eq_true, decide_eq_true_eq] at digit
    have extends_ := (ascii_identifier_points c.val (by omega)).2.mpr digit
    simp [CodePoint.continuesIdentifier, extends_]
  · have starts := startsIdentifier_of_isSnakePoint h (by simpa using digit)
    simp [CodePoint.continuesIdentifier, starts]

theorem isIdentifier_snakeCase (t : Text) : (snakeCase t).isIdentifier := by
  have points : ∀ c ∈ snakeCase t, isSnakePoint c := fun c hc => isSnakePoint_of_mem_snakeCase hc
  have front : ∀ c ∈ (snakeCase t).head?, c.isDigit = false := fun c hc => isDigit_head_snakeCase hc
  obtain ⟨c, rest, hname⟩ := List.exists_cons_of_ne_nil (snakeCase_ne_nil t)
  rw [hname] at points front ⊢
  rw [Text.isIdentifier, Bool.and_eq_true, List.all_eq_true]
  refine ⟨startsIdentifier_of_isSnakePoint (points c List.mem_cons_self) (front c rfl), ?_⟩
  exact fun d hd => continuesIdentifier_of_isSnakePoint (points d (List.mem_cons_of_mem c hd))

theorem isUsable_snakeCase (t : Text) : isUsable (snakeCase t) = !isKeyword (snakeCase t) := by
  rw [isUsable, isIdentifier_snakeCase, Bool.true_and]

theorem identifier_eq_snakeCase (h : isKeyword (snakeCase t) = false) :
    identifier t = snakeCase t := by
  simp [identifier, h]

/-! ## Names that are kept free -/

theorem not_isKeyword_of_underscore (h : ('_' : CodePoint) ∈ t) : isKeyword t = false := by
  have plain : ∀ word ∈ keywords, ('_' : CodePoint) ∉ word := by decide
  rw [isKeyword, ← Bool.not_eq_true, List.contains_iff_mem]
  exact fun keyword => plain _ keyword h

theorem isKeyword_identifier (t : Text) : isKeyword (identifier t) = false := by
  simp only [identifier]
  split
  · exact not_isKeyword_of_underscore (List.mem_append_right _ List.mem_cons_self)
  · next free => simpa using free

/-- A tool's function leaves alone the names that its module needs. -/
theorem toolFunction_not_mem (t : Text) : toolFunction t ∉ toolsModuleNames := by
  simp only [toolFunction]
  split
  · next used =>
    intro again
    have names : ∀ name ∈ toolsModuleNames, name ++ "_" ∉ toolsModuleNames := by decide
    exact names _ (List.contains_iff_mem.mp used) again
  · next free => exact fun used => free (List.contains_iff_mem.mpr used)

end Naming

end AgentWorkflow
