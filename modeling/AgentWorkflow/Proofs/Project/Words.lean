import AgentWorkflow.Project.Assembly
import AgentWorkflow.Proofs.Naming.Words
import AgentWorkflow.Proofs.Number.Points
import AgentWorkflow.Proofs.Source.Twins

/-!
# Words and entries as twins

What the modules of a generated program hold besides literals and fixed lines: names of agents and
tools, numbers, and lines that give a literal to a name.
-/

namespace AgentWorkflow

namespace Project

open Source
open Naming (IsWord)

/-! ## Names and numbers -/

theorem isInert_of_isWordPoint {c : CodePoint} (h : Naming.isWordPoint c) : isInert c := by
  have apart : ∀ d : CodePoint, Naming.isWordPoint d = false → c ≠ d := by
    rintro d hd rfl
    simp [hd] at h
  simp [isInert, isPlain, closing?, isClosing, apart '"' (by decide), apart '\'' (by decide),
    apart '#' (by decide), apart '\\' (by decide), apart '\n' (by decide), apart '(' (by decide),
    apart '[' (by decide), apart '\x7b' (by decide), apart ')' (by decide), apart ']' (by decide),
    apart '\x7d' (by decide)]

theorem isInert_of_isNumberPoint {c : CodePoint} (h : isNumberPoint c) : isInert c := by
  rw [isNumberPoint, Bool.or_eq_true] at h
  rcases h with h | h
  · exact isInert_of_isWordPoint (by simp [Naming.isWordPoint, CodePoint.isAlnum, h])
  · exact (by decide : ∀ c ∈ ("+-.e" : Text), isInert c) c (List.contains_iff_mem.mp h)

variable {s : List CodePoint}

theorem twins_word {t : Text} (h : IsWord t) : Twins t t s s :=
  twins_inert fun c hc => isInert_of_isWordPoint (h c hc)

theorem not_newline_of_isWord {t : Text} (h : IsWord t) : ('\n' : CodePoint) ∉ t := fun hn =>
  absurd (h _ hn) (by decide)

namespace Assembly

theorem isWord_agentVariable {identifier : Text} (h : IsWord identifier) :
    IsWord (agentVariable identifier) := fun c hc =>
  (List.mem_append.mp hc).elim
    ((by decide : ∀ c ∈ ("agent_" : Text), Naming.isWordPoint c) c) (h c)

/-- The comment that shows the agents as a chain keeps to its line. -/
theorem newline_not_mem_chain {members : List Text} (hm : ∀ i ∈ members, IsWord i) :
    ('\n' : CodePoint) ∉ " " ++ Text.join " -> " (members.map agentVariable) := by
  intro h
  rcases List.mem_append.mp h with h | h
  · revert h
    decide
  · rcases Text.mem_join h with h | ⟨part, hp, h⟩
    · revert h
      decide
    · obtain ⟨i, hi, rfl⟩ := List.mem_map.mp hp
      exact not_newline_of_isWord (isWord_agentVariable (hm i hi)) h

end Assembly

/-! ## Entries -/

/-- An argument or an assignment whose value is a literal. -/
theorem twins_entry (level : Nat) {key tail : Text} (x y : Text) (hk : settles key [] [])
    (ht : settles (tail ++ "\n") [] []) (apart : startsApart (tail ++ "\n")) :
    Twins (line level (key ++ literal x ++ tail) ++ "\n")
      (line level (key ++ literal y ++ tail) ++ "\n") s s := by
  simp only [line, List.append_assoc]
  exact (twins_indent level).append
    ((twins_fixed hk).append (twins_literal_append x y apart apart (twins_fixed ht)))

end Project

end AgentWorkflow
