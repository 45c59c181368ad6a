import AgentWorkflow.Naming.Distinct
import AgentWorkflow.Naming.Identifier

/-!
# Names without an underscore

Whatever is done to a name to make it usable or to tell it apart brings an underscore in. So a name
that has none is a name to which nothing was done.

Results:
1. `mem_distinct_iff`: telling names apart neither makes such a name nor takes one away.
2. `identifier_eq_iff`, `toolFunction_eq_iff`: it is made of the texts that have it in snake case.
-/

namespace AgentWorkflow

namespace Naming

variable {name : Text} (plain : ('_' : CodePoint) ∉ name)

include plain

theorem numbered_ne (t : Text) (n : Nat) : numbered t n ≠ name := by
  rintro rfl
  exact plain (List.mem_append_left _ (List.mem_append_right t List.mem_cons_self))

/-- A name that no numbered name can be is handed out only where it is asked for. -/
theorem mem_distinctFrom_iff {taken seen names : List Text} (unseen : name ∉ seen) :
    name ∈ distinctFrom taken seen names ↔ name ∈ names := by
  induction names generalizing taken seen with
  | nil => rfl
  | cons other rest ih =>
    -- what has been handed out stays other than `name`, be it numbered or not
    have later : ∀ {taken}, ∀ n ≠ name,
        (name ∈ distinctFrom taken (n :: seen) rest ↔ name ∈ rest) :=
      fun n ne => ih (List.not_mem_cons_of_ne_of_not_mem (Ne.symm ne) unseen)
    rw [distinctFrom]
    split
    · next repeated =>
      have fresh := numbered_ne plain other (firstFree taken other taken.length 2)
      have old : other ≠ name := fun same => unseen (same ▸ List.contains_iff_mem.mp repeated)
      rw [List.mem_cons, List.mem_cons, later _ fresh, or_iff_right (Ne.symm fresh),
        or_iff_right (Ne.symm old)]
    · rw [List.mem_cons, List.mem_cons]
      by_cases same : name = other
      · simp only [same, true_or]
      · rw [later _ (Ne.symm same)]

theorem mem_distinct_iff {names : List Text} : name ∈ distinct names ↔ name ∈ names :=
  mem_distinctFrom_iff plain List.not_mem_nil

theorem append_underscore_ne (t : Text) : t ++ "_" ≠ name := by
  rintro rfl
  exact plain (List.mem_append_right t List.mem_cons_self)

theorem identifier_eq_iff (free : isKeyword name = false) {t : Text} :
    identifier t = name ↔ snakeCase t = name := by
  simp only [identifier]
  split
  · next keyword =>
    refine iff_of_false (append_underscore_ne plain _) ?_
    rintro rfl
    rw [free] at keyword
    cases keyword
  · rfl

theorem toolFunction_eq_iff (free : isKeyword name = false) (unneeded : name ∉ toolsModuleNames)
    {t : Text} : toolFunction t = name ↔ snakeCase t = name := by
  rw [← identifier_eq_iff plain free]
  simp only [toolFunction]
  split
  · next needed =>
    refine iff_of_false (append_underscore_ne plain _) ?_
    rintro rfl
    exact unneeded (List.contains_iff_mem.mp needed)
  · rfl

end Naming

end AgentWorkflow
