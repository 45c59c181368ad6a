import AgentWorkflow.Proofs.Naming.Numbering
import AgentWorkflow.Proofs.Tools.Catalogue

/-!
# Agents added to a workflow

Which tools are kept is decided from the front, so agents added at the end take no tool away from
those before them. The classes are another matter: a repeated name takes a number that is in use
nowhere, later names included. But a name that a tool asks for ends in a letter and a numbered one
in a digit, so a class keeps its name whatever tools come later.

Results:
1. `keepFirst_append`: the tools kept of two lists are those of the first, then some of the second.
2. `keepFirst_eq_unmatched`: which ones of the second these are.
3. `catalogue_append`: the catalogue of some agents is the beginning of that of more agents.
-/

namespace AgentWorkflow

namespace Tools

/-- The tools of `later`, in order, whose function is not that of a tool of `earlier` nor that of a
tool before them. -/
def unmatched (earlier later : List Tool) : List Tool :=
  (later.zipIdx.filter fun (t, i) =>
    !((earlier ++ later.take i).map functionOf).contains (functionOf t)).map (·.1)

/-! ## The tools that are kept -/

section Kept

variable {seen others : List Text}

/-- Of what has been seen only the names count, not their order or number. -/
theorem keepFirst_congr (same : ∀ f, f ∈ seen ↔ f ∈ others) (tools : List Tool) :
    keepFirst seen tools = keepFirst others tools := by
  induction tools generalizing seen others with
  | nil => rfl
  | cons t tools ih =>
    have known : seen.contains (functionOf t) = others.contains (functionOf t) := by
      rw [Bool.eq_iff_iff, List.contains_iff_mem, List.contains_iff_mem, same]
    have later : ∀ f, f ∈ functionOf t :: seen ↔ f ∈ functionOf t :: others := fun f => by
      rw [List.mem_cons, List.mem_cons, same]
    rw [keepFirst, keepFirst, known, ih same, ih later]

/-- The first occurrences of an append: those of the front, and those of the back that the
front does not have. -/
theorem keepFirst_append (seen : List Text) (xs ys : List Tool) : keepFirst seen (xs ++ ys)
    = keepFirst seen xs ++ keepFirst (xs.map functionOf ++ seen) ys := by
  induction xs generalizing seen with
  | nil => rfl
  | cons t xs ih =>
    rw [List.cons_append, keepFirst, keepFirst, ih, ih, List.map_cons]
    split
    · next known =>
      have old : functionOf t ∈ seen := List.contains_iff_mem.mp known
      refine congrArg _ (keepFirst_congr (fun f => ?_) ys)
      simp only [List.cons_append, List.mem_cons, List.mem_append]
      constructor
      · exact .inr
      · rintro (rfl | h)
        · exact .inr old
        · exact h
    · refine congrArg (t :: keepFirst (functionOf t :: seen) xs ++ ·)
        (keepFirst_congr (fun f => ?_) ys)
      simp only [List.cons_append, List.mem_cons, List.mem_append]
      exact or_left_comm

theorem unmatched_cons (earlier : List Tool) (t : Tool) (later : List Tool) :
    unmatched earlier (t :: later)
      = (if (earlier.map functionOf).contains (functionOf t) then [] else [t])
        ++ unmatched (earlier ++ [t]) later := by
  rw [unmatched, unmatched, List.zipIdx_cons, Nat.zero_add, List.zipIdx_succ, List.filter_cons,
    List.filter_map]
  simp only [List.take_zero, List.append_nil, List.take_succ_cons, List.append_assoc,
    List.singleton_append, Function.comp_def]
  split
  · next new =>
    rw [if_neg (by simpa using new), List.map_cons, List.map_map]
    rfl
  · next known =>
    rw [if_pos (by simpa using known), List.map_map]
    rfl

/-- The tools that are kept one after the other are those that are told by their places. -/
theorem keepFirst_eq_unmatched (earlier later : List Tool) :
    keepFirst (earlier.map functionOf) later = unmatched earlier later := by
  induction later generalizing earlier with
  | nil => rfl
  | cons t later ih =>
    -- for the tools behind it, `t` is one of the earlier ones
    rw [unmatched_cons, ← ih, keepFirst, List.map_append]
    split
    · next known =>
      have old : functionOf t ∈ earlier.map functionOf := List.contains_iff_mem.mp known
      refine keepFirst_congr (fun f => ?_) later
      rw [List.mem_append, List.map_singleton, List.mem_singleton]
      constructor
      · exact .inl
      · rintro (h | rfl)
        · exact h
        · exact old
    · refine congrArg (t :: ·) (keepFirst_congr (fun f => ?_) later)
      rw [List.mem_append, List.map_singleton, List.mem_singleton, List.mem_cons, or_comm]

end Kept

/-! ## The classes -/

/-- No tool asks for a name that looks numbered. -/
theorem numbered_ne_schemaName (t : Tool) (name : Text) (n : Nat) :
    Naming.numbered name n ≠ schemaName t := by
  intro same
  obtain ⟨c, last, digit⟩ := Naming.isDigit_getLast?_numbered name n
  have letter : (schemaName t).getLast? = some ('t' : CodePoint) := by
    rw [schemaName, List.getLast?_append_of_ne_nil _ (by decide)]
    decide
  rw [same, letter, Option.mem_some_iff] at last
  rw [← last] at digit
  exact absurd digit (by decide)

theorem schemas_prefix (kept added : List Tool) : Naming.distinct (kept.map schemaName)
    <+: Naming.distinct ((kept ++ added).map schemaName) := by
  rw [List.map_append]
  refine Naming.distinct_prefix _ fun schema hs name n => ?_
  obtain ⟨t, -, rfl⟩ := List.mem_map.mp hs
  exact numbered_ne_schemaName t name n

/-! ## The catalogue -/

theorem keepFirst_agents (xs ys : List Agent) : keepFirst [] ((xs ++ ys).flatMap (·.tools))
    = keepFirst [] (xs.flatMap (·.tools))
      ++ unmatched (xs.flatMap (·.tools)) (ys.flatMap (·.tools)) := by
  rw [List.flatMap_append, keepFirst_append, List.append_nil, keepFirst_eq_unmatched]

theorem catalogue_prefix (xs ys : List Agent) : catalogue xs <+: catalogue (xs ++ ys) := by
  let kept := keepFirst [] (xs.flatMap (·.tools))
  let added := unmatched (xs.flatMap (·.tools)) (ys.flatMap (·.tools))
  obtain ⟨schemas, more⟩ := schemas_prefix kept added
  have lengths : kept.length = (Naming.distinct (kept.map schemaName)).length := by
    rw [Naming.distinct, Naming.length_distinctFrom, List.length_map]
  rw [catalogue, catalogue, keepFirst_agents, ← more, List.zipWith_append lengths]
  exact List.prefix_append _ _

/-- Agents added to a workflow add the tools that are new, at the end of the catalogue, and change
nothing in what is there already. -/
theorem catalogue_append (xs ys : List Agent) : ∃ added : List ToolDefinition,
    catalogue (xs ++ ys) = catalogue xs ++ added ∧
      added.map (·.tool) = unmatched (xs.flatMap (·.tools)) (ys.flatMap (·.tools)) ∧
      ∀ d ∈ added, d.function = functionOf d.tool := by
  obtain ⟨added, whole⟩ := catalogue_prefix xs ys
  refine ⟨added, whole.symm, ?tools, ?functions⟩
  case tools =>
    have tools := congrArg (List.map (·.tool)) whole
    rw [List.map_append, (catalogue_eq xs).1, (catalogue_eq (xs ++ ys)).1,
      keepFirst_agents] at tools
    exact List.append_cancel_left tools
  case functions =>
    intro d hd
    exact function_eq (whole ▸ List.mem_append_right _ hd)

end Tools

end AgentWorkflow
