import AgentWorkflow.Proofs.Naming.Conventions
import AgentWorkflow.Proofs.Naming.Distinct

/-!
# The catalogue of tools

The catalogue keeps, of all tools whose functions have one name, the first in the order of the
agents. Functions are in snake case and the name of a class holds a capital, so no name is given
twice, be it to a function or to a class.

Results:
1. `nodup_functions`, `mem_functions`: the functions of the catalogue are those of the agents' tools,
   each once.
2. `find?_tool`: a function of the catalogue belongs to the first tool that asks for it.
3. `nodup_schemas`, `function_ne_schema`: every tool has a class of its own.
-/

namespace AgentWorkflow

namespace Naming

theorem identifier_ne_nil (t : Text) : identifier t ≠ [] := by
  simp only [identifier]
  split
  · exact List.append_ne_nil_of_left_ne_nil (snakeCase_ne_nil t) _
  · exact snakeCase_ne_nil t

theorem toolFunction_ne_nil (t : Text) : toolFunction t ≠ [] := by
  simp only [toolFunction]
  split
  · exact List.append_ne_nil_of_left_ne_nil (identifier_ne_nil t) _
  · exact identifier_ne_nil t

end Naming

namespace Tools

/-! ## The tools that are kept -/

section Kept

variable {seen : List Text} {tools : List Tool}

/-- A tool is dropped only if its function is kept for another tool, or was seen before. -/
theorem mem_keepFirst {f : Text} :
    f ∈ (keepFirst seen tools).map functionOf ↔ f ∉ seen ∧ f ∈ tools.map functionOf := by
  induction tools generalizing seen with
  | nil => simp [keepFirst]
  | cons t tools ih =>
    rw [keepFirst]
    split
    · next known =>
      have old : functionOf t ∈ seen := List.contains_iff_mem.mp known
      rw [ih, List.map_cons, List.mem_cons]
      constructor
      · rintro ⟨new, later⟩
        exact ⟨new, .inr later⟩
      · rintro ⟨new, rfl | later⟩
        · exact absurd old new
        · exact ⟨new, later⟩
    · next unknown =>
      have new : functionOf t ∉ seen := fun old => unknown (List.contains_iff_mem.mpr old)
      rw [List.map_cons, List.map_cons, List.mem_cons, List.mem_cons, ih, List.mem_cons, not_or]
      constructor
      · rintro (rfl | ⟨⟨-, fresh⟩, later⟩)
        · exact ⟨new, .inl rfl⟩
        · exact ⟨fresh, .inr later⟩
      · rintro ⟨fresh, here | later⟩
        · exact .inl here
        · by_cases same : f = functionOf t
          · exact .inl same
          · exact .inr ⟨⟨same, fresh⟩, later⟩

theorem nodup_keepFirst : ((keepFirst seen tools).map functionOf).Nodup := by
  induction tools generalizing seen with
  | nil => exact List.nodup_nil
  | cons t tools ih =>
    rw [keepFirst]
    split
    · exact ih
    · refine List.nodup_cons.mpr ⟨fun again => ?_, ih⟩
      exact (mem_keepFirst.mp again).1 List.mem_cons_self

/-- Of the tools with one function, the first is kept. -/
theorem find?_of_mem_keepFirst {t : Tool} (h : t ∈ keepFirst seen tools) :
    tools.find? (functionOf · = functionOf t) = some t := by
  induction tools generalizing seen with
  | nil => simp [keepFirst] at h
  | cons u tools ih =>
    -- once the function of `u` has been seen, what is kept has another one
    have later : ∀ {seen'}, functionOf u ∈ seen' → t ∈ keepFirst seen' tools →
        (u :: tools).find? (functionOf · = functionOf t) = some t := by
      intro seen' known kept
      have fresh := (mem_keepFirst.mp (List.mem_map_of_mem kept)).1
      have other : functionOf u ≠ functionOf t := fun same => fresh (same ▸ known)
      rw [List.find?_cons_of_neg (by simp [other])]
      exact ih kept
    rw [keepFirst] at h
    split at h
    · next known => exact later (List.contains_iff_mem.mp known) h
    · rcases List.mem_cons.mp h with rfl | h
      · exact List.find?_cons_of_pos (by simp)
      · exact later List.mem_cons_self h

end Kept

/-- If the functions of an agent's tools are distinct, none of them is left out. -/
theorem functionsOf_of_nodup {a : Agent} (h : (a.tools.map functionOf).Nodup) :
    functionsOf a = a.tools.map functionOf := by
  rw [functionsOf]
  generalize a.tools.map functionOf = functions at h
  induction functions with
  | nil => rfl
  | cons f functions ih =>
    obtain ⟨fresh, rest⟩ := List.nodup_cons.mp h
    have kept : functions.filter (fun g => !g == f) = functions :=
      List.filter_eq_self.mpr fun g hg => by
        have other : g ≠ f := fun same => fresh (same ▸ hg)
        simp [other]
    rw [List.eraseDups_cons, kept, ih rest]

/-! ## The catalogue -/

section Catalogue

variable {agents : List Agent} {d : ToolDefinition}

/-- The catalogue column by column: the tools that are kept, and their schema names told apart. -/
theorem catalogue_eq (agents : List Agent) :
    (catalogue agents).map (·.tool) = keepFirst [] (agents.flatMap (·.tools)) ∧
      (catalogue agents).map (·.schema)
        = Naming.distinct ((keepFirst [] (agents.flatMap (·.tools))).map schemaName) := by
  generalize kept : keepFirst [] (agents.flatMap (·.tools)) = tools
  have lengths : tools.length = (Naming.distinct (tools.map schemaName)).length := by
    rw [Naming.distinct, Naming.length_distinctFrom, List.length_map]
  -- every kept tool has a name of a class, so none is lost in pairing them
  have pairs : catalogue agents = (tools.zip (Naming.distinct (tools.map schemaName))).map
      fun made => { function := functionOf made.1, schema := made.2, tool := made.1 } := by
    rw [catalogue, kept]
    exact (List.map_uncurry_zip_eq_zipWith).symm
  rw [pairs, List.map_map, List.map_map]
  exact ⟨List.map_fst_zip (Nat.le_of_eq lengths), List.map_snd_zip (Nat.le_of_eq lengths.symm)⟩

theorem function_eq (h : d ∈ catalogue agents) : d.function = functionOf d.tool := by
  obtain ⟨t, -, schema, -, rfl⟩ := mem_zipWith h
  rfl

theorem functions_eq (agents : List Agent) : (catalogue agents).map (·.function)
    = (keepFirst [] (agents.flatMap (·.tools))).map functionOf := by
  rw [← (catalogue_eq agents).1, List.map_map]
  refine List.map_congr_left fun d hd => ?_
  rw [function_eq hd, Function.comp_apply]

theorem nodup_functions (agents : List Agent) : ((catalogue agents).map (·.function)).Nodup := by
  rw [functions_eq]
  exact nodup_keepFirst

/-- The functions of the catalogue are those that the agents use. -/
theorem mem_functions {f : Text} :
    f ∈ (catalogue agents).map (·.function) ↔ ∃ a ∈ agents, f ∈ functionsOf a := by
  rw [functions_eq, mem_keepFirst, List.map_flatMap, List.mem_flatMap]
  simp [functionsOf, List.mem_eraseDups]

/-- A function of the catalogue belongs to the first tool that asks for it. -/
theorem find?_tool (h : d ∈ catalogue agents) :
    (agents.flatMap (·.tools)).find? (functionOf · = d.function) = some d.tool := by
  have kept : d.tool ∈ keepFirst [] (agents.flatMap (·.tools)) := by
    rw [← (catalogue_eq agents).1]
    exact List.mem_map_of_mem h
  rw [function_eq h]
  exact find?_of_mem_keepFirst kept

theorem nodup_schemas (agents : List Agent) : ((catalogue agents).map (·.schema)).Nodup := by
  rw [(catalogue_eq agents).2]
  exact Naming.nodup_distinct _

/-! ### Names of functions and of classes -/

theorem capital_mem_schema (h : d ∈ catalogue agents) : ('I' : CodePoint) ∈ d.schema := by
  obtain ⟨t, -, schema, hs, rfl⟩ := mem_zipWith h
  refine Naming.distinct_induction (P := fun name => ('I' : CodePoint) ∈ name) ?_ ?_ schema hs
  · intro name n capital
    exact List.mem_append_left _ (List.mem_append_left _ capital)
  · intro name hname
    obtain ⟨u, -, rfl⟩ := List.mem_map.mp hname
    exact List.mem_append_right _ (by decide)

theorem isSnakePoint_of_mem_function (h : d ∈ catalogue agents) :
    ∀ c ∈ d.function, Naming.isSnakePoint c := by
  rw [function_eq h]
  exact fun c hc => Naming.isSnakePoint_of_mem_toolFunction hc

theorem function_ne_schema {e : ToolDefinition} (hd : d ∈ catalogue agents)
    (he : e ∈ catalogue agents) : d.function ≠ e.schema := by
  intro same
  have capital := capital_mem_schema he
  rw [← same] at capital
  exact absurd (isSnakePoint_of_mem_function hd _ capital) (by decide)

/-- No two classes or functions have the same name, and no class has that of a function. -/
theorem nodup_names (agents : List Agent) :
    ((catalogue agents).flatMap fun d => [d.schema, d.function]).Nodup := by
  have apart : ((catalogue agents).map (·.schema) ++ (catalogue agents).map (·.function)).Nodup := by
    refine (nodup_schemas agents).append (nodup_functions agents) fun name hs hf => ?_
    obtain ⟨e, he, rfl⟩ := List.mem_map.mp hs
    obtain ⟨d, hd, same⟩ := List.mem_map.mp hf
    exact function_ne_schema hd he same
  rw [List.map_eq_flatMap, List.map_eq_flatMap] at apart
  exact (List.flatMap_append_perm (catalogue agents) ([·.schema]) ([·.function])).nodup_iff.mp apart

theorem function_ne_nil (h : d ∈ catalogue agents) : d.function ≠ [] := by
  rw [function_eq h]
  exact Naming.toolFunction_ne_nil d.tool.name

theorem schema_ne_nil (h : d ∈ catalogue agents) : d.schema ≠ [] :=
  List.ne_nil_of_mem (capital_mem_schema h)

end Catalogue

end Tools

end AgentWorkflow
