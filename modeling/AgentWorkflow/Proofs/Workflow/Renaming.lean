import AgentWorkflow.Proofs.Workflow.Rewording
import Mathlib.Data.List.Basic

/-!
# Renamed agents

The ids of agents are there to tell agents apart and to find parents. When they are renamed, parents
along with agents, and no two become one, then the structure of the agents is the old one renamed,
and every agent keeps its identifier. The ids of tools and parameters are there for nothing.

Results:
1. `Hierarchy.resolve_rename`: the structure of renamed agents, or the error that there is none.
2. `Hierarchy.walk_rename`: a walk through a renamed structure.
3. `get?_agentIdentifiers_rename`: the identifiers of renamed agents.
4. `Hierarchy.resolve_withoutToolIds`: agents whose tools have lost their ids.
-/

namespace AgentWorkflow

/-! ## Renaming -/

def Agent.rename (f : Text → Text) (a : Agent) : Agent :=
  { a with id := f a.id, parent := a.parent.map f }

def Workflow.rename (f : Text → Text) (w : Workflow) : Workflow :=
  { w with agents := w.agents.map (Agent.rename f) }

def Parameter.withoutId (p : Parameter) : Parameter := { p with id := [] }

def Tool.withoutIds (t : Tool) : Tool :=
  { t with id := [], parameters := t.parameters.map Parameter.withoutId }

def Agent.withoutToolIds (a : Agent) : Agent := { a with tools := a.tools.map Tool.withoutIds }

def Workflow.withoutToolIds (w : Workflow) : Workflow :=
  { w with agents := w.agents.map Agent.withoutToolIds }

def HierarchyError.rename (f : Text → Text) : HierarchyError → HierarchyError
  | .duplicateId id => .duplicateId (f id)
  | .cycle ids => .cycle (ids.map f)
  | .walkTooLong start limit => .walkTooLong (f start) limit

/-- An id and what belongs to it, the id renamed. -/
def renameEntry {α : Type} (f : Text → Text) (e : Text × α) : Text × α := (f e.1, e.2)

namespace Hierarchy

def rename (f : Text → Text) (h : Hierarchy) : Hierarchy where
  kind := h.kind
  order := h.order.map f
  roots := h.roots.map f
  children := h.children.map fun e => (f e.1, e.2.map f)

def WalkEnd.rename (f : Text → Text) : WalkEnd → WalkEnd
  | .settled path => .settled (path.map f)
  | .cycle ids => .cycle (ids.map f)
  | .tooLong => .tooLong

end Hierarchy

section Rename

variable {f : Text → Text} (hf : Function.Injective f)

include hf

/-! ## Lists of ids -/

theorem contains_map_rename (ids : List Text) (id : Text) :
    (ids.map f).contains (f id) = ids.contains id := by
  rw [Bool.eq_iff_iff, List.contains_iff_mem, List.contains_iff_mem,
    List.mem_map_of_injective hf]

theorem eraseDups_map_rename (ids : List Text) : (ids.map f).eraseDups = ids.eraseDups.map f := by
  -- `eraseDups` goes on with what a filter leaves of the list, so the length is what shrinks
  induction size : ids.length using Nat.strongRecOn generalizing ids with
  | ind n ih =>
    cases ids with
    | nil => rfl
    | cons id ids =>
      have others : (ids.map f).filter (fun other => !other == f id)
          = (ids.filter fun other => !other == id).map f := by
        rw [List.filter_map]
        congr 1
        refine List.filter_congr fun other _ => ?_
        rw [Function.comp_apply, Bool.eq_iff_iff]
        simp [hf.eq_iff]
      have shorter := List.length_filter_le (fun other => !other == id) ids
      rw [List.length_cons] at size
      rw [List.map_cons, List.eraseDups_cons, List.eraseDups_cons, others, List.map_cons,
        ih _ (by omega) _ rfl]

theorem lookup_map_rename {α : Type} (entries : List (Text × α)) (id : Text) :
    (entries.map (renameEntry f)).lookup (f id) = entries.lookup id := by
  induction entries with
  | nil => rfl
  | cons e entries ih =>
    have same : (f id == f e.1) = (id == e.1) := by
      rw [Bool.eq_iff_iff, beq_iff_eq, beq_iff_eq, hf.eq_iff]
    obtain ⟨key, value⟩ := e
    rw [List.map_cons, renameEntry, List.lookup_cons, List.lookup_cons, same, ih]

namespace Hierarchy

/-! ## The structure of renamed agents -/

variable (agents : List Agent)

theorem agent?_rename (id : Text) :
    agent? (agents.map (Agent.rename f)) (f id) = (agent? agents id).map (Agent.rename f) := by
  have same : ∀ a : Agent, ((a.rename f).id = f id) ↔ a.id = id := fun a => hf.eq_iff
  simp only [agent?, List.find?_map, Function.comp_def, same]

theorem parentIn_rename (a : Agent) :
    parentIn (agents.map (Agent.rename f)) (a.rename f) = (parentIn agents a).map f := by
  rw [parentIn, parentIn, Agent.rename]
  cases a.parent with
  | none => rfl
  | some p => simp [Option.filter, agent?_rename hf, apply_ite (Option.map f)]

theorem duplicate?_rename (seen : List Text) :
    duplicate? (seen.map f) (agents.map (Agent.rename f)) = (duplicate? seen agents).map f := by
  induction agents generalizing seen with
  | nil => rfl
  | cons a rest ih =>
    have later := ih (a.id :: seen)
    rw [List.map_cons] at later
    rw [List.map_cons, duplicate?, duplicate?, Agent.rename, contains_map_rename hf, later]
    split <;> rfl

/-- Following the parents commutes with an injective renaming, by induction on the steps left. -/
theorem follow_rename (settled : List Text) (steps : Nat) (path : List Text) (next : Option Text) :
    follow (agents.map (Agent.rename f)) (settled.map f) steps (path.map f) (next.map f)
      = (follow agents settled steps path next).rename f := by
  fun_induction follow agents settled steps path next with
  | case1 steps path => cases steps <;> rfl
  | case2 steps path id unknown =>
    rw [Option.map_some, follow.eq_def]
    simp only [agent?_rename hf, unknown, Option.map_none]
    rfl
  | case3 steps path id a found done =>
    rw [Option.map_some, follow.eq_def]
    simp only [agent?_rename hf, contains_map_rename hf, found, Option.map_some, if_pos done]
    rfl
  | case4 steps path id a found new closed =>
    rw [Option.map_some, follow.eq_def]
    simp only [agent?_rename hf, contains_map_rename hf, found, Option.map_some, if_neg new,
      if_pos closed, WalkEnd.rename, List.dropWhile_map]
    simp [Function.comp_def, hf.eq_iff]
  | case5 path id a found new onward =>
    rw [Option.map_some, follow.eq_def]
    simp only [agent?_rename hf, contains_map_rename hf, found, Option.map_some, if_neg new,
      if_neg onward]
    rfl
  | case6 path id a found new onward steps ih =>
    rw [List.map_append, List.map_cons, List.map_nil] at ih
    rw [Option.map_some, follow.eq_def]
    simp only [agent?_rename hf, contains_map_rename hf, found, Option.map_some, if_neg new,
      if_neg onward]
    exact ih

/-- The search for cycles commutes with an injective renaming, with what it has settled renamed. -/
theorem checkForest_rename (settled starts : List Text) :
    checkForest (agents.map (Agent.rename f)) (settled.map f) (starts.map f)
      = (checkForest agents settled starts).mapError (HierarchyError.rename f) := by
  induction starts generalizing settled with
  | nil => rfl
  | cons start rest ih =>
    have walk := follow_rename hf agents settled (agents.length + 1) [] (some start)
    rw [List.map_nil, Option.map_some] at walk
    rw [List.map_cons, checkForest, checkForest, List.length_map, walk]
    cases follow agents settled (agents.length + 1) [] (some start) with
    | settled path =>
      simp only [WalkEnd.rename, ← List.map_append, ih]
    | cycle ids => rfl
    | tooLong => rfl

theorem childIds_rename (parent : Text) :
    childIds (agents.map (Agent.rename f)) (f parent) = (childIds agents parent).map f := by
  have same : ∀ a : Agent, parentIn (agents.map (Agent.rename f)) (a.rename f) = some (f parent) ↔
      parentIn agents a = some parent := by
    intro a
    rw [parentIn_rename hf, ← Option.map_some, (Option.map_injective hf).eq_iff]
  simp only [childIds, List.filter_map, List.map_map, Function.comp_def, same]
  rfl

/-- Child lists and roots of renamed agents are the renamed ones. -/
theorem forest_rename : forest (agents.map (Agent.rename f)) = (forest agents).rename f := by
  have supervisors : (agents.map (Agent.rename f)).filterMap
      (parentIn (agents.map (Agent.rename f))) = (agents.filterMap (parentIn agents)).map f := by
    rw [List.filterMap_map, List.map_filterMap]
    exact List.filterMap_congr fun a _ => parentIn_rename hf agents a
  have roots : ∀ a : Agent, (parentIn (agents.map (Agent.rename f)) (a.rename f)).isNone
      = (parentIn agents a).isNone := by
    intro a
    rw [parentIn_rename hf, Option.isNone_map]
  simp only [forest, rename, supervisors, eraseDups_map_rename hf, List.map_map, List.filter_map,
    Function.comp_def, childIds_rename hf, roots]
  rfl

omit hf in
theorem flat_rename (kind : WorkflowKind) :
    flat kind (agents.map (Agent.rename f)) = (flat kind agents).rename f := by
  simp only [flat, rename, List.map_map, List.map_nil]
  rfl

/-- The structure that renamed agents form is the renamed structure, and where they form none the
error is about the renamed agents. -/
theorem resolve_rename (kind : WorkflowKind) : resolve (agents.map (Agent.rename f)) kind
    = ((resolve agents kind).mapError (HierarchyError.rename f)).map (rename f) := by
  have repeated := duplicate?_rename hf agents []
  have acyclic := checkForest_rename hf agents [] (agents.map (·.id))
  have ids : (agents.map (Agent.rename f)).map (·.id) = (agents.map (·.id)).map f := by
    rw [List.map_map, List.map_map]
    rfl
  rw [List.map_nil] at repeated acyclic
  rw [resolve, resolve, repeated, ids, acyclic, forest_rename hf, flat_rename]
  cases duplicate? [] agents with
  | some id => rfl
  | none =>
    simp only [Option.map_none]
    split
    · cases checkForest agents [] (agents.map (·.id)) <;> rfl
    · rfl

/-! ## Walks -/

variable (h : Hierarchy)

theorem childrenOf_rename (id : Text) : (h.rename f).childrenOf (f id) = (h.childrenOf id).map f := by
  have entries : (h.rename f).children
      = (h.children.map fun e => (e.1, e.2.map f)).map (renameEntry f) := by
    rw [List.map_map]
    rfl
  have values : ∀ entries : List (Text × List Text),
      (entries.map fun e => (e.1, e.2.map f)).lookup id = (entries.lookup id).map (List.map f) := by
    intro entries
    induction entries with
    | nil => rfl
    | cons e entries ih =>
      obtain ⟨key, value⟩ := e
      rw [List.map_cons, List.lookup_cons, List.lookup_cons, ih]
      cases id == key <;> rfl
  rw [childrenOf, childrenOf, entries, lookup_map_rename hf, values]
  cases h.children.lookup id <;> rfl

/-- The walk with its stack commutes with an injective renaming. -/
theorem visit_rename (visits : Nat) (stack : List (Text × Nat)) :
    (h.rename f).visit visits (stack.map (renameEntry f))
      = (h.visit visits stack).map (renameEntry f) := by
  induction visits generalizing stack with
  | zero => rfl
  | succ visits ih =>
    cases stack with
    | nil => rfl
    | cons e stack =>
      obtain ⟨id, depth⟩ := e
      have below : ((h.rename f).childrenOf (f id)).map (·, depth + 1)
          = ((h.childrenOf id).map (·, depth + 1)).map (renameEntry f) := by
        rw [childrenOf_rename hf, List.map_map, List.map_map]
        rfl
      rw [List.map_cons, renameEntry, visit, visit, below, ← List.map_append, ih, List.map_cons,
        renameEntry]

theorem walk_rename : (h.rename f).walk = h.walk.map (renameEntry f) := by
  have roots : (h.rename f).roots.map (·, 0) = (h.roots.map (·, 0)).map (renameEntry f) := by
    rw [rename, List.map_map, List.map_map]
    rfl
  rw [walk, walk, roots, visit_rename hf, rename, List.length_map]

end Hierarchy

/-! ## Identifiers -/

theorem set_map_rename {α : Type} (name : Text) (value : α) (table : Table α) :
    Table.set (f name) value (table.map (renameEntry f))
      = (Table.set name value table).map (renameEntry f) := by
  induction table with
  | nil => rfl
  | cons e table ih =>
    obtain ⟨key, other⟩ := e
    simp only [List.map_cons, renameEntry, Table.set, hf.eq_iff, ih]
    split <;> rfl

theorem ofList_map_rename {α : Type} (entries : List (Text × α)) :
    Table.ofList (entries.map (renameEntry f)) = (Table.ofList entries).map (renameEntry f) := by
  have step : ∀ (es : List (Text × α)) (table : Table α),
      (es.map (renameEntry f)).foldl (fun table e => Table.set e.1 e.2 table)
          (table.map (renameEntry f))
        = (es.foldl (fun table e => Table.set e.1 e.2 table) table).map (renameEntry f) := by
    intro es
    induction es with
    | nil => exact fun _ => rfl
    | cons e es ih =>
      intro table
      rw [List.map_cons, List.foldl_cons, List.foldl_cons, ← ih, ← set_map_rename hf]
      rfl
  exact step entries []

theorem get?_agentIdentifiers_rename (agents : List Agent) (id : Text) :
    Table.get? (agentIdentifiers (agents.map (Agent.rename f))) (f id)
      = Table.get? (agentIdentifiers agents) id := by
  have names : (agents.map (Agent.rename f)).map (fun a => Naming.identifier a.name)
      = agents.map fun a => Naming.identifier a.name := by
    rw [List.map_map]
    rfl
  have ids : (agents.map (Agent.rename f)).map (·.id) = (agents.map (·.id)).map f := by
    rw [List.map_map, List.map_map]
    rfl
  have entries : ∀ names : List Text, ((agents.map (·.id)).map f).zip names
      = ((agents.map (·.id)).zip names).map (renameEntry f) := by
    intro names
    rw [List.zip_map_left]
    rfl
  rw [agentIdentifiers, names, ids, entries, ofList_map_rename hf, Table.get?,
    lookup_map_rename hf]
  rfl

end Rename

/-! ## Agents that keep their ids -/

section Kept

variable {g : Agent → Agent} (ids : ∀ a, (g a).id = a.id)

include ids

theorem Hierarchy.agent?_map (agents : List Agent) (id : Text) :
    agent? (agents.map g) id = (agent? agents id).map g := by
  rw [agent?, agent?, List.find?_map]
  simp only [Function.comp_def, ids]

theorem agentIdentifiers_map (names : ∀ a, (g a).name = a.name) (agents : List Agent) :
    agentIdentifiers (agents.map g) = agentIdentifiers agents := by
  simp only [agentIdentifiers, List.map_map, Function.comp_def, ids, names]

end Kept

/-! ## Tools without ids -/

theorem Hierarchy.resolve_withoutToolIds (agents : List Agent) (kind : WorkflowKind) :
    resolve (agents.map Agent.withoutToolIds) kind = resolve agents kind := by
  refine resolve_of_sameLinks ?_ kind
  rw [SameLinks, List.forall₂_map_left_iff]
  exact List.forall₂_same.mpr fun _ _ => ⟨rfl, rfl⟩

namespace Tools

theorem keepFirst_withoutIds (seen : List Text) (tools : List Tool) :
    keepFirst seen (tools.map Tool.withoutIds) = (keepFirst seen tools).map Tool.withoutIds := by
  induction tools generalizing seen with
  | nil => rfl
  | cons t tools ih =>
    have same : functionOf t.withoutIds = functionOf t := rfl
    rw [List.map_cons, keepFirst, keepFirst, same, ih, ih]
    split <;> rfl

def withoutIds (d : ToolDefinition) : ToolDefinition := { d with tool := d.tool.withoutIds }

theorem catalogue_withoutToolIds (agents : List Agent) :
    catalogue (agents.map Agent.withoutToolIds) = (catalogue agents).map withoutIds := by
  have tools : (agents.map Agent.withoutToolIds).flatMap (·.tools)
      = (agents.flatMap (·.tools)).map Tool.withoutIds := by
    rw [List.flatMap_map, List.map_flatMap]
    rfl
  have schemas : ∀ tools : List Tool, (tools.map Tool.withoutIds).map schemaName
      = tools.map schemaName := by
    intro tools
    rw [List.map_map]
    rfl
  rw [catalogue, catalogue, tools, keepFirst_withoutIds, schemas, List.zipWith_map_left,
    List.map_zipWith]
  rfl

def fieldWithoutId (f : SchemaField) : SchemaField :=
  { f with parameter := f.parameter.withoutId }

theorem schemaFields_withoutIds (t : Tool) :
    schemaFields t.withoutIds = (schemaFields t).map fieldWithoutId := by
  have raw : (t.parameters.map Parameter.withoutId).map (fun p => Naming.identifier p.name)
      = t.parameters.map fun p => Naming.identifier p.name := by
    rw [List.map_map]
    rfl
  rw [schemaFields, schemaFields, Tool.withoutIds, raw, List.zip_map_right,
    List.zipWith_map_right, List.map_zipWith]
  rfl

end Tools

end AgentWorkflow
