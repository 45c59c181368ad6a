import AgentWorkflow.Proofs.Project.Renaming

/-!
# Switching the kind of a workflow

A switch to a flat kind takes the parents away, and a switch to a hierarchy leaves what is there.
So a run of switches does what its last switch does, except that the parents are gone once a flat
kind has been on the way. A flat kind does not look at parents at all, whether they name agents or
not and even where they form a cycle. So a workflow that has been switched to a flat kind is made
into the files that it would be made into with its parents.

Results:
1. `foldl_withKind`: what a run of switches does to a workflow.
2. `generate_withoutParents`: a flat workflow and the same without parents make the same project.
3. `generate_switches`: both together.
-/

namespace AgentWorkflow

def Agent.withoutParent (a : Agent) : Agent := { a with parent := none }

def Workflow.withoutParents (w : Workflow) : Workflow :=
  { w with agents := w.agents.map Agent.withoutParent }

/-! ## Runs of switches -/

/-- The agents behind a run of switches: they keep their parents as long as all is hierarchies. -/
def switchedAgents (kinds : List WorkflowKind) (agents : List Agent) : List Agent :=
  if ∀ kind ∈ kinds, kind = .hierarchical then agents else agents.map Agent.withoutParent

theorem switchAgents_hierarchical (agents : List Agent) :
    switchAgents .hierarchical agents = agents := rfl

theorem switchAgents_flat {kind : WorkflowKind} (flat : kind ≠ .hierarchical)
    (agents : List Agent) : switchAgents kind agents = agents.map Agent.withoutParent := by
  rw [switchAgents, if_neg flat]
  rfl

theorem map_withoutParent_twice (agents : List Agent) :
    (agents.map Agent.withoutParent).map Agent.withoutParent = agents.map Agent.withoutParent := by
  rw [List.map_map]
  rfl

/-- One more switch in front of a run. -/
theorem switchedAgents_cons (kind : WorkflowKind) (kinds : List WorkflowKind)
    (agents : List Agent) :
    switchedAgents kinds (switchAgents kind agents) = switchedAgents (kind :: kinds) agents := by
  by_cases flat : kind = .hierarchical
  · subst flat
    simp [switchedAgents, switchAgents_hierarchical]
  · have mixed : ¬∀ k ∈ kind :: kinds, k = .hierarchical := fun all =>
      flat (all kind List.mem_cons_self)
    rw [switchAgents_flat flat, switchedAgents, switchedAgents, if_neg mixed,
      map_withoutParent_twice, ite_self]

/-- A run of switches leads to the last kind, and the parents are gone if any kind is flat. -/
theorem foldl_withKind (w : Workflow) (kinds : List WorkflowKind) :
    kinds.foldl Workflow.withKind w
      = { w with kind := kinds.getLastD w.kind, agents := switchedAgents kinds w.agents } := by
  induction kinds generalizing w with
  | nil => simp [switchedAgents]
  | cons kind kinds ih =>
    rw [List.foldl_cons, ih, Workflow.withKind, switchedAgents_cons, List.getLastD_cons]

/-! ## Flat workflows -/

theorem Hierarchy.duplicate?_withoutParent (seen : List Text) (agents : List Agent) :
    duplicate? seen (agents.map Agent.withoutParent) = duplicate? seen agents := by
  induction agents generalizing seen with
  | nil => rfl
  | cons a agents ih =>
    rw [List.map_cons, duplicate?, duplicate?, ih]
    rfl

/-- The structure of a flat workflow does not tell whether there are parents. -/
theorem Hierarchy.resolve_withoutParent {kind : WorkflowKind} (flat : kind ≠ .hierarchical)
    (agents : List Agent) :
    resolve (agents.map Agent.withoutParent) kind = resolve agents kind := by
  have structured : Hierarchy.flat kind (agents.map Agent.withoutParent)
      = Hierarchy.flat kind agents := by
    rw [Hierarchy.flat, Hierarchy.flat, List.map_map]
    rfl
  rw [resolve, resolve, duplicate?_withoutParent, if_neg flat, if_neg flat, structured]

theorem Tools.catalogue_withoutParent (agents : List Agent) :
    catalogue (agents.map Agent.withoutParent) = catalogue agents := by
  rw [catalogue, catalogue, List.flatMap_map]
  rfl

theorem Project.readsAlike_withoutParent : ReadsAlike Agent.withoutParent :=
  ⟨fun _ => rfl, fun _ => rfl, fun _ => rfl, fun _ => rfl, fun _ => rfl, fun _ => rfl, fun _ => rfl⟩

/-- A flat workflow is made into the same files without its parents, or refused for the same
reason. -/
theorem generate_withoutParents {w : Workflow} (flat : w.kind ≠ .hierarchical)
    (options : GenerateOptions) : w.withoutParents.generate options = w.generate options := by
  have structured : w.withoutParents.hierarchy = w.hierarchy :=
    Hierarchy.resolve_withoutParent flat w.agents
  rw [Workflow.generate, Workflow.generate, structured]
  cases w.hierarchy with
  | error e => rfl
  | ok h =>
    have shape :=
      Project.sameShape_map Agent.withoutParent (fun _ => rfl) (fun _ => rfl) w.agents h
    have made := Project.files_map Project.readsAlike_withoutParent shape options
      (by rw [Tools.catalogue_withoutParent])
    exact congrArg Except.ok made

/-! ## Both together -/

/-- A run of switches changes nothing but the kind, which is the last one, and the parents, which
stay as they are if every kind is a hierarchy and are gone otherwise. Behind a flat kind, the
project is that of the workflow with only its kind replaced. -/
theorem generate_switches (w : Workflow) (kinds : List WorkflowKind) :
    kinds.foldl Workflow.withKind w = { w with
      kind := kinds.getLastD w.kind
      agents := if ∀ kind ∈ kinds, kind = .hierarchical then w.agents
        else w.agents.map fun a => { a with parent := none } } ∧
    ∀ kind, kinds.getLast? = some kind → kind ≠ .hierarchical → ∀ options,
      (kinds.foldl Workflow.withKind w).generate options
        = { w with kind := kind }.generate options := by
  refine ⟨foldl_withKind w kinds, fun kind last flat options => ?_⟩
  have mixed : ¬∀ k ∈ kinds, k = .hierarchical := fun all =>
    flat (all kind (List.mem_of_getLast? last))
  have switched : kinds.foldl Workflow.withKind w
      = { w with kind := kind : Workflow }.withoutParents := by
    rw [foldl_withKind, switchedAgents, if_neg mixed, List.getLastD_eq_getLast?, last]
    rfl
  rw [switched]
  exact generate_withoutParents flat options

/-- A hierarchy in which two agents are each other's parents and a third has a parent that is not
there. -/
def knot : Workflow where
  kind := .hierarchical
  agents :=
    [{ id := "a", name := "One", parent := some "b" }, { id := "b", name := "Two", parent := some "a" },
     { id := "c", name := "Three", parent := some "d" }]

/-- The knot is no hierarchy, and as a collaborative workflow it can be generated with its parents
or without. -/
theorem knot_switched : (∃ e, knot.generate {} = .error e) ∧ ∃ files,
    { knot with kind := .collaborative }.generate {} = .ok files ∧
    ([.sequential, .hierarchical, .collaborative].foldl Workflow.withKind knot).generate {}
      = .ok files := by
  refine ⟨⟨.cycle ["a", "b"], rfl⟩, _, rfl, ?_⟩
  exact (generate_switches knot _).2 .collaborative rfl (by decide) {}

end AgentWorkflow
