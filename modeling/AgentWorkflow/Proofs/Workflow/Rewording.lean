import AgentWorkflow.Tools.Catalogue
import AgentWorkflow.Workflow.Family
import AgentWorkflow.Workflow.Hierarchy
import Mathlib.Data.List.Forall2

/-!
# Reworded workflows

A workflow is *reworded* when nothing changes but free text: prompts, welcome messages,
placeholders, descriptions, names of agents that make the same identifier, and models of the same
family. What a generated project is built around does not depend on the wording.

Results:
1. `Workflow.Reworded.hierarchy_eq`: the structure of the agents, or the error that there is none.
2. `agentIdentifiers_eq_of_reworded`, `usesFamily_eq_of_reworded`, `usesOther_eq_of_reworded`: the
   identifiers of the agents and the clients they need.
3. `Tools.catalogue_reworded`, `Tools.schemaFields_reworded`: the names of tools, of the classes of
   their inputs and of the fields in them.
-/

namespace AgentWorkflow

/-! ## Free text -/

/-- Two parameters that differ at most in their description. -/
structure Parameter.Reworded (p q : Parameter) : Prop where
  id : p.id = q.id
  name : p.name = q.name
  type : p.type = q.type
  required : p.required = q.required

/-- Two tools that differ at most in descriptions. -/
structure Tool.Reworded (t u : Tool) : Prop where
  id : t.id = u.id
  name : t.name = u.name
  parameters : List.Forall₂ Parameter.Reworded t.parameters u.parameters

/-- Two agents that differ at most in their prompt, their welcome message, their placeholder, the
descriptions of their tools, a name that makes the same identifier and a model of the same
family. -/
structure Agent.Reworded (a b : Agent) : Prop where
  id : a.id = b.id
  identifier : Naming.identifier a.name = Naming.identifier b.name
  tools : List.Forall₂ Tool.Reworded a.tools b.tools
  parent : a.parent = b.parent
  family : a.family? = b.family?
  temperature : a.temperature = b.temperature

/-- Two workflows that differ at most in the free text of their agents. -/
structure Workflow.Reworded (v w : Workflow) : Prop where
  agents : List.Forall₂ Agent.Reworded v.agents w.agents
  deployment : v.deployment = w.deployment
  kind : v.kind = w.kind

theorem Tool.Reworded.refl (t : Tool) : t.Reworded t :=
  ⟨rfl, rfl, List.forall₂_same.mpr fun _ _ => ⟨rfl, rfl, rfl, rfl⟩⟩

theorem Agent.Reworded.refl (a : Agent) : a.Reworded a :=
  ⟨rfl, rfl, List.forall₂_same.mpr fun t _ => .refl t, rfl, rfl, rfl⟩

theorem Workflow.Reworded.refl (w : Workflow) : w.Reworded w :=
  ⟨List.forall₂_same.mpr fun a _ => .refl a, rfl, rfl⟩

/-! ## Lists of related items -/

section Related

variable {α β γ : Type} {R : α → β → Prop} {xs : List α} {ys : List β}

theorem map_eq_of_forall₂ {f : α → γ} {g : β → γ} (h : List.Forall₂ R xs ys)
    (hfg : ∀ x y, R x y → f x = g y) : xs.map f = ys.map g := by
  induction h with
  | nil => rfl
  | cons hxy _ ih => rw [List.map_cons, List.map_cons, hfg _ _ hxy, ih]

theorem filterMap_eq_of_forall₂ {f : α → Option γ} {g : β → Option γ} (h : List.Forall₂ R xs ys)
    (hfg : ∀ x y, R x y → f x = g y) : xs.filterMap f = ys.filterMap g := by
  induction h with
  | nil => rfl
  | cons hxy _ ih => rw [List.filterMap_cons, List.filterMap_cons, hfg _ _ hxy, ih]

theorem any_eq_of_forall₂ {p : α → Bool} {q : β → Bool} (h : List.Forall₂ R xs ys)
    (hpq : ∀ x y, R x y → p x = q y) : xs.any p = ys.any q := by
  induction h with
  | nil => rfl
  | cons hxy _ ih => rw [List.any_cons, List.any_cons, hpq _ _ hxy, ih]

theorem filter_forall₂ {p : α → Bool} {q : β → Bool} (h : List.Forall₂ R xs ys)
    (hpq : ∀ x y, R x y → p x = q y) : List.Forall₂ R (xs.filter p) (ys.filter q) := by
  induction h with
  | nil => exact .nil
  | @cons x y _ _ hxy _ ih =>
    rw [List.filter_cons, List.filter_cons, hpq x y hxy]
    split
    · exact .cons hxy ih
    · exact ih

end Related

/-! ## The structure of the agents -/

namespace Hierarchy

/-- `SameLinks as bs`: the agents have the same ids and parents, one by one. -/
def SameLinks (as bs : List Agent) : Prop :=
  List.Forall₂ (fun a b : Agent => a.id = b.id ∧ a.parent = b.parent) as bs

variable {as bs : List Agent}

theorem map_id_eq_of_sameLinks (h : SameLinks as bs) : as.map (·.id) = bs.map (·.id) :=
  map_eq_of_forall₂ h fun _ _ hab => hab.1

theorem agent?_of_sameLinks (h : SameLinks as bs) (id : Text) :
    (agent? as id).map (·.parent) = (agent? bs id).map (·.parent) := by
  induction h with
  | nil => rfl
  | @cons a b _ _ hab _ ih =>
    simp only [agent?, List.find?_cons, hab.1] at ih ⊢
    split
    · simp [hab.2]
    · exact ih

theorem parentIn_of_sameLinks (h : SameLinks as bs) {a b : Agent} (hab : a.parent = b.parent) :
    parentIn as a = parentIn bs b := by
  have known : ∀ p, (agent? as p).isSome = (agent? bs p).isSome := by
    intro p
    simpa using congrArg Option.isSome (agent?_of_sameLinks h p)
  simp [parentIn, hab, known]

theorem duplicate?_of_sameLinks (h : SameLinks as bs) (seen : List Text) :
    duplicate? seen as = duplicate? seen bs := by
  induction h generalizing seen with
  | nil => rfl
  | cons hab _ ih => simp only [duplicate?, hab.1, ih]

/-- Descriptions are not looked at when the parents are followed. -/
theorem follow_of_sameLinks (h : SameLinks as bs) (settled : List Text) (steps : Nat)
    (path : List Text) (next : Option Text) :
    follow as settled steps path next = follow bs settled steps path next := by
  induction steps generalizing path next with
  | zero =>
    cases next with
    | none => rfl
    | some id =>
      have hlinks := agent?_of_sameLinks h id
      cases ha : agent? as id <;> cases hb : agent? bs id <;> simp_all [follow]
  | succ steps ih =>
    cases next with
    | none => rfl
    | some id =>
      have hlinks := agent?_of_sameLinks h id
      cases ha : agent? as id <;> cases hb : agent? bs id <;> simp_all [follow]

theorem checkForest_of_sameLinks (h : SameLinks as bs) (settled starts : List Text) :
    checkForest as settled starts = checkForest bs settled starts := by
  induction starts generalizing settled with
  | nil => rfl
  | cons start rest ih =>
    simp only [checkForest, h.length_eq, follow_of_sameLinks h, ih]

/-- The forest depends on ids and parents only. -/
theorem forest_of_sameLinks (h : SameLinks as bs) : forest as = forest bs := by
  have roots : (as.filter fun a => (parentIn as a).isNone).map (·.id)
      = (bs.filter fun b => (parentIn bs b).isNone).map (·.id) :=
    map_id_eq_of_sameLinks
      (filter_forall₂ h fun a b hab => by rw [parentIn_of_sameLinks h hab.2])
  have supervisors : as.filterMap (parentIn as) = bs.filterMap (parentIn bs) :=
    filterMap_eq_of_forall₂ h fun a b hab => parentIn_of_sameLinks h hab.2
  have children : ∀ p, childIds as p = childIds bs p := fun p =>
    map_id_eq_of_sameLinks
      (filter_forall₂ h fun a b hab => by rw [parentIn_of_sameLinks h hab.2])
  simp only [forest, map_id_eq_of_sameLinks h, roots, supervisors, children]

theorem resolve_of_sameLinks (h : SameLinks as bs) (kind : WorkflowKind) :
    resolve as kind = resolve bs kind := by
  simp only [resolve, duplicate?_of_sameLinks h, checkForest_of_sameLinks h, forest_of_sameLinks h,
    map_id_eq_of_sameLinks h, flat]

end Hierarchy

/-! ## What does not depend on the wording -/

section Reworded

variable {as bs : List Agent}

theorem Workflow.Reworded.hierarchy_eq {v w : Workflow} (h : v.Reworded w) :
    v.hierarchy = w.hierarchy := by
  rw [Workflow.hierarchy, Workflow.hierarchy, h.kind]
  exact Hierarchy.resolve_of_sameLinks (h.agents.imp fun _ _ hab => ⟨hab.id, hab.parent⟩) w.kind

theorem agentIdentifiers_eq_of_reworded (h : List.Forall₂ Agent.Reworded as bs) :
    agentIdentifiers as = agentIdentifiers bs := by
  rw [agentIdentifiers, agentIdentifiers, map_eq_of_forall₂ h fun _ _ hab => hab.id,
    map_eq_of_forall₂ h fun _ _ hab => hab.identifier]

theorem usesFamily_eq_of_reworded (h : List.Forall₂ Agent.Reworded as bs) (family : ModelFamily) :
    usesFamily as family = usesFamily bs family :=
  any_eq_of_forall₂ h fun _ _ hab => by rw [hab.family]

theorem usesOther_eq_of_reworded (h : List.Forall₂ Agent.Reworded as bs) :
    usesOther as = usesOther bs :=
  any_eq_of_forall₂ h fun _ _ hab => by rw [hab.family]

end Reworded

/-! ## The catalogue -/

/-- Two definitions of one name whose tools differ at most in descriptions. -/
structure ToolDefinition.Reworded (d e : ToolDefinition) : Prop where
  function : d.function = e.function
  schema : d.schema = e.schema
  tool : d.tool.Reworded e.tool

/-- Two fields of one name whose parameters differ at most in their description. -/
structure SchemaField.Reworded (f g : SchemaField) : Prop where
  name : f.name = g.name
  alias? : f.alias? = g.alias?
  parameter : f.parameter.Reworded g.parameter

namespace Tools

theorem functionOf_eq_of_reworded {t u : Tool} (h : t.Reworded u) : functionOf t = functionOf u := by
  rw [functionOf, functionOf, h.name]

theorem keepFirst_reworded {ts us : List Tool} (h : List.Forall₂ Tool.Reworded ts us)
    (seen : List Text) : List.Forall₂ Tool.Reworded (keepFirst seen ts) (keepFirst seen us) := by
  induction h generalizing seen with
  | nil => exact .nil
  | cons htu _ ih =>
    simp only [keepFirst, functionOf_eq_of_reworded htu]
    split
    · exact ih seen
    · exact .cons htu (ih _)

theorem functionsOf_eq_of_reworded {a b : Agent} (h : a.Reworded b) :
    functionsOf a = functionsOf b := by
  rw [functionsOf, functionsOf,
    map_eq_of_forall₂ h.tools fun _ _ htu => functionOf_eq_of_reworded htu]

/-- Which tools are kept hangs on their names, so the catalogues differ in descriptions only. -/
theorem catalogue_reworded {as bs : List Agent} (h : List.Forall₂ Agent.Reworded as bs) :
    List.Forall₂ ToolDefinition.Reworded (catalogue as) (catalogue bs) := by
  have tools : List.Forall₂ Tool.Reworded (as.flatMap (·.tools)) (bs.flatMap (·.tools)) :=
    List.rel_flatMap h fun _ _ hab => hab.tools
  have kept := keepFirst_reworded tools []
  have named : ∀ {ts us : List Tool}, List.Forall₂ Tool.Reworded ts us → ∀ names : List Text,
      List.Forall₂ ToolDefinition.Reworded
        (ts.zipWith (fun t schema => { function := functionOf t, schema, tool := t }) names)
        (us.zipWith (fun t schema => { function := functionOf t, schema, tool := t }) names) := by
    intro ts us h
    induction h with
    | nil => exact fun _ => .nil
    | cons htu _ ih =>
      intro names
      cases names with
      | nil => exact .nil
      | cons name names =>
        have same := functionOf_eq_of_reworded htu
        exact .cons ⟨same, rfl, htu⟩ (ih names)
  have schemas := map_eq_of_forall₂ (f := schemaName) (g := schemaName) kept fun t u htu => by
    rw [schemaName, schemaName, htu.name]
  simp only [catalogue, schemas]
  exact named kept _

theorem schemaFields_reworded {t u : Tool} (h : t.Reworded u) :
    List.Forall₂ SchemaField.Reworded (schemaFields t) (schemaFields u) := by
  have raw := map_eq_of_forall₂ (f := fun p : Parameter => Naming.identifier p.name)
    (g := fun p : Parameter => Naming.identifier p.name) h.parameters fun p q hpq => by rw [hpq.name]
  have fields : ∀ {ps qs : List Parameter}, List.Forall₂ Parameter.Reworded ps qs →
      ∀ names wanted : List Text, List.Forall₂ SchemaField.Reworded
        (names.zipWith (fun name entry =>
          { name, alias? := if name ≠ entry.1 && isReserved entry.1 then some entry.1 else none,
            parameter := entry.2 }) (wanted.zip ps))
        (names.zipWith (fun name entry =>
          { name, alias? := if name ≠ entry.1 && isReserved entry.1 then some entry.1 else none,
            parameter := entry.2 }) (wanted.zip qs)) := by
    intro ps qs h
    induction h with
    | nil => simp
    | cons hpq _ ih =>
      intro names wanted
      cases names with
      | nil => simp
      | cons name names =>
        cases wanted with
        | nil => simp
        | cons first wanted => exact .cons ⟨rfl, rfl, hpq⟩ (ih names wanted)
  simp only [schemaFields, raw]
  exact fields h.parameters _ _

end Tools

end AgentWorkflow
