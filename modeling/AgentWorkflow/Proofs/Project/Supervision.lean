import AgentWorkflow.Proofs.Project.Program

/-!
# Who reports to whom

The program of a hierarchical workflow tells the structure of its agents: under the identifier of
each supervisor it lists those of its direct reports. Read back through the identifiers, which are
distinct, these are the child lists of the hierarchy, each once, in the order of the walk.

Results:
1. `supervises_forest`: the entries are the child lists, and place every agent once.
2. `generate_mirrors_hierarchy`: what the program tells of a workflow is its structure.
-/

namespace AgentWorkflow

namespace Hierarchy

open Project

variable {agents : List Agent}

/-- The supervisors in the order of the walk, each with its reports. -/
def supervisors (h : Hierarchy) : List (Text × List Text) :=
  (h.walk.filter fun (id, _) => !(h.childrenOf id).isEmpty).map fun (id, _) => (id, h.childrenOf id)

/-- The entries are the child lists of a hierarchy: one for each supervisor, an agent with a parent
among them under its parent and nowhere else, the reports in input order, and no root. -/
structure Supervises (agents : List Agent) (h : Hierarchy) (entries : List (Text × List Text)) :
    Prop where
  perm : entries.Perm h.children
  nonempty : ∀ e ∈ entries, e.2 ≠ []
  keys_nodup : (entries.map (·.1)).Nodup
  nodup : (entries.flatMap (·.2)).Nodup
  mem_iff : ∀ x y, (∃ e ∈ entries, e.1 = y ∧ x ∈ e.2) ↔ Reports agents x y
  sublist : ∀ e ∈ entries, e.2.Sublist (agents.map (·.id))
  roots : ∀ x ∈ h.roots, x ∉ entries.flatMap (·.2)

theorem mem_parents {y : Text} :
    y ∈ agents.filterMap (parentIn agents) ↔ ∃ x, Reports agents x y := by
  rw [List.mem_filterMap]
  constructor
  · rintro ⟨a, ha, hy⟩
    obtain ⟨parent, known⟩ := parentIn_eq_some.mp hy
    exact ⟨a.id, known, a, ha, rfl, parent⟩
  · rintro ⟨x, known, a, ha, -, parent⟩
    exact ⟨a, ha, parentIn_eq_some.mpr ⟨parent, known⟩⟩

theorem mem_children {y : Text} {ys : List Text} : (y, ys) ∈ (forest agents).children ↔
    (∃ x, Reports agents x y) ∧ ys = (forest agents).childrenOf y := by
  rw [childrenOf_forest, ← mem_parents]
  simp only [forest, List.mem_map, List.mem_eraseDups, Prod.mk.injEq]
  constructor
  · rintro ⟨p, hp, rfl, rfl⟩
    exact ⟨hp, rfl⟩
  · rintro ⟨hp, rfl⟩
    exact ⟨y, hp, rfl, rfl⟩

section Walk

variable (walks : WalksInPreorder agents (forest agents))

include walks

/-- A supervisor is an agent that someone reports to, listed with its children. -/
theorem mem_supervisors {y : Text} {ys : List Text} : (y, ys) ∈ (forest agents).supervisors ↔
    (∃ x, Reports agents x y) ∧ ys = (forest agents).childrenOf y := by
  have some_child : (forest agents).childrenOf y ≠ [] ↔ ∃ x, Reports agents x y := by
    constructor
    · intro busy
      obtain ⟨x, hx⟩ := List.exists_mem_of_ne_nil _ busy
      exact ⟨x, mem_childrenOf.mp hx⟩
    · rintro ⟨x, hx⟩
      exact List.ne_nil_of_mem (mem_childrenOf.mpr hx)
  rw [← some_child]
  simp only [supervisors, List.mem_map, List.mem_filter, Prod.mk.injEq]
  constructor
  · rintro ⟨⟨id, depth⟩, ⟨-, busy⟩, rfl, rfl⟩
    exact ⟨by simpa using busy, rfl⟩
  · rintro ⟨busy, rfl⟩
    obtain ⟨x, hx⟩ := some_child.mp busy
    obtain ⟨⟨id, depth⟩, visited, rfl⟩ := List.mem_map.mp (walks.perm.mem_iff.mpr hx.1)
    exact ⟨(id, depth), ⟨visited, by simpa using busy⟩, rfl, rfl⟩

theorem nodup_keys_supervisors : ((forest agents).supervisors.map (·.1)).Nodup := by
  rw [supervisors, List.map_map]
  exact (List.filter_sublist.map Prod.fst).nodup walks.nodup

/-- The supervisors of a forest are the agents with someone below them, each with all of those. -/
theorem supervises_forest (hn : (agents.map (·.id)).Nodup) :
    Supervises agents (forest agents) (forest agents).supervisors := by
  have keys := nodup_keys_supervisors walks
  have children : (forest agents).children.Nodup :=
    (nodup_eraseDups _).map fun _ _ same => congrArg Prod.fst same
  have perm : (forest agents).supervisors.Perm (forest agents).children := by
    refine (List.perm_ext_iff_of_nodup (List.Nodup.of_map _ keys) children).mpr fun ⟨y, ys⟩ => ?_
    rw [mem_supervisors walks, mem_children]
  have listed : ∀ x, x ∈ (forest agents).supervisors.flatMap (·.2) ↔ ∃ y, Reports agents x y := by
    intro x
    rw [(perm.flatMap_right _).mem_iff, mem_flatMap_children]
  refine ⟨perm, ?_, keys, (perm.flatMap_right _).nodup_iff.mpr (nodup_flatMap_children hn),
    ?_, ?_, ?_⟩
  · rintro ⟨y, ys⟩ he
    obtain ⟨⟨x, hx⟩, rfl⟩ := (mem_supervisors walks).mp he
    exact List.ne_nil_of_mem (mem_childrenOf.mpr hx)
  · intro x y
    constructor
    · rintro ⟨⟨_, ys⟩, he, rfl, hx⟩
      obtain ⟨-, rfl⟩ := (mem_supervisors walks).mp he
      exact mem_childrenOf.mp hx
    · intro hx
      exact ⟨(y, _), (mem_supervisors walks).mpr ⟨⟨x, hx⟩, rfl⟩, rfl, mem_childrenOf.mpr hx⟩
  · rintro ⟨y, ys⟩ he
    obtain ⟨-, rfl⟩ := (mem_supervisors walks).mp he
    rw [childrenOf_forest]
    exact childIds_sublist agents y
  · intro x hroot hlisted
    obtain ⟨y, hy⟩ := (listed x).mp hlisted
    exact ((mem_roots hn).mp hroot).2 y hy

end Walk

end Hierarchy

namespace Project

open Source
open Hierarchy (Supervises)

/-! ## Identifiers for ids -/

/-- The names under which a program tells the reports of a supervisor. -/
def renamed (agents : List Agent) (e : Text × List Text) : Text × List Text :=
  (identifierOf agents e.1, e.2.map (identifierOf agents))

theorem reports_forest (agents : List Agent) :
    (Assembly.ofHierarchy (agentIdentifiers agents) (Hierarchy.forest agents)).reports
      = (Hierarchy.forest agents).supervisors.map (renamed agents) := by
  rw [Hierarchy.supervisors, List.map_map]
  rfl

section Renamed

variable {agents : List Agent} {h : Hierarchy} {entries : List (Text × List Text)}
variable (hs : Supervises agents h entries) (hn : (agents.map (·.id)).Nodup)

include hs hn

theorem nodup_keys_renamed : ((entries.map (renamed agents)).map (·.1)).Nodup := by
  have known : ∀ y ∈ entries.map (·.1), y ∈ agents.map (·.id) := by
    intro y hy
    obtain ⟨e, he, rfl⟩ := List.mem_map.mp hy
    obtain ⟨x, hx⟩ := List.exists_mem_of_ne_nil _ (hs.nonempty e he)
    exact ((hs.mem_iff x e.1).mp ⟨e, he, rfl, hx⟩).1
  have keys : (entries.map (renamed agents)).map (·.1)
      = (entries.map (·.1)).map (identifierOf agents) := by
    rw [List.map_map, List.map_map]
    rfl
  rw [keys]
  exact hs.keys_nodup.map_on fun x hx y hy same =>
    injOn_identifierOf hn (known x hx) (known y hy) same

/-- No two agents share an identifier, so reports stay apart when they are named by it. -/
theorem nodup_reports_renamed : ((entries.map (renamed agents)).flatMap (·.2)).Nodup := by
  have known : ∀ x ∈ entries.flatMap (·.2), x ∈ agents.map (·.id) := by
    intro x hx
    obtain ⟨e, he, hx⟩ := List.mem_flatMap.mp hx
    exact (hs.sublist e he).subset hx
  have reports : (entries.map (renamed agents)).flatMap (·.2)
      = (entries.flatMap (·.2)).map (identifierOf agents) := by
    rw [List.flatMap_map, List.map_flatMap]
    rfl
  rw [reports]
  exact hs.nodup.map_on fun x hx y hy same =>
    injOn_identifierOf hn (known x hx) (known y hy) same

end Renamed

/-! ## The program -/

/-- What a program tells of a workflow is its structure, with identifiers for ids. -/
structure MirrorsHierarchy (w : Workflow) (h : Hierarchy) (r : WorkflowReading) : Prop where
  kind : r.kind = w.kind.name
  agents : r.agents = w.agents.map (variableOf w)
  agents_nodup : r.agents.Nodup
  injective : ∀ x ∈ w.agents.map (·.id), ∀ y ∈ w.agents.map (·.id),
    identifierOf w.agents x = identifierOf w.agents y → x = y
  flat : w.kind ≠ .hierarchical → r.reports? = none
  supervision : w.kind = .hierarchical → ∃ entries, Supervises w.agents h entries ∧
    r.reports? = some (entries.map (renamed w.agents))
  keys_nodup : ∀ reports, r.reports? = some reports → (reports.map (·.1)).Nodup
  reports_nodup : ∀ reports, r.reports? = some reports → (reports.flatMap (·.2)).Nodup

/-- The call that makes the workflow lists every agent once and, in a hierarchy, every
supervisor with the agents below it, as the child lists have them. -/
theorem generate_mirrors_hierarchy (options : GenerateOptions) {w : Workflow} {h : Hierarchy}
    (ne : w.agents ≠ []) (hh : w.hierarchy = .ok h) :
    ∃ files program functions statements r, w.generate options = .ok files ∧
      Table.get? files mainName = some program ∧ functions? program = some functions ∧
      chat? functions = some statements ∧
      statements.filterMap instance? = w.agents.map (fun a => (variableOf w a, factoryOf w a)) ∧
      workflow? statements = some r ∧ MirrorsHierarchy w h r := by
  obtain ⟨files, program, functions, generated, found, read, -, -, chat⟩ :=
    exists_functions options ne hh
  obtain ⟨hn, cases⟩ := hierarchy_cases hh
  have injective : ∀ x ∈ w.agents.map (·.id), ∀ y ∈ w.agents.map (·.id),
      identifierOf w.agents x = identifierOf w.agents y → x = y :=
    fun _ hx _ hy same => injOn_identifierOf hn hx hy same
  have kind : (Assembly.ofHierarchy (agentIdentifiers w.agents) h).kind = w.kind := kind_eq hh
  refine ⟨files, program, functions, _, _, generated, found, read, chat, instances_eq hh,
    workflow?_chatStatements fun _ => Assembly.isWord_of_mem_members, ?_⟩
  rw [kind, members_eq hh, List.map_map]
  rcases cases with ⟨hierarchical, rfl, grounded⟩ | ⟨flat, rfl⟩
  · have supervises := Hierarchy.supervises_forest (Hierarchy.walksInPreorder_forest hn grounded) hn
    rw [if_pos hierarchical, reports_forest]
    refine ⟨rfl, rfl, nodup_variableOf hn, injective, fun flat => absurd hierarchical flat,
      fun _ => ⟨_, supervises, rfl⟩, ?_, ?_⟩
    · rintro _ ⟨⟩
      exact nodup_keys_renamed supervises hn
    · rintro _ ⟨⟩
      exact nodup_reports_renamed supervises hn
  · rw [if_neg flat]
    refine ⟨rfl, rfl, nodup_variableOf hn, injective, fun _ => rfl,
      fun hierarchical => absurd hierarchical flat, ?_, ?_⟩
    · rintro _ ⟨⟩
    · rintro _ ⟨⟩

/-- A supervisor between its two reports, which have one name, and a root that has the name of the
supervisor and a parent that is none of the agents. -/
def team : Workflow where
  kind := .hierarchical
  agents :=
    [{ id := "c", name := "Worker", parent := some "top" }, { id := "top", name := "Lead" },
     { id := "d", name := "Worker", parent := some "top" },
     { id := "stray", name := "Lead", parent := some "nobody" }]

/-- The hypotheses hold of a team in which two leads and two workers share their names. -/
theorem team_mirrored :
    ∃ files program functions statements r, team.generate {} = .ok files ∧
      Table.get? files mainName = some program ∧ functions? program = some functions ∧
      chat? functions = some statements ∧ workflow? statements = some r ∧
      r.agents = [("agent_worker" : Text), "agent_lead", "agent_worker_2", "agent_lead_2"] ∧
      r.reports? = some [(("lead" : Text), [("worker" : Text), "worker_2"])] ∧
      MirrorsHierarchy team (Hierarchy.forest team.agents) r := by
  obtain ⟨files, program, functions, statements, r, generated, found, read, chat, -, joined,
    mirrors⟩ := generate_mirrors_hierarchy {} (w := team) (h := Hierarchy.forest team.agents)
      (List.cons_ne_nil _ _) (by decide)
  refine ⟨files, program, functions, statements, r, generated, found, read, chat, joined,
    mirrors.agents.trans (by decide), ?_, mirrors⟩
  obtain ⟨entries, supervises, told⟩ := mirrors.supervision rfl
  have children : (Hierarchy.forest team.agents).children
      = [(("top" : Text), [("c" : Text), "d"])] := by decide
  have perm := supervises.perm
  rw [children] at perm
  rw [told, List.perm_singleton.mp perm]
  decide

end Project

end AgentWorkflow
