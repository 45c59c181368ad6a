import AgentWorkflow.Proofs.Project.Program
import AgentWorkflow.Proofs.Text.LineCount

/-!
# The agents in the guide

The guide lists the agents below a sentence on how they work together: one entry for each agent, or
two when the agents hand work on. An entry begins on a line of its own, and between the entries
there is nothing but the line feed. Names, models and tools stand in the entries as they are, so a
line end in one of them breaks its entry, and the rest of the entry is one more line that looks like
any other.

Results:
1. `map_ranked`, `perm_ranked`: the agents of a hierarchy in the order of its walk.
2. `lineEnds_agentEntries`: the line ends in the entries are those that the agents bring along.
3. `generate_lists_agents`: the entries, and how many lines they take up.
-/

namespace AgentWorkflow

namespace Hierarchy

variable {agents : List Agent}

theorem agent?_id (hn : (agents.map (·.id)).Nodup) {a : Agent} (ha : a ∈ agents) :
    agent? agents a.id = some a := by
  cases found : agent? agents a.id with
  | none => exact absurd (List.mem_map_of_mem ha) (agent?_eq_none.mp found)
  | some b =>
    obtain ⟨hb, same⟩ := mem_of_agent? found
    rw [eq_of_id_eq hn hb ha same]

theorem filterMap_agent? (hn : (agents.map (·.id)).Nodup) :
    (agents.map (·.id)).filterMap (agent? agents) = agents := by
  rw [List.filterMap_map]
  exact (List.filterMap_congr fun a ha => agent?_id hn ha).trans List.filterMap_some

end Hierarchy

namespace Project

open Hierarchy Text

/-! ## The order of the agents -/

section Order

variable {agents : List Agent} {h : Hierarchy}

/-- An agent of a ranking as the walk has it. -/
def place (entry : Nat × Agent) : Text × Nat := (entry.2.id, entry.1)

theorem map_ranked (known : ∀ id ∈ h.walk.map (·.1), id ∈ agents.map (·.id)) :
    (ranked agents h).map place = h.walk := by
  rw [ranked, List.map_filterMap]
  refine (List.filterMap_congr fun entry he => ?_).trans List.filterMap_some
  cases found : Hierarchy.agent? agents entry.1 with
  | none => exact absurd (known _ (List.mem_map_of_mem he)) (agent?_eq_none.mp found)
  | some a => simp [found, place, (mem_of_agent? found).2]

theorem perm_ranked (hn : (agents.map (·.id)).Nodup)
    (perm : (h.walk.map (·.1)).Perm (agents.map (·.id))) :
    ((ranked agents h).map (·.2)).Perm agents := by
  have shape : (ranked agents h).map (·.2)
      = (h.walk.map (·.1)).filterMap (Hierarchy.agent? agents) := by
    rw [ranked, List.map_filterMap, List.filterMap_map]
    refine List.filterMap_congr fun entry _ => ?_
    simp [Function.comp_def]
  have found := perm.filterMap (Hierarchy.agent? agents)
  rwa [← shape, filterMap_agent? hn] at found

end Order

/-! ## Line ends -/

section Ends

variable {ends : CodePoint → Bool}

/-- What an agent brings into the guide. -/
def brought (a : Agent) : Text := a.name ++ a.model ++ a.tools.flatMap (·.name)

variable (he : EndsLines ends)

include he

theorem lineEnds_agentTitle (a : Agent) :
    (agentTitle a).lineEnds ends = a.name.lineEnds ends + a.model.lineEnds ends := by
  have between := lineEnds_of_isPrintableAscii he (show isPrintableAscii "** (LLM: `" by decide)
  have behind := lineEnds_of_isPrintableAscii he (show isPrintableAscii "`)" by decide)
  simp [agentTitle, between, behind]

theorem lineEnds_toolList (a : Agent) :
    (toolList a).lineEnds ends = lineEnds ends (a.tools.flatMap (·.name)) := by
  have quote := lineEnds_of_isPrintableAscii he (show isPrintableAscii "`" by decide)
  rw [toolList, lineEnds_join he (show isPrintableAscii ", " by decide)]
  exact lineEnds_flatMap_congr fun t _ => by simp [quote]

theorem lineEnds_agentEntry (depth : Nat) (a : Agent) :
    (agentEntry depth a).lineEnds ends = (brought a).lineEnds ends := by
  have blanks := lineEnds_of_isPrintableAscii he (isPrintableAscii_replicate (2 * depth))
  have opened := lineEnds_of_isPrintableAscii he (show isPrintableAscii "- **" by decide)
  have tools := lineEnds_of_isPrintableAscii he (show isPrintableAscii " (Tools: " by decide)
  have closed := lineEnds_of_isPrintableAscii he (show isPrintableAscii ")" by decide)
  have suffix : (toolSuffix a).lineEnds ends = lineEnds ends (a.tools.flatMap (·.name)) := by
    rw [toolSuffix]
    split
    next none => rw [List.isEmpty_iff.mp none]; rfl
    next => simp [tools, closed, lineEnds_toolList he]
  simp [agentEntry, blanks, opened, suffix, lineEnds_agentTitle he, brought, Nat.add_assoc]

theorem lineEnds_stepEntries (number : Nat) (agents : List Agent) :
    lineEnds ends (stepEntries number agents).flatten = lineEnds ends (agents.flatMap brought) := by
  have step := lineEnds_of_isPrintableAscii he (show isPrintableAscii "**Step " by decide)
  have colon := lineEnds_of_isPrintableAscii he (show isPrintableAscii ": " by decide)
  have label := lineEnds_of_isPrintableAscii he (show isPrintableAscii "   - **Tools:** " by decide)
  have absent := lineEnds_of_isPrintableAscii he (show isPrintableAscii "None" by decide)
  have tools (a : Agent) :
      lineEnds ends (if a.tools.isEmpty then ("None" : Text) else toolList a)
        = lineEnds ends (a.tools.flatMap (·.name)) := by
    split
    next none => rw [List.isEmpty_iff.mp none, absent]; rfl
    next => exact lineEnds_toolList he a
  induction agents generalizing number with
  | nil => rfl
  | cons a agents ih =>
    have counted := lineEnds_of_isPrintableAscii he (isPrintableAscii_ofNat number)
    simp only [stepEntries, List.cons_append, List.nil_append, List.flatten_cons,
      List.flatMap_cons, lineEnds_append, ih, step, colon, label, tools, counted,
      lineEnds_agentTitle he, brought]
    omega

omit he in
theorem length_stepEntries (number : Nat) (agents : List Agent) :
    (stepEntries number agents).length = 2 * agents.length := by
  induction agents generalizing number with
  | nil => rfl
  | cons a agents ih => simp [stepEntries, ih, Nat.mul_add]

end Ends

/-! ## The listing -/

/-- How many entries an agent has in the guide to a workflow of a kind. -/
def entriesPerAgent (kind : WorkflowKind) : Nat := if kind = .sequential then 2 else 1

/-- The entries are those of the agents, and what lines they take up for a reader. -/
structure ListsAgents (ends : CodePoint → Bool) (w : Workflow) (h : Hierarchy)
    (entries : List Text) : Prop where
  /-- A hierarchy is listed in the order of its walk, two blanks in for every level. -/
  hierarchical : w.kind = .hierarchical → ∃ rows : List (Nat × Agent),
    rows.map place = h.walk ∧ (rows.map (·.2)).Perm w.agents ∧
    entries = rows.map fun (depth, a) => agentEntry depth a
  collaborative : w.kind = .collaborative → entries = w.agents.map (agentEntry 0)
  sequential : w.kind = .sequential → entries = stepEntries 1 w.agents
  /-- Every line end that an agent brings along makes one more line. -/
  length : (linesBy ends (join "\n" entries)).length
    = entriesPerAgent w.kind * w.agents.length + lineEnds ends (w.agents.flatMap brought)
  /-- The lines are the entries unless an agent brings a line end along. -/
  exact : linesBy ends (join "\n" entries) = entries ↔
    ∀ a ∈ w.agents, lineEnds ends (brought a) = 0

section Listing

variable {w : Workflow} {h : Hierarchy} (hh : w.hierarchy = .ok h)

include hh

theorem agentEntries_hierarchical (kind : w.kind = .hierarchical) :
    (ranked w.agents h).map place = h.walk ∧ ((ranked w.agents h).map (·.2)).Perm w.agents ∧
      agentEntries w.agents h
        = (ranked w.agents h).map fun (depth, a) => agentEntry depth a := by
  obtain ⟨hn, ⟨-, rfl, grounded⟩ | ⟨other, -⟩⟩ := hierarchy_cases hh
  · have walks := walksInPreorder_forest hn grounded
    exact ⟨map_ranked fun id hid => walks.perm.mem_iff.mp hid, perm_ranked hn walks.perm, rfl⟩
  · exact absurd kind other

/-- Without a hierarchy the agents stay in the order in which they are given. -/
theorem members_of_flat (kind : w.kind ≠ .hierarchical) : members w.agents h = w.agents := by
  obtain ⟨hn, ⟨other, -⟩ | ⟨-, rfl⟩⟩ := hierarchy_cases hh
  · contradiction
  · exact filterMap_agent? hn

theorem agentEntries_collaborative (kind : w.kind = .collaborative) :
    agentEntries w.agents h = w.agents.map (agentEntry 0) := by
  rw [agentEntries, kind_eq hh, members_of_flat hh (by simp [kind]), kind]

theorem agentEntries_sequential (kind : w.kind = .sequential) :
    agentEntries w.agents h = stepEntries 1 w.agents := by
  rw [agentEntries, kind_eq hh, members_of_flat hh (by simp [kind]), kind]

theorem length_agentEntries :
    (agentEntries w.agents h).length = entriesPerAgent w.kind * w.agents.length := by
  cases kind : w.kind with
  | hierarchical =>
    obtain ⟨-, perm, entries⟩ := agentEntries_hierarchical hh kind
    rw [entries, List.length_map, ← List.length_map (f := (·.2)), perm.length_eq]
    simp [entriesPerAgent]
  | collaborative => simp [agentEntries_collaborative hh kind, entriesPerAgent]
  | sequential => simp [agentEntries_sequential hh kind, entriesPerAgent, length_stepEntries]

/-- Whatever the kind of workflow, the entries have the line ends that the agents bring with
them, and no others. -/
theorem lineEnds_agentEntries {ends : CodePoint → Bool} (he : EndsLines ends) :
    lineEnds ends (agentEntries w.agents h).flatten
      = lineEnds ends (w.agents.flatMap brought) := by
  cases kind : w.kind with
  | hierarchical =>
    obtain ⟨-, perm, entries⟩ := agentEntries_hierarchical hh kind
    calc lineEnds ends (agentEntries w.agents h).flatten
        = lineEnds ends ((ranked w.agents h).flatMap fun entry => brought entry.2) := by
          rw [entries]
          exact lineEnds_flatMap_congr fun entry _ => lineEnds_agentEntry he entry.1 entry.2
      _ = lineEnds ends (((ranked w.agents h).map (·.2)).flatMap brought) := by
          rw [List.flatMap_map]
      _ = lineEnds ends (w.agents.flatMap brought) := (perm.flatMap_right brought).countP_eq ends
  | collaborative =>
    rw [agentEntries_collaborative hh kind]
    exact lineEnds_flatMap_congr fun a _ => lineEnds_agentEntry he 0 a
  | sequential => rw [agentEntries_sequential hh kind, lineEnds_stepEntries he]

/-- The entries are those of the agents, in the order of the structure. -/
theorem listsAgents {ends : CodePoint → Bool} (he : EndsLines ends) (ne : w.agents ≠ []) :
    ListsAgents ends w h (agentEntries w.agents h) := by
  have count := length_agentEntries hh
  have brings := lineEnds_agentEntries hh he
  have some : 0 < entriesPerAgent w.kind * w.agents.length := by
    refine Nat.mul_pos ?_ (List.length_pos_of_ne_nil ne)
    rw [entriesPerAgent]
    split <;> decide
  have full : agentEntries w.agents h ≠ [] := List.ne_nil_of_length_pos (count ▸ some)
  constructor
  case hierarchical => exact fun kind => ⟨_, agentEntries_hierarchical hh kind⟩
  case collaborative => exact agentEntries_collaborative hh
  case sequential => exact agentEntries_sequential hh
  case length => rw [length_linesBy_join he full, count, brings]
  case exact => rw [linesBy_join_eq_iff he full, brings, lineEnds_flatMap_eq_zero_iff]

end Listing

/-! ## The guide -/

/-- What the guide says when there are no agents. -/
def noAgents : Text := "No agents defined. Add an agent in the builder and regenerate."

/-- The agents stand between two line feeds. -/
theorem exists_guide_overview (w : Workflow) (h : Hierarchy) :
    ∃ front behind, guide w h = front ++ "\n" ++ overview w.agents h ++ "\n" ++ behind := by
  let opening : List Text := ["# Multi-Agent Workflow - ADK & Chainlit", "",
    ("This multi-agent workflow was configured and generated using the " : Text)
      ++ "ADK & Chainlit Agent Builder.",
    "", ("## Workflow Overview: " : Text) ++ w.kind.name]
  refine ⟨Text.unlines opening, "\n" ++ Text.join "\n" [memorySection w.deployment, setupSection,
    credentialsSection w.deployment, deploymentSection w.deployment], ?_⟩
  have empty : ("" : Text) = [] := rfl
  rw [guide, join_cons_cons]
  simp [opening, Text.unlines, empty]

/-- The guide lists every agent once and in order, but how many lines the list has is in the hands
of whoever names the agents. -/
theorem generate_lists_agents {options : GenerateOptions} {w : Workflow} {files : Table Text}
    {ends : CodePoint → Bool} (h : w.generate options = .ok files) (he : EndsLines ends) :
    ∃ (g : Hierarchy) (front listing behind : Text), w.hierarchy = .ok g ∧
      Table.get? files guideName = some (front ++ "\n" ++ listing ++ "\n" ++ behind) ∧
      ((w.agents = [] ∧ listing = noAgents) ∨ ∃ entries,
        listing = kindSummary w.kind w.agents.length ++ "\n\n" ++ join "\n" entries ∧
        ListsAgents ends w g entries) := by
  obtain ⟨g, hg, rfl⟩ := generate_eq_ok h
  obtain ⟨front, behind, shape⟩ := exists_guide_overview w g
  refine ⟨g, front, overview w.agents g, behind, hg, congrArg some shape, ?_⟩
  by_cases ne : w.agents = []
  · exact .inl ⟨ne, by rw [ne]; rfl⟩
  · refine .inr ⟨agentEntries w.agents g, ?_, listsAgents hg he ne⟩
    rw [overview, if_neg (by simpa using ne), kind_eq hg]

def isFeed (c : CodePoint) : Bool := c = '\n'

theorem endsLines_isFeed : EndsLines isFeed where
  feed := by decide
  printable c low _ := by
    refine decide_eq_false fun same => ?_
    rw [same] at low
    exact absurd low (by decide)

/-- One agent with a name that ends its entry and begins another. -/
def impostor : Workflow where
  agents := [{ id := "a", name := "writer** (LLM: `gpt-4o`)\n- **editor", model := "gpt-4o" }]
  kind := .collaborative

/-- The hypotheses hold of an agent whose name has a line feed in it, and of line feeds alone. -/
theorem impostor_listed : EndsLines isFeed ∧ ∃ files, impostor.generate {} = .ok files ∧
    ∃ (g : Hierarchy) (front listing behind : Text) (entries : List Text),
      impostor.hierarchy = .ok g ∧
      Table.get? files guideName = some (front ++ "\n" ++ listing ++ "\n" ++ behind) ∧
      listing = kindSummary impostor.kind impostor.agents.length ++ "\n\n" ++ join "\n" entries ∧
      ListsAgents isFeed impostor g entries ∧
      impostor.agents.length = 1 ∧ (linesBy isFeed (join "\n" entries)).length = 2 := by
  have generated : impostor.generate {}
      = .ok (files {} impostor (flat .collaborative impostor.agents)) := rfl
  obtain ⟨g, front, listing, behind, resolved, found, ⟨none, -⟩ | ⟨entries, shape, lists⟩⟩ :=
    generate_lists_agents generated endsLines_isFeed
  · exact absurd none (List.cons_ne_nil _ _)
  · exact ⟨endsLines_isFeed, _, generated, g, front, listing, behind, entries, resolved, found,
      shape, lists, rfl, lists.length.trans (by decide +kernel)⟩

end Project

end AgentWorkflow
