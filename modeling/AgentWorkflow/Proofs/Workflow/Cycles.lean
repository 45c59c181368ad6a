import AgentWorkflow.Workflow.Hierarchy
import Mathlib.Data.List.Chain
import Mathlib.Data.List.Nodup
import Mathlib.Logic.Relation

/-!
# The search for cycles

The search accepts the agents exactly if no agent is its own ancestor, and otherwise shows a cycle.

An agent is *grounded* when going up from it comes to an end. The search keeps a set of settled
ids, all of them grounded, so stopping at one of them misses no cycle; the path it goes along never
holds an id twice, so it ends before it has used up its steps.

Results:
1. `follow_spec`: what following the parents from one id shows.
2. `checkForest_spec`: what the search from all ids shows.
3. `resolve_hierarchical`: the agents that form a hierarchy, and the cycle of those that do not.
-/

namespace AgentWorkflow

namespace Hierarchy

variable {agents : List Agent} {x y : Text}

/-! ## Agents and their parents -/

/-- `Reports agents x y`: the agent `x` names `y` as its parent, and `y` is an agent. -/
def Reports (agents : List Agent) (x y : Text) : Prop :=
  y ∈ agents.map (·.id) ∧ ∃ a ∈ agents, a.id = x ∧ a.parent = some y

/-- `Below agents x y`: the agent `y` is a proper ancestor of `x`. -/
abbrev Below (agents : List Agent) : Text → Text → Prop := Relation.TransGen (Reports agents)

theorem agent?_eq_none : agent? agents x = none ↔ x ∉ agents.map (·.id) := by
  simp only [agent?, List.find?_eq_none, decide_eq_true_eq, List.mem_map, not_exists, not_and]

theorem mem_of_agent? {a : Agent} (h : agent? agents x = some a) : a ∈ agents ∧ a.id = x :=
  ⟨List.mem_of_find?_eq_some h, by simpa using List.find?_some h⟩

theorem eq_of_id_eq (hn : (agents.map (·.id)).Nodup) {a b : Agent} (ha : a ∈ agents) (hb : b ∈ agents)
    (h : a.id = b.id) : a = b := List.inj_on_of_nodup_map hn ha hb h

/-- No duplicate is found exactly when ids differ among themselves and from those seen. -/
theorem duplicate?_eq_none {seen : List Text} :
    duplicate? seen agents = none ↔
      (agents.map (·.id)).Nodup ∧ ∀ a ∈ agents, a.id ∉ seen := by
  induction agents generalizing seen with
  | nil => simp [duplicate?]
  | cons a rest ih =>
    rw [duplicate?]
    split
    · next h => simp_all
    · next h =>
      simp only [ih, List.map_cons, List.nodup_cons, List.mem_map, List.mem_cons]
      grind

/-! ## Grounded agents -/

/-- An id from which going up comes to an end. -/
def Grounded (agents : List Agent) (x : Text) : Prop := Acc (fun y x => Reports agents x y) x

theorem Grounded.not_below_self (h : Grounded agents x) : ¬Below agents x x := by
  induction h with
  | intro x _ ih =>
    intro hx
    obtain ⟨y, hxy, hyx⟩ := Relation.TransGen.head'_iff.mp hx
    exact ih y hxy (.tail' hyx hxy)

/-- An agent is grounded if its parent, should it be an agent, is grounded. -/
theorem grounded_of_parent (hn : (agents.map (·.id)).Nodup) {a : Agent} (ha : a ∈ agents)
    (h : ∀ y ∈ a.parent, y ∈ agents.map (·.id) → Grounded agents y) : Grounded agents a.id := by
  constructor
  rintro y ⟨hy, b, hb, hid, hparent⟩
  obtain rfl := eq_of_id_eq hn hb ha hid
  exact h y hparent hy

/-! ## Cycles -/

/-- A list of different agents, each of which is the parent of the one before it, and the first the
parent of the last. -/
structure IsCycle (agents : List Agent) (ids : List Text) : Prop where
  nonempty : ids ≠ []
  nodup : ids.Nodup
  mem : ∀ x ∈ ids, x ∈ agents.map (·.id)
  parent : ∀ (i : Nat) (hi : i < ids.length), ∃ hj : (i + 1) % ids.length < ids.length,
    ∃ a ∈ agents, a.id = ids[i] ∧ a.parent = some ids[(i + 1) % ids.length]

/-- A cycle in the form of an error message has somebody on it who is above themselves. -/
theorem IsCycle.exists_below_self {ids : List Text} (h : IsCycle agents ids) :
    ∃ x, Below agents x x := by
  have pos : 0 < ids.length := List.length_pos_iff.mpr h.nonempty
  have climb : ∀ i, i < ids.length →
      ∃ hj : (i + 1) % ids.length < ids.length, Below agents ids[0] ids[(i + 1) % ids.length] := by
    intro i
    induction i with
    | zero =>
      intro hi
      obtain ⟨hj, link⟩ := h.parent 0 hi
      exact ⟨hj, .single ⟨h.mem _ (List.getElem_mem hj), link⟩⟩
    | succ i ih =>
      intro hi
      obtain ⟨_, up⟩ := ih (by omega)
      obtain ⟨hj, link⟩ := h.parent (i + 1) hi
      simp only [Nat.mod_eq_of_lt hi] at up
      exact ⟨hj, up.tail ⟨h.mem _ (List.getElem_mem hj), link⟩⟩
  -- the last step leads back to the first id
  obtain ⟨_, round⟩ := climb (ids.length - 1) (by omega)
  have back : (ids.length - 1 + 1) % ids.length = 0 := by
    rw [Nat.sub_add_cancel pos, Nat.mod_self]
  simp only [back] at round
  exact ⟨ids[0], round⟩

/-! ## The path of a search -/

/-- The path of a search that goes on to `next`: different agents, each the parent of the one
before, and `next` the parent of the last. -/
structure Trail (agents : List Agent) (path : List Text) (next : Option Text) : Prop where
  nodup : path.Nodup
  mem : ∀ x ∈ path, x ∈ agents.map (·.id)
  linked : (path ++ next.toList).IsChain fun x y => ∃ a ∈ agents, a.id = x ∧ a.parent = some y

namespace Trail

variable {path : List Text}

theorem start (x : Text) : Trail agents [] (some x) :=
  ⟨List.nodup_nil, by simp, List.isChain_singleton x⟩

/-- A trail goes on to the parent of an agent that it has not passed. -/
theorem step (t : Trail agents path (some x)) {a : Agent} (ha : agent? agents x = some a)
    (hx : x ∉ path) : Trail agents (path ++ [x]) a.parent := by
  obtain ⟨hmem, hid⟩ := mem_of_agent? ha
  refine ⟨?_, ?_, ?_⟩
  · exact List.nodup_append.mpr ⟨t.nodup, List.nodup_singleton x, by
      rintro u hu _ (_ | _) rfl
      · exact hx hu
      · contradiction⟩
  · intro u hu
    rcases List.mem_append.mp hu with hu | hu
    · exact t.mem u hu
    · rw [List.mem_singleton.mp hu, ← hid]
      exact List.mem_map_of_mem hmem
  · refine List.IsChain.append t.linked ?_ ?_
    · cases a.parent <;> simp
    · intro u hu v hv
      simp only [List.getLast?_append, List.getLast?_singleton,
        Option.some_or, Option.mem_def, Option.some.injEq] at hu
      subst u
      refine ⟨a, hmem, hid, ?_⟩
      cases hp : a.parent <;> simp_all

/-- The path holds each agent once at most. -/
theorem length_lt (t : Trail agents path (some x)) {a : Agent} (ha : agent? agents x = some a)
    (hx : x ∉ path) : path.length < agents.length := by
  have longer := t.step ha hx
  have bound : (path ++ [x]).length ≤ (agents.map (·.id)).length :=
    longer.nodup.length_le_of_subset fun u hu => longer.mem u hu
  simp only [List.length_append, List.length_map, List.length_singleton] at bound
  omega

/-- A path that goes on to an id on it closes a cycle. -/
theorem isCycle_dropWhile (t : Trail agents path (some x)) (hx : x ∈ path) :
    IsCycle agents (path.dropWhile (· ≠ x)) := by
  obtain ⟨before, c, rfl, hbefore⟩ := List.eq_append_cons_of_mem hx
  have tail : (before ++ x :: c).dropWhile (· ≠ x) = x :: c := by
    rw [List.dropWhile_append_of_pos fun u hu => by simpa using ne_of_mem_of_not_mem hu hbefore]
    simp
  rw [tail]
  -- the links from `x` along the path and back to it
  have linked : (x :: c ++ [x]).IsChain fun x y => ∃ a ∈ agents, a.id = x ∧ a.parent = some y := by
    have := t.linked
    rw [List.append_assoc] at this
    exact this.right_of_append
  refine ⟨List.cons_ne_nil x c, t.nodup.of_append_right, fun u hu => t.mem u (by simp_all), ?_⟩
  intro i hi
  refine ⟨Nat.mod_lt _ (by simp), ?_⟩
  have link := linked.getElem i (by simpa using hi)
  rw [List.getElem_append_left hi] at link
  by_cases hlast : i + 1 < (x :: c).length
  · rw [List.getElem_append_left hlast] at link
    simpa only [Nat.mod_eq_of_lt hlast] using link
  · have wrap : i + 1 = (x :: c).length := by omega
    rw [List.getElem_append_right (by omega), List.getElem_singleton] at link
    simpa only [wrap, Nat.mod_self, List.getElem_cons_zero] using link

end Trail

/-! ## The search -/

/-- What the end of a walk shows that has `path` behind it and goes on to `next`: a cycle, or that
everything new on the path is grounded. -/
def WalkEnd.Shows (agents : List Agent) (path : List Text) (next : Option Text) : WalkEnd → Prop
  | .settled p => (∀ u ∈ p, u ∈ path ∨ Grounded agents u) ∧
      ∀ u ∈ next, u ∈ agents.map (·.id) → Grounded agents u
  | .cycle c => IsCycle agents c
  | .tooLong => False

/-- Following the parents stops at settled ids without missing anything, and does not use up its
steps. -/
theorem follow_spec (hn : (agents.map (·.id)).Nodup) {settled : List Text}
    (hs : ∀ u ∈ settled, Grounded agents u) {steps : Nat} {path : List Text} {next : Option Text}
    (t : Trail agents path next) (enough : agents.length ≤ path.length + steps) :
    (follow agents settled steps path next).Shows agents path next := by
  fun_induction follow agents settled steps path next
  case case1 path => exact ⟨fun u hu => .inl hu, fun u hu => nomatch hu⟩
  case case2 path id unknown =>
    refine ⟨fun u hu => .inl hu, ?_⟩
    rintro u ⟨⟩ hu
    exact absurd hu (agent?_eq_none.mp unknown)
  case case3 path id a ha known =>
    refine ⟨fun u hu => .inl hu, ?_⟩
    rintro u ⟨⟩ -
    exact hs id (List.contains_iff_mem.mp known)
  case case4 path id a ha _ met => exact t.isCycle_dropWhile (List.contains_iff_mem.mp met)
  case case5 path id a ha _ new =>
    -- a step is left, for the path is shorter than the list of agents
    have := t.length_lt ha (by simpa using new)
    exact absurd enough (by omega)
  case case6 path id a ha _ new steps ih =>
    have left : agents.length ≤ (path ++ [id]).length + steps := by
      rw [List.length_append, List.length_singleton]
      omega
    have more := ih (t.step ha (by simpa using new)) left
    obtain ⟨hmem, hid⟩ := mem_of_agent? ha
    cases hend : follow agents settled steps (path ++ [id]) a.parent with
    | cycle c =>
      rw [hend] at more
      exact more
    | tooLong =>
      rw [hend] at more
      exact more
    | settled p =>
      rw [hend] at more
      obtain ⟨fresh, parent⟩ := more
      have grounded : Grounded agents id := hid ▸ grounded_of_parent hn hmem parent
      refine ⟨fun u hu => ?_, ?_⟩
      · rcases fresh u hu with hu | hu
        · rcases List.mem_append.mp hu with hu | hu
          · exact .inl hu
          · exact .inr (List.mem_singleton.mp hu ▸ grounded)
        · exact .inr hu
      · rintro u ⟨⟩ -
        exact grounded

/-- The search from several ids accepts them if all are grounded, and shows a cycle otherwise. -/
theorem checkForest_spec (hn : (agents.map (·.id)).Nodup) (settled : List Text) {starts : List Text}
    (hs : ∀ u ∈ settled, Grounded agents u) (hstarts : ∀ u ∈ starts, u ∈ agents.map (·.id)) :
    (checkForest agents settled starts = .ok () ∧ ∀ u ∈ starts, Grounded agents u) ∨
      ∃ c, checkForest agents settled starts = .error (.cycle c) ∧ IsCycle agents c := by
  induction starts generalizing settled with
  | nil => exact .inl ⟨rfl, by simp⟩
  | cons start rest ih =>
    have shows : (follow agents settled (agents.length + 1) [] (some start)).Shows agents []
        (some start) := follow_spec hn hs (.start start) (by omega)
    rw [checkForest]
    cases hend : follow agents settled (agents.length + 1) [] (some start) with
    | cycle c =>
      rw [hend] at shows
      exact .inr ⟨c, rfl, shows⟩
    | tooLong =>
      rw [hend] at shows
      exact absurd shows id
    | settled p =>
      rw [hend] at shows
      obtain ⟨fresh, grounded⟩ := shows
      -- what this walk has settled is grounded too, so the next one may stop there
      have settled' : ∀ u ∈ settled ++ p, Grounded agents u := fun u hu =>
        (List.mem_append.mp hu).elim (hs u) fun hu => (fresh u hu).resolve_left List.not_mem_nil
      rcases ih _ settled' fun u hu => hstarts u (List.mem_cons_of_mem start hu) with ⟨ok, all⟩ | bad
      · refine .inl ⟨ok, fun u hu => ?_⟩
        rcases List.mem_cons.mp hu with rfl | hu
        · exact grounded u rfl (hstarts u List.mem_cons_self)
        · exact all u hu
      · exact .inr bad

/-! ## Hierarchies -/

/-- What becomes of the agents of a hierarchical workflow. -/
theorem resolve_hierarchical_cases (agents : List Agent) :
    (∃ id, resolve agents .hierarchical = .error (.duplicateId id) ∧ ¬(agents.map (·.id)).Nodup) ∨
    ((agents.map (·.id)).Nodup ∧
      ((resolve agents .hierarchical = .ok (forest agents) ∧
          ∀ u ∈ agents.map (·.id), Grounded agents u) ∨
        ∃ c, resolve agents .hierarchical = .error (.cycle c) ∧ IsCycle agents c)) := by
  cases hd : duplicate? [] agents with
  | some id =>
    refine .inl ⟨id, by rw [resolve, hd], fun hn => ?_⟩
    rw [duplicate?_eq_none.mpr ⟨hn, by simp⟩] at hd
    contradiction
  | none =>
    have hn := (duplicate?_eq_none.mp hd).1
    refine .inr ⟨hn, ?_⟩
    rcases checkForest_spec hn [] (by simp) (fun u hu => hu) with
      ⟨ok, grounded⟩ | ⟨c, hc, cycle⟩
    · exact .inl ⟨by simp [resolve, hd, ok, Bind.bind, Except.bind, pure, Except.pure], grounded⟩
    · exact .inr ⟨c, by simp [resolve, hd, hc, Bind.bind, Except.bind], cycle⟩

theorem mem_of_duplicate? {seen : List Text} {id : Text} (h : duplicate? seen agents = some id) :
    id ∈ agents.map (·.id) := by
  induction agents generalizing seen with
  | nil => cases h
  | cons a rest ih =>
    rw [duplicate?] at h
    split at h
    · cases h
      exact List.mem_map_of_mem List.mem_cons_self
    · exact List.mem_cons_of_mem _ (ih h)

/-- Why agents may form no hierarchy: two of them share an id, or there is a cycle. The search never
runs out of steps. -/
theorem resolve_error_cases {kind : WorkflowKind} {reason : HierarchyError}
    (h : resolve agents kind = .error reason) :
    (¬(agents.map (·.id)).Nodup ∧ ∃ id ∈ agents.map (·.id), reason = .duplicateId id) ∨
    (kind = .hierarchical ∧ (agents.map (·.id)).Nodup ∧
      ∃ c, IsCycle agents c ∧ reason = .cycle c) := by
  cases hd : duplicate? [] agents with
  | some id =>
    rw [resolve, hd] at h
    cases h
    refine .inl ⟨fun hn => ?_, id, mem_of_duplicate? hd, rfl⟩
    rw [duplicate?_eq_none.mpr ⟨hn, by simp⟩] at hd
    contradiction
  | none =>
    have hn := (duplicate?_eq_none.mp hd).1
    by_cases hk : kind = .hierarchical
    · subst hk
      rcases resolve_hierarchical_cases agents with ⟨_, -, repeated⟩ | ⟨-, ⟨ok, -⟩ | ⟨c, hc, cycle⟩⟩
      · exact absurd hn repeated
      · rw [ok] at h
        cases h
      · rw [hc] at h
        cases h
        exact .inr ⟨rfl, hn, c, cycle, rfl⟩
    · rw [resolve, hd] at h
      simp [hk] at h

/-- Only agents have ancestors. -/
theorem mem_of_below (h : Below agents x y) : x ∈ agents.map (·.id) := by
  obtain ⟨_, ⟨-, a, ha, rfl, -⟩, -⟩ := Relation.TransGen.head'_iff.mp h
  exact List.mem_map_of_mem ha

/-- Agents whose ids are distinct can be joined unless, in a hierarchy, one is its own ancestor. -/
theorem resolve_eq_ok_iff (hn : (agents.map (·.id)).Nodup) {kind : WorkflowKind} :
    (∃ g, resolve agents kind = .ok g) ↔ ¬(kind = .hierarchical ∧ ∃ id, Below agents id id) := by
  constructor
  · rintro ⟨g, hg⟩ ⟨rfl, id, round⟩
    rcases resolve_hierarchical_cases agents with ⟨_, hr, -⟩ | ⟨-, ⟨-, grounded⟩ | ⟨_, hr, -⟩⟩
    · cases hr.symm.trans hg
    · exact (grounded id (mem_of_below round)).not_below_self round
    · cases hr.symm.trans hg
  · intro acyclic
    cases hr : resolve agents kind with
    | ok g => exact ⟨g, rfl⟩
    | error reason =>
      rcases resolve_error_cases hr with ⟨repeated, -⟩ | ⟨hk, -, c, cycle, -⟩
      · exact absurd hn repeated
      · exact absurd ⟨hk, cycle.exists_below_self⟩ acyclic

/-- Agents form a hierarchy exactly if their ids are distinct and none is its own ancestor. If ids
are distinct, an ancestor of itself makes the error that shows a cycle, and no walk is too long. -/
theorem resolve_hierarchical (agents : List Agent) :
    ((∃ h, resolve agents .hierarchical = .ok h) ↔
      (agents.map (·.id)).Nodup ∧ ∀ id, ¬Below agents id id) ∧
    ((agents.map (·.id)).Nodup → (∃ id, Below agents id id) →
      ∃ c, resolve agents .hierarchical = .error (.cycle c) ∧ IsCycle agents c) ∧
    ∀ start limit, resolve agents .hierarchical ≠ .error (.walkTooLong start limit) := by
  rcases resolve_hierarchical_cases agents with ⟨id, hr, hn⟩ | ⟨hn, ⟨hr, grounded⟩ | ⟨c, hr, cycle⟩⟩
  · simp [hr, hn]
  · have acyclic : ∀ id, ¬Below agents id id := fun id hid =>
      (grounded id (mem_of_below hid)).not_below_self hid
    simp [hr, hn, acyclic]
  · obtain ⟨id, hid⟩ := cycle.exists_below_self
    refine ⟨⟨?_, fun forest => absurd hid (forest.2 id)⟩, ?_, ?_⟩
    · rintro ⟨h, hh⟩
      rw [hr] at hh
      contradiction
    · exact fun _ _ => ⟨c, hr, cycle⟩
    · simp [hr]

/-- Two agents above each other, and one below them. -/
def entangled : List Agent :=
  [{ id := "c", parent := some "a" }, { id := "a", parent := some "b" },
   { id := "b", parent := some "a" }]

/-- The hypotheses hold of agents on a cycle and agents off it. -/
theorem resolve_entangled :
    ∃ c, resolve entangled .hierarchical = .error (.cycle c) ∧ IsCycle entangled c := by
  refine (resolve_hierarchical entangled).2.1 (by decide) ⟨"a", ?_⟩
  refine .tail (b := ("b" : Text)) (.single ?_) ?_
  · exact ⟨by decide, { id := "a", parent := some "b" }, by decide, rfl, rfl⟩
  · exact ⟨by decide, { id := "b", parent := some "a" }, by decide, rfl, rfl⟩

end Hierarchy

end AgentWorkflow
