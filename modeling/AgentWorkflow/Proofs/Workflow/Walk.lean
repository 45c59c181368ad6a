import AgentWorkflow.Proofs.Workflow.Cycles
import Mathlib.Data.Fintype.Card
import Mathlib.Data.Fintype.EquivFin
import Mathlib.Data.Fintype.Sets

/-!
# The walk of a hierarchy

The agents of a hierarchy form a forest, and its walk is the pre-order of that forest: every agent
is followed by its whole subtree, child by child in input order.

The walk is a loop over a stack of ids that are still to be visited. `PreorderOf` says what such a
loop ought to give for a list of siblings, by recursion over the forest. It is shown to exist,
since no agent is its own ancestor, and to be what the loop gives; everything else is read off it.

Results:
1. `exists_preorderOf`: the pre-order of every list of siblings.
2. `visits_append`, `visit_eq`: the loop gives the pre-order, and ends within its visits.
3. `resolve_forest`: the forest that agents form, and its walk.
-/

namespace AgentWorkflow

namespace Hierarchy

open Relation (ReflTransGen TransGen)

variable {agents : List Agent} {x y z : Text}

/-! ## Roots and children -/

theorem parentIn_eq_some {a : Agent} :
    parentIn agents a = some y ↔ a.parent = some y ∧ y ∈ agents.map (·.id) := by
  have known : (agent? agents y).isSome ↔ y ∈ agents.map (·.id) := by
    rw [← not_iff_not, ← agent?_eq_none, Bool.not_eq_true, Option.isSome_eq_false_iff,
      Option.isNone_iff_eq_none]
  rw [parentIn, Option.filter_eq_some_iff, known]

theorem mem_childIds : x ∈ childIds agents y ↔ Reports agents x y := by
  simp only [childIds, List.mem_map, List.mem_filter, decide_eq_true_eq, parentIn_eq_some, Reports]
  grind

theorem childrenOf_forest (y : Text) : (forest agents).childrenOf y = childIds agents y := by
  have lookup : ∀ ps : List Text, (ps.map fun p => (p, childIds agents p)).lookup y
      = if y ∈ ps then some (childIds agents y) else none := by
    intro ps
    induction ps with
    | nil => rfl
    | cons p ps ih =>
      rw [List.map_cons, List.lookup_cons, ih]
      by_cases hp : y = p
      · simp [hp]
      · have other : (y == p) = false := beq_false_of_ne hp
        simp [hp, other]
  rw [childrenOf, forest, lookup]
  split
  · rfl
  · next named =>
    -- no agent names this parent
    refine (List.eq_nil_iff_forall_not_mem.mpr fun x hx => named ?_).symm
    obtain ⟨a, ha, -⟩ := List.mem_map.mp hx
    obtain ⟨hmem, hparent⟩ := List.mem_filter.mp ha
    exact List.mem_eraseDups.mpr (List.mem_filterMap.mpr ⟨a, hmem, of_decide_eq_true hparent⟩)

theorem mem_childrenOf : x ∈ (forest agents).childrenOf y ↔ Reports agents x y := by
  rw [childrenOf_forest, mem_childIds]

theorem Reports.mem (h : Reports agents x y) : x ∈ agents.map (·.id) := mem_of_below (.single h)

section Distinct

variable (hn : (agents.map (·.id)).Nodup)

include hn

theorem Reports.unique (h : Reports agents x y) (h' : Reports agents x z) : y = z := by
  obtain ⟨-, a, ha, hid, hy⟩ := h
  obtain ⟨-, b, hb, hid', hz⟩ := h'
  obtain rfl := eq_of_id_eq hn ha hb (hid.trans hid'.symm)
  exact Option.some.inj (hy.symm.trans hz)

theorem mem_roots : x ∈ (forest agents).roots ↔
    x ∈ agents.map (·.id) ∧ ∀ y, ¬Reports agents x y := by
  constructor
  · intro hx
    obtain ⟨a, ha, rfl⟩ := List.mem_map.mp hx
    obtain ⟨hmem, hroot⟩ := List.mem_filter.mp ha
    refine ⟨List.mem_map_of_mem hmem, ?_⟩
    rintro y ⟨hy, b, hb, hid, hparent⟩
    obtain rfl := eq_of_id_eq hn hb hmem hid
    simp [parentIn_eq_some.mpr ⟨hparent, hy⟩] at hroot
  · rintro ⟨hx, hroot⟩
    obtain ⟨a, ha, rfl⟩ := List.mem_map.mp hx
    refine List.mem_map.mpr ⟨a, List.mem_filter.mpr ⟨ha, ?_⟩, rfl⟩
    rw [Option.isNone_iff_eq_none, Option.eq_none_iff_forall_ne_some]
    intro y hy
    obtain ⟨hparent, hmem⟩ := parentIn_eq_some.mp hy
    exact hroot y ⟨hmem, a, ha, rfl, hparent⟩

end Distinct

/-! ## Partition -/

/-- Every agent stands in one place, as a root or under its parent, and each place is in input
order. -/
structure Partitions (agents : List Agent) (h : Hierarchy) : Prop where
  perm : (h.roots ++ h.children.flatMap (·.2)).Perm (agents.map (·.id))
  nodup : (h.roots ++ h.children.flatMap (·.2)).Nodup
  roots_sublist : h.roots.Sublist (agents.map (·.id))
  children_sublist : ∀ entry ∈ h.children, entry.2.Sublist (agents.map (·.id))
  mem_roots : ∀ x, x ∈ h.roots ↔ x ∈ agents.map (·.id) ∧ ∀ y, ¬Reports agents x y
  mem_children : ∀ x y, x ∈ h.childrenOf y ↔ Reports agents x y

theorem roots_sublist (agents : List Agent) :
    (forest agents).roots.Sublist (agents.map (·.id)) := List.filter_sublist.map _

theorem childIds_sublist (agents : List Agent) (y : Text) :
    (childIds agents y).Sublist (agents.map (·.id)) := List.filter_sublist.map _

theorem mem_flatMap_children :
    x ∈ (forest agents).children.flatMap (·.2) ↔ ∃ y, Reports agents x y := by
  constructor
  · intro hx
    obtain ⟨_, he, hx⟩ := List.mem_flatMap.mp hx
    obtain ⟨y, -, rfl⟩ := List.mem_map.mp he
    exact ⟨y, mem_childIds.mp hx⟩
  · rintro ⟨y, hxy⟩
    have hx := mem_childIds.mpr hxy
    obtain ⟨a, ha, -⟩ := List.mem_map.mp hx
    obtain ⟨hmem, hparent⟩ := List.mem_filter.mp ha
    refine List.mem_flatMap.mpr ⟨(y, childIds agents y), List.mem_map.mpr ⟨y, ?_, rfl⟩, hx⟩
    exact List.mem_eraseDups.mpr (List.mem_filterMap.mpr ⟨a, hmem, of_decide_eq_true hparent⟩)

theorem nodup_eraseDups (l : List Text) : l.eraseDups.Nodup := by
  induction hl : l.length using Nat.strong_induction_on generalizing l with
  | _ n ih =>
    cases l with
    | nil => exact List.nodup_nil
    | cons a l =>
      have shorter := List.length_filter_le (fun b => !b == a) l
      rw [List.length_cons] at hl
      rw [List.eraseDups_cons, List.nodup_cons]
      refine ⟨fun ha => ?_, ih _ (by omega) _ rfl⟩
      simpa using (List.mem_filter.mp (List.mem_eraseDups.mp ha)).2

theorem nodup_flatMap_children (hn : (agents.map (·.id)).Nodup) :
    ((forest agents).children.flatMap (·.2)).Nodup := by
  rw [forest, List.flatMap_map, List.nodup_flatMap]
  refine ⟨fun y _ => (childIds_sublist agents y).nodup hn, ?_⟩
  refine (nodup_eraseDups _).imp fun {y z} hyz x hy hz => hyz ?_
  exact (mem_childIds.mp hy).unique hn (mem_childIds.mp hz)

/-- Every agent is a root or on exactly one child list. -/
theorem partitions_forest (hn : (agents.map (·.id)).Nodup) : Partitions agents (forest agents) := by
  have nodup : ((forest agents).roots ++ (forest agents).children.flatMap (·.2)).Nodup := by
    refine List.nodup_append'.mpr ⟨(roots_sublist agents).nodup hn, nodup_flatMap_children hn, ?_⟩
    intro x hroot hchild
    obtain ⟨y, hxy⟩ := mem_flatMap_children.mp hchild
    exact ((mem_roots hn).mp hroot).2 y hxy
  refine ⟨(List.perm_ext_iff_of_nodup nodup hn).mpr fun x => ?_, nodup, roots_sublist agents, ?_,
    fun _ => mem_roots hn, fun _ _ => mem_childrenOf⟩
  · rw [List.mem_append, mem_roots hn, mem_flatMap_children]
    constructor
    · rintro (⟨hx, -⟩ | ⟨y, hxy⟩)
      · exact hx
      · exact hxy.mem
    · intro hx
      by_cases hroot : ∃ y, Reports agents x y
      · exact .inr hroot
      · exact .inl ⟨hx, not_exists.mp hroot⟩
  · intro entry he
    obtain ⟨y, -, rfl⟩ := List.mem_map.mp he
    exact childIds_sublist agents y

/-! ## Ancestors -/

section Forest

variable (hn : (agents.map (·.id)).Nodup)
variable (acyclic : ∀ id, ¬Below agents id id)

include hn acyclic

/-- Two agents with one parent, or two roots, have no common descendant. -/
theorem eq_of_common_descendant {r r' : Text}
    (hp : ∀ p, Reports agents r p ↔ Reports agents r' p)
    (hr : ReflTransGen (Reports agents) x r) (hr' : ReflTransGen (Reports agents) x r') : r = r' := by
  have above : ∀ {u v : Text}, (∀ p, Reports agents u p → Reports agents v p) →
      ReflTransGen (Reports agents) u v → u = v := by
    intro u v hp huv
    rcases Relation.ReflTransGen.cases_head huv with rfl | ⟨p, hup, hpv⟩
    · rfl
    · exact absurd (TransGen.head' (hp p hup) hpv) (acyclic v)
  -- parents are unique, so of two ancestors of `x` one is above the other
  rcases Relation.ReflTransGen.total_of_right_unique (fun _ _ _ h h' => h.unique hn h') hr hr' with
    h | h
  · exact above (fun p => (hp p).mp) h
  · exact (above (fun p => (hp p).mpr) h).symm

omit hn in
/-- Induction from the leaves of the forest upwards. -/
theorem descendant_induction {P : Text → Prop}
    (step : ∀ x ∈ agents.map (·.id), (∀ c, Reports agents c x → P c) → P x) :
    ∀ x ∈ agents.map (·.id), P x := by
  let below (u v : {x // x ∈ agents.map (·.id)}) : Prop := Below agents u v
  have : IsTrans _ below := ⟨fun _ _ _ => TransGen.trans⟩
  have : Std.Irrefl below := ⟨fun u => acyclic u⟩
  have wf : WellFounded below := Finite.wellFounded_of_trans_of_irrefl below
  intro x hx
  induction hu : (⟨x, hx⟩ : {x // x ∈ agents.map (·.id)}) using wf.induction generalizing x with
  | _ u ih =>
    subst hu
    exact step x hx fun c hc => ih ⟨c, hc.mem⟩ (TransGen.single hc) c hc.mem rfl

end Forest

/-- Whoever is grounded is below some root. -/
theorem exists_root (grounded : ∀ u ∈ agents.map (·.id), Grounded agents u)
    (hn : (agents.map (·.id)).Nodup) (hx : x ∈ agents.map (·.id)) :
    ∃ r ∈ (forest agents).roots, ReflTransGen (Reports agents) x r := by
  induction grounded x hx with
  | intro x _ ih =>
    by_cases hroot : ∃ y, Reports agents x y
    · obtain ⟨y, hxy⟩ := hroot
      obtain ⟨r, hr, hyr⟩ := ih y hxy hxy.1
      exact ⟨r, hr, .head hxy hyr⟩
    · exact ⟨x, (mem_roots hn).mpr ⟨hx, not_exists.mp hroot⟩, .refl⟩

/-! ## Pre-order -/

/-- `PreorderOf h depth ids out`: the list holds the subtrees of the given siblings, each id with
its depth before the subtrees of its children. -/
inductive PreorderOf (h : Hierarchy) : Nat → List Text → List (Text × Nat) → Prop
  | nil {depth : Nat} : PreorderOf h depth [] []
  | cons {depth : Nat} {id : Text} {rest : List Text} {block out : List (Text × Nat)} :
      PreorderOf h (depth + 1) (h.childrenOf id) block → PreorderOf h depth rest out →
      PreorderOf h depth (id :: rest) ((id, depth) :: (block ++ out))

/-- `Visits h stack out`: a loop that takes the top off a stack, gives it, and puts its children
there, ends with the empty stack after it has given `out`. -/
inductive Visits (h : Hierarchy) : List (Text × Nat) → List (Text × Nat) → Prop
  | done : Visits h [] []
  | next {id : Text} {depth : Nat} {stack out : List (Text × Nat)} :
      Visits h ((h.childrenOf id).map (·, depth + 1) ++ stack) out →
      Visits h ((id, depth) :: stack) ((id, depth) :: out)

section Loop

variable {h : Hierarchy} {depth : Nat} {ids : List Text} {out stack more : List (Text × Nat)}

/-- With siblings on top of its stack, the loop gives their pre-order first. -/
theorem visits_append (hp : PreorderOf h depth ids out) (hv : Visits h stack more) :
    Visits h (ids.map (·, depth) ++ stack) (out ++ more) := by
  induction hp generalizing stack more with
  | nil => exact hv
  | cons _ _ ihBlock ihRest =>
    rw [List.map_cons, List.cons_append, List.cons_append, List.append_assoc]
    exact .next (ihBlock (ihRest hv))

/-- A loop that ends is not cut short by enough visits. -/
theorem visit_eq {visits : Nat} (hv : Visits h stack out) (enough : out.length ≤ visits) :
    h.visit visits stack = out := by
  induction hv generalizing visits with
  | done => cases visits <;> rfl
  | next _ ih =>
    cases visits with
    | zero => simp at enough
    | succ visits =>
      rw [visit, ih (by simpa using enough)]

theorem sublist_preorderOf (hp : PreorderOf h depth ids out) : ids.Sublist (out.map (·.1)) := by
  induction hp with
  | nil => exact List.nil_sublist _
  | cons _ _ _ ihRest =>
    rw [List.map_cons, List.map_append]
    exact .cons_cons _ (ihRest.trans (List.sublist_append_right _ _))

/-- The subtree of each id stands right behind it. -/
theorem exists_block {id : Text} {level : Nat} (hp : PreorderOf h depth ids out)
    (hid : (id, level) ∈ out) : ∃ before block after,
      out = before ++ (id, level) :: (block ++ after) ∧
        PreorderOf h (level + 1) (h.childrenOf id) block := by
  induction hp with
  | nil => simp at hid
  | @cons depth root rest block out hblock _ ihBlock ihRest =>
    rcases List.mem_cons.mp hid with hid | hid
    · obtain ⟨rfl, rfl⟩ := Prod.mk.inj hid
      exact ⟨[], block, out, rfl, hblock⟩
    · rcases List.mem_append.mp hid with hid | hid
      · obtain ⟨before, inner, after, rfl, hinner⟩ := ihBlock hid
        exact ⟨(root, depth) :: before, inner, after ++ out, by simp, hinner⟩
      · obtain ⟨before, inner, after, rfl, hinner⟩ := ihRest hid
        exact ⟨(root, depth) :: (block ++ before), inner, after, by simp, hinner⟩

end Loop

/-! ## The pre-order of a forest -/

section Forest

variable {depth : Nat} {ids : List Text} {out : List (Text × Nat)}

/-- A pre-order holds the given siblings and all that is below them. -/
theorem mem_preorderOf (hp : PreorderOf (forest agents) depth ids out) :
    x ∈ out.map (·.1) ↔ ∃ r ∈ ids, ReflTransGen (Reports agents) x r := by
  induction hp with
  | nil => simp
  | @cons depth id rest block out _ _ ihBlock ihRest =>
    have below : x ∈ block.map (·.1) ↔ Below agents x id := by
      simp only [ihBlock, mem_childrenOf, Relation.TransGen.tail'_iff, and_comm]
    have self : ReflTransGen (Reports agents) x id ↔ x = id ∨ Below agents x id := by
      rw [Relation.reflTransGen_iff_eq_or_transGen, eq_comm]
    rw [List.map_cons, List.map_append, List.mem_cons, List.mem_append, below, ihRest, ← or_assoc]
    simp only [List.mem_cons, or_and_right, exists_or, exists_eq_left, self]

/-- The block of an id holds its proper descendants. -/
theorem mem_block (hp : PreorderOf (forest agents) depth ((forest agents).childrenOf y) out) :
    x ∈ out.map (·.1) ↔ Below agents x y := by
  simp only [mem_preorderOf hp, mem_childrenOf, Relation.TransGen.tail'_iff, and_comm]

/-- `DepthOf agents x n`: as many parent edges lead from `x` up to its root. -/
inductive DepthOf (agents : List Agent) : Text → Nat → Prop
  | top {x : Text} : x ∈ agents.map (·.id) → (∀ y, ¬Reports agents x y) → DepthOf agents x 0
  | under {x y : Text} {n : Nat} : Reports agents x y → DepthOf agents y n →
      DepthOf agents x (n + 1)

/-- A pre-order tells the depths, when it starts from agents whose depth is known. -/
theorem depthOf_of_mem_preorderOf (hp : PreorderOf (forest agents) depth ids out)
    (hd : ∀ r ∈ ids, DepthOf agents r depth) : ∀ e ∈ out, DepthOf agents e.1 e.2 := by
  induction hp with
  | nil => simp
  | @cons depth id rest block out _ _ ihBlock ihRest =>
    have head := hd id List.mem_cons_self
    intro e he
    rcases List.mem_cons.mp he with rfl | he
    · exact head
    · rcases List.mem_append.mp he with he | he
      · exact ihBlock (fun c hc => .under (mem_childrenOf.mp hc) head) e he
      · exact ihRest (fun r hr => hd r (List.mem_cons_of_mem id hr)) e he

variable (hn : (agents.map (·.id)).Nodup)
variable (acyclic : ∀ id, ¬Below agents id id)

include hn acyclic

/-- Different siblings have no agent below them in common, so a pre-order holds each id once. -/
theorem nodup_preorderOf (hp : PreorderOf (forest agents) depth ids out) (hids : ids.Nodup)
    (siblings : ∀ r ∈ ids, ∀ r' ∈ ids, ∀ p, Reports agents r p ↔ Reports agents r' p) :
    (out.map (·.1)).Nodup := by
  induction hp with
  | nil => exact List.nodup_nil
  | @cons depth id rest block out hblock hrest ihBlock ihRest =>
    obtain ⟨hid, hids⟩ := List.nodup_cons.mp hids
    -- what stands further behind is below another sibling
    have apart : ∀ {u}, ReflTransGen (Reports agents) u id → u ∉ out.map (·.1) := by
      intro u hu hout
      obtain ⟨r, hr, hur⟩ := (mem_preorderOf hrest).mp hout
      have same := eq_of_common_descendant hn acyclic
        (siblings id List.mem_cons_self r (List.mem_cons_of_mem id hr)) hu hur
      exact hid (same ▸ hr)
    have children : ((forest agents).childrenOf id).Nodup := by
      rw [childrenOf_forest]
      exact (childIds_sublist agents id).nodup hn
    have blockNodup : (block.map (·.1)).Nodup := by
      refine ihBlock children fun c hc c' hc' p => ?_
      have hc := mem_childrenOf.mp hc
      have hc' := mem_childrenOf.mp hc'
      exact ⟨fun h => h.unique hn hc ▸ hc', fun h => h.unique hn hc' ▸ hc⟩
    have outNodup : (out.map (·.1)).Nodup :=
      ihRest hids fun r hr r' hr' =>
        siblings r (List.mem_cons_of_mem id hr) r' (List.mem_cons_of_mem id hr')
    rw [List.map_cons, List.map_append, List.nodup_cons, List.nodup_append']
    refine ⟨fun h => ?_, blockNodup, outNodup, fun u hu => apart ?_⟩
    · rcases List.mem_append.mp h with h | h
      · exact acyclic id ((mem_block hblock).mp h)
      · exact apart .refl h
    · exact ((mem_block hblock).mp hu).to_reflTransGen

omit hn in
theorem exists_preorderOf (hids : ∀ x ∈ ids, x ∈ agents.map (·.id)) (depth : Nat) :
    ∃ out, PreorderOf (forest agents) depth ids out := by
  have siblings : ∀ (xs : List Text) (depth : Nat),
      (∀ x ∈ xs, ∃ block, PreorderOf (forest agents) (depth + 1) ((forest agents).childrenOf x)
        block) → ∃ out, PreorderOf (forest agents) depth xs out := by
    intro xs depth hxs
    induction xs with
    | nil => exact ⟨[], .nil⟩
    | cons x xs ih =>
      obtain ⟨block, hblock⟩ := hxs x List.mem_cons_self
      obtain ⟨out, hout⟩ := ih fun u hu => hxs u (List.mem_cons_of_mem x hu)
      exact ⟨_, .cons hblock hout⟩
  have blocks : ∀ x ∈ agents.map (·.id), ∀ depth,
      ∃ block, PreorderOf (forest agents) depth ((forest agents).childrenOf x) block :=
    descendant_induction acyclic fun x _ ih depth =>
      siblings _ depth fun c hc => ih c (mem_childrenOf.mp hc) (depth + 1)
  exact siblings ids depth fun x hx => blocks x (hids x hx) (depth + 1)

end Forest

/-! ## The walk -/

/-- The walk of a forest, in pre-order. -/
structure WalksInPreorder (agents : List Agent) (h : Hierarchy) : Prop where
  ends : Visits h (h.roots.map (·, 0)) h.walk
  perm : (h.walk.map (·.1)).Perm (agents.map (·.id))
  nodup : (h.walk.map (·.1)).Nodup
  after_parent : ∀ x y, Reports agents x y →
    ∃ before after, h.walk.map (·.1) = before ++ x :: after ∧ y ∈ before
  subtree : ∀ x depth, (x, depth) ∈ h.walk → ∃ before block after,
    h.walk = before ++ (x, depth) :: (block ++ after) ∧
      ∀ y, y ∈ block.map (·.1) ↔ Below agents y x
  roots_sublist : h.roots.Sublist (h.walk.map (·.1))
  siblings_sublist : ∀ y, (h.childrenOf y).Sublist (h.walk.map (·.1))
  depth : ∀ x depth, (x, depth) ∈ h.walk → DepthOf agents x depth

/-- The walk visits every agent once, in pre-order and with its depth. The stack holds what is
still to come; nobody is above themselves, so the walk ends before the visits run out. -/
theorem walksInPreorder_forest (hn : (agents.map (·.id)).Nodup)
    (grounded : ∀ u ∈ agents.map (·.id), Grounded agents u) :
    WalksInPreorder agents (forest agents) := by
  have acyclic : ∀ id, ¬Below agents id id := fun id hid =>
    (grounded id (mem_of_below hid)).not_below_self hid
  have partitions := partitions_forest hn
  obtain ⟨out, hout⟩ := exists_preorderOf acyclic
    (fun x hx => ((mem_roots hn).mp hx).1 : ∀ x ∈ (forest agents).roots, x ∈ agents.map (·.id)) 0
  have nodup : (out.map (·.1)).Nodup := by
    refine nodup_preorderOf hn acyclic hout ((roots_sublist agents).nodup hn) fun r hr r' hr' p => ?_
    exact iff_of_false (((mem_roots hn).mp hr).2 p) (((mem_roots hn).mp hr').2 p)
  have perm : (out.map (·.1)).Perm (agents.map (·.id)) := by
    refine (List.perm_ext_iff_of_nodup nodup hn).mpr fun x => ?_
    rw [mem_preorderOf hout]
    constructor
    · rintro ⟨r, hr, hxr⟩
      rcases Relation.ReflTransGen.cases_head hxr with rfl | ⟨y, hxy, -⟩
      · exact ((mem_roots hn).mp hr).1
      · exact hxy.mem
    · exact exists_root grounded hn
  have ends : Visits (forest agents) ((forest agents).roots.map (·, 0)) out := by
    simpa using visits_append hout .done
  -- every visit gives another agent, so there are enough of them
  have walk : (forest agents).walk = out := by
    refine visit_eq ends (le_of_eq ?_)
    rw [← List.length_map, perm.length_eq]
    rfl
  rw [← walk] at hout nodup perm ends
  have known : ∀ x ∈ agents.map (·.id), ∃ depth, (x, depth) ∈ (forest agents).walk := by
    intro x hx
    obtain ⟨⟨_, depth⟩, hmem, rfl⟩ := List.mem_map.mp (perm.mem_iff.mpr hx)
    exact ⟨depth, hmem⟩
  constructor
  case ends => exact ends
  case perm => exact perm
  case nodup => exact nodup
  case roots_sublist => exact sublist_preorderOf hout
  case subtree =>
    intro x depth hx
    obtain ⟨before, block, after, hwalk, hblock⟩ := exists_block hout hx
    exact ⟨before, block, after, hwalk, fun y => mem_block hblock⟩
  case after_parent =>
    intro x y hxy
    obtain ⟨depth, hy⟩ := known y hxy.1
    obtain ⟨before, block, after, hwalk, hblock⟩ := exists_block hout hy
    obtain ⟨front, back, hfront⟩ := List.append_of_mem ((mem_block hblock).mpr (.single hxy))
    refine ⟨before.map (·.1) ++ y :: front, back ++ after.map (·.1), ?_, by simp⟩
    simp [hwalk, hfront]
  case siblings_sublist =>
    intro y
    by_cases hy : y ∈ agents.map (·.id)
    · obtain ⟨depth, hy⟩ := known y hy
      obtain ⟨before, block, after, hwalk, hblock⟩ := exists_block hout hy
      refine (sublist_preorderOf hblock).trans ?_
      rw [hwalk]
      exact List.Sublist.map _ (.trans (.cons _ (List.sublist_append_left _ _))
        (List.sublist_append_right _ _))
    · rw [List.eq_nil_iff_forall_not_mem.mpr fun x hx => hy (mem_childrenOf.mp hx).1]
      exact List.nil_sublist _
  case depth =>
    exact fun x depth hx => depthOf_of_mem_preorderOf hout
      (fun r hr => .top ((mem_roots hn).mp hr).1 ((mem_roots hn).mp hr).2) (x, depth) hx

/-- Agents that form a hierarchy form a forest, and its walk goes through it in pre-order. -/
theorem resolve_forest {h : Hierarchy} (hr : resolve agents .hierarchical = .ok h) :
    Partitions agents h ∧ WalksInPreorder agents h := by
  rcases resolve_hierarchical_cases agents with ⟨id, he, -⟩ | ⟨hn, ⟨ho, grounded⟩ | ⟨c, he, -⟩⟩
  · rw [he] at hr
    contradiction
  · obtain rfl := Except.ok.inj (ho.symm.trans hr)
    exact ⟨partitions_forest hn, walksInPreorder_forest hn grounded⟩
  · rw [he] at hr
    contradiction

/-- A root, a child that comes before its parent, a grandchild, and a root whose parent is none of
the agents. -/
def scattered : List Agent :=
  [{ id := "leaf", parent := some "middle" }, { id := "middle", parent := some "top" },
   { id := "stray", parent := some "nobody" }, { id := "top" }]

/-- The hypothesis holds of agents that are listed before their parents. -/
theorem resolve_scattered :
    Partitions scattered (forest scattered) ∧ WalksInPreorder scattered (forest scattered) :=
  resolve_forest (by decide)

end Hierarchy

end AgentWorkflow
