import AgentWorkflow.Text.Quoted
import AgentWorkflow.Workflow.Model

/-!
# Hierarchies

The structure that the agents of a workflow form. In a hierarchical workflow an agent stands below
its parent, and one without a parent, or with a parent that is no agent, is a root; in the flat
kinds every agent is a root. Ids have to be distinct, and no agent may be its own ancestor.

The search for a cycle follows the parents of each agent in turn and stops at agents that an
earlier search has shown to lead to a root.
-/

namespace AgentWorkflow

/-- The structure of a workflow: the ids of its agents in order, the roots, and the children of
every agent that has some. -/
structure Hierarchy where
  kind : WorkflowKind
  order : List Text
  roots : List Text
  children : List (Text × List Text)
deriving DecidableEq

/-- Why agents form no hierarchy. -/
inductive HierarchyError
  | duplicateId (id : Text)
  | cycle (ids : List Text)
  | walkTooLong (start : Text) (limit : Nat)
deriving DecidableEq

/-- The error in words. A cycle is shown closed. -/
def HierarchyError.message : HierarchyError → Text
  | .duplicateId id => ("Duplicate agent id " : Text) ++ id.quoted
  | .cycle ids =>
    ("Cyclic parent references between agents: " : Text) ++ Text.join " -> " (ids ++ ids.take 1)
  | .walkTooLong start limit =>
    ("Parent walk from " : Text) ++ start.quoted ++ " exceeded " ++ Text.ofNat limit ++ " steps"

namespace Hierarchy

def agent? (agents : List Agent) (id : Text) : Option Agent := agents.find? (·.id = id)

def parentIn (agents : List Agent) (a : Agent) : Option Text :=
  a.parent.filter fun p => (agent? agents p).isSome

/-- The first id that an earlier agent has, `seen` being the ids before. -/
def duplicate? (seen : List Text) : List Agent → Option Text
  | [] => none
  | a :: rest => if seen.contains a.id then some a.id else duplicate? (a.id :: seen) rest

/-- How following the parents ends. -/
inductive WalkEnd
  | settled (path : List Text)
  | cycle (ids : List Text)
  | tooLong

/-- Follows the parents from an id, with `path` behind, for at most `steps` steps. -/
def follow (agents : List Agent) (settled : List Text) :
    Nat → List Text → Option Text → WalkEnd
  | _, path, none => .settled path
  | steps, path, some id =>
    match agent? agents id with
    | none => .settled path
    | some a =>
      if settled.contains id then .settled path
      else if path.contains id then .cycle (path.dropWhile (· ≠ id))
      else match steps with
        | 0 => .tooLong
        | steps + 1 => follow agents settled steps (path ++ [id]) a.parent

/-- Looks for a cycle from each of the given ids in turn. -/
def checkForest (agents : List Agent) (settled : List Text) :
    List Text → Except HierarchyError Unit
  | [] => .ok ()
  | start :: rest =>
    match follow agents settled (agents.length + 1) [] (some start) with
    | .settled path => checkForest agents (settled ++ path) rest
    | .cycle ids => .error (.cycle ids)
    | .tooLong => .error (.walkTooLong start agents.length)

/-- The ids of the agents whose parent is `parent`. -/
def childIds (agents : List Agent) (parent : Text) : List Text :=
  (agents.filter fun a => parentIn agents a = some parent).map (·.id)

/-- The forest of agents that have passed the search for cycles. Supervisors come in the order in
which they are first named. -/
def forest (agents : List Agent) : Hierarchy where
  kind := .hierarchical
  order := agents.map (·.id)
  roots := (agents.filter fun a => (parentIn agents a).isNone).map (·.id)
  children := (agents.filterMap (parentIn agents)).eraseDups.map fun p => (p, childIds agents p)

/-- The structure of agents that work as equals. -/
def flat (kind : WorkflowKind) (agents : List Agent) : Hierarchy where
  kind := kind
  order := agents.map (·.id)
  roots := agents.map (·.id)
  children := []

/-- The structure that agents form in a workflow of the given kind. -/
def resolve (agents : List Agent) (kind : WorkflowKind) : Except HierarchyError Hierarchy :=
  match duplicate? [] agents with
  | some id => .error (.duplicateId id)
  | none =>
    if kind = .hierarchical then do
      checkForest agents [] (agents.map (·.id))
      return forest agents
    else .ok (flat kind agents)

def childrenOf (h : Hierarchy) (id : Text) : List Text := (h.children.lookup id).getD []

/-- Visits a stack of ids, each with its depth: the top of the stack, then its children, then the
rest. A visit uses up one of the `visits` left. -/
def visit (h : Hierarchy) : Nat → List (Text × Nat) → List (Text × Nat)
  | 0, _ | _, [] => []
  | visits + 1, (id, depth) :: stack =>
    (id, depth) :: visit h visits ((h.childrenOf id).map (·, depth + 1) ++ stack)

/-- The agents with their depths, each before its children, siblings in order. Every agent is
visited once, so there are as many visits as agents. -/
def walk (h : Hierarchy) : List (Text × Nat) := h.visit h.order.length (h.roots.map (·, 0))

end Hierarchy

def Workflow.hierarchy (w : Workflow) : Except HierarchyError Hierarchy :=
  Hierarchy.resolve w.agents w.kind

example :
    ((Hierarchy.resolve [{ id := "b", parent := some "a" }, { id := "a" }] .hierarchical).toOption.map
      Hierarchy.walk) = some ([("a", 0), ("b", 1)] : List (Text × Nat)) := by decide

example :
    (match Hierarchy.resolve [{ id := "a", parent := some "b" }, { id := "b", parent := some "a" }]
        .hierarchical with
      | .ok _ => none
      | .error e => some e) = some (HierarchyError.cycle ["a", "b"]) := by decide

end AgentWorkflow
