import AgentWorkflow.Text.Basic

/-!
# Paths

Where in a workflow document a value stands: the names and positions that lead to it.
-/

namespace AgentWorkflow

/-- A step into a document. -/
inductive Step
  | field (name : Text)
  | item (index : Nat)
deriving DecidableEq

/-- The steps that lead to a value, outermost first. -/
abbrev Path := List Step

namespace Path

def field (p : Path) (name : Text) : Path := p ++ [.field name]

def item (p : Path) (index : Nat) : Path := p ++ [.item index]

def agent (i : Nat) : Path := [.field "agents", .item i]

def tool (p : Path) (i : Nat) : Path := (p.field "tools").item i

def parameter (p : Path) (i : Nat) : Path := (p.field "parameters").item i

def deployment (name : Text) : Path := [.field "deploymentConfig", .field name]

/-- The steps behind the first, with their dots and brackets. -/
def suffix : Path → Text
  | [] => []
  | .field name :: rest => ("." : Text) ++ name ++ suffix rest
  | .item index :: rest => ("[" : Text) ++ Text.ofNat index ++ "]" ++ suffix rest

/-- The path as it is written: `agents[0].tools[2].name`. -/
def text : Path → Text
  | .field name :: rest => name ++ suffix rest
  | p => suffix p

example : ((agent 0).tool 2 |>.field "name").text = ("agents[0].tools[2].name" : Text) := by decide

end Path

end AgentWorkflow
