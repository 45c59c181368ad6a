import AgentWorkflow.Proofs.Project.Program
import AgentWorkflow.Proofs.Source.Calls

/-!
# What the main module imports, checks and uses

The main module is read block by block: an import, a check of the environment, a factory, the
function that sets up a chat, or none of these. Of a factory and of that function it is told which
names they use, and of every block which variables of the environment it reads. Nothing that stands
in a literal is a name or a call, so the texts of a workflow add nothing.

Results:
1. `main?_of_tells`, `Tells.unlines`: what a program tells from what its parts tell.
2. `tells_imports`, `tells_guards`, `tells_greeting`: the parts in front of the factories.
-/

namespace AgentWorkflow

namespace Project

open Source
open Naming (IsWord)

/-! ## Reading -/

/-- An import: the module, what is taken from it if it is not the module itself, and the name that
is bound. -/
structure Import where
  source : Text
  item? : Option Text
  bound : Text
deriving DecidableEq

/-- A check of the environment: the variable, and the first name in what is done without it. -/
structure Guard where
  name : Text
  response : Text
deriving DecidableEq

/-- What a program tells of a block. -/
inductive Telling
  | imports (i : Import)
  | guards (g : Guard)
  | factory (names : List Text)
  | assembly (names : List Text)
  | other
deriving DecidableEq

/-- What a program tells of a block, and the variables that the block reads. -/
structure BlockReading where
  telling : Telling
  reads : List Text
deriving DecidableEq

/-- What a main module tells: its imports, its checks of the environment, the names that its
factories and the assembly use, and the variables that it reads. -/
structure MainReading where
  imports : List Import
  guards : List Guard
  factories : List Text
  assembly : List Text
  reads : List Text
deriving DecidableEq

def import? (run : List Leaf) : Option Import :=
  match stretches isNamePoint run with
  | [keyword, source] => if keyword = "import" then some ⟨source, none, source⟩ else none
  | [keyword, source, between, name] =>
    if keyword = "import" && between = "as" then some ⟨source, none, name⟩
    else if keyword = "from" && between = "import" then some ⟨source, some name, name⟩
    else none
  | [keyword, source, between, item, renamed, name] =>
    if keyword = "from" && between = "import" && renamed = "as" then
      some ⟨source, some item, name⟩
    else none
  | _ => none

/-- The check that a block is: what it does unless a variable is set. -/
def guard? (b : Block) : Option Guard :=
  match stretches isNamePoint b.head, environmentReads b.head, b.body with
  | [condition, negation, _], [call], first :: _ =>
    if condition = "if" && negation = "not" then do
      return ⟨← readName? call, ← (stretches isNamePoint first.content).head?⟩
    else none
  | _, _, _ => none

/-- True of a line that begins like an import. -/
def isImport (run : List Leaf) : Bool :=
  let first := (takePoints CodePoint.isWordPoint run).1
  first = "import" || first = "from"

/-- What a block is. An import that cannot be read is nothing. -/
def telling? (b : Block) : Option Telling :=
  if isImport b.head then (import? b.head).map .imports
  else match Line.defined? ⟨0, b.head⟩ with
    | some name =>
      some (if isFactoryWord name then .factory b.names
        else if name = "start_chat" then .assembly b.names else .other)
    | none => some ((guard? b).elim .other .guards)

/-- What a program tells of a block. Every variable that it reads has to be given by a literal. -/
def reading? (b : Block) : Option BlockReading := do
  return ⟨← telling? b, ← b.environmentReads.mapM readName?⟩

def readings (ls : List Line) : List (Option BlockReading) := (blocks ls).map reading?

namespace Telling

def import? : Telling → Option Import
  | imports i => some i
  | _ => none

def guard? : Telling → Option Guard
  | guards g => some g
  | _ => none

def factoryNames : Telling → List Text
  | factory names => names
  | _ => []

def assemblyNames : Telling → List Text
  | assembly names => names
  | _ => []

end Telling

/-- What blocks tell together. -/
def mainOf (bs : List BlockReading) : MainReading where
  imports := bs.filterMap (·.telling.import?)
  guards := bs.filterMap (·.telling.guard?)
  factories := bs.flatMap (·.telling.factoryNames)
  assembly := bs.flatMap (·.telling.assemblyNames)
  reads := bs.flatMap (·.reads)

def main? (program : Text) : Option MainReading :=
  (read? program).bind fun leaves => ((readings (linesOf leaves)).mapM id).map mainOf

/-! ## Parts -/

theorem isPartwise_readings : IsPartwise readings where
  nil := rfl
  append ls ks h := by rw [readings, isPartwise_blocks.append ls h, List.map_append]; rfl

/-- `Tells t bs`: the text is made of whole lines at the margin, and their blocks tell `bs`. -/
def Tells (t : Text) (bs : List BlockReading) : Prop := Shows readings t (bs.map some)

theorem Tells.unlines {texts more : List Text} {bs cs : List BlockReading}
    (h : Tells (Text.unlines texts) bs) (h' : Tells (Text.unlines more) cs) :
    Tells (Text.unlines (texts ++ more)) (bs ++ cs) := by
  rw [Tells, List.map_append]
  exact Shows.unlines isPartwise_readings h h'

theorem tells_nil : Tells [] [] := shows_nil isPartwise_readings

theorem tells_flatMap {α : Type} {f : α → List Text} {g : α → BlockReading} {xs : List α}
    (h : ∀ x ∈ xs, Tells (Text.unlines (f x)) [g x]) :
    Tells (Text.unlines (xs.flatMap f)) (xs.map g) := by
  rw [Tells, List.map_map, List.map_eq_flatMap]
  exact shows_flatMap isPartwise_readings h

theorem tells_block {t : Text} {head : List Leaf} {body : List Line} {b : BlockReading}
    (lays : Lays t (⟨0, head⟩ :: body)) (indented : ∀ l ∈ body, 0 < l.indentation)
    (read : reading? ⟨head, body⟩ = some b) : Tells t [b] := by
  refine ⟨_, lays, ?_, ?_⟩
  · rintro l ⟨⟩
    rfl
  · rw [readings, blocks_block head indented, List.map_singleton, read]
    rfl

theorem main?_of_tells {program : Text} {bs : List BlockReading} (h : Tells program bs) :
    main? program = some (mainOf bs) := by
  have found := h.read?
  rw [Option.map_eq_some_iff] at found
  obtain ⟨leaves, read, shown⟩ := found
  have each : (bs.map some).mapM id = some (bs.map id) := mapM_map fun _ _ => rfl
  rw [List.map_id] at each
  rw [main?, read, Option.bind_some, shown, each, Option.map_some]

/-! ### Parts that are the same in every program -/

/-- True of a text of whole lines at the margin whose blocks tell the given things. -/
def tells (bs : List BlockReading) (t : Text) : Bool :=
  isLaid t && (layout t).head?.all (·.indentation = 0) && readings (layout t) = bs.map some

theorem tells_of_tells {bs : List BlockReading} {t : Text} (h : tells bs t) : Tells t bs := by
  simp only [tells, Bool.and_eq_true, decide_eq_true_eq] at h
  obtain ⟨⟨laid, margin⟩, told⟩ := h
  rw [Tells, ← told]
  exact shows_of_isLaid laid margin

/-- A block that is nothing and reads no variable. -/
def idle : BlockReading := ⟨.other, []⟩

/-- The check for OpenAI's key, and the one for Google's credentials. -/
def openaiCheck : Guard := ⟨"OPENAI_API_KEY", "raise"⟩

def googleCheck : Guard := ⟨"GOOGLE_APPLICATION_CREDENTIALS", "logger.warning"⟩

/-- A check reads the variable that it is about. -/
def guardReading (g : Guard) : BlockReading := ⟨.guards g, [g.name]⟩

theorem tells_mainHeader (kind : WorkflowKind) : Tells (Text.unlines (mainHeader kind)) [idle] := by
  refine tells_of_tells ?_
  cases kind
  all_goals
    simp only [mainHeader, WorkflowKind.name, fixed, List.map]
    repeat rw [Text.ofString_ofList]
    decide +kernel

/-- What stands behind the function that sets up a chat. -/
theorem tells_ending (kind : WorkflowKind) :
    Tells (Text.unlines (messageHandler ++ chatProfile kind ++ server))
      (List.replicate 4 idle ++ [⟨.other, ["PORT"]⟩, idle, idle, idle, idle]) := by
  have handler : Tells (Text.unlines messageHandler) [idle, idle] := by
    refine tells_of_tells ?_
    simp only [messageHandler, fixed, List.map]
    repeat rw [Text.ofString_ofList]
    decide +kernel
  have profile : Tells (Text.unlines (chatProfile kind)) [idle, idle] := by
    refine tells_of_tells ?_
    cases kind
    all_goals
      simp only [chatProfile, profileDescription, fixed, List.map]
      repeat rw [Text.ofString_ofList]
      decide +kernel
  have server : Tells (Text.unlines server) [⟨.other, ["PORT"]⟩, idle, idle, idle, idle] := by
    refine tells_of_tells ?_
    simp only [Project.server, fixed, List.map]
    repeat rw [Text.ofString_ofList]
    decide +kernel
  exact (handler.unlines profile).unlines server

/-! ### The imports and the checks of a workflow -/

/-- The imports of every program. -/
def generalImports : List Import :=
  [⟨"logging", none, "logging"⟩, ⟨"os", none, "os"⟩, ⟨"chainlit", none, "cl"⟩,
   ⟨"adk.agent", some "Agent", "Agent"⟩]

def kindImport (kind : WorkflowKind) : Import := ⟨"adk.workflow", some kind.name, kind.name⟩

def openaiImport : Import := ⟨"adk.llm.provider.openai", some "OpenAI", "OpenAI"⟩

def vertexImport : Import := ⟨"adk.llm.provider.vertex", some "VertexAI", "VertexAI"⟩

def sessionImport : Import := ⟨"adk.memory.memory", some "Memory", "LocalMemory"⟩

def bankImport : Import := ⟨"adk.memory.google.memory_bank", some "MemoryBank", "MemoryBank"⟩

def memoryImport : Memory → Import
  | .session => sessionImport
  | .bank .. => bankImport

def toolsImport : Import := ⟨"tools", none, toolsAlias⟩

def importsOf (w : Workflow) : List Import :=
  generalImports ++ [kindImport w.kind]
    ++ (if usesOther w.agents then [openaiImport] else [])
    ++ (if usesFamily w.agents .vertex then [vertexImport] else [])
    ++ [memoryImport (Memory.ofDeployment w.deployment), toolsImport]

def checksOf (w : Workflow) : List Guard :=
  (if usesOther w.agents then [openaiCheck] else [])
    ++ (if usesGoogle w then [googleCheck] else [])

def importReading (i : Import) : BlockReading := ⟨.imports i, []⟩

theorem tells_if {c : Prop} [Decidable c] {texts : List Text} {bs : List BlockReading}
    (h : Tells (Text.unlines texts) bs) :
    Tells (Text.unlines (if c then texts else [])) (if c then bs else []) := by
  split
  · exact h
  · exact tells_nil

/-- The imports tell what they import, in order; the blank lines behind them tell nothing. -/
theorem tells_imports (w : Workflow) :
    Tells (Text.unlines (imports w)) ((importsOf w).map importReading ++ [idle, idle]) := by
  have first : Tells (Text.unlines (fixed ["import logging", "import os", "",
      "import chainlit as cl", "from adk.agent import Agent"]))
      (generalImports.map importReading) := by
    refine tells_of_tells ?_
    simp only [fixed, List.map]
    repeat rw [Text.ofString_ofList]
    decide +kernel
  have kind : Tells (Text.unlines [("from adk.workflow import " : Text) ++ w.kind.name])
      [importReading (kindImport w.kind)] := by
    refine tells_of_tells ?_
    cases w.kind
    all_goals
      simp only [kindImport, WorkflowKind.name]
      repeat rw [Text.ofString_ofList]
      decide +kernel
  have openai : Tells (Text.unlines [("from adk.llm.provider.openai import OpenAI" : Text)])
      [importReading openaiImport] := by
    refine tells_of_tells ?_
    rw [openaiImport]
    repeat rw [Text.ofString_ofList]
    decide +kernel
  have vertex : Tells (Text.unlines [("from adk.llm.provider.vertex import VertexAI" : Text)])
      [importReading vertexImport] := by
    refine tells_of_tells ?_
    rw [vertexImport]
    repeat rw [Text.ofString_ofList]
    decide +kernel
  have memory : Tells (Text.unlines [(Memory.ofDeployment w.deployment).importLine])
      [importReading (memoryImport (Memory.ofDeployment w.deployment))] := by
    cases Memory.ofDeployment w.deployment
    all_goals
      refine tells_of_tells ?_
      simp only [Memory.importLine, memoryImport]
      rw [Text.ofString_ofList]
      decide +kernel
  have last : Tells (Text.unlines (fixed ["", "import tools as agent_tools", "",
      "logging.basicConfig(level=logging.INFO)", "logger = logging.getLogger(__name__)", ""]))
      [importReading toolsImport, idle, idle] := by
    refine tells_of_tells ?_
    simp only [fixed, List.map]
    repeat rw [Text.ofString_ofList]
    decide +kernel
  have whole := ((((first.unlines kind).unlines (tells_if (c := usesOther w.agents) openai)).unlines
    (tells_if (c := usesFamily w.agents .vertex) vertex)).unlines memory).unlines last
  have shape : (importsOf w).map importReading ++ [idle, idle]
      = generalImports.map importReading ++ [importReading (kindImport w.kind)]
        ++ (if usesOther w.agents then [importReading openaiImport] else [])
        ++ (if usesFamily w.agents .vertex then [importReading vertexImport] else [])
        ++ [importReading (memoryImport (Memory.ofDeployment w.deployment))]
        ++ [importReading toolsImport, idle, idle] := by
    simp only [importsOf, List.map_append, apply_ite (List.map importReading), List.map_cons,
      List.map_nil, List.append_assoc, List.cons_append, List.nil_append]
  rw [shape]
  exact whole

/-- Each guard tells the variable that it checks. -/
theorem tells_guards (w : Workflow) :
    Tells (Text.unlines (guards w)) ((checksOf w).map guardReading) := by
  have openai : Tells (Text.unlines openaiGuard) [guardReading openaiCheck] := by
    refine tells_of_tells ?_
    simp only [openaiGuard, fixed, List.map]
    repeat rw [Text.ofString_ofList]
    decide +kernel
  have google : Tells (Text.unlines googleGuard) [guardReading googleCheck] := by
    refine tells_of_tells ?_
    simp only [googleGuard, fixed, List.map]
    repeat rw [Text.ofString_ofList]
    decide +kernel
  have whole := (tells_if (c := usesOther w.agents) openai).unlines
    (tells_if (c := usesGoogle w) google)
  rwa [checksOf, List.map_append, apply_ite (List.map guardReading),
    apply_ite (List.map guardReading)]

/-! ### The greeting -/

theorem guard?_bare (head : List Leaf) : guard? ⟨head, []⟩ = none := by
  unfold guard?
  split
  · contradiction
  · rfl

/-- A line that imports nothing, begins no function and reads no variable. -/
theorem reading?_idle {head : List Leaf} (imports : isImport head = false)
    (defines : Line.defined? ⟨0, head⟩ = none) (reads : Source.environmentReads head = []) :
    reading? ⟨head, []⟩ = some idle := by
  have told : telling? ⟨head, []⟩ = some .other := by
    simp only [telling?, imports, defines, guard?_bare]
    rfl
  have none : Block.environmentReads ⟨head, []⟩ = [] := by
    rw [Block.environmentReads, Block.lines, List.flatMap_singleton, reads]
  rw [reading?, told, none]
  rfl

theorem isImport_of_takePoints {run rest : List Leaf} {word : Text}
    (h : takePoints CodePoint.isWordPoint run = (word, rest)) (plain : word ≠ "import")
    (plain' : word ≠ "from") : isImport run = false := by
  simp [isImport, h, plain, plain']

theorem tells_assignment {name : Text} (hn : isKeyName name) (plain : name ≠ "import")
    (plain' : name ≠ "from")
    (defines : ∀ value, Line.defined? ⟨0, assignmentRun name value⟩ = none) (t : Text) :
    Tells (Text.unlines [name ++ " = " ++ literal t]) [idle] := by
  have lays : Lays (Text.unlines [name ++ " = " ++ literal t]) [⟨0, assignmentRun name [.text t]⟩] := by
    simpa [Text.unlines, line, indent] using lays_assignment hn 0 (expresses_literal t)
  have first : takePoints CodePoint.isWordPoint (assignmentRun name [.text t])
      = (name, [.point ' '] ++ .point '=' :: ([.point ' '] ++ [.text t])) :=
    takePoints_append (isKeyName_iff.mp hn).2 (stops_point (by decide))
  have reads : Source.environmentReads (assignmentRun name [.text t]) = [] := by
    rw [isCallView_environmentReads.assignmentRun, environmentReads_points,
      isCallView_environmentReads.text, List.append_nil]
  exact tells_block lays (List.forall_mem_nil _)
    (reading?_idle (isImport_of_takePoints first plain plain') (defines _) reads)

theorem tells_greeting (a : Agent) : Tells (Text.unlines (greeting a)) [idle, idle] := by
  have welcome : ("WELCOME_MESSAGE = " : Text) = "WELCOME_MESSAGE" ++ " = " := rfl
  have placeholder : ("INPUT_PLACEHOLDER = " : Text) = "INPUT_PLACEHOLDER" ++ " = " := rfl
  rw [greeting, welcome, placeholder]
  exact (tells_assignment (by decide) (by decide) (by decide) (fun _ => rfl) _).unlines
    (tells_assignment (by decide) (by decide) (by decide) (fun _ => rfl) _)

end Project

end AgentWorkflow
