import AgentWorkflow.Project.MainModule
import AgentWorkflow.Proofs.Project.Factories
import AgentWorkflow.Proofs.Project.Words

/-!
# What the chat starts with

The function that sets up a chat is a plain sequence of statements: one that makes each agent, one
that joins the agents into a workflow, and two that are the same in every program. The workflow is a
call whose keyword arguments list the agents and, in a hierarchy, tell who reports to whom.

Results:
1. `lays_chatStart`, `defines_chatStart`: the lines of the function.
2. `instances_chatStatements`: which agents it makes.
3. `workflow?_chatStatements`: how it joins them.
4. `factories_chatStatements`: it names every factory once.
-/

namespace AgentWorkflow

namespace Project

open Source
open Naming (IsWord)

/-! ## Views of a statement -/

/-- The variable and the function of a statement that assigns what a function without arguments
gives. -/
def instance? (statement : List Leaf) : Option (Text × Text) := do
  let (target, value) ← binding? statement
  let (function, arguments) ← call? value
  if arguments.isEmpty then some (target, function) else none

/-- What a program tells of a workflow: its kind, its agents by their variables and, if it has a
structure, under each supervisor its reports. -/
structure WorkflowReading where
  kind : Text
  agents : List Text
  reports? : Option (List (Text × List Text))
deriving DecidableEq

/-- The entries of a dictionary from texts to lists of texts. -/
def reports? (run : List Leaf) : Option (List (Text × List Text)) := do
  let entries ← entries? run
  entries.mapM fun (key, value) => do
    let items ← list? value
    return (← text? key, ← items.mapM text?)

/-- The workflow that a call with keyword arguments makes. -/
def workflowOf? (value : List Leaf) : Option WorkflowReading := do
  let (kind, runs) ← call? value
  let arguments ← keywords? runs
  let agents ← list? (← Table.get? arguments "agents")
  let agents ← agents.mapM name?
  match Table.get? arguments "structure" with
  | none => return ⟨kind, agents, none⟩
  | some dictionary => return ⟨kind, agents, some (← reports? dictionary)⟩

def workflow? (statements : List (List Leaf)) : Option WorkflowReading :=
  match (statements.filterMap binding?).filter (·.1 = ("workflow" : Text)) with
  | [(_, value)] => workflowOf? value
  | _ => none

/-- True of a word that begins like the name of a factory. -/
def isFactoryWord (word : Text) : Bool := ("create_agent_" : Text).isPrefixOf word

/-- The statements of the function that starts a chat, if there is one such function. -/
def chat? (functions : List Definition) : Option (List (List Leaf)) :=
  match functions.filter (·.name = ("start_chat" : Text)) with
  | [d] => d.statements?
  | _ => none

/-! ## Making the agents -/

namespace Assembly

variable {a : Assembly} (hm : ∀ i ∈ a.members, IsWord i)

/-- The leaves of a call without arguments. -/
def factoryCall (i : Text) : List Leaf := (factoryName i).map .point ++ [.group '(' []]

def instanceRun (i : Text) : List Leaf := assignmentRun (agentVariable i) (factoryCall i)

theorem isKeyName_agentVariable {i : Text} (hi : IsWord i) : isKeyName (agentVariable i) := by
  refine isKeyName_iff.mpr ⟨by simp [agentVariable, Text.ofString], fun c hc => ?_⟩
  rcases List.mem_append.mp hc with hc | hc
  · exact (by decide : ∀ c ∈ ("agent_" : Text), c.isWordPoint) c hc
  · exact isWordPoint_of_isWord hi c hc

theorem expresses_factoryCall {i : Text} (hi : IsWord i) :
    Expresses (factoryName i ++ (("(" : Text) ++ [] ++ (")" : Text))) (factoryCall i) := by
  obtain ⟨ne, word⟩ := isKeyName_iff.mp (isKeyName_factoryName hi)
  exact expresses_call ne (fun c hc => isNamePoint_of_isWordPoint (word c hc)) reads_nil.awaits

theorem binding?_instanceRun {i : Text} (hi : IsWord i) :
    binding? (instanceRun i) = some (agentVariable i, factoryCall i) :=
  binding?_assignmentRun (isKeyName_agentVariable hi) (expresses_factoryCall hi).toValue

theorem instance?_instanceRun {i : Text} (hi : IsWord i) :
    instance? (instanceRun i) = some (agentVariable i, factoryName i) := by
  obtain ⟨ne, word⟩ := isKeyName_iff.mp (isKeyName_factoryName hi)
  have call : call? (factoryCall i) = some (factoryName i, []) :=
    call?_points ne (fun c hc => isNamePoint_of_isWordPoint (word c hc)) []
  simp [instance?, binding?_instanceRun hi, call]

theorem view_instanceRun {α : Type} {view : List Leaf → List α} (hv : IsCallView view) {i : Text}
    (hi : IsWord i) : view (instanceRun i)
      = view ((agentVariable i).map .point) ++ view ((factoryName i).map .point) := by
  rw [instanceRun, hv.assignmentRun, factoryCall, hv.call_last (isKeyName_factoryName hi), hv.nil,
    List.append_nil]

theorem lays_instance {i : Text} (hi : IsWord i) :
    Lays (line 1 (agentVariable i ++ " = " ++ factoryName i ++ "()") ++ "\n")
      [⟨4, instanceRun i⟩] := by
  have call : ("()" : Text) = "(" ++ ")" := rfl
  simpa [call, instanceRun]
    using lays_assignment (isKeyName_agentVariable hi) 1 (expresses_factoryCall hi)

/-! ## Joining the agents -/

def entryText (e : Text × List Text) : Text :=
  literal e.1
    ++ ((": " : Text) ++ (("[" : Text) ++ Text.join ", " (e.2.map literal) ++ ("]" : Text)))

/-- The leaves of a supervisor's reports. -/
def reportsRun (reports : List Text) : List Leaf :=
  [.group '[' (inline (reports.map fun i => [.text i]))]

/-- The leaves of a supervisor's entry. -/
def entryRun (e : Text × List Text) : List Leaf :=
  .text e.1 :: .point ':' :: .point ' ' :: reportsRun e.2

theorem awaits_entryText (e : Text × List Text) : Awaits (entryText e) (entryRun e) := by
  have literals : ∀ x ∈ e.2.map fun i => (literal i, [Leaf.text i]), Awaits x.1 x.2 := by
    intro x hx
    obtain ⟨i, -, rfl⟩ := List.mem_map.mp hx
    exact awaits_literal i
  have list := reads_brackets (awaits_inline literals)
  have colon : Reads ": " [.point ':', .point ' '] := reads_points (by decide)
  have whole := (awaits_literal e.1).append (colon.append list) rfl
  simpa [entryText, entryRun, reportsRun, List.map_map, Function.comp_def] using whole.awaits

theorem item_entryRun (e : Text × List Text) : Item (entryRun e) := by
  refine ⟨⟨_, _, rfl, rfl⟩, ⟨[.text e.1, .point ':', .point ' '], _, rfl, rfl⟩, ?_⟩
  intro l hl
  rcases hl with _ | ⟨_, _ | ⟨_, _ | ⟨_, _ | ⟨_, hl⟩⟩⟩⟩ <;> first | rfl | decide | exact nomatch hl

def structureText (a : Assembly) : Text :=
  ("\x7b" : Text) ++ (if a.reports.isEmpty then [] else
    ("\n" : Text) ++ (Text.unlines ((a.reports.map entryText).map fun t => line 3 (t ++ ","))
      ++ indent 2)) ++ ("\x7d" : Text)

def structureRun (a : Assembly) : List Leaf :=
  [.group '\x7b' (if a.reports.isEmpty then [] else blockLeaves 2 (a.reports.map entryRun))]

theorem expresses_structureText (a : Assembly) : Expresses (structureText a) (structureRun a) := by
  refine expresses_dictionary ?_
  split
  · exact reads_nil.awaits
  · have entries : ∀ x ∈ a.reports.map fun e => (entryText e, entryRun e), Awaits x.1 x.2 := by
      intro x hx
      obtain ⟨e, -, rfl⟩ := List.mem_map.mp hx
      exact awaits_entryText e
    simpa [List.map_map, Function.comp_def] using (reads_block 2 entries).awaits

/-- The structure is read back as the lists it was written from, in their order. -/
theorem reports?_structureRun (a : Assembly) : reports? (structureRun a) = some a.reports := by
  have runs : items (if a.reports.isEmpty then [] else blockLeaves 2 (a.reports.map entryRun))
      = a.reports.map entryRun := by
    split
    · next empty =>
      rw [List.isEmpty_iff.mp empty]
      rfl
    · refine items_blockLeaves 2 fun run hrun => ?_
      obtain ⟨e, -, rfl⟩ := List.mem_map.mp hrun
      exact item_entryRun e
  have pairs : (a.reports.map entryRun).mapM sides?
      = some (a.reports.map fun e => ([.text e.1], reportsRun e.2)) :=
    mapM_map fun e _ => sides?_text e.1 (item_group _ _)
  have texts : ∀ e : Text × List Text, (list? (reportsRun e.2)).bind (·.mapM text?) = some e.2 := by
    intro e
    have each : (e.2.map fun i => [Leaf.text i]).mapM text? = some (e.2.map id) :=
      mapM_map fun i _ => text?_text i
    have items :
        items (inline (e.2.map fun i => [Leaf.text i])) = e.2.map fun i => [Leaf.text i] := by
      refine items_inline fun run hrun => ?_
      obtain ⟨i, -, rfl⟩ := List.mem_map.mp hrun
      exact item_text i
    simp only [reportsRun, list?, if_true, Option.bind_some, items, each, List.map_id]
  have entries : entries? (structureRun a)
      = some (a.reports.map fun e => ([Leaf.text e.1], reportsRun e.2)) := by
    simp only [structureRun, entries?, if_true, runs, pairs]
  rw [reports?, entries]
  refine (mapM_map (k := id) fun e _ => ?_).trans (by rw [List.map_id])
  obtain ⟨items, listed, read⟩ := Option.bind_eq_some_iff.mp (texts e)
  simp [listed, read, text?_text]

def assemblyArguments (a : Assembly) : List Argument :=
  ⟨"agents", namesText 2 (a.members.map agentVariable), namesRun 2 (a.members.map agentVariable)⟩ ::
    if a.kind = .hierarchical then [⟨"structure", structureText a, structureRun a⟩] else []

include hm in
theorem isName_agentVariables :
    ∀ name ∈ a.members.map agentVariable, name ≠ [] ∧ ∀ c ∈ name, isNamePoint c := by
  intro name hn
  obtain ⟨i, hi, rfl⟩ := List.mem_map.mp hn
  obtain ⟨ne, word⟩ := isKeyName_iff.mp (isKeyName_agentVariable (hm i hi))
  exact ⟨ne, fun c hc => isNamePoint_of_isWordPoint (word c hc)⟩

include hm in
theorem sound_assemblyArguments : ∀ x ∈ assemblyArguments a, x.Sound := by
  refine List.forall_mem_cons.mpr ⟨⟨rfl, expresses_namesText (isName_agentVariables hm) 2⟩, ?_⟩
  split
  · intro x hx
    rw [List.mem_singleton.mp hx]
    exact ⟨rfl, expresses_structureText a⟩
  · exact fun x hx => absurd hx List.not_mem_nil

def workflowRun (a : Assembly) : List Leaf :=
  a.kind.name.map .point ++ [.group '(' (blockLeaves 1 (argumentRuns (assemblyArguments a)))]

def joinRun (a : Assembly) : List Leaf := assignmentRun "workflow" (workflowRun a)

theorem isKeyName_kind (kind : WorkflowKind) : isKeyName kind.name := by
  cases kind <;> decide

include hm in
theorem expresses_workflow : Expresses (a.kind.name ++ (("(" : Text) ++ (("\n" : Text)
    ++ (Text.unlines ((assemblyArguments a).map fun x => line 2 (x.source ++ ",")) ++ indent 1))
    ++ (")" : Text))) (workflowRun a) := by
  obtain ⟨ne, word⟩ := isKeyName_iff.mp (isKeyName_kind a.kind)
  exact expresses_call ne (fun c hc => isNamePoint_of_isWordPoint (word c hc))
    (reads_arguments (sound_assemblyArguments hm) 1).awaits

theorem unlines_structureArgument (a : Assembly) : Text.unlines a.structureArgument
    = line 2 (("structure" ++ ("=" ++ structureText a)) ++ ",") ++ "\n" := by
  have opened : ("structure=\x7b" : Text) = "structure" ++ ("=" ++ "\x7b") := rfl
  have closed : ("\x7d," : Text) = "\x7d" ++ "," := rfl
  have empty : ("structure=\x7b\x7d," : Text)
      = "structure" ++ ("=" ++ ("\x7b" ++ "\x7d")) ++ "," := rfl
  have colon : (": [" : Text) = ": " ++ "[" := rfl
  have last : ("]," : Text) = "]" ++ "," := rfl
  simp only [structureArgument, structureText]
  split
  · simp [Text.unlines, empty]
  · simp [Text.unlines, line, opened, closed, supervisorLine, entryText, colon, last,
      List.flatMap_map]

theorem unlines_agentsArgument (a : Assembly) : Text.unlines a.agentsArgument
    = line 2 (("agents" ++ ("=" ++ namesText 2 (a.members.map agentVariable))) ++ ",") ++ "\n" := by
  have opened : ("agents=[" : Text) = "agents" ++ ("=" ++ "[") := rfl
  have closed : ("]," : Text) = "]" ++ "," := rfl
  simp [agentsArgument, Text.unlines, line, opened, closed, namesText, List.flatMap_map]

include hm in
theorem lays_statement : Lays (Text.unlines a.statement) [⟨4, joinRun a⟩] := by
  have opened : ("workflow = " : Text) = "workflow" ++ " = " := rfl
  have joined := lays_assignment (show isKeyName "workflow" from rfl) 1 (expresses_workflow hm)
  rw [statement, Text.unlines_append, Text.unlines_append, Text.unlines_append,
    unlines_agentsArgument]
  unfold assemblyArguments at joined
  split at joined
  · next hierarchical =>
    rw [if_pos hierarchical, unlines_structureArgument]
    simpa [Text.unlines, line, opened, Argument.source, joinRun] using joined
  · next flat =>
    rw [if_neg flat]
    simpa [Text.unlines, line, opened, Argument.source, joinRun] using joined

include hm in
theorem lays_instances :
    Lays (Text.unlines a.instances) (a.members.map fun i => ⟨4, instanceRun i⟩) := by
  have note : Lays (Text.unlines [line 1 "# Create instances of each agent"]) [] := by
    refine lays_nil_of_allLines ?_
    rw [Text.ofString_ofList]
    decide +kernel
  refine note.unlines ?_
  rw [List.map_eq_flatMap, List.map_eq_flatMap]
  exact lays_flatMap fun i hi => by simpa [Text.unlines] using lays_instance (hm i hi)

include hm in
theorem lays_comment : Lays (Text.unlines a.comment) [] := by
  unfold comment
  split
  · have opening : Lays (Text.unlines
        [line 1 "# Assemble the agents into a sequential workflow.",
         line 1 "# The output of each agent becomes the input of the next:"]) [] := by
      refine lays_nil_of_allLines ?_
      repeat rw [Text.ofString_ofList]
      decide +kernel
    have chain := Source.lays_comment 1 (newline_not_mem_chain hm)
    have sharp : ("# " : Text) = "#" ++ " " := rfl
    simpa [Text.unlines, sharp] using opening.append chain
  all_goals
    refine lays_nil_of_allLines ?_
    repeat rw [Text.ofString_ofList]
    decide +kernel

end Assembly

/-! ## The function -/

/-- The lines in front of the body, and the last statements, are the same in every program. -/
def chatHead : Text := Text.unlines (fixed ["", "", "@cl.on_chat_start", "async def start_chat():"])

def chatEnd : Text :=
  Text.unlines
    [line 1 "cl.user_session.set(\"workflow\", workflow)",
     line 1 "await cl.Message(content=WELCOME_MESSAGE).send()"]

theorem lays_chatHead : Lays chatHead (layout chatHead) ∧
    (layout chatHead).map (fun l => (l.indentation, l.defined?))
      = [(0, none), (0, some ("start_chat" : Text))] := by
  have facts : isLaid chatHead ∧ (layout chatHead).map (fun l => (l.indentation, l.defined?))
      = [(0, none), (0, some ("start_chat" : Text))] := by
    simp only [chatHead, fixed, List.map]
    repeat rw [Text.ofString_ofList]
    decide +kernel
  exact ⟨lays_of_isLaid facts.1, facts.2⟩

/-- What the last statements do: they bind no name, and make no agent. -/
theorem lays_chatEnd : Lays chatEnd (layout chatEnd) ∧
    ∀ l ∈ layout chatEnd, l.indentation = 4 ∧ binding? l.content = none ∧
      ∀ word ∈ words l.content, isFactoryWord word = false := by
  have all : allLines (fun l => l.indentation = 4 && (binding? l.content).isNone
      && (words l.content).all (!isFactoryWord ·)) chatEnd := by
    rw [chatEnd]
    repeat rw [Text.ofString_ofList]
    decide +kernel
  obtain ⟨lays, each⟩ := lays_of_allLines all
  refine ⟨lays, fun l hl => ?_⟩
  simpa [and_assoc] using each l hl

def chatBody (a : Assembly) : List Line :=
  a.members.map (fun i => ⟨4, Assembly.instanceRun i⟩) ++ ⟨4, a.joinRun⟩ :: layout chatEnd

section Chat

variable {a : Assembly} (hm : ∀ i ∈ a.members, IsWord i)

include hm in
theorem lays_chatStart : Lays (Text.unlines (chatStart a)) (layout chatHead ++ chatBody a) := by
  have blank : Lays (Text.unlines [[]]) [] := lays_nil_of_allLines (by decide)
  have made := (Assembly.lays_instances hm).unlines blank
  have joined := (made.unlines (Assembly.lays_comment hm)).unlines (Assembly.lays_statement hm)
  have whole := lays_chatHead.1.append (joined.append lays_chatEnd.1)
  simpa [chatStart, Assembly.lines, chatHead, chatEnd, chatBody, Text.unlines_append, Text.unlines]
    using whole

theorem indentation_of_mem_chatBody : ∀ l ∈ chatBody a, l.indentation = 4 := by
  intro l hl
  rcases List.mem_append.mp hl with hl | hl
  · obtain ⟨i, -, rfl⟩ := List.mem_map.mp hl
    rfl
  · rcases List.mem_cons.mp hl with rfl | hl
    · rfl
    · exact (lays_chatEnd.2 l hl).1

include hm in
/-- The lines of the start define one function, with this body. -/
theorem defines_chatStart : Defines (Text.unlines (chatStart a)) [⟨"start_chat", chatBody a⟩] := by
  obtain ⟨decorator, rest, hl, hd, hrest⟩ := List.map_eq_cons_iff.mp lays_chatHead.2
  obtain ⟨header, rfl, hh⟩ := List.map_eq_singleton_iff.mp hrest
  obtain ⟨margin, undefined⟩ := Prod.mk.inj hd
  obtain ⟨-, defined⟩ := Prod.mk.inj hh
  have indented : ∀ l ∈ chatBody a, 0 < l.indentation := fun l hl => by
    rw [indentation_of_mem_chatBody l hl]
    decide
  refine ⟨_, lays_chatStart hm, ?_, ?_⟩
  · rw [hl]
    rintro l ⟨⟩
    exact margin
  · rw [hl, List.cons_append, definitions, undefined, List.singleton_append]
    exact definitions_block defined indented

/-! ### Its statements -/

def chatStatements (a : Assembly) : List (List Leaf) := (chatBody a).map (·.content)

theorem statements?_chatBody (name : Text) :
    Definition.statements? ⟨name, chatBody a⟩ = some (chatStatements a) :=
  Definition.statements?_of_even indentation_of_mem_chatBody

theorem chatStatements_eq : chatStatements a
    = a.members.map Assembly.instanceRun ++ a.joinRun :: (layout chatEnd).map (·.content) := by
  simp [chatStatements, chatBody]

theorem binding?_of_mem_chatEnd : ∀ statement ∈ (layout chatEnd).map (·.content),
    binding? statement = none := by
  intro statement hs
  obtain ⟨l, hl, rfl⟩ := List.mem_map.mp hs
  exact (lays_chatEnd.2 l hl).2.1

include hm in
theorem binding?_joinRun : binding? a.joinRun = some (("workflow" : Text), a.workflowRun) :=
  binding?_assignmentRun (show isKeyName "workflow" from rfl)
    (Assembly.expresses_workflow hm).toValue

include hm in
theorem call?_workflowRun : call? a.workflowRun
    = some (a.kind.name, argumentRuns (Assembly.assemblyArguments a)) := by
  obtain ⟨ne, word⟩ := isKeyName_iff.mp (Assembly.isKeyName_kind a.kind)
  rw [Assembly.workflowRun, call?_points ne fun c hc => isNamePoint_of_isWordPoint (word c hc),
    items_blockLeaves 1 (item_of_mem_argumentRuns (Assembly.sound_assemblyArguments hm))]

include hm in
/-- The function makes every agent with its factory, in order. -/
theorem instances_chatStatements : (chatStatements a).filterMap instance?
    = a.members.map fun i => (Assembly.agentVariable i, factoryName i) := by
  have made : (a.members.map Assembly.instanceRun).filterMap instance?
      = a.members.map fun i => (Assembly.agentVariable i, factoryName i) := by
    rw [List.filterMap_map, ← List.filterMap_eq_map]
    exact List.filterMap_congr fun i hi => Assembly.instance?_instanceRun (hm i hi)
  have join : instance? a.joinRun = none := by
    simp [instance?, binding?_joinRun hm, call?_workflowRun hm, argumentRuns, argumentTable,
      Assembly.assemblyArguments]
  have last : ((layout chatEnd).map (·.content)).filterMap instance? = [] := by
    refine List.filterMap_eq_nil_iff.mpr fun statement hs => ?_
    simp [instance?, binding?_of_mem_chatEnd statement hs]
  rw [chatStatements_eq, List.filterMap_append, List.filterMap_cons, made, join, last,
    List.append_nil]

include hm in
/-- The arguments of the workflow are read back: its kind, its agents and, in a hierarchy,
who reports to whom. -/
theorem workflowOf?_workflowRun : workflowOf? a.workflowRun = some {
    kind := a.kind.name
    agents := a.members.map Assembly.agentVariable
    reports? := if a.kind = .hierarchical then some a.reports else none } := by
  have distinct : ((Assembly.assemblyArguments a).map Argument.name).Nodup := by
    unfold Assembly.assemblyArguments
    split
    · simp only [List.map]
      decide
    · simp only [List.map]
      decide
  have keywords := keywords?_argumentRuns (Assembly.sound_assemblyArguments hm) distinct
  have names := Assembly.isName_agentVariables hm
  have agents : Table.get? (argumentTable (Assembly.assemblyArguments a)) "agents"
      = some (namesRun 2 (a.members.map Assembly.agentVariable)) := rfl
  have dictionary : Table.get? (argumentTable (Assembly.assemblyArguments a)) "structure"
      = if a.kind = .hierarchical then some a.structureRun else none := by
    unfold Assembly.assemblyArguments
    split
    · rfl
    · rfl
  by_cases hierarchical : a.kind = .hierarchical
  · rw [if_pos hierarchical] at dictionary ⊢
    simp only [workflowOf?, call?_workflowRun hm, keywords, agents, list?_namesRun names,
      mapM_name?_points names, Option.bind_eq_bind, Option.bind_some, dictionary,
      Assembly.reports?_structureRun]
    rfl
  · rw [if_neg hierarchical] at dictionary ⊢
    simp only [workflowOf?, call?_workflowRun hm, keywords, agents, list?_namesRun names,
      mapM_name?_points names, Option.bind_eq_bind, Option.bind_some, dictionary]
    rfl

include hm in
/-- The function joins the agents as the assembly tells. -/
theorem workflow?_chatStatements : workflow? (chatStatements a) = some {
    kind := a.kind.name
    agents := a.members.map Assembly.agentVariable
    reports? := if a.kind = .hierarchical then some a.reports else none } := by
  have made : (a.members.map Assembly.instanceRun).filterMap binding?
      = a.members.map fun i => (Assembly.agentVariable i, Assembly.factoryCall i) := by
    rw [List.filterMap_map, ← List.filterMap_eq_map]
    exact List.filterMap_congr fun i hi => Assembly.binding?_instanceRun (hm i hi)
  have other : (a.members.map fun i => (Assembly.agentVariable i, Assembly.factoryCall i)).filter
      (·.1 = ("workflow" : Text)) = [] := by
    refine List.filter_eq_nil_iff.mpr fun e he => ?_
    obtain ⟨i, -, rfl⟩ := List.mem_map.mp he
    -- the variables of agents begin with another letter
    intro same
    have head : some ('a' : CodePoint) = some ('w' : CodePoint) :=
      congrArg List.head? (of_decide_eq_true same)
    exact absurd head (by decide)
  have last : ((layout chatEnd).map (·.content)).filterMap binding? = [] :=
    List.filterMap_eq_nil_iff.mpr binding?_of_mem_chatEnd
  have bound : ((chatStatements a).filterMap binding?).filter (·.1 = ("workflow" : Text))
      = [(("workflow" : Text), a.workflowRun)] := by
    rw [chatStatements_eq, List.filterMap_append, List.filterMap_cons, made, binding?_joinRun hm,
      last, List.filter_append, other]
    rfl
  rw [workflow?, bound]
  exact workflowOf?_workflowRun hm

/-! ### Its words -/

theorem isFactoryWord_factoryName (i : Text) : isFactoryWord (factoryName i) :=
  List.isPrefixOf_iff_prefix.mpr (List.prefix_append _ i)

theorem isFactoryWord_agentVariable (i : Text) : isFactoryWord (Assembly.agentVariable i) = false :=
  rfl

section View

variable {α : Type} {view : List Leaf → List α} (hv : IsCallView view)

include hv

/-- The structure is told in literals. -/
theorem view_structureRun (a : Assembly) : view a.structureRun = [] := by
  have listed : ∀ reports, view (Assembly.reportsRun reports) = [] := by
    intro reports
    rw [Assembly.reportsRun, hv.singleton (by decide), hv.inline, List.flatMap_map]
    exact List.flatMap_eq_nil_iff.mpr fun i _ => hv.text i
  have entry : ∀ e, view (Assembly.entryRun e) = [] := by
    intro e
    rw [Assembly.entryRun, hv.cons rfl, hv.cons rfl, hv.cons rfl, listed]
  rw [Assembly.structureRun, hv.singleton (by decide)]
  split
  · exact hv.nil
  · rw [hv.blockLeaves, List.flatMap_map]
    exact List.flatMap_eq_nil_iff.mpr fun e _ => entry e

/-- A view finds in the statement that joins the agents what it finds in the class of the workflow,
in the variables and in three words. -/
theorem view_joinRun (a : Assembly) : view a.joinRun = view (("workflow" : Text).map .point)
    ++ (view (a.kind.name.map .point) ++ (view (("agents" : Text).map .point)
      ++ (a.members.flatMap (fun i => view ((Assembly.agentVariable i).map .point))
        ++ if a.kind = .hierarchical then view (("structure" : Text).map .point) else []))) := by
  rw [Assembly.joinRun, hv.assignmentRun, Assembly.workflowRun,
    hv.call_block (Assembly.isKeyName_kind a.kind), Assembly.assemblyArguments, List.flatMap_cons,
    hv.namesRun, List.flatMap_map, List.append_assoc]
  split
  · rw [List.flatMap_singleton, view_structureRun hv, List.append_nil]
  · rfl

include hm in
/-- A view finds in the function what it finds in each statement. -/
theorem view_chatBody : (chatBody a).flatMap (fun l => view l.content)
    = a.members.flatMap (fun i => view ((Assembly.agentVariable i).map .point)
        ++ view ((factoryName i).map .point))
      ++ (view a.joinRun ++ (layout chatEnd).flatMap fun l => view l.content) := by
  rw [chatBody, List.flatMap_append, List.flatMap_cons, List.flatMap_map,
    List.flatMap_congr fun i hi => Assembly.view_instanceRun hv (hm i hi)]

end View

def factoryNames (run : List Leaf) : List Text := (words run).filter isFactoryWord

theorem isCallView_factoryNames : IsCallView factoryNames :=
  (isCallView_stretches isNameKind_isWordPoint).comp rfl fun _ _ => List.filter_append ..

theorem factoryNames_word {name : Text} (h : isKeyName name) :
    factoryNames (name.map .point) = if isFactoryWord name then [name] else [] := by
  rw [factoryNames, words_eq_stretches, stretches_word isNameKind_isWordPoint h,
    List.filter_singleton, Bool.cond_eq_ite]

theorem factoryNames_chatEnd :
    (layout chatEnd).flatMap (fun l => factoryNames l.content) = [] := by
  refine List.flatMap_eq_nil_iff.mpr fun l hl => List.filter_eq_nil_iff.mpr fun word hw => ?_
  simp [(lays_chatEnd.2 l hl).2.2 word hw]

include hm in
theorem factoryNames_joinRun : factoryNames a.joinRun = [] := by
  have plain : ∀ name ∈ (["workflow", a.kind.name, "agents", "structure"] : List Text),
      factoryNames (name.map .point) = [] := by
    cases a.kind <;> decide +kernel
  simp only [List.forall_mem_cons] at plain
  obtain ⟨workflow, kind, agents, dictionary, -⟩ := plain
  have members : a.members.flatMap (fun i =>
      factoryNames ((Assembly.agentVariable i).map .point)) = [] := by
    refine List.flatMap_eq_nil_iff.mpr fun i hi => ?_
    rw [factoryNames_word (Assembly.isKeyName_agentVariable (hm i hi)), isFactoryWord_agentVariable]
    rfl
  rw [view_joinRun isCallView_factoryNames, workflow, kind, agents, members, dictionary]
  simp

include hm in
/-- The function names every factory once, and no other. -/
theorem factories_chatStatements :
    ((chatStatements a).flatMap words).filter isFactoryWord = a.members.map factoryName := by
  have each : ∀ i ∈ a.members, factoryNames ((Assembly.agentVariable i).map .point)
      ++ factoryNames ((factoryName i).map .point) = [factoryName i] := by
    intro i hi
    rw [factoryNames_word (Assembly.isKeyName_agentVariable (hm i hi)), isFactoryWord_agentVariable,
      factoryNames_word (isKeyName_factoryName (hm i hi)), if_pos (isFactoryWord_factoryName i)]
    rfl
  have shape : ((chatStatements a).flatMap words).filter isFactoryWord
      = (chatBody a).flatMap fun l => factoryNames l.content := by
    rw [chatStatements, List.flatMap_map, List.filter_flatMap]
    rfl
  rw [shape, view_chatBody hm isCallView_factoryNames, List.flatMap_congr each,
    factoryNames_joinRun hm, factoryNames_chatEnd, List.append_nil, List.append_nil,
    List.map_eq_flatMap]

end Chat

end Project

end AgentWorkflow
