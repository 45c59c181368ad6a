import AgentWorkflow.Project.Factory
import AgentWorkflow.Proofs.Number.Points
import AgentWorkflow.Proofs.Naming.Words
import AgentWorkflow.Proofs.Source.Blocks

/-!
# What a factory makes

The factory of an agent is a function whose body is a docstring and one `return`. The agent is a
call with keyword arguments, each on lines of its own, and so its texts and its tools can be read
back from the program.

Results:
1. `lays_factory`: the lines of a factory.
2. `agent?_factory`: the agent that a factory makes.
3. `view_factoryBlock`: what a view finds in a factory, from what it finds in the parts that depend
   on the agent.
-/

namespace AgentWorkflow

namespace Project

open Source

/-! ## The agent -/

/-- What a program tells of an agent: the function that makes it, and what the function makes it
with. -/
structure AgentReading where
  function : Text
  name : Text
  model : Text
  systemPrompt : Text
  welcomeMessage : Text
  inputPlaceholder : Text
  tools : List Text
deriving DecidableEq

/-- The call that a function returns whose body is a docstring and one `return`. -/
def returnedCall? (d : Definition) : Option (Text × List (List Leaf)) :=
  match d.statements? with
  | some [doc, result] => if (text? doc).isSome then (returned? result).bind call? else none
  | _ => none

/-- The agent that a function makes with the given keyword arguments. -/
def agentOf? (function : Text) (agent : Table (List Leaf)) : Option AgentReading := do
  let (_, runs) ← call? (← Table.get? agent "llm")
  let client ← keywords? runs
  let tools ← list? (← Table.get? agent "tools")
  return {
    function
    name := ← text? (← Table.get? agent "name")
    model := ← text? (← Table.get? client "model")
    systemPrompt := ← text? (← Table.get? agent "system_prompt")
    welcomeMessage := ← text? (← Table.get? agent "welcome_message")
    inputPlaceholder := ← text? (← Table.get? agent "input_placeholder")
    tools := ← tools.mapM name? }

/-- The agent that a function makes if it returns a call of `Agent`. -/
def agent? (d : Definition) : Option AgentReading :=
  match returnedCall? d with
  | some (constructor, runs) =>
    if constructor = "Agent" then (keywords? runs).bind (agentOf? d.name) else none
  | none => none

/-! ## The expressions of a factory -/

theorem isPlainPoint_of_isNumberPoint {c : CodePoint} (h : isNumberPoint c) : isPlainPoint c := by
  rw [isNumberPoint, Bool.or_eq_true] at h
  rcases h with h | h
  · exact isPlainPoint_of_isNamePoint
      (isNamePoint_of_isWordPoint (by simp [CodePoint.isWordPoint, CodePoint.isAlnum, h]))
  · exact (by decide : ∀ c ∈ ("+-.e" : Text), isPlainPoint c) c (List.contains_iff_mem.mp h)

theorem isFinite_emittedTemperature (a : Agent) : (emittedTemperature a).isFinite := by
  rw [emittedTemperature]
  split
  · next finite => exact finite
  · decide

theorem isWordPoint_of_isWord {name : Text} (h : Naming.IsWord name) :
    ∀ c ∈ name, c.isWordPoint := by
  intro c hc
  have point := h c hc
  simp only [Naming.isWordPoint, Bool.or_eq_true] at point
  rcases point with point | point <;> simp [CodePoint.isWordPoint, point]

def clientArguments (a : Agent) : List Argument :=
  [⟨"model", literal a.model, [.text a.model]⟩,
   ⟨"temperature", (emittedTemperature a).text, (emittedTemperature a).text.map .point⟩]

theorem sound_clientArguments (a : Agent) : ∀ x ∈ clientArguments a, x.Sound := by
  have number : Expresses (emittedTemperature a).text ((emittedTemperature a).text.map .point) :=
    expresses_points (Binary64.text_ne_nil (isFinite_emittedTemperature a)) fun c hc =>
      isPlainPoint_of_isNumberPoint
        (Binary64.isNumberPoint_of_mem_text (isFinite_emittedTemperature a) hc)
  simp only [clientArguments, List.forall_mem_cons]
  exact ⟨⟨rfl, expresses_literal a.model⟩, ⟨rfl, number⟩, fun _ h => nomatch h⟩

/-- The leaves of the client for an agent's model. -/
def clientRun (a : Agent) : List Leaf :=
  (clientClass a).map .point
    ++ [.group '(' (inline (argumentRuns (clientArguments a)))]

theorem isKeyName_clientClass (a : Agent) : isKeyName (clientClass a) := by
  rw [clientClass]
  split <;> decide

theorem expresses_clientExpression (a : Agent) : Expresses (clientExpression a) (clientRun a) := by
  obtain ⟨ne, word⟩ := isKeyName_iff.mp (isKeyName_clientClass a)
  have call := expresses_call ne (fun c hc => isNamePoint_of_isWordPoint (word c hc))
    (awaits_arguments (sound_clientArguments a))
  have shape : clientExpression a = clientClass a
      ++ ("(" ++ Text.join ", " ((clientArguments a).map Argument.source) ++ ")") := by
    have model : ("(model=" : Text) = "(" ++ ("model" ++ "=") := rfl
    have temperature : (", temperature=" : Text) = ", " ++ ("temperature" ++ "=") := rfl
    simp [clientExpression, clientArguments, Argument.source, Text.join, List.intercalate, model,
      temperature]
  rw [shape]
  exact call

/-- The leaves of the expression for a bank's project. -/
def projectRun : Option Text → List Leaf
  | none =>
    ("os.environ.get" : Text).map .point
      ++ [.group '(' (inline [[.text "GOOGLE_CLOUD_PROJECT"], [.text ""]])]
  | some project => [.text project]

theorem expresses_projectExpression (project : Option Text) :
    Expresses (Memory.projectExpression project) (projectRun project) := by
  cases project with
  | none =>
    have inner : Awaits (Text.join ", " [literal "GOOGLE_CLOUD_PROJECT", literal ""])
        (inline [[.text "GOOGLE_CLOUD_PROJECT"], [.text ""]]) := by
      refine @awaits_inline [(literal "GOOGLE_CLOUD_PROJECT", _), (literal "", _)] ?_
      simp only [List.forall_mem_cons]
      exact ⟨awaits_literal _, awaits_literal _, fun _ h => nomatch h⟩
    exact expresses_call (f := "os.environ.get") (by decide) (by decide) inner
  | some project => exact expresses_literal project

def bankArguments (project : Option Text) (region : Text) : List Argument :=
  [⟨"project_id", Memory.projectExpression project, projectRun project⟩,
   ⟨"location", literal region, [.text region]⟩]

theorem sound_bankArguments (project : Option Text) (region : Text) :
    ∀ x ∈ bankArguments project region, x.Sound := by
  simp only [bankArguments, List.forall_mem_cons]
  exact ⟨⟨rfl, expresses_projectExpression project⟩, ⟨rfl, expresses_literal region⟩,
    fun _ h => nomatch h⟩

def memoryRun : Memory → List Leaf
  | .session => ("LocalMemory" : Text).map .point ++ [.group '(' []]
  | .bank project region =>
    ("MemoryBank" : Text).map .point
      ++ [.group '(' (inline (argumentRuns (bankArguments project region)))]

theorem expresses_memory (memory : Memory) : Expresses memory.expression (memoryRun memory) := by
  cases memory with
  | session => exact expresses_call (f := "LocalMemory") (by decide) (by decide) reads_nil.awaits
  | bank project region =>
    have shape : Memory.expression (.bank project region)
        = "MemoryBank"
          ++ ("(" ++ Text.join ", " ((bankArguments project region).map Argument.source) ++ ")") := by
      have first : ("MemoryBank(project_id=" : Text)
          = "MemoryBank" ++ ("(" ++ ("project_id" ++ "=")) := rfl
      have second : (", location=" : Text) = ", " ++ ("location" ++ "=") := rfl
      simp [Memory.expression, bankArguments, Argument.source, Text.join, List.intercalate, first,
        second]
    rw [shape]
    exact expresses_call (f := "MemoryBank") (by decide) (by decide)
      (awaits_arguments (sound_bankArguments project region))

/-! ## Tools -/

/-- The name by which the main module knows the tools module. -/
def toolsAlias : Text := "agent_tools"

/-- A tool's function as the program refers to it. -/
def toolReference (function : Text) : Text := ("agent_tools." : Text) ++ function

/-- What the program calls an agent's tools. -/
def toolNames (a : Agent) : List Text := (Tools.functionsOf a).map toolReference

/-- The expression that lists an agent's tools. -/
def toolsText (a : Agent) : Text :=
  if (toolNames a).isEmpty then "[]" else namesText 2 (toolNames a)

def toolsRun (a : Agent) : List Leaf :=
  if (toolNames a).isEmpty then [.group '[' []] else namesRun 2 (toolNames a)

theorem isName_toolNames (a : Agent) :
    ∀ name ∈ toolNames a, name ≠ [] ∧ ∀ c ∈ name, isNamePoint c := by
  intro name hn
  obtain ⟨f, hf, rfl⟩ := List.mem_map.mp hn
  refine ⟨by simp [toolReference, Text.ofString], fun c hc => ?_⟩
  rcases List.mem_append.mp hc with hc | hc
  · exact (by decide : ∀ c ∈ ("agent_tools." : Text), isNamePoint c) c hc
  · exact isNamePoint_of_isWordPoint
      (isWordPoint_of_isWord (Tools.isWord_of_mem_functionsOf hf) c hc)

theorem expresses_toolsText (a : Agent) : Expresses (toolsText a) (toolsRun a) := by
  unfold toolsText toolsRun
  split
  · exact expresses_list reads_nil.awaits
  · exact expresses_namesText (isName_toolNames a) 2

theorem unlines_toolReferences (a : Agent) :
    Text.unlines (toolReferences a)
      = line 2 (("tools" ++ ("=" ++ toolsText a)) ++ ",") ++ "\n" := by
  have opened : ("tools=[" : Text) = "tools" ++ ("=" ++ "[") := rfl
  have closed : ("]," : Text) = "]" ++ "," := rfl
  have empty : ("tools=[]," : Text) = "tools" ++ ("=" ++ "[]") ++ "," := rfl
  simp only [toolReferences, toolsText, toolNames, List.isEmpty_map]
  split
  · simp [Text.unlines, empty]
  · simp [Text.unlines, line, opened, closed, namesText, toolReference, List.flatMap_map]

theorem list?_toolsRun (a : Agent) :
    list? (toolsRun a) = some ((toolNames a).map (·.map .point)) := by
  unfold toolsRun
  split
  · next empty =>
    rw [List.isEmpty_iff.mp empty]
    rfl
  · exact list?_namesRun (isName_toolNames a) 2

/-! ## The factory -/

/-- The arguments of the agent that a factory makes, where `run` are the leaves of its memory. -/
def factoryArguments (memory : Memory) (run : List Leaf) (i : Text) (a : Agent) : List Argument :=
  [⟨"name", literal i, [.text i]⟩,
   ⟨"llm", clientExpression a, clientRun a⟩,
   ⟨"memory", memory.expression, run⟩,
   ⟨"system_prompt", multilineLiteral (indent 2) a.systemPrompt, promptLeaves 2 a.systemPrompt⟩,
   ⟨"welcome_message", literal a.welcomeMessage, [.text a.welcomeMessage]⟩,
   ⟨"input_placeholder", literal a.inputPlaceholder, [.text a.inputPlaceholder]⟩,
   ⟨"tools", toolsText a, toolsRun a⟩]

theorem sound_factoryArguments {memory : Memory} {run : List Leaf}
    (h : Expresses memory.expression run) (i : Text) (a : Agent) :
    ∀ x ∈ factoryArguments memory run i a, x.Sound := by
  simp only [factoryArguments, List.forall_mem_cons]
  exact ⟨⟨rfl, expresses_literal i⟩, ⟨rfl, expresses_clientExpression a⟩, ⟨rfl, h⟩,
    ⟨rfl, expresses_multilineLiteral 2 a.systemPrompt⟩, ⟨rfl, expresses_literal a.welcomeMessage⟩,
    ⟨rfl, expresses_literal a.inputPlaceholder⟩, ⟨rfl, expresses_toolsText a⟩, fun _ h => nomatch h⟩

def agentRun (arguments : List Argument) : List Leaf :=
  ("Agent" : Text).map .point
    ++ [.group '(' (blockLeaves 1 (argumentRuns arguments))]

def factoryBody (memory : Memory) (run : List Leaf) (i : Text) (a : Agent) : List Line :=
  [⟨4, [.text (("Instantiate the '" : Text) ++ a.name ++ "' agent.")]⟩,
   ⟨4, ("return " : Text).map .point ++ agentRun (factoryArguments memory run i a)⟩]

theorem isKeyName_factoryName {i : Text} (hi : Naming.IsWord i) : isKeyName (factoryName i) := by
  refine isKeyName_iff.mpr ⟨by simp [factoryName, Text.ofString], fun c hc => ?_⟩
  rcases List.mem_append.mp hc with hc | hc
  · exact (by decide : ∀ c ∈ ("create_agent_" : Text), c.isWordPoint) c hc
  · exact isWordPoint_of_isWord hi c hc

/-- The leaves of the line that begins a factory. -/
def factoryHead (i : Text) : List Leaf := headRun "def" (factoryName i) [] " -> Agent"

theorem lays_factoryHead {i : Text} (hi : Naming.IsWord i) :
    Lays (("def " : Text) ++ (factoryName i ++ "() -> Agent:") ++ "\n") [⟨0, factoryHead i⟩] := by
  have opened : ("def " : Text) = "def" ++ " " := rfl
  have closed : ("() -> Agent:" : Text) = "(" ++ ")" ++ " -> Agent" ++ ":" := rfl
  have bare : ∀ c ∈ (" -> Agent" : Text), isBare c := by decide
  have lays := lays_head (show isKeyName "def" by decide) (isKeyName_factoryName hi)
    reads_nil.awaits bare
  simpa [opened, closed, factoryHead] using lays

theorem unlines_factory (memory : Memory) (run : List Leaf) (i : Text) (a : Agent) :
    Text.unlines (factory memory i a)
      = (("def " : Text) ++ (factoryName i ++ "() -> Agent:") ++ "\n")
        ++ (Text.unlines
          (docstring (indent 1) [("Instantiate the '" : Text) ++ a.name ++ "' agent."])
        ++ (line 1 ("return " ++ ("Agent" ++ ("(" ++ ("\n" ++ (Text.unlines
          ((factoryArguments memory run i a).map fun x => line 2 (x.source ++ ",")) ++ indent 1))
          ++ ")"))) ++ "\n")) := by
  have opened : ("return Agent(" : Text) = "return " ++ ("Agent" ++ "(") := rfl
  have name : ("name=" : Text) = "name" ++ "=" := rfl
  have llm : ("llm=" : Text) = "llm" ++ "=" := rfl
  have remember : ("memory=" : Text) = "memory" ++ "=" := rfl
  have prompt : ("system_prompt=" : Text) = "system_prompt" ++ "=" := rfl
  have welcome : ("welcome_message=" : Text) = "welcome_message" ++ "=" := rfl
  have placeholder : ("input_placeholder=" : Text) = "input_placeholder" ++ "=" := rfl
  rw [factory, Text.unlines_append, Text.unlines_append, Text.unlines_append, Text.unlines_append,
    unlines_toolReferences]
  generalize Text.unlines (docstring _ _) = doc
  simp [Text.unlines, line, factoryArguments, Argument.source, opened, name, llm, remember, prompt,
    welcome, placeholder]

/-- A factory is laid out as its head and body, whatever the memory, if its expression is read. -/
theorem lays_factory {memory : Memory} {run : List Leaf} (h : Expresses memory.expression run)
    {i : Text} (hi : Naming.IsWord i) (a : Agent) :
    Lays (Text.unlines (factory memory i a))
      (⟨0, factoryHead i⟩ :: factoryBody memory run i a) := by
  have result := expresses_call (f := "Agent") (by decide) (by decide)
    (reads_arguments (sound_factoryArguments h i a) 1).awaits
  rw [unlines_factory memory run]
  refine (lays_factoryHead hi).append ((lays_docstring 1 (List.cons_ne_nil _ _)).append
    (lays_line 1 ((reads_points (by decide)).append_awaits result.awaits) ?_ ?_ ?_))
  · exact ⟨.point 'r', _, rfl, rfl⟩
  · exact result.ends.append _
  · exact List.forall_mem_append.mpr ⟨level_points _, result.level⟩

theorem indented_of_mem_factoryBody (memory : Memory) (run : List Leaf) (i : Text) (a : Agent) :
    ∀ l ∈ factoryBody memory run i a, 0 < l.indentation := by
  simp only [factoryBody, List.forall_mem_cons]
  exact ⟨by decide, by decide, List.forall_mem_nil _⟩

def factoryBlock (memory : Memory) (i : Text) (a : Agent) : Block :=
  ⟨factoryHead i, factoryBody memory (memoryRun memory) i a⟩

section Reading

variable {memory : Memory} {run : List Leaf} (h : Expresses memory.expression run)

include h

theorem returnedCall?_factory (name i : Text) (a : Agent) :
    returnedCall? ⟨name, factoryBody memory run i a⟩
      = some (("Agent" : Text), argumentRuns (factoryArguments memory run i a)) := by
  have statements : Definition.statements? ⟨name, factoryBody memory run i a⟩ = some
      [[.text (("Instantiate the '" : Text) ++ a.name ++ "' agent.")],
       ("return " : Text).map .point ++ agentRun (factoryArguments memory run i a)] := rfl
  have starts : Starts (agentRun (factoryArguments memory run i a)) := ⟨.point 'A', _, rfl, rfl⟩
  have ends : Ends (agentRun (factoryArguments memory run i a)) := ⟨_, _, rfl, rfl⟩
  have call : call? (agentRun (factoryArguments memory run i a)) = some (("Agent" : Text),
      argumentRuns (factoryArguments memory run i a)) := by
    rw [agentRun, call?_points (by decide) (by decide),
      items_blockLeaves 1 (item_of_mem_argumentRuns (sound_factoryArguments h i a))]
  simp only [returnedCall?, statements, text?_text, Option.isSome_some, if_true,
    returned?_return starts ends, Option.bind_some, call]

omit h in
/-- A factory read by its keyword arguments alone gives the agent back. -/
theorem agentOf?_factory (name i : Text) (a : Agent) :
    agentOf? name (argumentTable (factoryArguments memory run i a)) = some {
      function := name
      name := i
      model := a.model
      systemPrompt := a.systemPrompt
      welcomeMessage := a.welcomeMessage
      inputPlaceholder := a.inputPlaceholder
      tools := toolNames a } := by
  obtain ⟨clientNe, clientWord⟩ := isKeyName_iff.mp (isKeyName_clientClass a)
  have client : call? (clientRun a) = some (clientClass a, argumentRuns (clientArguments a)) := by
    rw [clientRun, call?_points clientNe fun c hc => isNamePoint_of_isWordPoint (clientWord c hc),
      items_inline (item_of_mem_argumentRuns (sound_clientArguments a))]
  have clientKeywords := keywords?_argumentRuns (sound_clientArguments a)
    (by simp only [clientArguments, List.map]; decide)
  have named := mapM_name?_points (isName_toolNames a)
  have llm : Table.get? (argumentTable (factoryArguments memory run i a)) "llm"
      = some (clientRun a) := rfl
  have reference : Table.get? (argumentTable (factoryArguments memory run i a)) "tools"
      = some (toolsRun a) := rfl
  have model : Table.get? (argumentTable (clientArguments a)) "model"
      = some [.text a.model] := rfl
  have itself : Table.get? (argumentTable (factoryArguments memory run i a)) "name"
      = some [.text i] := rfl
  have prompt : Table.get? (argumentTable (factoryArguments memory run i a)) "system_prompt"
      = some (promptLeaves 2 a.systemPrompt) := rfl
  have welcome : Table.get? (argumentTable (factoryArguments memory run i a)) "welcome_message"
      = some [.text a.welcomeMessage] := rfl
  have placeholder :
      Table.get? (argumentTable (factoryArguments memory run i a)) "input_placeholder"
      = some [.text a.inputPlaceholder] := rfl
  simp only [agentOf?, llm, client, clientKeywords, reference, list?_toolsRun, named, itself, model,
    prompt, welcome, placeholder, text?_text, text?_promptLeaves, Option.bind_eq_bind,
    Option.bind_some]
  rfl

theorem agent?_factory (name i : Text) (a : Agent) :
    agent? ⟨name, factoryBody memory run i a⟩ = some {
      function := name
      name := i
      model := a.model
      systemPrompt := a.systemPrompt
      welcomeMessage := a.welcomeMessage
      inputPlaceholder := a.inputPlaceholder
      tools := toolNames a } := by
  have keywords := keywords?_argumentRuns (sound_factoryArguments h i a)
    (by simp only [factoryArguments, List.map]; decide)
  rw [agent?, returnedCall?_factory h]
  simp only [if_true, keywords, Option.bind_some]
  exact agentOf?_factory name i a

end Reading

/-! ## What a view finds in a factory -/

section View

variable {α : Type} {view : List Leaf → List α}

theorem view_toolsRun (hv : IsCutView view) (a : Agent) :
    view (toolsRun a) = (toolNames a).flatMap fun name => view (name.map .point) := by
  unfold toolsRun
  split
  · next none =>
    rw [List.isEmpty_iff.mp none]
    exact (hv.singleton (by decide) []).trans hv.nil
  · exact hv.namesRun 2 (toolNames a)

theorem view_bank (hv : IsCallView view) (project : Option Text) (region : Text) :
    view (memoryRun (.bank project region)) = view (("MemoryBank" : Text).map .point)
      ++ (view (("project_id" : Text).map .point) ++ view (projectRun project)
        ++ view (("location" : Text).map .point)) := by
  rw [memoryRun, hv.call_inline (by decide)]
  simp only [bankArguments, List.flatMap_cons, List.flatMap_nil, hv.text, List.append_nil]

def factoryWords : List Text :=
  ["def", "->", "return", "Agent", "name", "llm", "model", "temperature", "memory", "system_prompt",
   "welcome_message", "input_placeholder", "tools"]

variable (hv : IsCallView view) (blind : ∀ word ∈ factoryWords, view (word.map .point) = [])

include hv blind

theorem view_clientRun (a : Agent) : view (clientRun a)
    = view ((clientClass a).map .point) ++ view ((emittedTemperature a).text.map .point) := by
  have model := blind "model" (by decide)
  have temperature := blind "temperature" (by decide)
  rw [clientRun, hv.call_inline (isKeyName_clientClass a)]
  simp only [clientArguments, List.flatMap_cons, List.flatMap_nil, hv.text, model, temperature,
    List.nil_append, List.append_nil]

theorem view_agentRun (memory : Memory) (i : Text) (a : Agent) :
    view (agentRun (factoryArguments memory (memoryRun memory) i a))
      = view (clientRun a) ++ (view (memoryRun memory) ++ view (toolsRun a)) := by
  simp only [factoryWords, List.forall_mem_cons] at blind
  obtain ⟨-, -, -, agent, name, llm, -, -, remember, prompt, welcome, placeholder, tools, -⟩ := blind
  rw [agentRun, hv.call_block (by decide)]
  simp only [factoryArguments, List.flatMap_cons, List.flatMap_nil, hv.text, hv.promptLeaves, agent,
    name, llm, remember, prompt, welcome, placeholder, tools, List.nil_append, List.append_nil]

/-- A view that is blind to the words of every factory finds in a factory what it finds in its name,
in the client, in the memory and in the tools. -/
theorem view_factoryBlock (memory : Memory) {i : Text} (hi : Naming.IsWord i) (a : Agent) :
    (factoryBlock memory i a).lines.flatMap (fun l => view l.content)
      = view ((factoryName i).map .point)
        ++ (view (clientRun a) ++ (view (memoryRun memory) ++ view (toolsRun a))) := by
  have agent := view_agentRun hv blind memory i a
  simp only [factoryWords, List.forall_mem_cons] at blind
  obtain ⟨keyword, arrow, result, constructor, -⟩ := blind
  have behind : view ((" -> Agent" ++ ":" : Text).map .point) = [] := by
    have shape : (" -> Agent" ++ ":" : Text).map Leaf.point
        = .point ' ' :: (("->" : Text).map .point ++ .point ' ' ::
          (("Agent" : Text).map .point ++ [.point ':'])) := rfl
    rw [shape, hv.cons rfl, hv.cut _ _ rfl, hv.cut _ _ rfl, arrow, constructor, hv.nil]
    rfl
  have head : view (factoryHead i) = view ((factoryName i).map .point) := by
    rw [factoryHead, hv.headRun (isKeyName_factoryName hi), keyword, hv.nil, behind]
    simp
  simp only [factoryBlock, Block.lines, factoryBody, List.flatMap_cons, List.flatMap_nil, head,
    hv.text, hv.returned, result, agent, List.nil_append, List.append_nil]

end View

end Project

end AgentWorkflow
