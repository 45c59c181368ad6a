import AgentWorkflow.Proofs.Naming.Distinct
import AgentWorkflow.Proofs.Project.ChatStart
import AgentWorkflow.Proofs.Project.Files
import AgentWorkflow.Proofs.Project.FixedParts
import AgentWorkflow.Proofs.Project.MainModule
import AgentWorkflow.Proofs.Source.References
import AgentWorkflow.Proofs.Workflow.Walk

/-!
# The functions of the main module

The main module defines one factory per agent, the function that starts a chat, and two more that
are the same in every program of a kind. What stands in front of them and behind is silent: it
defines nothing, and takes nothing from the tools module.

Results:
1. `exists_defines_mainModule`: the functions of the main module, in order.
2. `generate_carries_agents`: every agent can be read back from the program.
-/

namespace AgentWorkflow

namespace Project

open Source

/-! ## Silent parts -/

/-- An assignment of a text, to a name that is no keyword. -/
theorem silent_assignment {name : Text} (hn : isKeyName name)
    (hd : ∀ value, Line.defined? ⟨0, assignmentRun name value⟩ = none) (t : Text) :
    Silent toolsAlias (Text.unlines [name ++ " = " ++ literal t]) := by
  have lays : Lays (Text.unlines [name ++ " = " ++ literal t]) [⟨0, assignmentRun name [.text t]⟩] := by
    simpa [Text.unlines, line, indent] using lays_assignment hn 0 (expresses_literal t)
  have margin : AtMargin [⟨0, assignmentRun name [.text t]⟩] := by
    rintro l ⟨⟩
    rfl
  refine ⟨⟨_, lays, margin, ?_⟩, ⟨_, lays, margin, ?_⟩⟩
  · exact definitions_of_forall (List.forall_mem_singleton.mpr (hd _))
  · rw [referencesOf, List.flatMap_singleton, isCallView_referencesTo.assignmentRun,
      referencesTo_word hn, isCallView_referencesTo.text]
    rfl

theorem silent_greeting (a : Agent) : Silent toolsAlias (Text.unlines (greeting a)) := by
  have welcome : ("WELCOME_MESSAGE = " : Text) = "WELCOME_MESSAGE" ++ " = " := rfl
  have placeholder : ("INPUT_PLACEHOLDER = " : Text) = "INPUT_PLACEHOLDER" ++ " = " := rfl
  rw [greeting, welcome, placeholder]
  exact (silent_assignment (by decide) (fun _ => rfl) _).unlines
    (silent_assignment (by decide) (fun _ => rfl) _)

/-- What stands in front of the factories. -/
theorem silent_prologue (w : Workflow) (first : Agent) :
    Silent toolsAlias (Text.unlines (mainHeader w.kind ++ imports w ++ guards w ++ greeting first)) :=
  (((fixedPart_mainHeader w.kind).unlines (fixedPart_imports w)).unlines
    (fixedPart_guards w)).silent.unlines (silent_greeting first)

/-! ## Parts with functions -/

theorem defines_factory {memory : Memory} {run : List Leaf} (h : Expresses memory.expression run)
    {i : Text} (hi : Naming.IsWord i) (a : Agent) :
    Defines (Text.unlines ([[], []] ++ factory memory i a))
      [⟨factoryName i, factoryBody memory run i a⟩] := by
  have lays := lays_factory h hi a
  have blank : Defines (Text.unlines [[], []]) [] := defines_nothing (by decide)
  refine blank.before ⟨_, lays, ?_, definitions_block
    (Line.defined?_headRun (isKeyName_factoryName hi) _ _)
    (indented_of_mem_factoryBody memory run i a)⟩
  rintro l ⟨⟩
  rfl

/-! ## The module -/

/-- The name of the function that makes an agent. -/
def factoryOf (w : Workflow) (a : Agent) : Text := factoryName (identifierOf w.agents a.id)

/-- The name of the variable that holds an agent. -/
def variableOf (w : Workflow) (a : Agent) : Text :=
  Assembly.agentVariable (identifierOf w.agents a.id)

def reading (w : Workflow) (a : Agent) : AgentReading where
  function := factoryOf w a
  name := identifierOf w.agents a.id
  model := a.model
  systemPrompt := a.systemPrompt
  welcomeMessage := a.welcomeMessage
  inputPlaceholder := a.inputPlaceholder
  tools := (a.tools.map Tools.functionOf).eraseDups.map toolReference

/-- The function that makes an agent, as the program defines it. -/
def factoryDefinition (w : Workflow) (a : Agent) : Definition :=
  ⟨factoryOf w a,
   factoryBody (Memory.ofDeployment w.deployment) (memoryRun (Memory.ofDeployment w.deployment))
     (identifierOf w.agents a.id) a⟩

theorem agent?_factoryDefinition (w : Workflow) (a : Agent) :
    agent? (factoryDefinition w a) = some (reading w a) :=
  agent?_factory (expresses_memory (Memory.ofDeployment w.deployment)) (factoryOf w a)
    (identifierOf w.agents a.id) a

/-- The main module defines a factory for every agent, the function that starts the chat and
two more, in this order. -/
theorem exists_defines_mainModule {w : Workflow} (ne : w.agents ≠ []) (h : Hierarchy) :
    ∃ rest : List Definition,
      Defines (mainModule w h) (w.agents.map (factoryDefinition w)
        ++ ⟨"start_chat", chatBody (Assembly.ofHierarchy (agentIdentifiers w.agents) h)⟩ :: rest) ∧
      rest.map (·.name) = [("main" : Text), "chat_profile"] := by
  have memory := expresses_memory (Memory.ofDeployment w.deployment)
  obtain ⟨handler, definesHandler, namedHandler⟩ := fixedPart_messageHandler.defines
  obtain ⟨profile, definesProfile, namedProfile⟩ := (fixedPart_chatProfile w.kind).defines
  have members : ∀ i ∈ (Assembly.ofHierarchy (agentIdentifiers w.agents) h).members,
      Naming.IsWord i := fun _ => Assembly.isWord_of_mem_members
  have made : Defines (Text.unlines
      (factories (agentIdentifiers w.agents) (Memory.ofDeployment w.deployment) w.agents))
      (w.agents.map (factoryDefinition w)) :=
    defines_flatMap fun a _ => defines_factory memory (isWord_agentIdentifier w.agents a.id) a
  refine ⟨handler ++ profile, ?_, ?_⟩
  · obtain ⟨first, others, cons⟩ := List.exists_cons_of_ne_nil ne
    have lines : mainLines w h = mainHeader w.kind ++ imports w ++ guards w ++ greeting first
        ++ factories (agentIdentifiers w.agents) (Memory.ofDeployment w.deployment) w.agents
        ++ chatStart (Assembly.ofHierarchy (agentIdentifiers w.agents) h)
        ++ messageHandler ++ chatProfile w.kind ++ server := by
      rw [mainLines, cons]
    have whole := (((((silent_prologue w first).defines.before made).unlines
      (defines_chatStart members)).unlines definesHandler).unlines definesProfile).unlines
      fixedPart_server.silent.defines
    rw [mainModule, lines]
    simpa using whole
  · rw [List.map_append, namedHandler, namedProfile]
    rfl

/-! ## The agents of a workflow with a structure -/

/-- The structure of an accepted workflow: a forest in which everyone is grounded, or a flat one. -/
theorem hierarchy_cases {w : Workflow} {h : Hierarchy} (hh : w.hierarchy = .ok h) :
    (w.agents.map (·.id)).Nodup ∧
      ((w.kind = .hierarchical ∧ h = Hierarchy.forest w.agents ∧
          ∀ u ∈ w.agents.map (·.id), Hierarchy.Grounded w.agents u) ∨
        (w.kind ≠ .hierarchical ∧ h = Hierarchy.flat w.kind w.agents)) := by
  by_cases kind : w.kind = .hierarchical
  · rw [Workflow.hierarchy, kind] at hh
    rcases Hierarchy.resolve_hierarchical_cases w.agents with
      ⟨id, he, -⟩ | ⟨hn, ⟨ho, grounded⟩ | ⟨c, he, -⟩⟩
    · rw [he] at hh
      contradiction
    · rw [ho] at hh
      exact ⟨hn, .inl ⟨kind, (Except.ok.inj hh).symm, grounded⟩⟩
    · rw [he] at hh
      contradiction
  · rw [Workflow.hierarchy, Hierarchy.resolve, if_neg kind] at hh
    split at hh
    · contradiction
    · next unique =>
      exact ⟨(Hierarchy.duplicate?_eq_none.mp unique).1, .inr ⟨kind, (Except.ok.inj hh).symm⟩⟩

theorem kind_eq {w : Workflow} {h : Hierarchy} (hh : w.hierarchy = .ok h) : h.kind = w.kind := by
  rcases (hierarchy_cases hh).2 with ⟨kind, rfl, -⟩ | ⟨-, rfl⟩
  · exact kind.symm
  · rfl

theorem members_eq {w : Workflow} {h : Hierarchy} (hh : w.hierarchy = .ok h) :
    (Assembly.ofHierarchy (agentIdentifiers w.agents) h).members
      = w.agents.map fun a => identifierOf w.agents a.id := by
  rcases (hierarchy_cases hh).2 with ⟨-, rfl, -⟩ | ⟨-, rfl⟩
  · exact List.map_map
  · exact List.map_map

theorem nodup_named {w : Workflow} (hn : (w.agents.map (·.id)).Nodup) {f : Text → Text}
    (hf : Function.Injective f) : (w.agents.map fun a => f (identifierOf w.agents a.id)).Nodup := by
  have identifiers := (nodup_identifiers hn).map hf
  rwa [List.map_map, List.map_map] at identifiers

theorem nodup_factoryOf {w : Workflow} (hn : (w.agents.map (·.id)).Nodup) :
    (w.agents.map (factoryOf w)).Nodup := nodup_named hn fun _ _ => List.append_cancel_left

theorem nodup_variableOf {w : Workflow} (hn : (w.agents.map (·.id)).Nodup) :
    (w.agents.map (variableOf w)).Nodup := nodup_named hn fun _ _ => List.append_cancel_left

theorem instances_eq {w : Workflow} {h : Hierarchy} (hh : w.hierarchy = .ok h) :
    (chatStatements (Assembly.ofHierarchy (agentIdentifiers w.agents) h)).filterMap instance?
      = w.agents.map fun a => (variableOf w a, factoryOf w a) := by
  rw [instances_chatStatements fun _ => Assembly.isWord_of_mem_members, members_eq hh, List.map_map]
  rfl

theorem isFactoryWord_factoryOf (w : Workflow) (a : Agent) : isFactoryWord (factoryOf w a) :=
  isFactoryWord_factoryName _

/-- What a reader finds in the main module of a workflow with agents. -/
theorem exists_functions_mainModule {w : Workflow} (ne : w.agents ≠ []) (h : Hierarchy) :
    ∃ functions, functions? (mainModule w h) = some functions ∧
      functions.map (·.name)
        = w.agents.map (factoryOf w) ++ [("start_chat" : Text), "main", "chat_profile"] ∧
      functions.filter (isFactoryWord ·.name) = w.agents.map (factoryDefinition w) ∧
      chat? functions
        = some (chatStatements (Assembly.ofHierarchy (agentIdentifiers w.agents) h)) := by
  obtain ⟨rest, defines, names⟩ := exists_defines_mainModule ne h
  have factory : ∀ d ∈ w.agents.map (factoryDefinition w), isFactoryWord d.name := by
    intro d hd
    obtain ⟨a, -, rfl⟩ := List.mem_map.mp hd
    exact isFactoryWord_factoryOf w a
  have other : ∀ d ∈ rest, isFactoryWord d.name = false ∧ d.name ≠ "start_chat" := by
    intro d hd
    have named := List.mem_map_of_mem (f := (·.name)) hd
    rw [names] at named
    exact (by decide : ∀ name ∈ [("main" : Text), "chat_profile"],
      isFactoryWord name = false ∧ name ≠ "start_chat") _ named
  have start : isFactoryWord ("start_chat" : Text) = false := by decide
  refine ⟨_, defines.functions?, ?_, ?_, ?_⟩
  · rw [List.map_append, List.map_cons, names, List.map_map]
    rfl
  · rw [List.filter_append, List.filter_eq_self.mpr factory,
      List.filter_cons_of_neg (by simp [start]),
      List.filter_eq_nil_iff.mpr fun d hd => by simp [(other d hd).1],
      List.append_nil]
  · have unlike : ∀ d ∈ w.agents.map (factoryDefinition w), d.name ≠ "start_chat" := by
      intro d hd same
      have word := factory d hd
      rw [same, start] at word
      contradiction
    rw [chat?, List.filter_append, List.filter_eq_nil_iff.mpr fun d hd => by simp [unlike d hd],
      List.filter_cons_of_pos (by simp),
      List.filter_eq_nil_iff.mpr fun d hd => by simp [(other d hd).2]]
    exact statements?_chatBody _

/-- The factories of the main module; that of a workflow without agents has none. -/
theorem exists_factories (w : Workflow) (h : Hierarchy) :
    ∃ functions, functions? (mainModule w h) = some functions ∧
      functions.filter (isFactoryWord ·.name) = w.agents.map (factoryDefinition w) := by
  by_cases ne : w.agents = []
  · have lines : mainModule w h = Text.unlines emptyMainModule := by
      rw [mainModule, mainLines, ne]
    rw [lines, ne]
    exact ⟨[], fixedPart_emptyMainModule.silent.defines.functions?, rfl⟩
  · obtain ⟨functions, read, -, factories, -⟩ := exists_functions_mainModule ne h
    exact ⟨functions, read, factories⟩

/-- What a reader finds in the main module of a workflow whose agents form a structure. -/
theorem exists_functions (options : GenerateOptions) {w : Workflow} {h : Hierarchy}
    (ne : w.agents ≠ []) (hh : w.hierarchy = .ok h) :
    ∃ files program functions, w.generate options = .ok files ∧
      Table.get? files mainName = some program ∧ functions? program = some functions ∧
      functions.map (·.name)
        = w.agents.map (factoryOf w) ++ [("start_chat" : Text), "main", "chat_profile"] ∧
      (functions.filter (isFactoryWord ·.name)).map agent?
        = w.agents.map (fun a => some (reading w a)) ∧
      chat? functions
        = some (chatStatements (Assembly.ofHierarchy (agentIdentifiers w.agents) h)) := by
  obtain ⟨functions, read, names, factories, chat⟩ := exists_functions_mainModule ne h
  have generated : w.generate options = .ok (files options w h) := by
    rw [Workflow.generate, hh]
    rfl
  refine ⟨_, _, functions, generated, get?_mainName options w h, read, names, ?_, chat⟩
  simp only [factories, List.map_map, Function.comp_def, agent?_factoryDefinition]

/-- The program carries the agents of a workflow: one factory for each, in input order, from which
the agent can be read back, and a function that starts a chat and makes each agent once. -/
structure CarriesAgents (w : Workflow) (functions : List Definition) : Prop where
  names : functions.map (·.name)
    = w.agents.map (factoryOf w) ++ [("start_chat" : Text), "main", "chat_profile"]
  distinct : (functions.map (·.name)).Nodup
  factories : (functions.filter (isFactoryWord ·.name)).map agent?
    = w.agents.map fun a => some (reading w a)
  tools : ∀ a ∈ w.agents, (reading w a).tools.Nodup
  chat : ∃ statements, chat? functions = some statements ∧
    statements.filterMap instance? = w.agents.map (fun a => (variableOf w a, factoryOf w a)) ∧
    (statements.flatMap words).filter isFactoryWord = w.agents.map (factoryOf w)

/-- Every agent of a workflow that is generated is in the main module with all its data, in
the order of the workflow. -/
theorem generate_carries_agents (options : GenerateOptions) {w : Workflow} {h : Hierarchy}
    (ne : w.agents ≠ []) (hh : w.hierarchy = .ok h) :
    ∃ files program functions, w.generate options = .ok files ∧
      Table.get? files mainName = some program ∧ functions? program = some functions ∧
      CarriesAgents w functions := by
  obtain ⟨files, program, functions, generated, found, read, names, factories, chat⟩ :=
    exists_functions options ne hh
  refine ⟨files, program, functions, generated, found, read, names, ?_, factories, ?_,
    _, chat, ?_, ?_⟩
  · rw [names, List.nodup_append']
    refine ⟨nodup_factoryOf (hierarchy_cases hh).1, by decide, fun name hf hn => ?_⟩
    obtain ⟨a, -, rfl⟩ := List.mem_map.mp hf
    have word := isFactoryWord_factoryOf w a
    exact (by decide : ∀ name ∈ [("start_chat" : Text), "main", "chat_profile"],
      ¬isFactoryWord name) _ hn word
  · exact fun a _ => (Hierarchy.nodup_eraseDups _).map fun _ _ same => List.append_cancel_left same
  · exact instances_eq hh
  · rw [factories_chatStatements fun _ => Assembly.isWord_of_mem_members, members_eq hh,
      List.map_map]
    rfl

/-- Two agents of one name, with texts that literals have to escape and a tool that comes twice. -/
def namesakes : Workflow where
  agents :=
    [{ id := "a", name := "Writer", systemPrompt := "Write.\nSay \"done\".\\",
       inputPlaceholder := "\\",
       tools := [{ id := "t", name := "look up" }, { id := "u", name := "Look Up" }] },
     { id := "b", name := "writer", welcomeMessage := "\n" }]

/-- The hypotheses hold of two agents with one name. -/
theorem namesakes_carried :
    ∃ files program functions, namesakes.generate {} = .ok files ∧
      Table.get? files mainName = some program ∧ functions? program = some functions ∧
      functions.map (·.name) = [("create_agent_writer" : Text), "create_agent_writer_2",
        "start_chat", "main", "chat_profile"] ∧ CarriesAgents namesakes functions := by
  obtain ⟨files, program, functions, generated, found, read, carries⟩ :=
    generate_carries_agents {} (w := namesakes)
      (h := Hierarchy.flat .sequential namesakes.agents) (List.cons_ne_nil _ _) rfl
  refine ⟨files, program, functions, generated, found, read, carries.names.trans ?_, carries⟩
  decide +kernel

end Project

end AgentWorkflow
