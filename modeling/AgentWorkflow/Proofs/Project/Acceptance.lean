import AgentWorkflow.Proofs.Project.ChatStart
import AgentWorkflow.Proofs.Project.Files
import AgentWorkflow.Proofs.Project.FixedParts
import AgentWorkflow.Proofs.Project.MainModule
import AgentWorkflow.Proofs.Project.ToolsProgram
import AgentWorkflow.Proofs.Source.Acceptance

/-!
# Generated programs have no faults

Whatever texts a workflow is made of, the programs of its project can be read: every line of them is
the same in all programs of a kind, or a sound statement that is made of names and escaped texts.
Names of fields are no keywords, so no line begins like a header that is none.

Results:
1. `parses_factory`, `parses_chatStart`, `parses_mainModule`: the main module, part by part.
2. `parses_toolsModule`: the tools module.
3. `Workflow.objections_of_generate`: no program of a project has a fault.
-/

namespace AgentWorkflow

namespace Project

open Source
open Naming (IsWord)

/-! ## Names -/

theorem not_header_of_underscore {name : Text} (h : ('_' : CodePoint) ∈ name) :
    headerWords.contains name = false := by
  have none : ∀ word ∈ headerWords, ('_' : CodePoint) ∉ word := by decide
  exact Bool.eq_false_iff.mpr fun listed => none name (List.contains_iff_mem.mp listed) h

theorem not_header_identifier (t : Text) : headerWords.contains (Naming.identifier t) = false := by
  have keywords : ∀ word ∈ headerWords, Naming.isKeyword word := by decide
  simp only [Naming.identifier]
  split
  · exact not_header_of_underscore (List.mem_append_right _ (by decide))
  · next free =>
    exact Bool.eq_false_iff.mpr fun listed => free (keywords _ (List.contains_iff_mem.mp listed))

theorem not_header_fieldName {name : Text} (h : headerWords.contains name = false) :
    headerWords.contains (Tools.fieldName name) = false := by
  unfold Tools.fieldName
  split
  · next reserved =>
    obtain ⟨rest, rfl⟩ := List.isPrefixOf_iff_prefix.mp reserved
    exact not_header_of_underscore (by simp [Text.ofString])
  · split
    · exact not_header_of_underscore (List.mem_append_left _ (by decide))
    · exact h

/-- A line of a class that declares a field is no header. -/
theorem not_header_field {t : Tool} {f : SchemaField} (h : f ∈ Tools.schemaFields t) :
    headerWords.contains f.name = false := by
  obtain ⟨name, hname, ⟨wanted, parameter⟩, -, rfl⟩ := Tools.mem_zipWith h
  refine Naming.distinct_induction (P := fun name => headerWords.contains name = false)
    (fun name n _ => not_header_of_underscore ?_) ?_ name hname
  · simp [Naming.numbered, Text.ofString]
  · intro name hname
    obtain ⟨raw, hraw, rfl⟩ := List.mem_map.mp hname
    obtain ⟨p, -, rfl⟩ := List.mem_map.mp hraw
    exact not_header_fieldName (not_header_identifier p.name)

/-! ## Factories -/

theorem steady_clientRun (a : Agent) : Steady (clientRun a) := by
  obtain ⟨ne, word⟩ := isKeyName_iff.mp (isKeyName_clientClass a)
  have finite := isFinite_emittedTemperature a
  have number : areCalm ((emittedTemperature a).text.map .point) := areCalm_points fun mem =>
    absurd (Binary64.isNumberPoint_of_mem_text finite mem) (by decide)
  refine steady_call _ ne (fun c hc => isNamePoint_of_isWordPoint (word c hc))
    (enclosed_inline (steady_of_mem_argumentRuns (sound_clientArguments a) ?_))
  simp only [clientArguments, List.forall_mem_cons]
  exact ⟨rfl, number, List.forall_mem_nil _⟩

theorem steady_projectRun (project : Option Text) : Steady (projectRun project) := by
  cases project with
  | none =>
    refine steady_call "os.environ.get" (by decide) (by decide) (enclosed_inline ?_)
    simp only [List.forall_mem_cons]
    exact ⟨steady_text _, steady_text _, List.forall_mem_nil _⟩
  | some project => exact steady_text project

theorem steady_memoryRun (memory : Memory) : Steady (memoryRun memory) := by
  cases memory with
  | session => exact steady_call "LocalMemory" (by decide) (by decide) enclosed_nil
  | bank project region =>
    refine steady_call "MemoryBank" (by decide) (by decide)
      (enclosed_inline (steady_of_mem_argumentRuns (sound_bankArguments project region) ?_))
    simp only [bankArguments, List.forall_mem_cons]
    exact ⟨(steady_projectRun project).calm, rfl, List.forall_mem_nil _⟩

theorem steady_toolsRun (a : Agent) : Steady (toolsRun a) := by
  unfold toolsRun
  split
  · exact steady_group '[' enclosed_nil
  · exact steady_namesRun 2 (isName_toolNames a)

theorem steady_agentRun (memory : Memory) (i : Text) (a : Agent) :
    Steady (agentRun (factoryArguments memory (memoryRun memory) i a)) := by
  refine steady_call "Agent" (by decide) (by decide) (enclosed_blockLeaves
    (steady_of_mem_argumentRuns (sound_factoryArguments (expresses_memory memory) i a) ?_) 1)
  simp only [factoryArguments, List.forall_mem_cons]
  exact ⟨rfl, (steady_clientRun a).calm, (steady_memoryRun memory).calm,
    (steady_promptLeaves 2 a.systemPrompt).calm, rfl, rfl, (steady_toolsRun a).calm,
    List.forall_mem_nil _⟩

theorem sound_factoryBlock (memory : Memory) {i : Text} (hi : IsWord i) (a : Agent) :
    (factoryBlock memory i a).Sound := by
  obtain ⟨sound, opens⟩ := isSound_headRun (show isKeyName "def" by decide) (by decide)
    (isKeyName_factoryName hi) enclosed_nil " -> Agent" (by decide) 0
  refine .block sound opens (List.cons_ne_nil _ _) ?_
  have result := plain_return (steady_agentRun memory i a).calm ((rests_group _ _).append _) 4
  simp only [factoryBody, List.forall_mem_cons]
  exact ⟨⟨trivial, plain_text 4 _⟩, ⟨trivial, result⟩, List.forall_mem_nil _⟩

theorem isClean_memory (memory : Memory) : memory.expression.isClean := by
  cases memory with
  | session => decide
  | bank project region => cases project <;> simp [Memory.expression, Memory.projectExpression]

theorem isClean_clientExpression (a : Agent) : (clientExpression a).isClean := by
  have client : (clientClass a).isClean := by
    unfold clientClass
    split <;> decide
  simp [clientExpression, client, Text.isClean_text (isFinite_emittedTemperature a)]

theorem all_isClean_toolReferences (a : Agent) : (toolReferences a).all Text.isClean := by
  dsimp only [toolReferences]
  split
  · simp
  · have functions : ∀ f ∈ Tools.functionsOf a, f.isClean := fun f hf =>
      Text.isClean_of_isWord (Tools.isWord_of_mem_functionsOf hf)
    simpa using functions

theorem all_isClean_factory (memory : Memory) {i : Text} (hi : IsWord i) (a : Agent) :
    (factory memory i a).all Text.isClean := by
  simp only [factory, List.all_append, all_isClean_docstring, all_isClean_toolReferences]
  simp [factoryName, Text.isClean_of_isWord hi, isClean_clientExpression, isClean_memory]

theorem parses_factory (memory : Memory) {i : Text} (hi : IsWord i) (a : Agent) :
    Parses (Text.unlines (factory memory i a)) := by
  have shows : Shows blocks (Text.unlines (factory memory i a)) [factoryBlock memory i a] :=
    ⟨_, lays_factory (expresses_memory memory) hi a, by rintro l ⟨⟩; rfl,
      blocks_block _ (indented_of_mem_factoryBody memory _ i a)⟩
  refine parses_of_shows shows (List.forall_mem_singleton.mpr (sound_factoryBlock memory hi a)) ?_
  rw [Text.isClean_unlines]
  exact all_isClean_factory memory hi a

example : syntaxFault? (Text.unlines (factory .session "a" { name := "\")" })) = none := by
  decide +kernel

/-! ## The chat -/

namespace Assembly

variable {a : Assembly} (hm : ∀ i ∈ a.members, IsWord i)

theorem plain_instanceRun {i : Text} (hi : IsWord i) : Line.Plain ⟨4, instanceRun i⟩ := by
  obtain ⟨ne, word⟩ := isKeyName_iff.mp (isKeyName_factoryName hi)
  have call := steady_call _ ne (fun c hc => isNamePoint_of_isWordPoint (word c hc)) enclosed_nil
  have free : headerWords.contains (agentVariable i) = false :=
    not_header_of_underscore (List.mem_append_left i (by decide))
  exact plain_assignmentRun (isKeyName_agentVariable hi) free call.calm
    ((rests_group _ _).append _) 4

theorem steady_entryRun (e : Text × List Text) : Steady (entryRun e) := by
  have reports : areCalm (reportsRun e.2) := by
    refine (steady_group '[' (enclosed_inline fun run hrun => ?_)).calm
    obtain ⟨i, -, rfl⟩ := List.mem_map.mp hrun
    exact steady_text i
  have colon : areCalm [.point ':', .point ' '] := by decide
  have shape : entryRun e = [.text e.1] ++ ([.point ':', .point ' '] ++ reportsRun e.2) := rfl
  rw [shape]
  exact (steady_text e.1).append (by rw [areCalm_append, colon, reports]; rfl)

theorem steady_structureRun (a : Assembly) : Steady (structureRun a) := by
  refine steady_group '\x7b' ?_
  split
  · exact enclosed_nil
  · refine enclosed_blockLeaves (fun run hrun => ?_) 2
    obtain ⟨e, -, rfl⟩ := List.mem_map.mp hrun
    exact steady_entryRun e

include hm in
theorem plain_joinRun : Line.Plain ⟨4, a.joinRun⟩ := by
  obtain ⟨ne, word⟩ := isKeyName_iff.mp (isKeyName_kind a.kind)
  have values : ∀ x ∈ assemblyArguments a, areCalm x.run := by
    refine List.forall_mem_cons.mpr ⟨(steady_namesRun 2 (isName_agentVariables hm)).calm, ?_⟩
    split
    · exact List.forall_mem_singleton.mpr (steady_structureRun a).calm
    · exact fun x hx => absurd hx List.not_mem_nil
  have call := steady_call _ ne (fun c hc => isNamePoint_of_isWordPoint (word c hc))
    (enclosed_blockLeaves (steady_of_mem_argumentRuns (sound_assemblyArguments hm) values) 1)
  exact plain_assignmentRun (by decide) (by decide) call.calm ((rests_group _ _).append _) 4

include hm in
theorem all_isClean_lines : a.lines.all Text.isClean := by
  have members : ∀ i ∈ a.members, i.isClean := fun i hi => Text.isClean_of_isWord (hm i hi)
  have instances : a.instances.all Text.isClean := by
    simpa [Assembly.instances, agentVariable, factoryName] using members
  have chain : (Text.join " -> " (a.members.map agentVariable)).isClean := by
    refine Text.isClean_join (by decide) ?_
    simpa [agentVariable] using members
  have comment : a.comment.all Text.isClean := by
    unfold Assembly.comment
    split <;> simp [chain]
  have agents : a.agentsArgument.all Text.isClean := by
    simpa [agentsArgument, agentVariable] using members
  have entries : ∀ e ∈ a.reports, (supervisorLine e).isClean := by
    intro e _
    have reports : (Text.join ", " (e.2.map literal)).isClean :=
      Text.isClean_join (by decide) (by simp)
    simp [supervisorLine, reports]
  have argument : (if a.kind = .hierarchical then a.structureArgument else []).all Text.isClean := by
    split
    · unfold structureArgument
      split
      · simp
      · simpa using entries
    · rfl
  have kind : a.kind.name.isClean := by cases a.kind <;> decide
  simp only [lines, statement, List.all_append, instances, comment, agents, argument]
  simp [kind]

end Assembly

/-- In front of the body stand a decorator and a header. -/
theorem layout_chatHead : ∃ decorator header : Line, layout chatHead = [decorator, header] ∧
    decorator.indentation = 0 ∧ decorator.Plain ∧
    header.indentation = 0 ∧ header.isSound ∧ header.opens := by
  have facts : (layout chatHead).map (fun l => (l.indentation, l.isSound, l.opens))
      = [(0, true, false), (0, true, true)] := by
    simp only [chatHead, fixed, List.map]
    repeat rw [Text.ofString_ofList]
    decide +kernel
  obtain ⟨decorator, rest, head, first, others⟩ := List.map_eq_cons_iff.mp facts
  obtain ⟨header, rfl, second⟩ := List.map_eq_singleton_iff.mp others
  simp only [Prod.mk.injEq] at first second
  exact ⟨decorator, header, head, first.1, ⟨first.2.1, first.2.2⟩, second⟩

theorem plain_chatEnd : ∀ l ∈ layout chatEnd, l.Plain := by
  have facts : (layout chatEnd).all fun l => l.isSound && !l.opens := by
    rw [chatEnd]
    repeat rw [Text.ofString_ofList]
    decide +kernel
  intro l hl
  have plain := List.all_eq_true.mp facts l hl
  rw [Bool.and_eq_true, Bool.not_eq_true'] at plain
  exact ⟨plain.1, plain.2⟩

theorem parses_chatStart {a : Assembly} (hm : ∀ i ∈ a.members, IsWord i) :
    Parses (Text.unlines (chatStart a)) := by
  obtain ⟨decorator, header, head, margin, plain, margin', sound, opens⟩ := layout_chatHead
  have statements : ∀ l ∈ chatBody a, l.Plain := by
    refine List.forall_mem_append.mpr ⟨fun l hl => ?_,
      List.forall_mem_cons.mpr ⟨Assembly.plain_joinRun hm, plain_chatEnd⟩⟩
    obtain ⟨i, hi, rfl⟩ := List.mem_map.mp hl
    exact Assembly.plain_instanceRun (hm i hi)
  have some_line : chatBody a ≠ [] := List.append_ne_nil_of_right_ne_nil _ (List.cons_ne_nil _ _)
  have lays := lays_chatStart hm
  rw [head, List.cons_append, List.singleton_append] at lays
  refine ⟨⟨_, lays, ?sound, ?stands⟩, ?clean⟩
  case sound =>
    exact List.forall_mem_cons.mpr ⟨plain.sound,
      List.forall_mem_cons.mpr ⟨sound, fun l hl => (statements l hl).sound⟩⟩
  case stands =>
    exact (stands_line margin plain).append (stands_block margin' opens some_line
      fun l hl => ⟨indentation_of_mem_chatBody l hl, statements l hl⟩)
  case clean =>
    rw [Text.isClean_unlines]
    simp only [chatStart, List.all_append, Assembly.all_isClean_lines hm]
    simp [fixed]

/-! ## The main module -/

/-- An assignment of a text, to a name that is no keyword. -/
theorem parses_assignment {name : Text} (hn : isKeyName name) (clean : name.isClean)
    (free : headerWords.contains name = false) (t : Text) :
    Parses (Text.unlines [name ++ " = " ++ literal t]) := by
  have lays : Lays (Text.unlines [name ++ " = " ++ literal t])
      [⟨0, assignmentRun name [.text t]⟩] := by
    simpa [Text.unlines, line, indent] using lays_assignment hn 0 (expresses_literal t)
  have plain := plain_assignmentRun hn free (steady_text t).calm (rests_text t) 0
  refine ⟨⟨_, lays, List.forall_mem_singleton.mpr plain.sound, stands_line rfl plain⟩, ?_⟩
  simp [clean]

theorem parses_greeting (a : Agent) : Parses (Text.unlines (greeting a)) := by
  have welcome : ("WELCOME_MESSAGE = " : Text) = "WELCOME_MESSAGE" ++ " = " := rfl
  have placeholder : ("INPUT_PLACEHOLDER = " : Text) = "INPUT_PLACEHOLDER" ++ " = " := rfl
  rw [greeting, welcome, placeholder]
  exact (parses_assignment (by decide) (by decide) (by decide) _).unlines
    (parses_assignment (by decide) (by decide) (by decide) _)

theorem parses_gap : Parses (Text.unlines [[], []]) := parses_of_isParsable (by decide)

/-- The main module passes the check of its outline, whatever the workflow says. -/
theorem parses_mainModule (w : Workflow) (h : Hierarchy) : Parses (mainModule w h) := by
  rw [mainModule, mainLines]
  cases w.agents with
  | nil => exact fixedPart_emptyMainModule.parses
  | cons first rest =>
    have made : ∀ (identifiers : Table Text) (memory : Memory) (agents : List Agent),
        (∀ id, IsWord ((Table.get? identifiers id).getD [])) →
        Parses (Text.unlines (factories identifiers memory agents)) :=
      fun _ memory _ word => parses_flatMap fun a _ =>
        parses_gap.unlines (parses_factory memory (word a.id) a)
    have start := parses_chatStart fun _ (hi : _ ∈ (Assembly.ofHierarchy
      (agentIdentifiers (first :: rest)) h).members) => Assembly.isWord_of_mem_members hi
    have prologue := ((fixedPart_mainHeader w.kind).unlines (fixedPart_imports w)).unlines
      (fixedPart_guards w)
    exact (((((prologue.parses.unlines (parses_greeting first)).unlines
      (made _ _ _ (isWord_agentIdentifier _))).unlines start).unlines
      fixedPart_messageHandler.parses).unlines (fixedPart_chatProfile w.kind).parses).unlines
      fixedPart_server.parses

/-! ## The tools module -/

theorem areCalm_typeRun (p : Parameter) : areCalm (typeRun p) := by
  unfold typeRun
  cases p.required <;> cases p.type <;> decide +kernel

theorem steady_fieldCall (f : SchemaField) : Steady (fieldCall f) := by
  have default : Steady ((defaultText f.parameter).map .point) := by
    unfold defaultText
    split
    · exact steady_points (by decide) (by decide)
    · exact steady_points (by decide) (by decide)
  have keywords : ∀ a ∈ fieldKeywords f, areCalm a.run := by
    refine List.forall_mem_append.mpr ⟨fun a ha => ?_, List.forall_mem_singleton.mpr rfl⟩
    obtain ⟨wanted, -, rfl⟩ := List.mem_map.mp ha
    rfl
  have runs : (fieldEntries f).map (·.2)
      = (defaultText f.parameter).map .point :: argumentRuns (fieldKeywords f) := by
    simp [fieldEntries, argumentRuns, argumentTable]
  refine steady_call "Field" (by decide) (by decide) (enclosed_inline ?_)
  rw [runs]
  exact List.forall_mem_cons.mpr
    ⟨default, steady_of_mem_argumentRuns (sound_fieldKeywords f) keywords⟩

theorem plain_fieldRun {t : Tool} {f : SchemaField} (h : f ∈ Tools.schemaFields t)
    (hn : isKeyName f.name) : Line.Plain ⟨4, fieldRun f⟩ :=
  plain_typedRun hn (not_header_field h) (steady_fieldCall f).calm ((rests_group _ _).append _)
    (areCalm_typeRun f.parameter) 4

theorem plain_logRun (function : Text) : Line.Plain ⟨4, logRun function⟩ := by
  have dump : Steady (("inputs.model_dump" : Text).map .point ++ [.group '(' []]) :=
    steady_call _ (by decide) (by decide) enclosed_nil
  refine plain_of_rests ?_ ((rests_group _ _).append _) rfl
  refine (steady_call "logger.info" (by decide) (by decide) (enclosed_inline ?_)).calm
  simp only [List.forall_mem_cons]
  exact ⟨steady_text _, steady_text _, dump, List.forall_mem_nil _⟩

theorem plain_answerRun (function : Text) : Line.Plain ⟨4, answerRun function⟩ := by
  have dump : areCalm ((" + inputs.model_dump_json" : Text).map .point ++ [.group '(' []]) := by
    rw [areCalm_append, areCalm_points (by decide)]
    rfl
  have rests := (rests_group '(' []).append ((" + inputs.model_dump_json" : Text).map .point)
  refine plain_return ?_ (rests.append [.text _]) 4
  rw [areCalm_append, dump]
  rfl

section Definition

variable {d : ToolDefinition} (named : Named d)

include named

theorem sound_classBlock : (classBlock d).Sound := by
  obtain ⟨sound, opens⟩ := isSound_headRun (show isKeyName "class" by decide) (by decide)
    named.schema (steady_points (t := "BaseModel") (by decide) (by decide)).enclosed []
    (by decide) 0
  refine .block sound opens (List.cons_ne_nil _ _)
    (List.forall_mem_cons.mpr ⟨⟨rfl, plain_text 4 _⟩, fun l hl => ?_⟩)
  obtain ⟨f, hf, rfl⟩ := List.mem_map.mp hl
  exact ⟨rfl, plain_fieldRun hf (named.fields f hf)⟩

theorem sound_functionBlock : (functionBlock d).Sound := by
  have inputs : Enclosed (("inputs: " : Text).map .point ++ d.schema.map .point) := by
    have front : areCalm (("inputs: " : Text).map .point) := areCalm_points (by decide)
    refine ⟨?_, rfl⟩
    rw [areCalm_append, front, (steady_word named.schema).calm]
    rfl
  obtain ⟨sound, opens⟩ := isSound_headRun (show isKeyName "def" by decide) (by decide)
    named.function inputs " -> str" (by decide) 0
  refine .block sound opens (List.cons_ne_nil _ _) ?_
  simp only [List.forall_mem_cons]
  exact ⟨⟨trivial, plain_text 4 _⟩, ⟨trivial, plain_logRun d.function⟩,
    ⟨trivial, plain_answerRun d.function⟩, List.forall_mem_nil _⟩

end Definition

theorem isClean_fieldLine {t : Tool} {f : SchemaField} (h : f ∈ Tools.schemaFields t) :
    (fieldLine f).isClean := by
  have name := Text.isClean_of_isWord (Tools.isWord_field h)
  have annotation : (Tools.annotation f.parameter).isClean := by
    unfold Tools.annotation
    split <;> cases f.parameter.type <;> decide
  have arguments : (fieldArguments f).all Text.isClean := by
    unfold fieldArguments
    split <;> simp
  simp [fieldLine, name, annotation,
    Text.isClean_join (show Text.isClean ", " by decide) (List.all_eq_true.mp arguments)]

theorem all_isClean_toolLines {agents : List Agent} {d : ToolDefinition}
    (hd : d ∈ Tools.catalogue agents) : (toolLines d).all Text.isClean := by
  have function := Text.isClean_of_isWord (Tools.isWord_function hd)
  have schema := Text.isClean_of_isWord (Tools.isWord_schema hd)
  have fields : ((Tools.schemaFields d.tool).map fieldLine).all Text.isClean := by
    rw [List.all_map, List.all_eq_true]
    exact fun f hf => isClean_fieldLine hf
  simp only [toolLines, schemaClass, stub, List.all_append, all_isClean_docstring, fields]
  simp [function, schema]

theorem parses_toolLines {agents : List Agent} {d : ToolDefinition}
    (hd : d ∈ Tools.catalogue agents) : Parses (Text.unlines (toolLines d)) := by
  have named := named_of_mem_catalogue hd
  have clean := all_isClean_toolLines hd
  simp only [toolLines, List.all_append, Bool.and_eq_true] at clean
  refine .unlines (.unlines ?schema parses_gap) ?stub
  case schema =>
    refine parses_of_shows (shows_schemaClass named.schema named.fields)
      (List.forall_mem_singleton.mpr (sound_classBlock named)) ?_
    rw [Text.isClean_unlines, clean.1.1]
  case stub =>
    refine parses_of_shows (shows_stub named.function named.word named.schema)
      (List.forall_mem_singleton.mpr (sound_functionBlock named)) ?_
    rw [Text.isClean_unlines, clean.2]

theorem parses_allTools {ds : List ToolDefinition} (named : ∀ d ∈ ds, Named d) :
    Parses (Text.unlines (allTools ds)) := by
  have functions : ∀ d ∈ ds, d.function.isClean := fun d hd =>
    Text.isClean_of_isWord (named d hd).word
  have plain := plain_assignmentRun (show isKeyName "ALL_TOOLS" by decide) (by decide)
    (steady_namesRun 0 (isName_functions named)).calm (rests_group _ _) 0
  refine parses_of_shows (shows_allTools named)
    (List.forall_mem_singleton.mpr (.line plain)) ?_
  rw [Text.isClean_unlines]
  simpa [allTools] using functions

/-- The tools module passes the check of its outline, whatever the tools are called. -/
theorem parses_toolsModule (agents : List Agent) :
    Parses (toolsModule (Tools.catalogue agents)) := by
  rw [toolsModule, toolsLines]
  split
  · refine parses_of_isParsable ?_
    simp only [emptyToolsModule, fixed, List.map]
    repeat rw [Text.ofString_ofList]
    decide +kernel
  · have header : Parses (Text.unlines toolsHeader) := by
      refine parses_of_isParsable ?_
      simp only [toolsHeader, fixed, List.map]
      repeat rw [Text.ofString_ofList]
      decide +kernel
    have tools : Parses (Text.unlines
        ((Tools.catalogue agents).flatMap fun d => [[], []] ++ toolLines d)) :=
      parses_flatMap fun d hd => parses_gap.unlines (parses_toolLines hd)
    exact ((header.unlines tools).unlines parses_gap).unlines
      (parses_allTools fun d hd => named_of_mem_catalogue hd)

/-! ## The project -/

/-- A program of a project is one of its two modules. -/
theorem parses_of_mem_files {options : GenerateOptions} {w : Workflow} {h : Hierarchy}
    {name content : Text} (hf : (name, content) ∈ files options w h)
    (program : isProgramName name) : Parses content := by
  have modules : ∀ name ∈ fileNames, isProgramName name → name = mainName ∨ name = toolsName := by
    decide
  have found := Table.get?_of_mem (nodup_names_files options w h) hf
  rcases modules name (name_mem_of_mem_files hf) program with rfl | rfl
  · cases (get?_mainName options w h).symm.trans found
    exact parses_mainModule w h
  · cases (get?_toolsName options w h).symm.trans found
    exact parses_toolsModule w.agents

end Project

/-- No program that a workflow is made into has a fault. -/
theorem Workflow.objections_of_generate {w : Workflow} {options : GenerateOptions}
    {files : Table Text} (h : w.generate options = .ok files) :
    Source.objections Source.outlineObjection? files = [] := by
  obtain ⟨g, -, rfl⟩ := Project.generate_eq_ok h
  refine List.filterMap_eq_nil_iff.mpr ?_
  rintro ⟨name, content⟩ hf
  dsimp only
  split
  · next program =>
    have sound := Source.syntaxFault?_of_parses (Project.parses_of_mem_files hf program)
    rw [Source.outlineObjection?, sound, Option.map_none, Option.map_none]
  · rfl

end AgentWorkflow
