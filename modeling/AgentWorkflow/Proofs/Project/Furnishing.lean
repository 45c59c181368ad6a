import AgentWorkflow.Proofs.Project.EnvironmentFile
import AgentWorkflow.Proofs.Project.MainReading

/-!
# What a main module uses is what it imports

Of the clients, the memories and the classes of workflows a main module imports some. A factory uses
the client for its agent's model and the memory, and nothing else that can be imported so; the
function that sets up a chat uses the class of the workflow. So an import is there just if it is
used. A factory reads a variable of the environment only for a bank without a project.

Results:
1. `filter_names_factoryBlock`, `reading?_factoryBlock`: what a factory uses and reads.
2. `exists_tells_chatStart`: what the function that sets up a chat uses.
3. `main?_mainModule`: what a reader finds in the module.
4. `mem_importsOf_iff`, `bound_mem_factories_iff`: which imports are there, and which are used.
5. `generate_furnishes`: imports, checks and the example of an environment file are those that the
   module needs.
-/

namespace AgentWorkflow

namespace Project

open Source
open Naming (IsWord)

/-! ## What a main module needs -/

/-- The imports that a main module may have or not. -/
def provided : List Import :=
  [openaiImport, vertexImport, sessionImport, bankImport, kindImport .sequential,
   kindImport .hierarchical, kindImport .collaborative]

def isProvided (name : Text) : Bool := (provided.map (·.bound)).contains name

/-- A main module imports, checks and reads what it needs and no more: an import that it may have or
not is there just if what it binds is used, the check for OpenAI's key just if some factory uses
OpenAI's client, the one for Google's credentials just if some factory uses Google's, and the
example of an environment file assigns every variable that is read. -/
structure Furnished (w : Workflow) (m : MainReading) : Prop where
  imports : ∀ i ∈ provided, i ∈ m.imports ↔ i.bound ∈ m.factories ++ m.assembly
  bound : ∀ i ∈ m.imports, isProvided i.bound → i ∈ provided
  key : openaiCheck ∈ m.guards ↔ openaiImport.bound ∈ m.factories
  credentials : googleCheck ∈ m.guards ↔
    vertexImport.bound ∈ m.factories ∨ bankImport.bound ∈ m.factories
  guards : ∀ g ∈ m.guards, g = openaiCheck ∨ g = googleCheck
  reads : ∀ name ∈ m.reads, name ∈ assignedNames (environmentExample w)

/-! ## Names that are imported -/

theorem isProvided_bound {i : Import} (h : i ∈ provided) : isProvided i.bound :=
  List.contains_iff_mem.mpr (List.mem_map_of_mem h)

/-- What an import binds tells it from the others. -/
theorem eq_of_bound_eq {i j : Import} (hi : i ∈ provided) (hj : j ∈ provided)
    (h : i.bound = j.bound) : i = j := by
  have distinct : (provided.map (·.bound)).Nodup := by decide
  exact List.inj_on_of_nodup_map distinct hi hj h

/-- Every such name begins with a capital letter. -/
theorem head_bound : ∀ name ∈ provided.map (·.bound), ∃ c ∈ name.head?, c.isUpper := by decide

theorem not_isProvided {name : Text} (h : name.head?.all (!·.isUpper)) :
    isProvided name = false := by
  refine Bool.eq_false_iff.mpr fun bound => ?_
  obtain ⟨c, hc, upper⟩ := head_bound name (List.contains_iff_mem.mp bound)
  simp [Option.mem_def.mp hc, upper] at h

/-- The names in a run that such imports bind. -/
def providedNames (run : List Leaf) : List Text := (firstNames run).filter isProvided

theorem isCallView_providedNames : IsCallView providedNames :=
  isCallView_firstNames.comp rfl fun _ _ => List.filter_append ..

theorem providedNames_word {name : Text} (h : isKeyName name) :
    providedNames (name.map .point) = if isProvided name then [name] else [] := by
  rw [providedNames, firstNames_word h, List.filter_singleton, Bool.cond_eq_ite]

theorem not_isUpper_of_isNumberPoint {c : CodePoint} (h : isNumberPoint c) : ¬c.isUpper := by
  have other : ∀ c ∈ ("+-.e" : Text), ¬c.isUpper := by decide
  rcases Bool.or_eq_true_iff.mp h with digit | sign
  · simp only [CodePoint.isDigit, CodePoint.isUpper, Bool.and_eq_true, decide_eq_true_eq] at digit ⊢
    omega
  · exact other c (List.contains_iff_mem.mp sign)

theorem providedNames_number {t : Text} (h : ∀ c ∈ t, isNumberPoint c) :
    providedNames (t.map .point) = [] := by
  refine List.filter_eq_nil_iff.mpr fun name hn bound => ?_
  obtain ⟨c, hc, upper⟩ := head_bound name (List.contains_iff_mem.mp bound)
  obtain ⟨stretch, hs, rfl⟩ := List.mem_map.mp hn
  rw [stretches, visible_points] at hs
  have number := h c (Text.mem_runs hs ((List.takeWhile_prefix _).mem (List.mem_of_mem_head? hc))).1
  exact not_isUpper_of_isNumberPoint number upper

/-! ## A factory -/

def clientImport (a : Agent) : Import :=
  if a.family? = some .vertex then vertexImport else openaiImport

theorem bound_clientImport (a : Agent) : (clientImport a).bound = clientClass a := by
  rw [clientImport, clientClass]
  split <;> rfl

theorem clientImport_mem_provided (a : Agent) : clientImport a ∈ provided := by
  rw [clientImport]
  split <;> simp [provided]

theorem memoryImport_mem_provided (memory : Memory) : memoryImport memory ∈ provided := by
  cases memory <;> simp [memoryImport, provided]

theorem kindImport_mem_provided (kind : WorkflowKind) : kindImport kind ∈ provided := by
  cases kind <;> simp [provided]

theorem openaiImport_mem_provided : openaiImport ∈ provided := List.mem_cons_self

theorem vertexImport_mem_provided : vertexImport ∈ provided :=
  List.mem_cons_of_mem _ List.mem_cons_self

theorem bankImport_mem_provided : bankImport ∈ provided := by simp [provided]

/-- The name that such an import binds is found where it is used. -/
theorem providedNames_bound {i : Import} (h : i ∈ provided) :
    providedNames (i.bound.map .point) = [i.bound] := by
  have named : ∀ i ∈ provided, isKeyName i.bound := by decide
  rw [providedNames_word (named i h), if_pos (isProvided_bound h)]

/-- Other words are not. -/
theorem providedNames_plain {name : Text} (h : isKeyName name)
    (plain : name.head?.all (!·.isUpper)) :
    providedNames (name.map .point) = [] := by
  rw [providedNames_word h, not_isProvided plain]
  rfl

theorem providedNames_factoryWords :
    ∀ word ∈ factoryWords, providedNames (word.map .point) = [] := by decide +kernel

theorem providedNames_clientRun (a : Agent) :
    providedNames (clientRun a) = [(clientImport a).bound] := by
  have number := providedNames_number fun c hc =>
    Binary64.isNumberPoint_of_mem_text (isFinite_emittedTemperature a) hc
  rw [view_clientRun isCallView_providedNames providedNames_factoryWords, ← bound_clientImport,
    providedNames_bound (clientImport_mem_provided a), number]
  rfl

theorem providedNames_memoryRun (memory : Memory) :
    providedNames (memoryRun memory) = [(memoryImport memory).bound] := by
  cases memory with
  | session => decide +kernel
  | bank project region =>
    have stored : providedNames (projectRun project) = [] := by
      cases project with
      | none => decide +kernel
      | some project => exact isCallView_providedNames.text project
    have bank : ("MemoryBank" : Text) = bankImport.bound := rfl
    rw [view_bank isCallView_providedNames, bank,
      providedNames_bound bankImport_mem_provided, stored,
      providedNames_plain (by decide) rfl, providedNames_plain (by decide) rfl]
    rfl

theorem providedNames_toolsRun (a : Agent) : providedNames (toolsRun a) = [] := by
  rw [view_toolsRun isCallView_providedNames.toIsCutView]
  refine List.flatMap_eq_nil_iff.mpr fun name hn => ?_
  obtain ⟨ne, point⟩ := isName_toolNames a name hn
  obtain ⟨f, -, rfl⟩ := List.mem_map.mp hn
  have first : firstPart (toolReference f) = toolsAlias := rfl
  rw [providedNames, firstNames, stretches_points ne point, List.map_singleton, first,
    List.filter_singleton, not_isProvided rfl]
  rfl

/-- A factory uses the client for its agent's model and the memory. -/
theorem filter_names_factoryBlock (memory : Memory) {i : Text} (hi : IsWord i) (a : Agent) :
    (factoryBlock memory i a).names.filter isProvided
      = [(clientImport a).bound, (memoryImport memory).bound] := by
  have view := view_factoryBlock isCallView_providedNames providedNames_factoryWords memory hi a
  rw [providedNames_plain (isKeyName_factoryName hi) rfl, providedNames_clientRun,
    providedNames_memoryRun, providedNames_toolsRun] at view
  rw [Block.names, List.filter_flatMap]
  exact view

def memoryReads : Memory → List Text
  | .bank none _ => ["GOOGLE_CLOUD_PROJECT"]
  | _ => []

theorem environmentReads_memoryRun (memory : Memory) :
    (Source.environmentReads (memoryRun memory)).mapM readName? = some (memoryReads memory) := by
  cases memory with
  | session => decide +kernel
  | bank project region =>
    have inside : Source.environmentReads (memoryRun (.bank project region))
        = Source.environmentReads (projectRun project) := by
      simp only [view_bank isCallView_environmentReads, environmentReads_points, List.nil_append,
        List.append_nil]
    rw [inside]
    cases project with
    | none =>
      rw [memoryReads]
      decide +kernel
    | some project =>
      rw [projectRun, isCallView_environmentReads.text]
      rfl

theorem environmentReads_factoryBlock (memory : Memory) {i : Text} (hi : IsWord i) (a : Agent) :
    (factoryBlock memory i a).environmentReads = Source.environmentReads (memoryRun memory) := by
  have blind : ∀ word ∈ factoryWords, Source.environmentReads (word.map .point) = [] := fun word _ =>
    environmentReads_points word
  have tools : Source.environmentReads (toolsRun a) = [] := by
    rw [view_toolsRun isCallView_environmentReads.toIsCutView]
    exact List.flatMap_eq_nil_iff.mpr fun name _ => environmentReads_points name
  rw [Block.environmentReads, view_factoryBlock isCallView_environmentReads blind memory hi,
    view_clientRun isCallView_environmentReads blind, tools, environmentReads_points,
    environmentReads_points, environmentReads_points]
  exact List.append_nil _

/-- What a reader is told of a function. -/
theorem reading?_function {b : Block} {name : Text} {reads : List Text}
    (imports : isImport b.head = false) (defines : Line.defined? ⟨0, b.head⟩ = some name)
    (read : b.environmentReads.mapM readName? = some reads) :
    reading? b = some ⟨if isFactoryWord name then .factory b.names
      else if name = "start_chat" then .assembly b.names else .other, reads⟩ := by
  simp only [reading?, telling?, imports, defines, read, Bool.false_eq_true, if_false,
    Option.bind_eq_bind, Option.bind_some]
  rfl

theorem reading?_factoryBlock (memory : Memory) {i : Text} (hi : IsWord i) (a : Agent) :
    reading? (factoryBlock memory i a)
      = some ⟨.factory (factoryBlock memory i a).names, memoryReads memory⟩ := by
  have keyword := takePoints_headRun (show isKeyName "def" by decide) (factoryName i) [] " -> Agent"
  have read : (factoryBlock memory i a).environmentReads.mapM readName? = some (memoryReads memory) := by
    rw [environmentReads_factoryBlock memory hi, environmentReads_memoryRun]
  rw [reading?_function (isImport_of_takePoints keyword (by decide) (by decide))
    (Line.defined?_headRun (isKeyName_factoryName hi) _ _) read,
    if_pos (isFactoryWord_factoryName i)]

theorem tells_factory (memory : Memory) {i : Text} (hi : IsWord i) (a : Agent) :
    Tells (Text.unlines ([[], []] ++ factory memory i a))
      [⟨.factory (factoryBlock memory i a).names, memoryReads memory⟩] := by
  have blank : Tells (Text.unlines [[], []]) [] := tells_of_tells (by decide)
  exact blank.unlines (tells_block (lays_factory (expresses_memory memory) hi a)
    (indented_of_mem_factoryBody memory _ i a) (reading?_factoryBlock memory hi a))

/-! ## The start of a chat -/

section Chat

variable {a : Assembly} (hm : ∀ i ∈ a.members, IsWord i)

/-- The lines that are the same in every program import, use and read nothing. -/
theorem silent_of_mem_chat : ∀ l ∈ layout chatHead ++ layout chatEnd, isImport l.content = false ∧
    providedNames l.content = [] ∧ Source.environmentReads l.content = [] := by
  have all : (layout chatHead ++ layout chatEnd).all fun l => !isImport l.content
      && (providedNames l.content).isEmpty && (Source.environmentReads l.content).isEmpty := by
    simp only [chatHead, chatEnd, fixed, List.map]
    repeat rw [Text.ofString_ofList]
    decide +kernel
  intro l hl
  simpa [and_assoc] using List.all_eq_true.mp all l hl

include hm in
theorem providedNames_chatBody :
    (chatBody a).flatMap (fun l => providedNames l.content) = [(kindImport a.kind).bound] := by
  have made : a.members.flatMap (fun i => providedNames ((Assembly.agentVariable i).map .point)
      ++ providedNames ((factoryName i).map .point)) = [] := by
    refine List.flatMap_eq_nil_iff.mpr fun i hi => ?_
    rw [providedNames_plain (Assembly.isKeyName_agentVariable (hm i hi)) rfl,
      providedNames_plain (isKeyName_factoryName (hm i hi)) rfl]
    rfl
  have members : a.members.flatMap (fun i =>
      providedNames ((Assembly.agentVariable i).map .point)) = [] :=
    List.flatMap_eq_nil_iff.mpr fun i hi =>
      providedNames_plain (Assembly.isKeyName_agentVariable (hm i hi)) rfl
  have kind : providedNames (a.kind.name.map .point) = [(kindImport a.kind).bound] :=
    providedNames_bound (kindImport_mem_provided a.kind)
  have last : (layout chatEnd).flatMap (fun l => providedNames l.content) = [] :=
    List.flatMap_eq_nil_iff.mpr fun l hl =>
      (silent_of_mem_chat l (List.mem_append_right _ hl)).2.1
  rw [view_chatBody hm isCallView_providedNames, made, view_joinRun isCallView_providedNames,
    providedNames_plain (by decide) rfl, kind, providedNames_plain (by decide) rfl, members,
    providedNames_plain (by decide) rfl, last]
  simp

include hm in
theorem environmentReads_chatBody :
    (chatBody a).flatMap (fun l => Source.environmentReads l.content) = [] := by
  have last : (layout chatEnd).flatMap (fun l => Source.environmentReads l.content) = [] :=
    List.flatMap_eq_nil_iff.mpr fun l hl =>
      (silent_of_mem_chat l (List.mem_append_right _ hl)).2.2
  rw [view_chatBody hm isCallView_environmentReads, view_joinRun isCallView_environmentReads, last]
  simp [environmentReads_points]

include hm in
/-- The function uses the class of the workflow, and reads no variable. -/
theorem exists_tells_chatStart : ∃ names,
    Tells (Text.unlines (chatStart a)) [idle, ⟨.assembly names, []⟩] ∧
      names.filter isProvided = [(kindImport a.kind).bound] := by
  obtain ⟨⟨_, decorator⟩, rest, hl, hd, hrest⟩ := List.map_eq_cons_iff.mp lays_chatHead.2
  obtain ⟨⟨_, header⟩, rfl, hh⟩ := List.map_eq_singleton_iff.mp hrest
  obtain ⟨rfl, undefined⟩ := Prod.mk.inj hd
  obtain ⟨rfl, defined⟩ := Prod.mk.inj hh
  obtain ⟨plain, -, silent⟩ := silent_of_mem_chat ⟨0, decorator⟩ (by simp [hl])
  obtain ⟨plain', unused, silent'⟩ := silent_of_mem_chat ⟨0, header⟩ (by simp [hl])
  have indented : ∀ l ∈ chatBody a, 0 < l.indentation := fun l hl => by
    rw [indentation_of_mem_chatBody l hl]
    decide
  have none : Block.environmentReads ⟨header, chatBody a⟩ = [] := by
    rw [Block.environmentReads, Block.lines, List.flatMap_cons, silent', environmentReads_chatBody hm]
    rfl
  have used : (Block.names ⟨header, chatBody a⟩).filter isProvided = [(kindImport a.kind).bound] := by
    have body := providedNames_chatBody hm
    rw [providedNames] at unused
    simp only [providedNames] at body
    rw [Block.names, Block.lines, List.flatMap_cons, List.filter_append, unused,
      List.filter_flatMap, body]
    rfl
  refine ⟨_, ⟨_, lays_chatStart hm, ?_, ?_⟩, used⟩
  · rw [hl]
    rintro l ⟨⟩
    rfl
  · have first := reading?_idle plain undefined silent
    have second := reading?_function (b := ⟨header, chatBody a⟩) plain' defined
      (congrArg (·.mapM readName?) none)
    have cut : blocks (layout chatHead ++ chatBody a)
        = [⟨decorator, []⟩, ⟨header, chatBody a⟩] := by
      have margin : AtMargin (⟨0, header⟩ :: chatBody a) := fun l hl => by
        cases hl
        rfl
      have parts := isPartwise_blocks.append [⟨0, decorator⟩] margin
      rw [blocks_block decorator (List.forall_mem_nil _), blocks_block header indented] at parts
      rw [hl]
      exact parts
    rw [readings, cut, List.map_cons, List.map_singleton, first, second]
    rfl

end Chat

/-! ## The module -/

/-- What a reader finds in the main module of a workflow, where `names` are those that the assembly
uses. -/
def mainReading (w : Workflow) (names : List Text) : MainReading where
  imports := importsOf w
  guards := checksOf w
  factories := w.agents.flatMap fun a =>
    (factoryBlock (Memory.ofDeployment w.deployment) (identifierOf w.agents a.id) a).names
  assembly := names
  reads := (checksOf w).map (·.name)
    ++ w.agents.flatMap (fun _ => memoryReads (Memory.ofDeployment w.deployment)) ++ [("PORT" : Text)]

/-- What the main module tells, except for the names it uses. Of these only those matter that an
optional import may provide. -/
theorem main?_mainModule {w : Workflow} (ne : w.agents ≠ []) (h : Hierarchy) :
    ∃ names, main? (mainModule w h) = some (mainReading w names) ∧
      names.filter isProvided = [(kindImport h.kind).bound] := by
  obtain ⟨first, others, cons⟩ := List.exists_cons_of_ne_nil ne
  have lines : mainLines w h = mainHeader w.kind ++ imports w ++ guards w ++ greeting first
      ++ factories (agentIdentifiers w.agents) (Memory.ofDeployment w.deployment) w.agents
      ++ chatStart (Assembly.ofHierarchy (agentIdentifiers w.agents) h)
      ++ (messageHandler ++ chatProfile w.kind ++ server) := by
    simp only [mainLines, cons, List.append_assoc]
  have made : Tells (Text.unlines
      (factories (agentIdentifiers w.agents) (Memory.ofDeployment w.deployment) w.agents))
      (w.agents.map fun a => ⟨.factory
        (factoryBlock (Memory.ofDeployment w.deployment) (identifierOf w.agents a.id) a).names,
        memoryReads (Memory.ofDeployment w.deployment)⟩) :=
    tells_flatMap fun a _ => tells_factory _ (isWord_agentIdentifier w.agents a.id) a
  obtain ⟨names, start, used⟩ := exists_tells_chatStart
    (a := Assembly.ofHierarchy (agentIdentifiers w.agents) h) fun _ => Assembly.isWord_of_mem_members
  have whole := ((((((tells_mainHeader w.kind).unlines (tells_imports w)).unlines
    (tells_guards w)).unlines (tells_greeting first)).unlines made).unlines start).unlines
    (tells_ending w.kind)
  refine ⟨names, ?_, used⟩
  have silent : ∀ {α : Type} (xs : List α), xs.flatMap (fun _ => ([] : List Text)) = [] :=
    fun xs => List.flatMap_eq_nil_iff.mpr fun _ _ => rfl
  rw [mainModule, lines, main?_of_tells whole]
  simp [mainOf, mainReading, idle, importReading, guardReading, Telling.import?, Telling.guard?,
    Telling.factoryNames, Telling.assemblyNames, Function.comp_def, List.flatMap_map,
    ← List.map_eq_flatMap, silent]

/-! ## What is there and what is used -/

/-- A client is imported for some agent that needs it, and for nothing else. -/
theorem mem_clientImports_iff {agents : List Agent} {i : Import} : i ∈ agents.map clientImport ↔
    usesOther agents ∧ i = openaiImport ∨ usesFamily agents .vertex ∧ i = vertexImport := by
  simp only [usesOther, usesFamily, List.any_eq_true, decide_eq_true_eq, List.mem_map]
  constructor
  · rintro ⟨a, ha, rfl⟩
    rw [clientImport]
    split
    · next vertex => exact .inr ⟨⟨a, ha, vertex⟩, rfl⟩
    · next other => exact .inl ⟨⟨a, ha, other⟩, rfl⟩
  · rintro (⟨⟨a, ha, other⟩, rfl⟩ | ⟨⟨a, ha, vertex⟩, rfl⟩)
    · exact ⟨a, ha, if_neg other⟩
    · exact ⟨a, ha, if_pos vertex⟩

/-- The imports of every program are none of those. -/
theorem not_isProvided_of_mem : ∀ i ∈ toolsImport :: generalImports, ¬isProvided i.bound := by
  decide

/-- Such an import is there just if it is the client for some agent's model, the memory or the class
of the workflow. -/
theorem mem_importsOf_iff {i : Import} (hi : i ∈ provided) (w : Workflow) : i ∈ importsOf w ↔
    i ∈ w.agents.map clientImport ∨ i = memoryImport (Memory.ofDeployment w.deployment) ∨
      i = kindImport w.kind := by
  have other : i ∉ toolsImport :: generalImports := fun h =>
    not_isProvided_of_mem i h (isProvided_bound hi)
  obtain ⟨tools, general⟩ := not_or.mp (mt List.mem_cons.mpr other)
  simp only [importsOf, List.mem_append, List.mem_cons, List.not_mem_nil, List.mem_ite_nil_right,
    mem_clientImports_iff, tools, general, or_false, false_or]
  constructor
  · rintro (((kind | openai) | vertex) | memory)
    · exact .inr (.inr kind)
    · exact .inl (.inl openai)
    · exact .inl (.inr vertex)
    · exact .inr (.inl memory)
  · rintro ((openai | vertex) | memory | kind)
    · exact .inl (.inl (.inr openai))
    · exact .inl (.inr vertex)
    · exact .inr memory
    · exact .inl (.inl (.inl kind))

section Used

variable {w : Workflow} {names : List Text} {i : Import} (hi : i ∈ provided)

include hi

theorem bound_mem_iff {names : List Text} :
    i.bound ∈ names ↔ i.bound ∈ names.filter isProvided := by
  rw [List.mem_filter, and_iff_left (isProvided_bound hi)]

/-- The factories use the clients for the agents' models and the memory. -/
theorem bound_mem_factories_iff (ne : w.agents ≠ []) : i.bound ∈ (mainReading w names).factories ↔
    i ∈ w.agents.map clientImport ∨ i = memoryImport (Memory.ofDeployment w.deployment) := by
  have same : ∀ {j : Import}, j ∈ provided → (i.bound = j.bound ↔ i = j) := fun hj =>
    ⟨eq_of_bound_eq hi hj, congrArg _⟩
  obtain ⟨first, hf⟩ := List.exists_mem_of_ne_nil _ ne
  have each : (mainReading w names).factories.filter isProvided = w.agents.flatMap fun a =>
      [(clientImport a).bound, (memoryImport (Memory.ofDeployment w.deployment)).bound] := by
    rw [mainReading, List.filter_flatMap]
    exact List.flatMap_congr fun a _ =>
      filter_names_factoryBlock _ (isWord_agentIdentifier w.agents a.id) a
  rw [bound_mem_iff hi, each]
  simp only [List.mem_flatMap, List.mem_cons, List.not_mem_nil, or_false,
    same (clientImport_mem_provided _), same (memoryImport_mem_provided _), List.mem_map]
  constructor
  · rintro ⟨a, ha, client | memory⟩
    · exact .inl ⟨a, ha, client.symm⟩
    · exact .inr memory
  · rintro (⟨a, ha, client⟩ | memory)
    · exact ⟨a, ha, .inl client.symm⟩
    · exact ⟨first, hf, .inr memory⟩

/-- The assembly uses the class of the workflow. -/
theorem bound_mem_assembly_iff {kind : WorkflowKind}
    (used : names.filter isProvided = [(kindImport kind).bound]) :
    i.bound ∈ names ↔ i = kindImport kind := by
  rw [bound_mem_iff hi, used, List.mem_singleton]
  exact ⟨eq_of_bound_eq hi (kindImport_mem_provided kind), congrArg _⟩

end Used

theorem openaiImport_ne_vertexImport : openaiImport ≠ vertexImport :=
  ne_of_apply_ne Import.bound (by decide)

theorem openaiCheck_ne_googleCheck : openaiCheck ≠ googleCheck :=
  ne_of_apply_ne Guard.response (by decide)

/-- No client is a memory: what they bind differs. -/
theorem ne_memoryImport {i : Import} (hi : i ∈ [openaiImport, vertexImport]) (memory : Memory) :
    i ≠ memoryImport memory := by
  have apart : ∀ i ∈ [openaiImport, vertexImport],
      i.bound ≠ sessionImport.bound ∧ i.bound ≠ bankImport.bound := by decide
  refine ne_of_apply_ne Import.bound ?_
  cases memory with
  | session => exact (apart i hi).1
  | bank => exact (apart i hi).2

theorem bank_eq_memoryImport_iff {d : Deployment} :
    bankImport = memoryImport (Memory.ofDeployment d) ↔ d.memoryBank := by
  rw [Memory.ofDeployment]
  split
  · next bank => exact ⟨fun _ => bank, fun _ => rfl⟩
  · next session => exact ⟨fun same => absurd same (by decide), fun bank => absurd bank session⟩

section Clients

variable {agents : List Agent} {d : Deployment}

theorem openai_needed_iff : openaiImport ∈ agents.map clientImport ∨
    openaiImport = memoryImport (Memory.ofDeployment d) ↔ usesOther agents := by
  rw [or_iff_left (ne_memoryImport List.mem_cons_self _)]
  simp [mem_clientImports_iff, openaiImport_ne_vertexImport]

theorem vertex_needed_iff : vertexImport ∈ agents.map clientImport ∨
    vertexImport = memoryImport (Memory.ofDeployment d) ↔ usesFamily agents .vertex := by
  rw [or_iff_left (ne_memoryImport (List.mem_cons_of_mem _ List.mem_cons_self) _)]
  simp [mem_clientImports_iff, openaiImport_ne_vertexImport.symm]

theorem bank_needed_iff : bankImport ∈ agents.map clientImport ∨
    bankImport = memoryImport (Memory.ofDeployment d) ↔ d.memoryBank := by
  have openai : bankImport ≠ openaiImport :=
    (ne_memoryImport List.mem_cons_self (.bank none [])).symm
  have vertex : bankImport ≠ vertexImport :=
    (ne_memoryImport (List.mem_cons_of_mem _ List.mem_cons_self) (.bank none [])).symm
  have client : bankImport ∉ agents.map clientImport := by
    simp [mem_clientImports_iff, openai, vertex]
  rw [or_iff_right client, bank_eq_memoryImport_iff]

end Clients

/-- A bank without a project reads one. -/
theorem mem_memoryReads {d : Deployment} {name : Text}
    (h : name ∈ memoryReads (Memory.ofDeployment d)) :
    name = "GOOGLE_CLOUD_PROJECT" ∧ d.memoryBank := by
  rw [Memory.ofDeployment] at h
  split at h
  · next bank =>
    split at h
    · cases h
    · exact ⟨List.mem_singleton.mp h, bank⟩
  · cases h

/-- The example of an environment file assigns what is read. -/
theorem mem_assignedNames_of_mem_reads {w : Workflow} {names : List Text} {name : Text}
    (h : name ∈ (mainReading w names).reads) : name ∈ assignedNames (environmentExample w) := by
  rw [assignedNames_environmentExample]
  simp only [mainReading, List.mem_append, List.mem_map, List.mem_flatMap, checksOf,
    List.mem_ite_nil_right, List.mem_singleton] at h ⊢
  rcases h with (⟨g, ⟨openai, rfl⟩ | ⟨google, rfl⟩, rfl⟩ | ⟨a, -, read⟩) | rfl
  · exact .inl (.inr ⟨openai, rfl⟩)
  · exact .inr ⟨google, by simp [googleNames, googleCheck]⟩
  · obtain ⟨rfl, bank⟩ := mem_memoryReads read
    exact .inr ⟨by simp [usesGoogle, bank], by simp [googleNames]⟩
  · exact .inl (.inl rfl)

/-- Every import is used and every use imported, from the reading of the module alone. -/
theorem furnished_mainReading {w : Workflow} (ne : w.agents ≠ []) {names : List Text}
    (used : names.filter isProvided = [(kindImport w.kind).bound]) :
    Furnished w (mainReading w names) where
  imports i hi := by
    have assembly : i.bound ∈ (mainReading w names).assembly ↔ i = kindImport w.kind :=
      bound_mem_assembly_iff hi used
    rw [List.mem_append, bound_mem_factories_iff hi ne, assembly, or_assoc]
    exact mem_importsOf_iff hi w
  bound i hi bound := by
    have other : i ∉ toolsImport :: generalImports := fun h => not_isProvided_of_mem i h bound
    obtain ⟨tools, general⟩ := not_or.mp (mt List.mem_cons.mpr other)
    simp only [mainReading, importsOf, List.mem_append, List.mem_cons, List.not_mem_nil,
      List.mem_ite_nil_right, tools, general, or_false, false_or] at hi
    rcases hi with ((rfl | ⟨-, rfl⟩) | ⟨-, rfl⟩) | rfl
    · exact kindImport_mem_provided w.kind
    · exact openaiImport_mem_provided
    · exact vertexImport_mem_provided
    · exact memoryImport_mem_provided _
  key := by
    rw [bound_mem_factories_iff openaiImport_mem_provided ne, openai_needed_iff]
    simp [mainReading, checksOf, openaiCheck_ne_googleCheck]
  credentials := by
    rw [bound_mem_factories_iff vertexImport_mem_provided ne,
      bound_mem_factories_iff bankImport_mem_provided ne, vertex_needed_iff, bank_needed_iff]
    simp [mainReading, checksOf, openaiCheck_ne_googleCheck.symm, usesGoogle]
  guards g hg := by
    simp only [mainReading, checksOf, List.mem_append, List.mem_ite_nil_right,
      List.mem_singleton] at hg
    exact hg.imp And.right And.right
  reads _ := mem_assignedNames_of_mem_reads

/-- The main module of every project with agents has what it uses and uses what it has. -/
theorem generate_furnishes {options : GenerateOptions} {w : Workflow} {files : Table Text}
    (ne : w.agents ≠ []) (hg : w.generate options = .ok files) :
    ∃ program m, Table.get? files mainName = some program ∧ main? program = some m ∧
      Furnished w m := by
  obtain ⟨h, hh, rfl⟩ := generate_eq_ok hg
  obtain ⟨names, read, used⟩ := main?_mainModule ne h
  rw [kind_eq hh] at used
  exact ⟨_, _, get?_mainName options w h, read, furnished_mainReading ne used⟩

/-- Agents with models of both families and of none, and a bank without a project. -/
def mixture : Workflow where
  kind := .collaborative
  agents :=
    [{ id := "a", name := "Writer", model := "gemini-1.5-pro" },
     { id := "b", name := "VertexAI", model := "claude-3", systemPrompt := "LocalMemory()" },
     { id := "c", name := "Editor", model := "gpt-4o" }]
  deployment := { memoryBank := true, region := "a\nb" }

/-- The hypotheses hold of a workflow with agents of several families. -/
theorem mixture_furnished : ∃ files program m, mixture.generate {} = .ok files ∧
    Table.get? files mainName = some program ∧ main? program = some m ∧ Furnished mixture m := by
  have generated : mixture.generate {}
      = .ok (files {} mixture (Hierarchy.flat .collaborative mixture.agents)) := rfl
  obtain ⟨program, m, found, read, furnished⟩ :=
    generate_furnishes (List.cons_ne_nil _ _) generated
  exact ⟨_, program, m, generated, found, read, furnished⟩

end Project

end AgentWorkflow
