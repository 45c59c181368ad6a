import AgentWorkflow.Project.Files
import AgentWorkflow.Proofs.Workflow.Encodable

/-!
# The files of an encodable workflow

Nothing that a file is made of brings an unpaired surrogate in: names are words, fixed lines are
made of characters, and free text is escaped, trimmed, cut or left as it is. All files of an
encodable workflow can therefore be written in UTF-8 (`isEncodable_of_mem_files`).
-/

namespace AgentWorkflow

namespace Project

open Source Text
open Naming (IsWord)

@[simp] theorem isEncodable_kind (kind : WorkflowKind) : isEncodable kind.name = true := by
  cases kind <;> exact isEncodable_ofString _

/-! ## Deployment settings -/

section Deployment

variable {d : Deployment} (h : d.Encodable)

include h

theorem isEncodable_project : d.project.isEncodable := isEncodable_trim h.projectId

theorem isEncodable_location : d.location.isEncodable :=
  isEncodable_ite (isEncodable_ofString _) (isEncodable_trim h.region)

omit h in
theorem isEncodable_service (d : Deployment) : d.service.isEncodable :=
  isEncodable_ite (isEncodable_ofString _) (isEncodable_kebabCase _)

theorem isEncodable_image : d.image.isEncodable := by
  simp [Deployment.image, isEncodable_location h, isEncodable_project h, isEncodable_service,
    imageRepository]

theorem isEncodable_displayName : (displayName d).isEncodable :=
  isEncodable_ite (isEncodable_service d) (isEncodable_trim h.serviceName)

theorem isEncodable_buildSpec : (buildSpec d).isEncodable := by
  have image := isEncodable_yamlScalar (isEncodable_image h)
  have arguments : ∀ a ∈ deployArguments d, isEncodable (yamlScalar a) := by
    intro a ha
    refine isEncodable_yamlScalar ?_
    revert a
    simp [deployArguments, isEncodable_service, isEncodable_project h, isEncodable_location h,
      isEncodable_image h, isEncodable_displayName h]
  simpa [buildSpec, image] using arguments

theorem isEncodable_deployScript : (deployScript d).isEncodable := by
  simp [deployScript, isEncodable_shellWord, isEncodable_project h, isEncodable_location h,
    isEncodable_service]

theorem isEncodable_memorySection : (memorySection d).isEncodable := by
  unfold memorySection
  split
  · simp [isEncodable_ite (isEncodable_ofString _) h.projectId]
  · simp

omit h in
theorem isEncodable_fileName {path : Text} (hp : path.isEncodable) : (fileName path).isEncodable := by
  unfold fileName
  cases hl : ((splitOn '/' path).filter fun p => !p.isEmpty && p ≠ ("." : Text)).getLast? with
  | none => rfl
  | some part =>
    exact isEncodable_of_mem_splitOn hp (List.mem_filter.mp (List.mem_of_getLast? hl)).1

theorem isEncodable_credentialsSection : (credentialsSection d).isEncodable := by
  have hint : (keyHint d).isEncodable := by
    dsimp only [keyHint]
    split
    · rfl
    · simp [isEncodable_fileName (isEncodable_trim h.credentialRef)]
  simp [credentialsSection, hint]

theorem isEncodable_deploymentSection : (deploymentSection d).isEncodable := by
  unfold deploymentSection
  split
  · simp [isEncodable_project h, isEncodable_shellWord, isEncodable_service, isEncodable_location h]
  · simp

theorem isEncodable_memoryExpression : (Memory.ofDeployment d).expression.isEncodable := by
  unfold Memory.ofDeployment
  split
  · have project : isEncodable
        (Memory.projectExpression (if d.hasProject then some d.projectId else none)) := by
      split
      · simp [Memory.projectExpression, h.projectId]
      · simp [Memory.projectExpression]
    simp [Memory.expression, project, isEncodable_ite (isEncodable_ofString _) h.region,
      defaultRegion]
  · simp [Memory.expression]

end Deployment

/-! ## The main module -/

section Agent

variable {a : Agent} (h : a.Encodable)

include h

theorem isEncodable_clientExpression : (clientExpression a).isEncodable := by
  have client : (clientClass a).isEncodable := by
    unfold clientClass
    split <;> exact isEncodable_ofString _
  have finite : (emittedTemperature a).isFinite := by
    unfold emittedTemperature
    split
    · assumption
    · rfl
  simp [clientExpression, client, h.model, isEncodable_text finite]

omit h in
theorem all_isEncodable_toolReferences (a : Agent) : (toolReferences a).all isEncodable := by
  dsimp only [toolReferences]
  split
  · simp
  · have functions : ∀ f ∈ Tools.functionsOf a, f.isEncodable := fun f hf =>
      isEncodable_of_isWord (Tools.isWord_of_mem_functionsOf hf)
    simpa using functions

theorem all_isEncodable_factory {memory : Memory} (hm : memory.expression.isEncodable)
    {identifier : Text} (hi : IsWord identifier) : (factory memory identifier a).all isEncodable := by
  have documented : (docstring (indent 1) ["Instantiate the '" ++ a.name ++ "' agent."]).all
      isEncodable := all_isEncodable_docstring 1 (by simp [h.name])
  simp only [factory, List.all_append, documented, all_isEncodable_toolReferences]
  simp [factoryName, isEncodable_of_isWord hi, isEncodable_clientExpression h, hm,
    isEncodable_multilineLiteral 2 h.systemPrompt, h.welcomeMessage, h.inputPlaceholder]

theorem all_isEncodable_greeting : (greeting a).all isEncodable := by
  have welcome : (orElse a.welcomeMessage defaultWelcome).isEncodable :=
    isEncodable_ite (isEncodable_ofString _) h.welcomeMessage
  have placeholder : (orElse a.inputPlaceholder defaultPlaceholder).isEncodable :=
    isEncodable_ite (isEncodable_ofString _) h.inputPlaceholder
  simp [greeting, welcome, placeholder]

end Agent

namespace Assembly

variable {a : Assembly}

theorem all_isEncodable_instances (hm : ∀ i ∈ a.members, i.isEncodable) :
    a.instances.all isEncodable := by
  simpa [instances, agentVariable, factoryName] using hm

theorem all_isEncodable_comment (hm : ∀ i ∈ a.members, i.isEncodable) :
    a.comment.all isEncodable := by
  have chain : (join " -> " (a.members.map agentVariable)).isEncodable := by
    refine isEncodable_join (isEncodable_ofString _) ?_
    simpa [agentVariable] using hm
  unfold comment
  split <;> simp [chain]

theorem isEncodable_supervisorLine {entry : Text × List Text} (hs : entry.1.isEncodable)
    (hr : ∀ i ∈ entry.2, i.isEncodable) : (supervisorLine entry).isEncodable := by
  have reports : (join ", " (entry.2.map literal)).isEncodable :=
    isEncodable_join (isEncodable_ofString _) (by simpa using hr)
  simp [supervisorLine, hs, reports]

theorem all_isEncodable_structureArgument
    (hr : ∀ entry ∈ a.reports, entry.1.isEncodable ∧ ∀ i ∈ entry.2, i.isEncodable) :
    a.structureArgument.all isEncodable := by
  have lines : ∀ entry ∈ a.reports, isEncodable (supervisorLine entry) := fun entry he =>
    isEncodable_supervisorLine (hr entry he).1 (hr entry he).2
  unfold structureArgument
  split
  · simp
  · simpa using lines

theorem all_isEncodable_lines (hm : ∀ i ∈ a.members, i.isEncodable)
    (hr : ∀ entry ∈ a.reports, entry.1.isEncodable ∧ ∀ i ∈ entry.2, i.isEncodable) :
    a.lines.all isEncodable := by
  have agents : a.agentsArgument.all isEncodable := by
    simpa [agentsArgument, agentVariable] using hm
  have argument : (if a.kind = .hierarchical then a.structureArgument else []).all isEncodable := by
    split
    · exact all_isEncodable_structureArgument hr
    · rfl
  simp only [lines, statement, List.all_append, all_isEncodable_instances hm,
    all_isEncodable_comment hm, agents, argument]
  simp

theorem all_isEncodable_chatStart (agents : List Agent) (h : Hierarchy) :
    (chatStart (ofHierarchy (agentIdentifiers agents) h)).all isEncodable := by
  have name : ∀ id, isEncodable ((Table.get? (agentIdentifiers agents) id).getD []) := fun id =>
    isEncodable_of_isWord (isWord_agentIdentifier agents id)
  have reports : ∀ entry ∈ (ofHierarchy (agentIdentifiers agents) h).reports,
      entry.1.isEncodable ∧ ∀ i ∈ entry.2, i.isEncodable := by
    intro entry he
    obtain ⟨⟨id, depth⟩, -, rfl⟩ := List.mem_map.mp he
    exact ⟨name id, by simp [name]⟩
  have lines := all_isEncodable_lines (by simp [ofHierarchy, name]) reports
  simp only [chatStart, List.all_append, lines, all_isEncodable_fixed]
  simp

end Assembly

/-- Texts of an encodable workflow are the only ones a module takes over, and escaping keeps
them encodable. -/
theorem isEncodable_mainModule {w : Workflow} (hw : w.Encodable) (h : Hierarchy) :
    (mainModule w h).isEncodable := by
  rw [mainModule, isEncodable_unlines, mainLines]
  cases hagents : w.agents with
  | nil => exact all_isEncodable_fixed _
  | cons first rest =>
    have encodable : ∀ a ∈ w.agents, a.Encodable := hw.agents
    have made : (factories (agentIdentifiers w.agents) (Memory.ofDeployment w.deployment)
        w.agents).all isEncodable := by
      have each : ∀ a ∈ w.agents, (factory (Memory.ofDeployment w.deployment)
          ((Table.get? (agentIdentifiers w.agents) a.id).getD []) a).all isEncodable := fun a ha =>
        all_isEncodable_factory (encodable a ha) (isEncodable_memoryExpression hw.deployment)
          (isWord_agentIdentifier w.agents a.id)
      rw [factories, List.all_flatMap, List.all_eq_true]
      exact fun a ha => by simpa using each a ha
    have imported : (imports w).all isEncodable := by
      simp only [imports, List.all_append, all_isEncodable_fixed]
      cases Memory.ofDeployment w.deployment <;> split <;> split <;>
        simp [Memory.importLine]
    have guarded : (guards w).all isEncodable := by
      rw [guards, List.all_append]
      split <;> split <;> simp [openaiGuard, googleGuard]
    have greeted := all_isEncodable_greeting (encodable first (hagents ▸ List.mem_cons_self))
    have described : isEncodable (profileDescription w.kind) := by
      cases w.kind <;> exact isEncodable_ofString _
    simp only [← hagents, List.all_append, made, imported, guarded, greeted, mainHeader,
      Assembly.all_isEncodable_chatStart, messageHandler, chatProfile, server, all_isEncodable_fixed]
    simp [described]

/-! ## The tools module -/

theorem isEncodable_fieldLine {t : Tool} (ht : t.Encodable) {f : SchemaField}
    (hf : f ∈ Tools.schemaFields t) : (fieldLine f).isEncodable := by
  have name := isEncodable_of_isWord (Tools.isWord_field hf)
  have description := (ht.parameters f.parameter (Tools.parameter_mem_of_mem_schemaFields hf)).description
  have annotation : (Tools.annotation f.parameter).isEncodable := by
    unfold Tools.annotation
    split <;> cases f.parameter.type <;> simp [Tools.typeName]
  have arguments : (fieldArguments f).all isEncodable := by
    have default : isEncodable (if f.parameter.required then ("..." : Text) else "None") :=
      isEncodable_ite (isEncodable_ofString _) (isEncodable_ofString _)
    have aliased : ∀ wanted ∈ f.alias?, wanted.isEncodable := fun wanted h =>
      isEncodable_of_isWord (Tools.isWord_alias hf wanted h)
    simpa [fieldArguments, default, description] using aliased
  simp [fieldLine, name, annotation,
    isEncodable_join (isEncodable_ofString _) (List.all_eq_true.mp arguments)]

theorem all_isEncodable_documentation {t : Tool} (ht : t.Encodable) :
    (documentation t (Tools.schemaFields t)).all isEncodable := by
  have described : (descriptionLines t).all isEncodable := by
    unfold descriptionLines
    split
    · simp
    · exact List.all_eq_true.mpr fun _ => isEncodable_of_mem_splitOn (isEncodable_trim ht.description)
  have summaries : ∀ f ∈ Tools.schemaFields t, (fieldSummary f).isEncodable := by
    intro f hf
    have name := isEncodable_of_isWord (Tools.isWord_field hf)
    have description := isEncodable_squeeze
      (ht.parameters f.parameter (Tools.parameter_mem_of_mem_schemaFields hf)).description
    simp [fieldSummary, name, isEncodable_ite (isEncodable_ofString _) description]
  rw [documentation, List.all_append, described]
  split
  · rfl
  · simpa using summaries

theorem all_isEncodable_toolLines {agents : List Agent} (ha : ∀ a ∈ agents, a.Encodable)
    {d : ToolDefinition} (hd : d ∈ Tools.catalogue agents) : (toolLines d).all isEncodable := by
  obtain ⟨a, hmem, ht⟩ := Tools.tool_mem_of_mem_catalogue hd
  have encodable := (ha a hmem).tools d.tool ht
  have function := isEncodable_of_isWord (Tools.isWord_function hd)
  have schema := isEncodable_of_isWord (Tools.isWord_schema hd)
  have introduced : (docstring (indent 1)
      ["Input schema for the '" ++ d.tool.name ++ "' tool."]).all isEncodable :=
    all_isEncodable_docstring 1 (by simp [encodable.name])
  have documented := all_isEncodable_docstring 1 (all_isEncodable_documentation encodable)
  have fields : ((Tools.schemaFields d.tool).map fieldLine).all isEncodable := by
    rw [List.all_map, List.all_eq_true]
    exact fun f hf => isEncodable_fieldLine encodable hf
  simp only [toolLines, schemaClass, stub, List.all_append, introduced, documented, fields]
  simp [function, schema]

/-- Names in the module are in ASCII, and literals are as encodable as their texts. -/
theorem isEncodable_toolsModule {agents : List Agent} (ha : ∀ a ∈ agents, a.Encodable) :
    (toolsModule (Tools.catalogue agents)).isEncodable := by
  rw [toolsModule, isEncodable_unlines, toolsLines]
  split
  · exact all_isEncodable_fixed _
  · have functions : ∀ d ∈ Tools.catalogue agents, d.function.isEncodable := fun d hd =>
      isEncodable_of_isWord (Tools.isWord_function hd)
    have definitions : ((Tools.catalogue agents).flatMap fun d => [[], []] ++ toolLines d).all
        isEncodable := by
      rw [List.all_flatMap, List.all_eq_true]
      exact fun d hd => by simpa using all_isEncodable_toolLines ha hd
    simp only [List.all_append, definitions, toolsHeader, all_isEncodable_fixed]
    simpa [allTools] using functions

/-! ## The guide -/

theorem isEncodable_toolList {a : Agent} (h : a.Encodable) : (toolList a).isEncodable := by
  refine isEncodable_join (isEncodable_ofString _) ?_
  have names : ∀ t ∈ a.tools, t.name.isEncodable := fun t ht => (h.tools t ht).name
  simpa using names

theorem isEncodable_agentTitle {a : Agent} (h : a.Encodable) : (agentTitle a).isEncodable := by
  simp [agentTitle, h.name, h.model]

theorem isEncodable_agentEntry {a : Agent} (h : a.Encodable) (depth : Nat) :
    (agentEntry depth a).isEncodable := by
  have blanks : isEncodable (List.replicate (2 * depth) (' ' : CodePoint)) :=
    isEncodable_iff.mpr fun c hc => by
      rw [List.eq_of_mem_replicate hc]
      decide
  have suffix : (toolSuffix a).isEncodable :=
    isEncodable_ite isEncodable_nil (by simp [isEncodable_toolList h])
  simp [agentEntry, blanks, suffix, isEncodable_agentTitle h]

theorem all_isEncodable_stepEntries {agents : List Agent} (ha : ∀ a ∈ agents, a.Encodable)
    (number : Nat) : (stepEntries number agents).all isEncodable := by
  induction agents generalizing number with
  | nil => rfl
  | cons a rest ih =>
    obtain ⟨head, tail⟩ := List.forall_mem_cons.mp ha
    rw [stepEntries, List.all_append, ih tail]
    simp [isEncodable_agentTitle head, isEncodable_ite (isEncodable_ofString _)
      (isEncodable_toolList head)]

theorem isEncodable_of_mem_agentEntries {agents : List Agent} (ha : ∀ a ∈ agents, a.Encodable)
    (h : Hierarchy) : ∀ entry ∈ agentEntries agents h, entry.isEncodable := by
  have known : ∀ {id a}, Hierarchy.agent? agents id = some a → a.Encodable := fun h =>
    ha _ (List.mem_of_find?_eq_some h)
  have members_encodable : ∀ a ∈ members agents h, a.Encodable := by
    intro a hm
    obtain ⟨id, -, hid⟩ := List.mem_filterMap.mp hm
    exact known hid
  intro entry he
  unfold agentEntries at he
  split at he
  · obtain ⟨⟨depth, a⟩, hr, rfl⟩ := List.mem_map.mp he
    obtain ⟨⟨id, _⟩, -, hid⟩ := List.mem_filterMap.mp hr
    obtain ⟨b, hb, hab⟩ := Option.map_eq_some_iff.mp hid
    obtain rfl : b = a := congrArg Prod.snd hab
    exact isEncodable_agentEntry (known hb) depth
  · obtain ⟨a, hm, rfl⟩ := List.mem_map.mp he
    exact isEncodable_agentEntry (members_encodable a hm) 0
  · exact List.all_eq_true.mp (all_isEncodable_stepEntries members_encodable 1) entry he

/-- The guide takes texts over as they are. -/
theorem isEncodable_guide {w : Workflow} (hw : w.Encodable) (h : Hierarchy) :
    (guide w h).isEncodable := by
  have summary : (kindSummary h.kind w.agents.length).isEncodable := by
    unfold kindSummary
    split <;> simp
  have described : (overview w.agents h).isEncodable :=
    isEncodable_ite (isEncodable_ofString _) (by
      simp [summary, isEncodable_join (isEncodable_ofString _)
        (isEncodable_of_mem_agentEntries hw.agents h)])
  have setup : setupSection.isEncodable := by
    rw [setupSection, isEncodable_unlines]
    exact all_isEncodable_fixed _
  refine isEncodable_join (isEncodable_ofString _) ?_
  simp [described, setup, isEncodable_memorySection hw.deployment,
    isEncodable_credentialsSection hw.deployment, isEncodable_deploymentSection hw.deployment]

/-! ## All files -/

theorem isEncodable_requirementsFile (agents : List Agent) (memoryBank : Bool) :
    (requirementsFile (requirements agents memoryBank)).isEncodable := by
  have packages : (join "\n" (requirements agents memoryBank)).isEncodable := by
    refine isEncodable_join (isEncodable_ofString _) (List.all_eq_true.mp ?_)
    rw [requirements, List.all_append, List.all_append]
    split <;> split <;> simp [baseRequirements]
  simp [requirementsFile, packages]

theorem isEncodable_environmentExample {w : Workflow} (hw : w.Encodable) :
    (environmentExample w).isEncodable := by
  have google : (Text.unlines (googleVariables w.deployment)).isEncodable := by
    have project : (orElse w.deployment.project "your-gcp-project-id").isEncodable :=
      isEncodable_ite (isEncodable_ofString _) (isEncodable_project hw.deployment)
    simp [googleVariables, project, isEncodable_location hw.deployment]
  have general : (Text.unlines generalVariables).isEncodable := by
    rw [isEncodable_unlines]
    exact all_isEncodable_fixed _
  have openai : (Text.unlines openaiVariables).isEncodable := by
    rw [isEncodable_unlines]
    exact all_isEncodable_fixed _
  refine isEncodable_join (isEncodable_ofString _) fun part hs => ?_
  obtain ⟨lines, hl, rfl⟩ := List.mem_map.mp hs
  simp only [environmentSections, List.mem_append, List.mem_ite_nil_right, List.mem_singleton] at hl
  rcases hl with (rfl | ⟨-, rfl⟩) | ⟨-, rfl⟩
  · exact general
  · exact openai
  · exact google

/-- Every file of an encodable workflow can be written in UTF-8. -/
theorem isEncodable_of_mem_files {options : GenerateOptions} {w : Workflow} (hw : w.Encodable)
    {h : Hierarchy} : ∀ file ∈ files options w h, file.2.isEncodable := by
  have docker : dockerfile.isEncodable := by
    rw [dockerfile, isEncodable_unlines]
    exact all_isEncodable_fixed _
  have ignored : ignoreFile.isEncodable := by
    simp [ignoreFile, ignoredPaths]
  suffices (files options w h).all fun file => file.2.isEncodable from List.all_eq_true.mp this
  rw [files, List.all_append, List.all_append]
  simp only [Bool.and_eq_true]
  refine ⟨⟨?every, ?deployed⟩, ?sample⟩
  case every =>
    simp [isEncodable_mainModule hw, isEncodable_toolsModule hw.agents,
      isEncodable_requirementsFile, isEncodable_guide hw, docker, ignored]
  case deployed =>
    split
    · simp [isEncodable_buildSpec hw.deployment, isEncodable_deployScript hw.deployment]
    · rfl
  case sample =>
    split
    · simp [isEncodable_environmentExample hw]
    · rfl

end Project

end AgentWorkflow
