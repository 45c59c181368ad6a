import AgentWorkflow.Proofs.Naming.Conventions
import AgentWorkflow.Proofs.Naming.Distinct
import AgentWorkflow.Proofs.Preflight.Formats

/-!
# What preflight finds

Preflight walks through a workflow and compares every item with those before it. Here its findings
are told field by field, without a walk: a finding is about a field of the workflow, and a rule says
when it is made. Names are distinct within a scope: the agents of a workflow, the tools of an agent,
the parameters of a tool.

Results:
1. `mem_checkEach`: a walk finds what its check finds on each item and those before it.
2. `mem_agentIssues`, `mem_deploymentIssues`: the issues are the findings, each at the path of its
   field.
3. `mem_errors`, `mem_warnings`: so are the errors and the warnings, by their severity.
-/

namespace AgentWorkflow

namespace Preflight

/-! ## Fields -/

/-- Where names have to be distinct. -/
inductive Scope
  | agents
  | tools (i : Nat)
  | parameters (i j : Nat)
deriving DecidableEq

namespace Scope

def kind : Scope → NameKind
  | .agents => .agent
  | .tools _ => .tool
  | .parameters _ _ => .parameter

def path : Scope → Nat → Path
  | .agents, k => .agent k
  | .tools i, k => (Path.agent i).tool k
  | .parameters i j, k => ((Path.agent i).tool j).parameter k

def toolsOf (w : Workflow) (i : Nat) : List Tool :=
  match w.agents[i]? with
  | some a => a.tools
  | none => []

def names (w : Workflow) : Scope → List Text
  | .agents => w.agents.map (·.name)
  | .tools i => (toolsOf w i).map (·.name)
  | .parameters i j =>
    match (toolsOf w i)[j]? with
    | some t => t.parameters.map (·.name)
    | none => []

end Scope

/-- A setting that has a form. -/
inductive Setting
  | project
  | region
  | service
deriving DecidableEq

/-- A field that preflight may find fault with. -/
inductive Field
  | agents
  | id (i : Nat)
  | name (s : Scope) (k : Nat)
  | temperature (i : Nat)
  | model (i : Nat)
  | setting (s : Setting)
deriving DecidableEq

def Setting.name : Setting → Text
  | .project => "projectId"
  | .region => "region"
  | .service => "serviceName"

def Field.path : Field → Path
  | .agents => [.field "agents"]
  | .id i => (Path.agent i).field "id"
  | .name s k => (s.path k).field "name"
  | .temperature i => (Path.agent i).field "temperature"
  | .model i => (Path.agent i).field "llmModel"
  | .setting s => .deployment s.name

/-! ## Findings -/

/-- A name that cannot stand in a program, in snake case or as it is. -/
def IsReserved (name : Text) : Prop :=
  Naming.isKeyword name.trim ∨ Naming.isKeyword (Naming.snakeCase name)

/-- What there is to find on a name, given those `earlier` in its scope. -/
inductive OnName (kind : NameKind) (earlier : List Text) (name : Text) : Finding → Prop
  | missing : name.isBlank → OnName kind earlier name (.missingName kind)
  | invalid : ¬name.isBlank → IsReserved name → OnName kind earlier name (.invalidName kind name)
  | changed : ¬name.isBlank → ¬IsReserved name → name ≠ Naming.snakeCase name →
      OnName kind earlier name (.changedName kind name (Naming.snakeCase name))
  | repeated : ¬name.isBlank →
      (∃ other ∈ earlier, ¬other.isBlank ∧ key kind other = key kind name) →
      OnName kind earlier name (.repeatedName kind name)

/-- What there is to find on the settings of a deployment. -/
inductive OnSetting (d : Deployment) : Setting → Finding → Prop
  | memoryWithoutProject : d.projectId.isBlank → d.memoryBank →
      OnSetting d .project .memoryWithoutProject
  | settingsWithoutProject : d.projectId.isBlank → ¬d.memoryBank →
      ¬d.serviceName.isBlank ∨ ¬d.region.isBlank → OnSetting d .project .settingsWithoutProject
  | invalidProject : ¬d.projectId.isBlank → ¬HasProjectForm d.projectId.trim →
      OnSetting d .project (.invalidProject d.projectId.trim)
  | invalidRegion : ¬d.region.isBlank → ¬HasRegionForm d.region.trim →
      OnSetting d .region (.invalidRegion d.region.trim)
  | unusableService : ¬d.serviceName.isBlank → Naming.kebabCase d.serviceName = [] →
      OnSetting d .service (.unusableService d.serviceName.trim)
  | changedService : ¬d.serviceName.isBlank → Naming.kebabCase d.serviceName ≠ [] →
      Naming.kebabCase d.serviceName ≠ d.serviceName.trim →
      OnSetting d .service
        (.changedService d.serviceName.trim (Naming.kebabCase d.serviceName))

/-- What there is to find in a workflow, and in which of its fields. -/
inductive Finds (w : Workflow) : Field → Finding → Prop
  | noAgents : w.agents = [] → Finds w .agents .noAgents
  | repeatedId {i : Nat} {a : Agent} : w.agents[i]? = some a →
      (∃ b ∈ w.agents.take i, b.id = a.id) → Finds w (.id i) (.repeatedId a.id)
  | name {s : Scope} {k : Nat} {name : Text} {finding : Finding} : (s.names w)[k]? = some name →
      OnName s.kind ((s.names w).take k) name finding → Finds w (.name s k) finding
  | temperature {i : Nat} {a : Agent} : w.agents[i]? = some a →
      ¬(∃ q, a.temperature.value? = some q ∧ 0 ≤ q ∧ q ≤ 2) →
      Finds w (.temperature i) (.temperature a.temperature)
  | model {i : Nat} {a : Agent} : w.agents[i]? = some a → a.model ∉ supportedModels →
      Finds w (.model i) (.unsupportedModel a.model)
  | setting {s : Setting} {finding : Finding} : OnSetting w.deployment s finding →
      Finds w (.setting s) finding

/-! ## One check at a time -/

variable {issue : Issue}

/-- Checking each with those before it: an issue is charged to a place in the list. -/
theorem mem_checkEach {α : Type} {check : List α → α → List Issue} {earlier xs : List α} :
    issue ∈ checkEach check earlier xs ↔
      ∃ k x, xs[k]? = some x ∧ issue ∈ check (earlier ++ xs.take k) x := by
  induction xs generalizing earlier with
  | nil => simp [checkEach]
  | cons x xs ih =>
    -- for the others, `x` is among the earlier ones
    rw [checkEach, List.mem_append, ih]
    constructor
    · rintro (h | ⟨k, y, hy, h⟩)
      · exact ⟨0, x, rfl, by simpa using h⟩
      · exact ⟨k + 1, y, hy, by simpa using h⟩
    · rintro ⟨_ | k, y, hy, h⟩
      · obtain rfl : x = y := Option.some.inj hy
        exact .inl (by simpa using h)
      · exact .inr ⟨k, y, hy, by simpa using h⟩

theorem key_trim (kind : NameKind) (name : Text) : key kind name.trim = key kind name := by
  cases kind with
  | tool => exact Naming.toolFunction_trim name
  | agent | parameter => exact Naming.snakeCase_trim name

theorem mem_keys {kind : NameKind} {names : List Text} {k : Text} :
    k ∈ keys kind names ↔ ∃ other ∈ names, ¬other.isBlank ∧ key kind other = k := by
  simp [keys, key_trim, and_assoc]

theorem isReserved_iff {name : Text} : (Naming.isKeyword name.trim
    || !Naming.isUsable (Naming.snakeCase name.trim)) = true ↔ IsReserved name := by
  simp [IsReserved, Naming.isUsable_snakeCase]

theorem mem_checkForm {kind : NameKind} {path : Path} {name : Text} :
    issue ∈ checkForm kind path name ↔
      (IsReserved name ∧ issue = .on path (.invalidName kind name)) ∨
      (¬IsReserved name ∧ name ≠ Naming.snakeCase name ∧
        issue = .on path (.changedName kind name (Naming.snakeCase name))) := by
  simp only [checkForm]
  split
  · next reserved =>
    have held := isReserved_iff.mp reserved
    simp [held]
  · next usable =>
    have held : ¬IsReserved name := fun h => usable (isReserved_iff.mpr h)
    rw [Naming.snakeCase_trim]
    split
    · next changed => simp [held, changed]
    · next same =>
      constructor
      · exact fun h => absurd h List.not_mem_nil
      · rintro (⟨reserved, -⟩ | ⟨-, changed, -⟩)
        · exact absurd reserved held
        · exact absurd changed same

/-- What is said of one name of a scope, given those in front of it. -/
theorem mem_checkName {kind : NameKind} {path : Path} {earlier : List Text} {name : Text} :
    issue ∈ checkName kind path earlier name ↔
      ∃ finding, OnName kind earlier name finding ∧ issue = .on path finding := by
  have taken : (keys kind earlier).contains (key kind name.trim) = true ↔
      ∃ other ∈ earlier, ¬other.isBlank ∧ key kind other = key kind name := by
    rw [List.contains_iff_mem, mem_keys, key_trim]
  rw [checkName]
  split
  · next blank =>
    constructor
    · intro h
      exact ⟨_, .missing blank, List.mem_singleton.mp h⟩
    · rintro ⟨_, rule, rfl⟩
      cases rule with
      | missing => exact List.mem_singleton.mpr rfl
      | invalid filled | changed filled | repeated filled => exact absurd blank filled
  · next filled =>
    rw [List.mem_append, mem_checkForm]
    constructor
    · rintro ((⟨reserved, rfl⟩ | ⟨usable, changed, rfl⟩) | h)
      · exact ⟨_, .invalid filled reserved, rfl⟩
      · exact ⟨_, .changed filled usable changed, rfl⟩
      · split at h
        · next found =>
          exact ⟨_, .repeated filled (taken.mp found), List.mem_singleton.mp h⟩
        · exact absurd h List.not_mem_nil
    · rintro ⟨_, rule, rfl⟩
      cases rule with
      | missing blank => exact absurd blank filled
      | invalid _ reserved => exact .inl (.inl ⟨reserved, rfl⟩)
      | changed _ usable changed => exact .inl (.inr ⟨usable, changed, rfl⟩)
      | repeated _ found =>
        rw [if_pos (taken.mpr found)]
        exact .inr (List.mem_singleton.mpr rfl)

/-! ## The findings on a field -/

/-- An issue that is a finding on a field, at its path. -/
def FoundAt (w : Workflow) (f : Field) (issue : Issue) : Prop :=
  ∃ finding, Finds w f finding ∧ issue = .on f.path finding

section Items

variable {w : Workflow} {s : Scope} {i j k : Nat} {a : Agent} {t : Tool} {name : Text}

theorem length_take_of_getElem? {α : Type} {xs : List α} {x : α} (h : xs[k]? = some x) :
    (xs.take k).length = k :=
  List.length_take_of_le (List.getElem?_eq_some_iff.mp h).1.le

theorem finds_name_iff {finding : Finding} (here : (s.names w)[k]? = some name) :
    Finds w (.name s k) finding ↔ OnName s.kind ((s.names w).take k) name finding := by
  constructor
  · intro rule
    cases rule with
    | name there rule => rwa [Option.some.inj (here.symm.trans there)]
  · exact .name here

theorem foundAt_name (here : (s.names w)[k]? = some name) : FoundAt w (.name s k) issue ↔
    issue ∈ checkName s.kind (Field.name s k).path ((s.names w).take k) name := by
  simp only [FoundAt, finds_name_iff here, mem_checkName]

theorem foundAt_of_lt_names (h : FoundAt w (.name s k) issue) : k < (s.names w).length := by
  obtain ⟨finding, rule, -⟩ := h
  cases rule with
  | name here => exact (List.getElem?_eq_some_iff.mp here).1

/-! ### Tools and parameters -/

theorem mem_checkParameters (names : (Scope.parameters i j).names w = t.parameters.map (·.name)) :
    issue ∈ checkEach (checkParameter ((Path.agent i).tool j)) [] t.parameters ↔
      ∃ k, FoundAt w (.name (.parameters i j) k) issue := by
  have check : ∀ k p, t.parameters[k]? = some p →
      (FoundAt w (.name (.parameters i j) k) issue ↔
        issue ∈ checkParameter ((Path.agent i).tool j) (t.parameters.take k) p) := by
    intro k p hp
    have here : ((Scope.parameters i j).names w)[k]? = some p.name := by simp [names, hp]
    rw [foundAt_name here, names, checkParameter, length_take_of_getElem? hp, List.map_take]
    rfl
  rw [mem_checkEach]
  constructor
  · rintro ⟨k, p, hp, h⟩
    exact ⟨k, (check k p hp).mpr h⟩
  · rintro ⟨k, h⟩
    have inside := foundAt_of_lt_names h
    rw [names, List.length_map] at inside
    have hp := List.getElem?_eq_getElem inside
    exact ⟨k, _, hp, (check k _ hp).mp h⟩

/-- Scopes hold the names of what the workflow has in their places. -/
theorem names_tools (ha : w.agents[i]? = some a) :
    (Scope.tools i).names w = a.tools.map (·.name) := by
  rw [Scope.names, Scope.toolsOf, ha]

theorem names_parameters (ha : w.agents[i]? = some a) (ht : a.tools[j]? = some t) :
    (Scope.parameters i j).names w = t.parameters.map (·.name) := by
  simp only [Scope.names, Scope.toolsOf, ha, ht]

theorem exists_of_lt_names_parameters (h : k < ((Scope.parameters i j).names w).length) :
    j < ((Scope.tools i).names w).length := by
  simp only [Scope.names, List.length_map] at h ⊢
  split at h
  · next found => exact (List.getElem?_eq_some_iff.mp found).1
  · exact absurd h (Nat.not_lt_zero k)

theorem exists_of_lt_names_tools (h : k < ((Scope.tools i).names w).length) :
    ∃ a, w.agents[i]? = some a := by
  simp only [Scope.names, Scope.toolsOf, List.length_map] at h
  split at h
  · next a found => exact ⟨a, found⟩
  · exact absurd h (Nat.not_lt_zero k)

/-- The issues of the tools of one agent, at the paths that lead to them. -/
theorem mem_checkTools (ha : w.agents[i]? = some a) :
    issue ∈ checkEach (checkTool (Path.agent i)) [] a.tools ↔
      ∃ j, FoundAt w (.name (.tools i) j) issue ∨
        ∃ k, FoundAt w (.name (.parameters i j) k) issue := by
  have names := names_tools ha
  have check : ∀ j t, a.tools[j]? = some t →
      (issue ∈ checkTool (Path.agent i) (a.tools.take j) t ↔
        FoundAt w (.name (.tools i) j) issue ∨
          ∃ k, FoundAt w (.name (.parameters i j) k) issue) := by
    intro j t ht
    have here : ((Scope.tools i).names w)[j]? = some t.name := by simp [names, ht]
    rw [foundAt_name here, names,
      ← mem_checkParameters (names_parameters ha ht), checkTool, length_take_of_getElem? ht,
      List.map_take, List.mem_append]
    rfl
  rw [mem_checkEach]
  constructor
  · rintro ⟨j, t, ht, h⟩
    exact ⟨j, (check j t ht).mp h⟩
  · rintro ⟨j, h⟩
    have inside : j < ((Scope.tools i).names w).length := by
      rcases h with h | ⟨k, h⟩
      · exact foundAt_of_lt_names h
      · exact exists_of_lt_names_parameters (foundAt_of_lt_names h)
    rw [names, List.length_map] at inside
    have ht := List.getElem?_eq_getElem inside
    exact ⟨j, _, ht, (check j _ ht).mpr h⟩

/-! ### Agents -/

section Agent

variable {finding : Finding} (ha : w.agents[i]? = some a)

include ha

theorem finds_id_iff : Finds w (.id i) finding ↔
    (∃ b ∈ w.agents.take i, b.id = a.id) ∧ finding = .repeatedId a.id := by
  constructor
  · intro rule
    cases rule with
    | repeatedId there earlier =>
      obtain rfl := Option.some.inj (ha.symm.trans there)
      exact ⟨earlier, rfl⟩
  · rintro ⟨earlier, rfl⟩
    exact .repeatedId ha earlier

theorem finds_temperature_iff : Finds w (.temperature i) finding ↔
    ¬a.temperature.isWithin 2 ∧ finding = .temperature a.temperature := by
  rw [Binary64.isWithin_iff]
  constructor
  · intro rule
    cases rule with
    | temperature there outside =>
      obtain rfl := Option.some.inj (ha.symm.trans there)
      exact ⟨outside, rfl⟩
  · rintro ⟨outside, rfl⟩
    exact .temperature ha outside

theorem finds_model_iff : Finds w (.model i) finding ↔
    a.model ∉ supportedModels ∧ finding = .unsupportedModel a.model := by
  constructor
  · intro rule
    cases rule with
    | model there other =>
      obtain rfl := Option.some.inj (ha.symm.trans there)
      exact ⟨other, rfl⟩
  · rintro ⟨other, rfl⟩
    exact .model ha other

end Agent

/-- An issue with an agent is a finding on one of the agent's fields, or within its tools. -/
def FoundIn (w : Workflow) (i : Nat) (issue : Issue) : Prop :=
  (FoundAt w (.id i) issue ∨ FoundAt w (.name .agents i) issue ∨
    FoundAt w (.temperature i) issue ∨ FoundAt w (.model i) issue) ∨
  ∃ j, FoundAt w (.name (.tools i) j) issue ∨ ∃ k, FoundAt w (.name (.parameters i j) k) issue

/-- The issues of one agent, on its name, its temperature and its tools. -/
theorem mem_checkAgent (ha : w.agents[i]? = some a) :
    issue ∈ checkAgent (w.agents.take i) a ↔ FoundIn w i issue := by
  have names : ((Scope.agents).names w)[i]? = some a.name := by simp [Scope.names, ha]
  have repeated : ((w.agents.take i).map (·.id)).contains a.id = true ↔
      ∃ b ∈ w.agents.take i, b.id = a.id := by
    rw [List.contains_iff_mem, List.mem_map]
  rw [FoundIn, foundAt_name names, ← mem_checkTools ha, checkAgent, length_take_of_getElem? ha,
    Scope.names, ← List.map_take]
  simp only [FoundAt, finds_id_iff ha, finds_temperature_iff ha, finds_model_iff ha, and_assoc,
    exists_and_left, exists_eq_left, List.mem_append, List.mem_ite_nil_left,
    List.mem_ite_nil_right, List.mem_singleton, repeated, List.contains_iff_mem, or_assoc]
  rfl

theorem exists_of_foundIn (h : FoundIn w i issue) : ∃ a, w.agents[i]? = some a := by
  rcases h with (⟨_, rule, -⟩ | h | ⟨_, rule, -⟩ | ⟨_, rule, -⟩) | ⟨j, h | ⟨k, h⟩⟩
  · cases rule with
    | repeatedId ha => exact ⟨_, ha⟩
  · have inside := foundAt_of_lt_names h
    rw [Scope.names, List.length_map] at inside
    exact ⟨_, List.getElem?_eq_getElem inside⟩
  · cases rule with
    | temperature ha => exact ⟨_, ha⟩
  · cases rule with
    | model ha => exact ⟨_, ha⟩
  · exact exists_of_lt_names_tools (foundAt_of_lt_names h)
  · exact exists_of_lt_names_tools (exists_of_lt_names_parameters (foundAt_of_lt_names h))

theorem mem_agentIssues : issue ∈ agentIssues w.agents ↔
    FoundAt w .agents issue ∨ ∃ i, FoundIn w i issue := by
  rw [agentIssues, List.mem_append, mem_checkEach]
  refine or_congr ?_ ⟨?_, ?_⟩
  · rw [List.mem_ite_nil_right, List.isEmpty_iff, List.mem_singleton]
    constructor
    · rintro ⟨none, rfl⟩
      exact ⟨_, .noAgents none, rfl⟩
    · rintro ⟨_, ⟨none⟩, rfl⟩
      exact ⟨none, rfl⟩
  · rintro ⟨i, a, ha, h⟩
    exact ⟨i, (mem_checkAgent ha).mp h⟩
  · rintro ⟨i, h⟩
    obtain ⟨a, ha⟩ := exists_of_foundIn h
    exact ⟨i, a, ha, (mem_checkAgent ha).mpr h⟩

end Items

/-! ### Deployments -/

section Settings

variable {d : Deployment} {s : Setting} {finding : Finding}

/-- Where nothing is set, there is nothing to find. -/
theorem not_isVoid_of_onSetting (h : OnSetting d s finding) : ¬d.isVoid := by
  have blank : d.projectId.isBlank = d.project.isEmpty := rfl
  simp only [Deployment.isVoid, Deployment.hasProject, Bool.and_eq_true, Bool.not_not,
    Bool.not_eq_true', not_and, Bool.not_eq_false]
  rintro ⟨⟨project, service⟩, region⟩
  rw [← blank] at project
  cases h with
  | memoryWithoutProject _ memory => exact memory
  | settingsWithoutProject _ _ set => exact absurd set (by simp [service, region])
  | invalidProject filled => exact absurd project filled
  | invalidRegion filled => exact absurd region filled
  | unusableService filled | changedService filled => exact absurd service filled

theorem mem_checkProject (used : ¬d.isVoid) : issue ∈ checkProject d ↔
    ∃ finding, OnSetting d .project finding ∧
      issue = .on (Field.setting .project).path finding := by
  have others : d.projectId.isBlank → ¬d.memoryBank →
      ¬d.serviceName.isBlank ∨ ¬d.region.isBlank := by
    intro project memory
    rw [← not_and_or]
    rintro ⟨service, region⟩
    refine used ?_
    have none : d.hasProject = false := congrArg not project
    simp [Deployment.isVoid, none, service, region, memory]
  rw [checkProject]
  split
  · next blank =>
    rw [List.mem_singleton]
    constructor
    · rintro rfl
      split
      · next memory => exact ⟨_, .memoryWithoutProject blank memory, rfl⟩
      · next memory => exact ⟨_, .settingsWithoutProject blank memory (others blank memory), rfl⟩
    · rintro ⟨_, rule, rfl⟩
      cases rule with
      | memoryWithoutProject _ memory => rw [if_pos memory]; rfl
      | settingsWithoutProject _ memory => rw [if_neg memory]; rfl
      | invalidProject filled => exact absurd blank filled
  · next filled =>
    rw [List.mem_ite_nil_left, List.mem_singleton, isProjectId_iff]
    constructor
    · rintro ⟨invalid, rfl⟩
      exact ⟨_, .invalidProject filled invalid, rfl⟩
    · rintro ⟨_, rule, rfl⟩
      cases rule with
      | memoryWithoutProject blank | settingsWithoutProject blank => exact absurd blank filled
      | invalidProject _ invalid => exact ⟨invalid, rfl⟩

theorem mem_checkRegion : issue ∈ checkRegion d ↔
    ∃ finding, OnSetting d .region finding ∧
      issue = .on (Field.setting .region).path finding := by
  simp only [checkRegion, List.mem_ite_nil_left, List.mem_singleton, Bool.or_eq_true, not_or,
    isRegion_iff]
  constructor
  · rintro ⟨⟨filled, invalid⟩, rfl⟩
    exact ⟨_, .invalidRegion filled invalid, rfl⟩
  · rintro ⟨_, rule, rfl⟩
    cases rule with
    | invalidRegion filled invalid => exact ⟨⟨filled, invalid⟩, rfl⟩

theorem mem_checkService : issue ∈ checkService d ↔
    ∃ finding, OnSetting d .service finding ∧
      issue = .on (Field.setting .service).path finding := by
  simp only [checkService, Naming.kebabCase_trim, List.mem_ite_nil_left]
  constructor
  · rintro ⟨filled, h⟩
    split at h
    · next unusable =>
      obtain rfl := List.mem_singleton.mp h
      exact ⟨_, .unusableService filled (List.isEmpty_iff.mp unusable), rfl⟩
    · next usable =>
      obtain ⟨changed, h⟩ := List.mem_ite_nil_right.mp h
      obtain rfl := List.mem_singleton.mp h
      exact ⟨_, .changedService filled (mt List.isEmpty_iff.mpr usable) changed, rfl⟩
  · rintro ⟨_, rule, rfl⟩
    cases rule with
    | unusableService filled unusable =>
      rw [if_pos (List.isEmpty_iff.mpr unusable)]
      exact ⟨filled, List.mem_singleton.mpr rfl⟩
    | changedService filled usable changed =>
      rw [if_neg (mt List.isEmpty_iff.mp usable), if_pos changed]
      exact ⟨filled, List.mem_singleton.mpr rfl⟩

end Settings

theorem finds_setting_iff {w : Workflow} {s : Setting} {finding : Finding} :
    Finds w (.setting s) finding ↔ OnSetting w.deployment s finding := by
  constructor
  · intro rule
    cases rule with
    | setting rule => exact rule
  · exact .setting

theorem mem_deploymentIssues {w : Workflow} : issue ∈ deploymentIssues w.deployment ↔
    ∃ s, FoundAt w (.setting s) issue := by
  simp only [FoundAt, finds_setting_iff]
  rw [deploymentIssues, List.mem_ite_nil_left, List.mem_append, List.mem_append]
  constructor
  · rintro ⟨used, (h | h) | h⟩
    · exact ⟨.project, (mem_checkProject used).mp h⟩
    · exact ⟨.region, mem_checkRegion.mp h⟩
    · exact ⟨.service, mem_checkService.mp h⟩
  · rintro ⟨s, h⟩
    obtain ⟨_, rule, -⟩ := id h
    have used := not_isVoid_of_onSetting rule
    cases s with
    | project => exact ⟨used, .inl (.inl ((mem_checkProject used).mpr h))⟩
    | region => exact ⟨used, .inl (.inr (mem_checkRegion.mpr h))⟩
    | service => exact ⟨used, .inr (mem_checkService.mpr h)⟩

/-! ### Workflows -/

/-- Every finding belongs to the list of agents, to one of them, or to a setting. -/
theorem foundAt_iff {w : Workflow} : (∃ f, FoundAt w f issue) ↔
    (FoundAt w .agents issue ∨ ∃ i, FoundIn w i issue) ∨ ∃ s, FoundAt w (.setting s) issue := by
  constructor
  · rintro ⟨f, h⟩
    cases f with
    | agents => exact .inl (.inl h)
    | id i => exact .inl (.inr ⟨i, .inl (.inl h)⟩)
    | name s k =>
      cases s with
      | agents => exact .inl (.inr ⟨k, .inl (.inr (.inl h))⟩)
      | tools i => exact .inl (.inr ⟨i, .inr ⟨k, .inl h⟩⟩)
      | parameters i j => exact .inl (.inr ⟨i, .inr ⟨j, .inr ⟨k, h⟩⟩⟩)
    | temperature i => exact .inl (.inr ⟨i, .inl (.inr (.inr (.inl h)))⟩)
    | model i => exact .inl (.inr ⟨i, .inl (.inr (.inr (.inr h)))⟩)
    | setting s => exact .inr ⟨s, h⟩
  · rintro ((h | ⟨i, (h | h | h | h) | ⟨j, h | ⟨k, h⟩⟩⟩) | ⟨s, h⟩)
    all_goals exact ⟨_, h⟩

/-- The issues of a workflow are the findings on its fields. -/
theorem mem_preflight {w : Workflow} :
    issue ∈ agentIssues w.agents ++ deploymentIssues w.deployment ↔ ∃ f, FoundAt w f issue := by
  rw [List.mem_append, mem_agentIssues, mem_deploymentIssues, foundAt_iff]

theorem mem_errors {w : Workflow} :
    issue ∈ w.preflight.errors ↔ (∃ f, FoundAt w f issue) ∧ issue.severity = .error := by
  rw [Workflow.preflight, Report.ofIssues, List.mem_filter, mem_preflight, decide_eq_true_eq]

theorem mem_warnings {w : Workflow} :
    issue ∈ w.preflight.warnings ↔ (∃ f, FoundAt w f issue) ∧ issue.severity = .warning := by
  rw [Workflow.preflight, Report.ofIssues, List.mem_filter, mem_preflight, decide_eq_true_eq]

end Preflight

end AgentWorkflow
