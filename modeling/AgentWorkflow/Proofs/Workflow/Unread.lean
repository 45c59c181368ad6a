import AgentWorkflow.Workflow.Document
import Mathlib.Data.List.Forall2
import Mathlib.Data.Option.Defs

/-!
# Fields that are not read

The reader of documents looks fields up by name. Two documents are alike if they differ only in
fields under other names, be it in the document itself or in an agent, a tool, a parameter or the
deployment settings. Alike documents are read alike: as the same workflow, or with the same error,
whose message shows no more than fields that are read.

Results:
1. `readParameter_congr`, `readTool_congr`, `readAgent_congr`, `readDeployment_congr`: what each
   part of the reader makes of alike values.
2. `ofJson_of_alike`: what the reader makes of alike documents.
3. `mem_parameterNames_iff` and the like for the other objects: the names that count as read are
   exactly those under which a text makes a difference.
-/

namespace AgentWorkflow

namespace Document

/-! ## Alike documents -/

/-- The names of a parameter's fields that are read. -/
def parameterNames : List Text := ["type", "id", "name", "description", "required"]

/-- The names of a tool's fields that are read. -/
def toolNames : List Text := ["parameters", "id", "name", "description"]

/-- The names of an agent's fields that are read. -/
def agentNames : List Text :=
  ["tools", "temperature", "id", "name", "system_prompt", "systemPrompt", "welcome_message",
   "welcomeMessage", "input_placeholder", "inputPlaceholder", "parentId", "parent_id", "llmModel",
   "llm_model", "model"]

/-- The names of the deployment settings that are read. -/
def deploymentNames : List Text :=
  ["projectId", "project_id", "serviceName", "service_name", "region", "useMemoryBank",
   "use_memory_bank", "credentialRef", "serviceAccountKeyName", "credential_ref"]

/-- The names of a document's fields that are read. -/
def workflowNames : List Text :=
  ["agents", "deploymentConfig", "gcpConfig", "workflowType", "workflow_type"]

/-- The same stands under each of the names. -/
def AgreeOn (names : List Text) (fields others : Json.Fields) : Prop :=
  ∀ name ∈ names, Table.get? fields name = Table.get? others name

/-- The same value, or two objects whose fields are related. -/
inductive AlikeObject (R : Json.Fields → Json.Fields → Prop) : Json → Json → Prop
  | same (value : Json) : AlikeObject R value value
  | object {fields others : Json.Fields} : R fields others →
      AlikeObject R (.object fields) (.object others)

/-- The same value, or two lists of objects whose fields are related one by one. -/
inductive AlikeList (R : Json.Fields → Json.Fields → Prop) : Json → Json → Prop
  | same (value : Json) : AlikeList R value value
  | array {items others : List Json} : List.Forall₂ (AlikeObject R) items others →
      AlikeList R (.array items) (.array others)

/-- Parameters that differ in unread fields only. -/
def AlikeParameter : Json.Fields → Json.Fields → Prop := AgreeOn parameterNames

/-- Tools that differ in unread fields only, their own or those of their parameters. -/
structure AlikeTool (fields others : Json.Fields) : Prop where
  own : AgreeOn (toolNames.erase "parameters") fields others
  parameters : Option.Rel (AlikeList AlikeParameter) (Table.get? fields "parameters")
    (Table.get? others "parameters")

/-- Agents that differ in unread fields only, their own or those of their tools. -/
structure AlikeAgent (fields others : Json.Fields) : Prop where
  own : AgreeOn (agentNames.erase "tools") fields others
  tools : Option.Rel (AlikeList AlikeTool) (Table.get? fields "tools") (Table.get? others "tools")

def AlikeDeployment : Json.Fields → Json.Fields → Prop := AgreeOn deploymentNames

/-- Documents that differ in unread fields only, at any of these depths. -/
structure AlikeWorkflow (fields others : Json.Fields) : Prop where
  own : AgreeOn ["workflowType", "workflow_type"] fields others
  agents : Option.Rel (AlikeList AlikeAgent) (Table.get? fields "agents")
    (Table.get? others "agents")
  deployment : ∀ name ∈ (["deploymentConfig", "gcpConfig"] : List Text),
    Option.Rel (AlikeObject AlikeDeployment) (Table.get? fields name) (Table.get? others name)

/-! ## Texts and truth values -/

section Fields

variable {fields others : Json.Fields} {names : List Text} (h : AgreeOn names fields others)

include h

theorem AgreeOn.mono {fewer : List Text} (hf : fewer ⊆ names) : AgreeOn fewer fields others :=
  fun name hn => h name (hf hn)

/-- One more field does not count if its name is not among the names. -/
theorem AgreeOn.cons_right {name : Text} (unread : name ∉ names) (value : Json) :
    AgreeOn names fields ((name, value) :: others) := by
  intro other ho
  have apart : (other == name) = false := beq_false_of_ne fun same => unread (same ▸ ho)
  rw [h other ho, Table.get?, Table.get?, List.lookup_cons, apart]

/-- The same field in front of both does not count. -/
theorem AgreeOn.cons (field : Text × Json) : AgreeOn names (field :: fields) (field :: others) := by
  intro name hn
  rw [Table.get?, Table.get?, List.lookup_cons, List.lookup_cons]
  split
  · rfl
  · exact h name hn

/-- What stands under a name that is not among the names does not count. -/
theorem AgreeOn.cons_unread {name : Text} (unread : name ∉ names) (value other : Json) :
    AgreeOn names ((name, value) :: fields) ((name, other) :: others) := by
  intro read hr
  have apart : (read == name) = false := beq_false_of_ne fun same => unread (same ▸ hr)
  rw [Table.get?, Table.get?, List.lookup_cons, List.lookup_cons, apart]
  exact h read hr

theorem firstGiven?_congr {read : List Text} (hr : read ⊆ names) :
    firstGiven? fields read = firstGiven? others read := by
  induction read with
  | nil => rfl
  | cons name read ih =>
    obtain ⟨hname, hr⟩ := List.cons_subset.mp hr
    rw [firstGiven?, firstGiven?, h name hname, ih hr]

theorem readText_congr (read : List Text) (hr : read ⊆ names) :
    readText fields read = readText others read := by
  rw [readText, readText, firstGiven?_congr h hr]

theorem readFlag_congr (path : Path) (default : Bool) (read : List Text) (hr : read ⊆ names) :
    readFlag fields path default read = readFlag others path default read := by
  rw [readFlag, readFlag, firstGiven?_congr h hr]

end Fields

/-! ## Objects and lists -/

section Nested

variable {α : Type} {R : Json.Fields → Json.Fields → Prop}

theorem readObject_bind_congr {value other : Json} (h : AlikeObject R value other) (path : Path)
    {f : Json.Fields → Reading α} (same : ∀ fields others, R fields others → f fields = f others) :
    (readObject path value >>= f) = (readObject path other >>= f) := by
  cases h with
  | same => rfl
  | object h => exact same _ _ h

/-- A list that may be missing, and what is done with its items. -/
theorem readList_bind_congr {given other : Option Json} (h : Option.Rel (AlikeList R) given other)
    (path : Path) {f g : List Json → Reading α}
    (same : ∀ items others, List.Forall₂ (AlikeObject R) items others → f items = g others) :
    (readList path given >>= f) = (readList path other >>= g) := by
  have equal : f = g := funext fun items => same _ _ (List.forall₂_same.mpr fun x _ => .same x)
  rcases h with h | -
  · cases h with
    | same => rw [equal]
    | array h => exact same _ _ h
  · rw [equal]

theorem readEach_congr {read : Nat → Json → Reading α}
    (same : ∀ i value other, AlikeObject R value other → read i value = read i other)
    {items others : List Json} (h : List.Forall₂ (AlikeObject R) items others) (i : Nat) :
    readEach read i items = readEach read i others := by
  induction h generalizing i with
  | nil => rfl
  | cons first _ ih => rw [readEach, readEach, same i _ _ first, ih]

end Nested

/-! ## Parameters, tools and agents -/

section Parts

variable {value other : Json}

theorem readParameter_congr (h : AlikeObject AlikeParameter value other) (path : Path) :
    readParameter path value = readParameter path other := by
  refine readObject_bind_congr h _ fun fields others own => ?_
  rw [own "type" (by decide), readText_congr own ["id"] (by decide),
    readText_congr own ["name"] (by decide), readText_congr own ["description"] (by decide),
    readFlag_congr own path true ["required"] (by decide)]

theorem readTool_congr (h : AlikeObject AlikeTool value other) (path : Path) :
    readTool path value = readTool path other := by
  refine readObject_bind_congr h _ fun fields others ⟨own, parameters⟩ => ?_
  refine readList_bind_congr parameters _ fun items others alike => ?_
  rw [readText_congr own ["id"] (by decide), readText_congr own ["name"] (by decide),
    readText_congr own ["description"] (by decide),
    readEach_congr (fun i _ _ h => readParameter_congr h (path.parameter i)) alike]

/-- Fields of an agent that are not read make no difference. -/
theorem readAgent_congr (h : AlikeObject AlikeAgent value other) (path : Path) :
    readAgent path value = readAgent path other := by
  refine readObject_bind_congr h _ fun fields others ⟨own, tools⟩ => ?_
  refine readList_bind_congr tools _ fun items others alike => ?_
  rw [own "temperature" (by decide), readText_congr own ["id"] (by decide),
    readText_congr own ["name"] (by decide),
    readText_congr own ["system_prompt", "systemPrompt"] (by decide),
    readText_congr own ["welcome_message", "welcomeMessage"] (by decide),
    readText_congr own ["input_placeholder", "inputPlaceholder"] (by decide),
    readText_congr own ["parentId", "parent_id"] (by decide),
    readText_congr own ["llmModel", "llm_model", "model"] (by decide),
    readEach_congr (fun i _ _ h => readTool_congr h (path.tool i)) alike]

theorem readDeployment_congr (h : AlikeObject AlikeDeployment value other) :
    readDeployment value = readDeployment other := by
  refine readObject_bind_congr h _ fun fields others own => ?_
  rw [readText_congr own ["projectId", "project_id"] (by simp [deploymentNames]),
    readText_congr own ["serviceName", "service_name"] (by simp [deploymentNames]),
    readText_congr own ["region"] (by simp [deploymentNames]),
    readFlag_congr own _ false ["useMemoryBank", "use_memory_bank"] (by simp [deploymentNames]),
    readText_congr own ["credentialRef", "serviceAccountKeyName", "credential_ref"]
      (by simp [deploymentNames])]

end Parts

/-! ## Documents -/

section Documents

variable {fields others : Json.Fields} {R : Json.Fields → Json.Fields → Prop}

theorem readAgents_congr (same : ∀ i value other, AlikeObject R value other →
      readAgent (Path.agent i) value = readAgent (Path.agent i) other)
    (agents : Option.Rel (AlikeList R) (Table.get? fields "agents") (Table.get? others "agents")) :
    readAgents fields = readAgents others := by
  unfold readAgents
  generalize Table.get? fields "agents" = given at agents ⊢
  generalize Table.get? others "agents" = other at agents ⊢
  rcases agents with alike | -
  · cases alike with
    | same => rfl
    | array alike => exact readEach_congr same alike 0
  · rfl

/-- Settings stay what they are if something is added to an object that held nothing. -/
theorem alike_deploymentValue
    (deployment : ∀ name ∈ (["deploymentConfig", "gcpConfig"] : List Text),
      Option.Rel (AlikeObject R) (Table.get? fields name) (Table.get? others name)) :
    AlikeObject R (deploymentValue fields) (deploymentValue others) := by
  have given : Option.Rel (AlikeObject R)
      ((Table.get? fields "deploymentConfig").orElse fun _ => Table.get? fields "gcpConfig")
      ((Table.get? others "deploymentConfig").orElse fun _ => Table.get? others "gcpConfig") := by
    have current := deployment "deploymentConfig" (by decide)
    have old := deployment "gcpConfig" (by decide)
    generalize Table.get? fields "deploymentConfig" = value at current ⊢
    generalize Table.get? others "deploymentConfig" = other at current ⊢
    rcases current with alike | -
    · exact .some alike
    · exact old
  have object : ∀ fields : Json.Fields,
      (if (Json.object fields).isVoid then Json.object [] else .object fields) = .object fields := by
    intro fields
    cases fields <;> rfl
  unfold deploymentValue
  dsimp only
  generalize ((Table.get? fields "deploymentConfig").orElse fun _ => Table.get? fields "gcpConfig")
    = value at given ⊢
  generalize ((Table.get? others "deploymentConfig").orElse fun _ => Table.get? others "gcpConfig")
    = other at given ⊢
  rcases given with alike | -
  · cases alike with
    | same value => exact .same _
    | object alike => simpa only [object] using .object alike
  · exact .same _

theorem readKind_congr (kind : AgreeOn ["workflowType", "workflow_type"] fields others) :
    readKind fields = readKind others := by
  rw [readKind, readKind, kind "workflowType" (by decide), kind "workflow_type" (by decide)]

theorem ofJson_congr (agents : readAgents fields = readAgents others)
    (deployment : readDeployment (deploymentValue fields) = readDeployment (deploymentValue others))
    (kind : readKind fields = readKind others) :
    Workflow.ofJson (.object fields) = Workflow.ofJson (.object others) := by
  simp only [Workflow.ofJson, agents, deployment, kind]

/-- Alike documents are read as the same workflow, or with the same error. -/
theorem ofJson_of_alike {document other : Json} (h : AlikeObject AlikeWorkflow document other) :
    Workflow.ofJson document = Workflow.ofJson other := by
  cases h with
  | same => rfl
  | object h =>
    exact ofJson_congr (readAgents_congr (fun i _ _ h => readAgent_congr h (Path.agent i)) h.agents)
      (readDeployment_congr (alike_deploymentValue h.deployment)) (readKind_congr h.own)

end Documents

/-! ## The names that are read -/

/-- A text under the name makes a difference to what is read from an object with nothing else in
it. -/
def Heeds {α : Type} (read : Json → Reading α) (name : Text) : Prop :=
  (read (.object [(name, .text "x")])).toOption ≠ (read (.object [])).toOption

instance {α : Type} [DecidableEq α] (read : Json → Reading α) (name : Text) :
    Decidable (Heeds read name) := inferInstanceAs (Decidable (_ ≠ _))

theorem rel_of_eq {R : Json → Json → Prop} (refl : ∀ value, R value value)
    {given other : Option Json} (h : given = other) : Option.Rel R given other := by
  subst h
  cases given with
  | none => exact .none
  | some value => exact .some (refl value)

/-- A reader that looks at nothing but some names, and at each of them, heeds exactly these. -/
theorem mem_iff_heeds {α : Type} {read : Json → Reading α} {names : List Text}
    (listed : ∀ name ∈ names, Heeds read name)
    (congr : ∀ fields others, AgreeOn names fields others →
      read (.object fields) = read (.object others)) (name : Text) :
    name ∈ names ↔ Heeds read name := by
  refine ⟨listed name, fun heeded => ?_⟩
  by_contra unread
  have alone : AgreeOn names [] [(name, Json.text "x")] :=
    AgreeOn.cons_right (fun _ _ => rfl) unread _
  exact heeded (congrArg Except.toOption (congr _ _ alone).symm)

theorem mem_parameterNames_iff (name : Text) :
    name ∈ parameterNames ↔ Heeds (readParameter []) name :=
  mem_iff_heeds (by decide +kernel) (fun _ _ h => readParameter_congr (.object h) []) name

theorem mem_toolNames_iff (name : Text) : name ∈ toolNames ↔ Heeds (readTool []) name := by
  refine mem_iff_heeds (by decide +kernel) (fun _ _ h => readTool_congr (.object ⟨?_, ?_⟩) []) name
  · exact h.mono List.erase_subset
  · exact rel_of_eq .same (h "parameters" (by decide))

theorem mem_agentNames_iff (name : Text) : name ∈ agentNames ↔ Heeds (readAgent []) name := by
  refine mem_iff_heeds (by decide +kernel) (fun _ _ h => readAgent_congr (.object ⟨?_, ?_⟩) []) name
  · exact h.mono List.erase_subset
  · exact rel_of_eq .same (h "tools" (by decide))

theorem mem_deploymentNames_iff (name : Text) :
    name ∈ deploymentNames ↔ Heeds readDeployment name :=
  mem_iff_heeds (by decide +kernel) (fun _ _ h => readDeployment_congr (.object h)) name

theorem mem_workflowNames_iff (name : Text) : name ∈ workflowNames ↔ Heeds Workflow.ofJson name := by
  refine mem_iff_heeds (by decide +kernel) (fun _ _ h => ofJson_of_alike (.object ⟨?_, ?_, ?_⟩)) name
  · exact h.mono (by decide)
  · exact rel_of_eq .same (h "agents" (by decide))
  · have inside : (["deploymentConfig", "gcpConfig"] : List Text) ⊆ workflowNames := by decide
    exact fun name hn => rel_of_eq .same (h name (inside hn))

end Document

end AgentWorkflow
