import AgentWorkflow.Proofs.Number.Rounding
import AgentWorkflow.Proofs.Text.Encodable
import AgentWorkflow.Workflow.Document
import Mathlib.Tactic.SplitIfs
import Mathlib.Tactic.Tauto

/-!
# The grammar of workflow documents

Which documents the reader accepts, said without the reader: what each field of an object may hold,
from the parameters of a tool up to the document. The grammar leaves open which integers may stand
for a temperature. The reader takes those that have a floating-point number, so a grammar that
admits them all is too wide.

Results:
1. `accepted_readParameter`, `accepted_readTool`, `accepted_readAgent`, `accepted_readDeployment`:
   what each part of the reader accepts.
2. `exists_ofJson_iff`: the reader accepts exactly the documents of the grammar.
3. `overflowing_refused`: a document of the wider grammar that the reader does not accept.
-/

namespace AgentWorkflow

namespace Document

/-! ## The grammar -/

/-- `FirstGiven fields names value`: the value stands under the first of the names that is there and
not null. -/
inductive FirstGiven (fields : Json.Fields) : List Text → Json → Prop
  | here {name : Text} {names : List Text} {value : Json} :
      Table.get? fields name = some value → value ≠ .null → FirstGiven fields (name :: names) value
  | later {name : Text} {names : List Text} {value : Json} :
      (∀ v ∈ Table.get? fields name, v = .null) → FirstGiven fields names value →
      FirstGiven fields (name :: names) value

/-- What is given under the names can be taken as a text. -/
def TextUnder (fields : Json.Fields) (names : List Text) : Prop :=
  ∀ value, FirstGiven fields names value → value.asText.isEncodable

/-- What is given under the names is a truth value. -/
def FlagUnder (fields : Json.Fields) (names : List Text) : Prop :=
  ∀ value, FirstGiven fields names value → ∃ b, value = .bool b

/-- What stands under the name is null or a list of values that satisfy `P`. -/
def ListUnder (fields : Json.Fields) (name : Text) (P : Json → Prop) : Prop :=
  ∀ value ∈ Table.get? fields name,
    value = .null ∨ ∃ items, value = .array items ∧ ∀ item ∈ items, P item

/-- The value is an object whose fields satisfy `P`. -/
def IsObject (P : Json.Fields → Prop) (value : Json) : Prop :=
  ∃ fields, value = .object fields ∧ P fields

/-- The spellings of the parameter types. -/
def typeWords : List Text :=
  ["string", "text", "str", "number", "numeric", "float", "boolean", "bool"]

/-- The kinds of workflow in small letters. -/
def kindWords : List Text := ["sequential", "hierarchical", "collaborative"]

structure IsParameter (fields : Json.Fields) : Prop where
  type : ((Table.get? fields "type").getD (.text "string")).asText.trim.lower ∈ typeWords
  required : FlagUnder fields ["required"]
  texts : ∀ names ∈ ([["id"], ["name"], ["description"]] : List (List Text)), TextUnder fields names

structure IsTool (fields : Json.Fields) : Prop where
  parameters : ListUnder fields "parameters" (IsObject IsParameter)
  texts : ∀ names ∈ ([["id"], ["name"], ["description"]] : List (List Text)), TextUnder fields names

/-- `IsTemperature fits value`: a truth value, a number or a text that spells one, where an integer
has to satisfy `fits`. -/
inductive IsTemperature (fits : Int → Prop) : Json → Prop
  | bool (b : Bool) : IsTemperature fits (.bool b)
  | int {n : Int} : fits n → IsTemperature fits (.int n)
  | real (x : Binary64) : IsTemperature fits (.real x)
  | text {t : Text} {x : Binary64} : Binary64.ofText? t = some x → IsTemperature fits (.text t)

/-- The spellings of an agent's texts. -/
def agentTexts : List (List Text) :=
  [["id"], ["name"], ["system_prompt", "systemPrompt"], ["welcome_message", "welcomeMessage"],
   ["input_placeholder", "inputPlaceholder"], ["parentId", "parent_id"],
   ["llmModel", "llm_model", "model"]]

structure IsAgent (fits : Int → Prop) (fields : Json.Fields) : Prop where
  tools : ListUnder fields "tools" (IsObject IsTool)
  temperature : ∀ value ∈ Table.get? fields "temperature", IsTemperature fits value
  texts : ∀ names ∈ agentTexts, TextUnder fields names

/-- The spellings of the texts among the deployment settings. -/
def deploymentTexts : List (List Text) :=
  [["projectId", "project_id"], ["serviceName", "service_name"], ["region"],
   ["credentialRef", "serviceAccountKeyName", "credential_ref"]]

structure IsDeployment (fields : Json.Fields) : Prop where
  memoryBank : FlagUnder fields ["useMemoryBank", "use_memory_bank"]
  texts : ∀ names ∈ deploymentTexts, TextUnder fields names

/-- `Under fields name other value`: the value stands under the name, or under the other one if the
first is not there at all. -/
def Under (fields : Json.Fields) (name other : Text) (value : Json) : Prop :=
  Table.get? fields name = some value ∨
    Table.get? fields name = none ∧ Table.get? fields other = some value

/-- The fields of a workflow's document. -/
structure IsWorkflow (fits : Int → Prop) (fields : Json.Fields) : Prop where
  agents : ∀ value ∈ Table.get? fields "agents",
    ∃ items, value = .array items ∧ ∀ item ∈ items, IsObject (IsAgent fits) item
  deployment : ∀ value, Under fields "deploymentConfig" "gcpConfig" value →
    value.isVoid ∨ IsObject IsDeployment value
  kind : ∀ value, Under fields "workflowType" "workflow_type" value →
    value.asText.trim.lower ∈ kindWords

/-! ## Accepting -/

/-- The reading does not stop. -/
def Accepted {α : Type} (r : Reading α) : Prop := ∃ x, r = .ok x

section Accepted

variable {α β : Type} {r : Reading α} {f : α → Reading β} {P : α → Prop} {Q : Prop}

theorem accepted_pure (x : α) : Accepted (pure x : Reading α) := ⟨x, rfl⟩

theorem not_accepted_error (e : DocumentError) : ¬Accepted (.error e : Reading α) := by
  rintro ⟨x, hx⟩
  cases hx

/-- A reading in two steps is accepted when the first gives something the second accepts. -/
theorem accepted_bind : Accepted (r >>= f) ↔ ∃ x, r = .ok x ∧ Accepted (f x) := by
  cases r with
  | error e =>
    constructor
    · exact fun h => absurd h (not_accepted_error e)
    · rintro ⟨x, hx, -⟩
      cases hx
  | ok x =>
    constructor
    · exact fun h => ⟨x, rfl, h⟩
    · rintro ⟨_, ⟨⟩, h⟩
      exact h

/-- A reading whose result does not matter to whether the rest is accepted. -/
theorem accepted_bind_of_forall (h : ∀ x, Accepted (f x) ↔ Q) :
    Accepted (r >>= f) ↔ Accepted r ∧ Q := by
  rw [accepted_bind]
  simp only [h]
  exact exists_and_right

/-- A list is accepted when each of its items is. -/
theorem accepted_readEach {read : Nat → Json → Reading α} {R : Json → Prop}
    (h : ∀ i item, Accepted (read i item) ↔ R item) (i : Nat) (items : List Json) :
    Accepted (readEach read i items) ↔ ∀ item ∈ items, R item := by
  induction items generalizing i with
  | nil => exact iff_of_true (accepted_pure []) (by simp)
  | cons item items ih =>
    rw [readEach, accepted_bind_of_forall (Q := ∀ item ∈ items, R item), h, List.forall_mem_cons]
    intro x
    rw [accepted_bind_of_forall fun xs => iff_of_true (accepted_pure (x :: xs)) trivial, ih,
      and_true]

end Accepted

/-! ## Fields -/

variable {fields : Json.Fields} {names : List Text} {name : Text} {path : Path}

/-- The first spelling that is given, as a relation and as a search. -/
theorem forall_firstGiven_iff {P : Json → Prop} :
    (∀ value, FirstGiven fields names value → P value) ↔
      ∀ given ∈ firstGiven? fields names, P given.2 := by
  induction names with
  | nil => exact iff_of_true (fun value h => nomatch h) (fun given h => nomatch h)
  | cons name names ih =>
    have skip (missing : ∀ v ∈ Table.get? fields name, v = .null) :
        (∀ value, FirstGiven fields (name :: names) value → P value) ↔
          ∀ given ∈ firstGiven? fields names, P given.2 := by
      rw [← ih]
      constructor
      · exact fun h value given => h value (.later missing given)
      · rintro h value (⟨found, there⟩ | ⟨-, given⟩)
        · exact absurd (missing value found) there
        · exact h value given
    have stop {v : Json} (found : Table.get? fields name = some v) (there : v ≠ .null) :
        (∀ value, FirstGiven fields (name :: names) value → P value) ↔ P v := by
      constructor
      · exact fun h => h v (.here found there)
      · rintro h value (⟨found', -⟩ | ⟨missing, -⟩)
        · exact Option.some.inj (found.symm.trans found') ▸ h
        · exact absurd (missing v found) there
    rw [firstGiven?]
    cases found : Table.get? fields name with
    | none =>
      refine skip fun v hv => ?_
      rw [found] at hv
      cases hv
    | some v =>
      by_cases there : v = .null
      · subst there
        refine skip fun v hv => ?_
        rw [found] at hv
        cases hv
        rfl
      · rw [stop found there]
        cases v <;> simp_all

theorem FirstGiven.mem {value : Json} (h : FirstGiven fields names value) :
    ∃ name, (name, value) ∈ fields := by
  induction h with
  | here found there => exact ⟨_, Table.mem_of_get? found⟩
  | later missing given ih => exact ih

theorem textUnder_of_forall (h : ∀ field ∈ fields, field.2.asText.isEncodable) :
    TextUnder fields names := by
  intro value given
  obtain ⟨name, hmem⟩ := given.mem
  exact h _ hmem

theorem accepted_readText : Accepted (readText fields names) ↔ TextUnder fields names := by
  rw [TextUnder, forall_firstGiven_iff]
  unfold readText
  cases firstGiven? fields names with
  | none => exact iff_of_true (accepted_pure []) (by simp)
  | some given =>
    obtain ⟨key, value⟩ := given
    have encodable : value.asText.findIdx? CodePoint.isSurrogate = none ↔
        value.asText.isEncodable := by
      rw [List.findIdx?_eq_none_iff, Text.isEncodable_iff]
    dsimp only
    cases found : value.asText.findIdx? CodePoint.isSurrogate with
    | none =>
      rw [found] at encodable
      exact iff_of_true (accepted_pure _) (by simpa using encodable)
    | some position =>
      rw [found] at encodable
      exact iff_of_false (not_accepted_error _) (by simpa using encodable)

theorem accepted_readFlag {default : Bool} :
    Accepted (readFlag fields path default names) ↔ FlagUnder fields names := by
  rw [FlagUnder, forall_firstGiven_iff]
  unfold readFlag
  cases firstGiven? fields names with
  | none => exact iff_of_true (accepted_pure default) (by simp)
  | some given =>
    obtain ⟨key, value⟩ := given
    cases value with
    | bool b => exact iff_of_true (accepted_pure b) (by simp)
    | _ => exact iff_of_false (not_accepted_error _) (by simp)

section Nested

variable {α : Type} {f : Json.Fields → Reading α} {g : List Json → Reading α} {value : Json}
variable {P : Json.Fields → Prop} {R : Json → Prop} {Q : Prop}

theorem accepted_readObject_bind (h : ∀ fields, Accepted (f fields) ↔ P fields) :
    Accepted (readObject path value >>= f) ↔ IsObject P value := by
  rw [accepted_bind]
  constructor
  · rintro ⟨fields, hv, hf⟩
    cases value with
    | object fields' =>
      cases hv
      exact ⟨fields, rfl, (h fields).mp hf⟩
    | _ => cases hv
  · rintro ⟨fields, rfl, hP⟩
    exact ⟨fields, rfl, (h fields).mpr hP⟩

theorem accepted_readList_bind
    (h : ∀ items, Accepted (g items) ↔ (∀ item ∈ items, R item) ∧ Q) :
    Accepted (readList path (Table.get? fields name) >>= g) ↔ ListUnder fields name R ∧ Q := by
  rw [accepted_bind, ListUnder]
  have empty : Accepted (g []) ↔ Q := by simp [h]
  cases found : Table.get? fields name with
  | none =>
    simp [readList, empty]
  | some value =>
    cases value <;> simp [readList, refuse, h]

end Nested

/-! ## Parameters, tools and agents -/

theorem parameterType?_isSome (value : Json) :
    (parameterType? value).isSome ↔ value.asText.trim.lower ∈ typeWords := by
  unfold parameterType?
  show Option.isSome (ite _ _ _) ↔ keyword value ∈ typeWords
  simp only [typeWords, List.mem_cons, List.not_mem_nil, or_false, Bool.or_eq_true,
    decide_eq_true_eq, or_assoc]
  split_ifs with string number boolean
  · rcases string with h | h | h <;> simp only [h, Option.isSome_some, true_or, or_true]
  · rcases number with h | h | h <;> simp only [h, Option.isSome_some, true_or, or_true]
  · rcases boolean with h | h <;> simp only [h, Option.isSome_some, true_or, or_true]
  · simp only [not_or] at string number boolean
    simp only [string, number, boolean, or_false, Option.isSome_none, Bool.false_eq_true]

/-- The reader accepts a parameter exactly when its fields have the documented forms. -/
theorem accepted_readParameter (path : Path) (value : Json) :
    Accepted (readParameter path value) ↔ IsObject IsParameter value := by
  refine accepted_readObject_bind fun fields => ?_
  have given := parameterType?_isSome ((Table.get? fields "type").getD (.text "string"))
  dsimp only
  cases htype : parameterType? ((Table.get? fields "type").getD (.text "string")) with
  | none =>
    rw [htype] at given
    refine iff_of_false (not_accepted_error _) fun h => ?_
    simpa using given.mpr h.type
  | some type =>
    rw [htype] at given
    have rest : IsParameter fields ↔ TextUnder fields ["id"] ∧ TextUnder fields ["name"] ∧
        TextUnder fields ["description"] ∧ FlagUnder fields ["required"] ∧ True := by
      constructor
      · rintro ⟨-, required, texts⟩
        simp_all
      · rintro ⟨id, name, description, required, -⟩
        exact ⟨given.mp rfl, required, by simp_all⟩
    rw [rest, ← accepted_readText, ← accepted_readText, ← accepted_readText, ← accepted_readFlag]
    refine accepted_bind_of_forall fun id => accepted_bind_of_forall fun name => ?_
    refine accepted_bind_of_forall fun description => accepted_bind_of_forall fun required => ?_
    exact iff_of_true (accepted_pure _) trivial

/-- The reader accepts a tool exactly when its fields have the documented forms. -/
theorem accepted_readTool (path : Path) (value : Json) :
    Accepted (readTool path value) ↔ IsObject IsTool value := by
  refine accepted_readObject_bind fun fields => ?_
  have rest : IsTool fields ↔ ListUnder fields "parameters" (IsObject IsParameter) ∧
      (TextUnder fields ["id"] ∧ TextUnder fields ["name"] ∧ TextUnder fields ["description"]) := by
    constructor
    · rintro ⟨parameters, texts⟩
      simp_all
    · rintro ⟨parameters, texts⟩
      exact ⟨parameters, by simp_all⟩
  rw [rest]
  refine accepted_readList_bind fun items => ?_
  have order : (∀ item ∈ items, IsObject IsParameter item) ∧
      (TextUnder fields ["id"] ∧ TextUnder fields ["name"] ∧ TextUnder fields ["description"]) ↔
      TextUnder fields ["id"] ∧ TextUnder fields ["name"] ∧ TextUnder fields ["description"] ∧
        (∀ item ∈ items, IsObject IsParameter item) ∧ True := by
    tauto
  rw [order, ← accepted_readText, ← accepted_readText, ← accepted_readText,
    ← accepted_readEach (fun i => accepted_readParameter (path.parameter i)) 0]
  refine accepted_bind_of_forall fun id => accepted_bind_of_forall fun name => ?_
  refine accepted_bind_of_forall fun description => accepted_bind_of_forall fun parameters => ?_
  exact iff_of_true (accepted_pure _) trivial

/-- The integers that have a floating-point number, up to the point halfway between the largest
number and the next power of two. -/
def HasNumber (n : Int) : Prop := n.natAbs < Nat.pow 2 1024 - Nat.pow 2 970

/-- A temperature is left out, or a truth value, a number or a text that spells one; null is
refused, and so is an integer without a binary64 value. -/
theorem accepted_readTemperature (path : Path) (given : Option Json) :
    Accepted (readTemperature path given) ↔ ∀ value ∈ given, IsTemperature HasNumber value := by
  rcases given with - | value
  · exact iff_of_true (accepted_pure _) (by simp)
  have only : (∀ v ∈ some value, IsTemperature HasNumber v) ↔ IsTemperature HasNumber value := by
    simp
  rw [only]
  -- as variables the two conversions are not worked out while the cases are told apart
  obtain ⟨number, hnumber⟩ : ∃ f, f = Binary64.ofInt? := ⟨_, rfl⟩
  obtain ⟨spelled, hspelled⟩ : ∃ f, f = Binary64.ofText? := ⟨_, rfl⟩
  unfold readTemperature
  rw [← hnumber, ← hspelled]
  cases value with
  | real x => exact iff_of_true (accepted_pure x) (.real x)
  | bool b => exact iff_of_true (accepted_pure _) (.bool b)
  | int n =>
    have fits : (number n).isSome ↔ HasNumber n := hnumber ▸ Binary64.isSome_ofInt? n
    dsimp only
    cases hn : number n with
    | none =>
      rw [hn] at fits
      refine iff_of_false (not_accepted_error _) fun h => ?_
      cases h with
      | int has => exact absurd (fits.mpr has) Bool.false_ne_true
    | some x =>
      rw [hn] at fits
      exact iff_of_true (accepted_pure x) (.int (fits.mp rfl))
  | text t =>
    dsimp only
    cases ht : spelled t with
    | none =>
      refine iff_of_false (not_accepted_error _) fun h => ?_
      cases h with
      | text found =>
        rw [← hspelled, ht] at found
        cases found
    | some x => exact iff_of_true (accepted_pure x) (.text (hspelled ▸ ht))
  | null | array | object => exact iff_of_false (not_accepted_error _) fun h => nomatch h

/-- The reader accepts an agent exactly when its fields have the documented forms. -/
theorem accepted_readAgent (path : Path) (value : Json) :
    Accepted (readAgent path value) ↔ IsObject (IsAgent HasNumber) value := by
  refine accepted_readObject_bind fun fields => ?_
  have rest : IsAgent HasNumber fields ↔ ListUnder fields "tools" (IsObject IsTool) ∧
      ((∀ value ∈ Table.get? fields "temperature", IsTemperature HasNumber value) ∧
        ∀ names ∈ agentTexts, TextUnder fields names) := by
    constructor
    · rintro ⟨tools, temperature, texts⟩
      exact ⟨tools, temperature, texts⟩
    · rintro ⟨tools, temperature, texts⟩
      exact ⟨tools, temperature, texts⟩
  rw [rest]
  refine accepted_readList_bind fun items => ?_
  rw [← accepted_readTemperature path, and_left_comm]
  refine accepted_bind_of_forall fun temperature => ?_
  have order : ((∀ item ∈ items, IsObject IsTool item) ∧
      ∀ names ∈ agentTexts, TextUnder fields names) ↔
      TextUnder fields ["id"] ∧ TextUnder fields ["name"] ∧
      TextUnder fields ["system_prompt", "systemPrompt"] ∧
      TextUnder fields ["welcome_message", "welcomeMessage"] ∧
      TextUnder fields ["input_placeholder", "inputPlaceholder"] ∧
      (∀ item ∈ items, IsObject IsTool item) ∧ TextUnder fields ["parentId", "parent_id"] ∧
      TextUnder fields ["llmModel", "llm_model", "model"] ∧ True := by
    simp only [agentTexts, List.forall_mem_cons, List.not_mem_nil, false_implies, implies_true]
    constructor
    · rintro ⟨tools, id, name, prompt, welcome, placeholder, parent, model⟩
      exact ⟨id, name, prompt, welcome, placeholder, tools, parent, model⟩
    · rintro ⟨id, name, prompt, welcome, placeholder, tools, parent, model⟩
      exact ⟨tools, id, name, prompt, welcome, placeholder, parent, model⟩
  rw [order]
  simp only [← accepted_readText]
  rw [← accepted_readEach (fun i => accepted_readTool (path.tool i)) 0]
  refine accepted_bind_of_forall fun id => accepted_bind_of_forall fun name => ?_
  refine accepted_bind_of_forall fun prompt => accepted_bind_of_forall fun welcome => ?_
  refine accepted_bind_of_forall fun placeholder => accepted_bind_of_forall fun tools => ?_
  refine accepted_bind_of_forall fun parent => accepted_bind_of_forall fun model => ?_
  exact iff_of_true (accepted_pure _) trivial

/-! ## Documents -/

theorem accepted_readDeployment (value : Json) :
    Accepted (readDeployment value) ↔ IsObject IsDeployment value := by
  refine accepted_readObject_bind fun fields => ?_
  have order : IsDeployment fields ↔ TextUnder fields ["projectId", "project_id"] ∧
      TextUnder fields ["serviceName", "service_name"] ∧ TextUnder fields ["region"] ∧
      FlagUnder fields ["useMemoryBank", "use_memory_bank"] ∧
      TextUnder fields ["credentialRef", "serviceAccountKeyName", "credential_ref"] ∧ True := by
    constructor
    · rintro ⟨memoryBank, texts⟩
      simp_all [deploymentTexts]
    · rintro ⟨projectId, serviceName, region, memoryBank, credentialRef, -⟩
      exact ⟨memoryBank, by simp_all [deploymentTexts]⟩
  rw [order, ← accepted_readText, ← accepted_readText, ← accepted_readText, ← accepted_readText,
    ← accepted_readFlag]
  refine accepted_bind_of_forall fun projectId => accepted_bind_of_forall fun serviceName => ?_
  refine accepted_bind_of_forall fun region => accepted_bind_of_forall fun memoryBank => ?_
  refine accepted_bind_of_forall fun credentialRef => ?_
  exact iff_of_true (accepted_pure _) trivial

theorem accepted_readAgents (fields : Json.Fields) :
    Accepted (readAgents fields) ↔ ∀ value ∈ Table.get? fields "agents",
      ∃ items, value = .array items ∧ ∀ item ∈ items, IsObject (IsAgent HasNumber) item := by
  unfold readAgents
  cases Table.get? fields "agents" with
  | none => exact iff_of_true (accepted_pure []) (by simp)
  | some value =>
    cases value with
    | array items =>
      dsimp only
      rw [accepted_readEach fun i => accepted_readAgent (Path.agent i)]
      simp
    | _ => exact iff_of_false (not_accepted_error _) (by simp)

theorem under_iff {fields : Json.Fields} {name other : Text} {value : Json} :
    Under fields name other value ↔
      ((Table.get? fields name).orElse fun _ => Table.get? fields other) = some value := by
  rw [Under]
  cases Table.get? fields name <;> simp

theorem accepted_readDeployment_deploymentValue (fields : Json.Fields) :
    Accepted (readDeployment (deploymentValue fields)) ↔
      ∀ value, Under fields "deploymentConfig" "gcpConfig" value →
        value.isVoid ∨ IsObject IsDeployment value := by
  have empty : Accepted (readDeployment (.object [])) := ⟨_, rfl⟩
  simp only [under_iff, deploymentValue]
  cases (Table.get? fields "deploymentConfig").orElse fun _ => Table.get? fields "gcpConfig" with
  | none => exact iff_of_true empty (by simp)
  | some value =>
    dsimp only
    split
    · next void => exact iff_of_true empty (by simp [void])
    · next there =>
      rw [accepted_readDeployment]
      simp [there]

/-- A kind is taken in any case and with blanks around it. Null is read as a text too, which is
the name of no kind. -/
theorem accepted_readKind (fields : Json.Fields) :
    Accepted (readKind fields) ↔ ∀ value, Under fields "workflowType" "workflow_type" value →
      value.asText.trim.lower ∈ kindWords := by
  simp only [under_iff, readKind]
  cases (Table.get? fields "workflowType").orElse fun _ => Table.get? fields "workflow_type" with
  | none => exact iff_of_true (accepted_pure _) (by simp)
  | some value =>
    have found : (workflowKind? value).isSome ↔ value.asText.trim.lower ∈ kindWords := by
      have words : kindWords = WorkflowKind.all.map fun kind => kind.name.lower := by
        decide +kernel
      simp only [workflowKind?, words, List.find?_isSome, List.mem_map, keyword]
      exact exists_congr fun kind => and_congr_right fun _ => decide_eq_true_iff.trans eq_comm
    dsimp only
    unfold readTarget
    cases hk : workflowKind? value with
    | none =>
      rw [hk] at found
      exact iff_of_false (not_accepted_error _) fun h => by simpa using found.mpr (h value rfl)
    | some kind =>
      rw [hk] at found
      refine iff_of_true (accepted_pure kind) ?_
      rintro _ ⟨⟩
      exact found.mp rfl

/-- The reader accepts exactly the documents of the grammar whose integers for temperatures have a
floating-point number. -/
theorem exists_ofJson_iff (document : Json) :
    (∃ w, Workflow.ofJson document = .ok w) ↔ IsObject (IsWorkflow HasNumber) document := by
  cases document with
  | object fields =>
    have parts : IsObject (IsWorkflow HasNumber) (.object fields) ↔ Accepted (readAgents fields) ∧
        Accepted (readDeployment (deploymentValue fields)) ∧ Accepted (readKind fields) ∧ True := by
      rw [accepted_readAgents, accepted_readDeployment_deploymentValue, accepted_readKind]
      constructor
      · rintro ⟨_, ⟨⟩, agents, deployment, kind⟩
        exact ⟨agents, deployment, kind, trivial⟩
      · rintro ⟨agents, deployment, kind, -⟩
        exact ⟨fields, rfl, agents, deployment, kind⟩
    rw [parts]
    refine accepted_bind_of_forall fun agents => accepted_bind_of_forall fun deployment => ?_
    refine accepted_bind_of_forall fun kind => ?_
    exact iff_of_true (accepted_pure _) trivial
  | _ =>
    refine iff_of_false (not_accepted_error _) ?_
    rintro ⟨fields, hd, -⟩
    cases hd

/-- One agent, whose temperature is an integer of 310 digits. -/
def overflowing : Json :=
  .object [("agents", .array [.object [("id", .text "a"), ("temperature", .int (Nat.pow 10 309))]])]

/-- A grammar that admits every integer is too wide. -/
theorem overflowing_refused :
    ¬((∃ w, Workflow.ofJson overflowing = .ok w) ↔
      IsObject (IsWorkflow fun _ => True) overflowing) := by
  intro h
  have grammar : IsObject (IsWorkflow fun _ => True) overflowing := by
    refine ⟨_, rfl, ?_, ?_, ?_⟩
    · rintro _ ⟨⟩
      refine ⟨_, rfl, fun item hitem => ?_⟩
      cases List.mem_singleton.mp hitem
      refine ⟨_, rfl, ?_, ?_, ?_⟩
      · rintro _ ⟨⟩
      · rintro _ ⟨⟩
        exact .int trivial
      · exact fun names _ => textUnder_of_forall (by decide +kernel)
    · rintro _ (⟨⟨⟩⟩ | ⟨-, ⟨⟩⟩)
    · rintro _ (⟨⟨⟩⟩ | ⟨-, ⟨⟩⟩)
  obtain ⟨w, hw⟩ := h.mpr grammar
  obtain ⟨agents, hagents, -⟩ := accepted_bind.mp ⟨w, hw⟩
  obtain ⟨_, ⟨⟩, good⟩ := (accepted_readAgents _).mp ⟨agents, hagents⟩ _ rfl
  obtain ⟨_, ⟨⟩, agent⟩ := good _ List.mem_cons_self
  cases agent.temperature _ rfl with
  | int has => exact absurd has (by unfold HasNumber; decide +kernel)

end Document

end AgentWorkflow
