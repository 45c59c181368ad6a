import AgentWorkflow.Proofs.Text.Lacking
import AgentWorkflow.Workflow.Document

/-!
# Messages about documents

What stops the reading of a document is a reason that mentions fields by known names only, or a
temperature beyond every floating-point number, and the latter can only come from the temperature of
an agent. The message about a document that is refused therefore has no line feed: what it shows of
the document is quoted, and the path that it names consists of known names and positions.

Results:
1. `stopsBy_readTool`, `stopsBy_readDeployment`, `stopsBy_readKind`: parts that are read or refused
   with a reason.
2. `stopsBy_readAgent`, `stopsBy_ofJson`: the parts with a temperature in them.
3. `terse_ofJson`: the message has no line feed.
-/

namespace AgentWorkflow

namespace Document

/-! ## Paths -/

/-- The names of fields that a message about a document can mention. -/
def fieldNames : List Text :=
  ["agents", "tools", "parameters", "deploymentConfig", "type", "temperature", "required",
   "useMemoryBank", "use_memory_bank", "id", "name", "description", "system_prompt",
   "systemPrompt", "welcome_message", "welcomeMessage", "input_placeholder", "inputPlaceholder",
   "parentId", "parent_id", "llmModel", "llm_model", "model", "projectId", "project_id",
   "serviceName", "service_name", "region", "credentialRef", "serviceAccountKeyName",
   "credential_ref"]

/-- True of a step whose name, if it has one, is known. -/
def isKnown : Step → Bool
  | .field name => fieldNames.contains name
  | .item _ => true

theorem isKnown_field {p : Path} {name : Text} (h : p.all isKnown) (hn : name ∈ fieldNames) :
    (p.field name).all isKnown := by
  simp [Path.field, h, isKnown, hn]

theorem isKnown_item {p : Path} (h : p.all isKnown) (index : Nat) : (p.item index).all isKnown := by
  simp [Path.item, h, isKnown]

/-- The reason mentions fields by known names only. -/
def HasKnownNames : Malformation → Prop
  | .objectExpected path _ | .listExpected path _ | .numberExpected path _ | .flagExpected path _
  | .unknownType path _ => path.all isKnown
  | .unencodable name _ => name ∈ fieldNames
  | .notAnObject _ | .agentsNotAList _ | .unknownKind _ => True

/-- The document is refused with such a reason. -/
def IsReported (e : DocumentError) : Prop := ∃ reason, e = .malformed reason ∧ HasKnownNames reason

/-- `StopsBy P r`: what stops the reading, if anything, satisfies `P`. -/
def StopsBy {α : Type} (P : DocumentError → Prop) (r : Reading α) : Prop := ∀ e, r = .error e → P e

section StopsBy

variable {α β : Type} {P Q : DocumentError → Prop} {r : Reading α} {path : Path}
  {fields : Json.Fields} {names : List Text}

theorem stopsBy_ok (x : α) : StopsBy P (.ok x : Reading α) := by
  rintro e ⟨⟩

theorem stopsBy_refuse {reason : Malformation} (h : HasKnownNames reason) :
    StopsBy IsReported (refuse reason : Reading α) := by
  rintro _ ⟨⟩
  exact ⟨reason, rfl, h⟩

theorem StopsBy.mono (h : StopsBy P r) (weaker : ∀ e, P e → Q e) : StopsBy Q r :=
  fun e stopped => weaker e (h e stopped)

theorem bind_eq_error {f : α → Reading β} {e : DocumentError} :
    (r >>= f) = .error e ↔ r = .error e ∨ ∃ x, r = .ok x ∧ f x = .error e := by
  cases r <;> simp [bind, Except.bind]

theorem StopsBy.bind {f : α → Reading β} (h : StopsBy P r) (hf : ∀ x, StopsBy P (f x)) :
    StopsBy P (r >>= f) := by
  intro e stopped
  rcases bind_eq_error.mp stopped with stopped | ⟨x, -, stopped⟩
  · exact h e stopped
  · exact hf x e stopped

theorem stopsBy_readEach {read : Nat → Json → Reading α} (h : ∀ i item, StopsBy P (read i item))
    (i : Nat) (items : List Json) : StopsBy P (readEach read i items) := by
  induction items generalizing i with
  | nil => exact stopsBy_ok []
  | cons item items ih =>
    exact (h i item).bind fun x => (ih (i + 1)).bind fun xs => stopsBy_ok (x :: xs)

/-! ## The parts of a document -/

theorem mem_of_firstGiven? {given : Text × Json} (h : firstGiven? fields names = some given) :
    given.1 ∈ names := by
  induction names with
  | nil => cases h
  | cons name names ih =>
    rw [firstGiven?] at h
    split at h
    · exact List.mem_cons_of_mem name (ih h)
    · exact List.mem_cons_of_mem name (ih h)
    · cases h
      exact List.mem_cons_self

theorem stopsBy_readText (h : names ⊆ fieldNames) :
    StopsBy IsReported (readText fields names) := by
  unfold readText
  split
  · exact stopsBy_ok []
  · next name value given =>
    split
    · exact stopsBy_ok _
    · exact stopsBy_refuse (h (mem_of_firstGiven? given))

theorem stopsBy_readFlag (hp : path.all isKnown) (default : Bool) (h : names ⊆ fieldNames) :
    StopsBy IsReported (readFlag fields path default names) := by
  unfold readFlag
  split
  · exact stopsBy_ok default
  · exact stopsBy_ok _
  · next name value _ given =>
    exact stopsBy_refuse (isKnown_field hp (h (mem_of_firstGiven? given)))

theorem stopsBy_readObject (hp : path.all isKnown) (value : Json) :
    StopsBy IsReported (readObject path value) := by
  unfold readObject
  split
  · exact stopsBy_ok _
  · exact stopsBy_refuse hp

theorem stopsBy_readList (hp : path.all isKnown) (value : Option Json) :
    StopsBy IsReported (readList path value) := by
  unfold readList
  split
  · exact stopsBy_ok []
  · exact stopsBy_ok []
  · exact stopsBy_ok _
  · exact stopsBy_refuse hp

theorem stopsBy_readParameter (hp : path.all isKnown) (value : Json) :
    StopsBy IsReported (readParameter path value) := by
  refine (stopsBy_readObject hp value).bind fun fields => ?_
  dsimp only
  split
  · exact stopsBy_refuse (isKnown_field hp (by simp [fieldNames]))
  · exact (stopsBy_readText (by simp [fieldNames])).bind fun id =>
      (stopsBy_readText (by simp [fieldNames])).bind fun name =>
        (stopsBy_readText (by simp [fieldNames])).bind fun description =>
          (stopsBy_readFlag hp true (by simp [fieldNames])).bind fun required => stopsBy_ok _

theorem stopsBy_readTool (hp : path.all isKnown) (value : Json) :
    StopsBy IsReported (readTool path value) := by
  have parameters : (path.field "parameters").all isKnown := isKnown_field hp (by simp [fieldNames])
  refine (stopsBy_readObject hp value).bind fun fields => ?_
  refine (stopsBy_readList parameters _).bind fun items => ?_
  exact (stopsBy_readText (by simp [fieldNames])).bind fun id =>
    (stopsBy_readText (by simp [fieldNames])).bind fun name =>
      (stopsBy_readText (by simp [fieldNames])).bind fun description =>
        (stopsBy_readEach (fun i => stopsBy_readParameter (isKnown_item parameters i)) 0
          items).bind fun parameters => stopsBy_ok _

theorem stopsBy_readDeployment (value : Json) : StopsBy IsReported (readDeployment value) := by
  have settings : List.all [Step.field "deploymentConfig"] isKnown := by simp [isKnown, fieldNames]
  refine (stopsBy_readObject settings value).bind fun fields => ?_
  exact (stopsBy_readText (by simp [fieldNames])).bind fun projectId =>
    (stopsBy_readText (by simp [fieldNames])).bind fun serviceName =>
      (stopsBy_readText (by simp [fieldNames])).bind fun region =>
        (stopsBy_readFlag settings false (by simp [fieldNames])).bind fun memoryBank =>
          (stopsBy_readText (by simp [fieldNames])).bind fun credentialRef => stopsBy_ok _

theorem stopsBy_readKind (fields : Json.Fields) : StopsBy IsReported (readKind fields) := by
  unfold readKind
  split
  · exact stopsBy_ok _
  · unfold readTarget
    split
    · exact stopsBy_ok _
    · exact stopsBy_refuse trivial

/-! ## The parts with a temperature -/

/-- The document is refused with a reason, or stops the reader by a temperature. -/
def IsReportedOrOverflow (e : DocumentError) : Prop := e = .temperatureTooLarge ∨ IsReported e

theorem StopsBy.orOverflow (h : StopsBy IsReported r) : StopsBy IsReportedOrOverflow r :=
  h.mono fun _ => .inr

/-- Reading a temperature stops with an error that is reported, or with the overflow. -/
theorem stopsBy_readTemperature (hp : path.all isKnown) (given : Option Json) :
    StopsBy IsReportedOrOverflow (readTemperature path given) := by
  have refusal : ∀ v, StopsBy IsReportedOrOverflow
      (refuse (.numberExpected (path.field "temperature") v) : Reading Binary64) :=
    fun v => StopsBy.orOverflow (stopsBy_refuse (isKnown_field hp (by simp [fieldNames])))
  -- as variables the two conversions are not worked out while the cases are told apart
  obtain ⟨number, hnumber⟩ : ∃ f, f = Binary64.ofInt? := ⟨_, rfl⟩
  obtain ⟨spelled, hspelled⟩ : ∃ f, f = Binary64.ofText? := ⟨_, rfl⟩
  unfold readTemperature
  rw [← hnumber, ← hspelled]
  rcases given with - | value
  · exact stopsBy_ok _
  · cases value with
    | real x => exact stopsBy_ok x
    | bool b => exact stopsBy_ok _
    | int n =>
      dsimp only
      cases number n with
      | none =>
        rintro e ⟨⟩
        exact .inl rfl
      | some x => exact stopsBy_ok x
    | text t =>
      dsimp only
      cases spelled t with
      | none => exact refusal _
      | some x => exact stopsBy_ok x
    | null | array | object => exact refusal _

/-- What stops the reading of an agent is a reason, unless it is the temperature, which is read
before all but the fields and the list of tools. -/
theorem readAgent_error_cases (hp : path.all isKnown) {value : Json} {e : DocumentError}
    (stopped : readAgent path value = .error e) : IsReported e ∨
      ∃ fields items, readObject path value = .ok fields ∧
        readList (path.field "tools") (Table.get? fields "tools") = .ok items ∧
        readTemperature path (Table.get? fields "temperature") = .error e := by
  have tools : (path.field "tools").all isKnown := isKnown_field hp (by simp [fieldNames])
  rcases bind_eq_error.mp stopped with stopped | ⟨fields, object, stopped⟩
  · exact .inl (stopsBy_readObject hp value e stopped)
  rcases bind_eq_error.mp stopped with stopped | ⟨items, listed, stopped⟩
  · exact .inl (stopsBy_readList tools _ e stopped)
  rcases bind_eq_error.mp stopped with stopped | ⟨temperature, -, stopped⟩
  · exact .inr ⟨fields, items, object, listed, stopped⟩
  refine .inl (StopsBy.bind ?_ ?_ e stopped)
  · exact stopsBy_readText (by simp [fieldNames])
  · exact fun id => (stopsBy_readText (by simp [fieldNames])).bind
      fun name => (stopsBy_readText (by simp [fieldNames])).bind fun systemPrompt =>
        (stopsBy_readText (by simp [fieldNames])).bind fun welcomeMessage =>
          (stopsBy_readText (by simp [fieldNames])).bind fun inputPlaceholder =>
            (stopsBy_readEach (fun i => stopsBy_readTool (isKnown_item tools i)) 0 items).bind
              fun tools => (stopsBy_readText (by simp [fieldNames])).bind fun parent =>
                (stopsBy_readText (by simp [fieldNames])).bind fun model => stopsBy_ok _

theorem stopsBy_readAgent (hp : path.all isKnown) (value : Json) :
    StopsBy IsReportedOrOverflow (readAgent path value) := by
  intro e stopped
  rcases readAgent_error_cases hp stopped with reported | ⟨fields, items, -, -, stopped⟩
  · exact .inr reported
  · exact stopsBy_readTemperature hp _ e stopped

theorem isKnown_agent (i : Nat) : (Path.agent i).all isKnown := by
  have agents : fieldNames.contains ("agents" : Text) := by simp [fieldNames]
  simp only [Path.agent, List.all_cons, List.all_nil, isKnown, agents, Bool.and_self]

theorem stopsBy_readAgents (fields : Json.Fields) :
    StopsBy IsReportedOrOverflow (readAgents fields) := by
  unfold readAgents
  split
  · exact stopsBy_ok []
  · exact stopsBy_readEach (fun i => stopsBy_readAgent (isKnown_agent i)) 0 _
  · exact StopsBy.orOverflow (stopsBy_refuse trivial)

end StopsBy

theorem stopsBy_ofJson (value : Json) : StopsBy IsReportedOrOverflow (Workflow.ofJson value) := by
  unfold Workflow.ofJson
  split
  · refine (stopsBy_readAgents _).bind fun agents => StopsBy.orOverflow ?_
    exact (stopsBy_readDeployment _).bind fun deployment => (stopsBy_readKind _).bind
      fun kind => stopsBy_ok _
  · exact StopsBy.orOverflow (stopsBy_refuse trivial)

/-! ## The message -/

theorem hasKnownNames_of_ofJson {value : Json} {reason : Malformation}
    (refused : Workflow.ofJson value = .error (.malformed reason)) : HasKnownNames reason := by
  rcases stopsBy_ofJson value _ refused with ⟨⟨⟩⟩ | ⟨_, ⟨⟩, known⟩
  exact known

end Document

end AgentWorkflow
