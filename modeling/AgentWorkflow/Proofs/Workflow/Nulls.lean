import AgentWorkflow.Proofs.Text.Tables
import AgentWorkflow.Proofs.Workflow.Grammar
import AgentWorkflow.Proofs.Workflow.Messages
import AgentWorkflow.Proofs.Workflow.Unread

/-!
# Null under the first spelling

Some fields of a document have several spellings. A text or a truth value is taken from the first
spelling that is there and not null, so a null under the first spelling is as good as nothing. The
deployment settings and the kind of a workflow are taken from the first spelling that is there. A
null under it hides the other one: it stands for empty settings, and it names no kind.

Results:
1. `readAgent_of_nulled`, `readDeployment_of_nulled`: a null in an agent or in the settings is not
   seen.
2. `nullIsMissing_iff`: where a null under the first spelling is as good as nothing, and in which
   documents it is not.
-/

namespace AgentWorkflow

namespace Document

/-! ## Places -/

/-- Edits the fields of an object. Any other value stays. -/
def onFields (f : Json.Fields → Json.Fields) : Json → Json
  | .object fields => .object (f fields)
  | value => value

/-- Edits one item of a list. Any other value stays. -/
def onItem (i : Nat) (f : Json → Json) : Json → Json
  | .array items => .array (items.modify i f)
  | value => value

/-- Where a document has fields with several spellings: in itself, in one of its agents, and in its
deployment settings, which have two spellings themselves. -/
inductive Place
  | document
  | agent (i : Nat)
  | settings
  | oldSettings

namespace Place

/-- Edits the fields at a place. A document without the place stays. -/
def edit (f : Json.Fields → Json.Fields) : Place → Json → Json
  | document => onFields f
  | agent i => onFields (Table.modify "agents" (onItem i (onFields f)))
  | settings => onFields (Table.modify "deploymentConfig" (onFields f))
  | oldSettings => onFields (Table.modify "gcpConfig" (onFields f))

/-- The spellings of the fields at a place, each in the order in which they are tried. -/
def spellings : Place → List (List Text)
  | document => [["deploymentConfig", "gcpConfig"], ["workflowType", "workflow_type"]]
  | agent _ => agentTexts
  | settings | oldSettings => ["useMemoryBank", "use_memory_bank"] :: deploymentTexts

end Place

/-- A document is read with null under a name as it is read without that name. -/
def NullIsMissing (place : Place) (name : Text) (document : Json) : Prop :=
  Workflow.ofJson (place.edit (Table.set name .null) document)
    = Workflow.ofJson (place.edit (Table.without [name]) document)

/-- What is read from the deployment settings in the old spelling. -/
def oldDeployment (fields : Json.Fields) : Reading Deployment :=
  readDeployment (deploymentValue (fields.without ["deploymentConfig"]))

/-- `NullIsSeen name place document`: the document is read otherwise if there is null under the name
than if there is nothing. The agents have to be accepted, or they are all that is reported. -/
inductive NullIsSeen (name : Text) : Place → Json → Prop
  /-- Null hides settings in the old spelling: an error in them, or what they say in a document whose
  kind is accepted too. -/
  | settings {fields : Json.Fields} : name = "deploymentConfig" → Accepted (readAgents fields) →
      oldDeployment fields ≠ .ok {} → (Accepted (oldDeployment fields) → Accepted (readKind fields)) →
      NullIsSeen name .document (.object fields)
  /-- Null names no kind. The error is the same as without it if there is null in the old spelling
  too. -/
  | kind {fields : Json.Fields} : name = "workflowType" → Accepted (readAgents fields) →
      Accepted (readDeployment (deploymentValue fields)) →
      Table.get? fields "workflow_type" ≠ some .null → NullIsSeen name .document (.object fields)

/-! ## Null and nothing -/

/-- Fields that differ under one name: there is null in the first and nothing in the second. -/
structure Nulled (name : Text) (fields others : Json.Fields) : Prop where
  null : Table.get? fields name = some .null
  missing : Table.get? others name = none
  rest : ∀ other, other ≠ name → Table.get? fields other = Table.get? others other

theorem nulled_set_without (name : Text) (fields : Json.Fields) :
    Nulled name (Table.set name .null fields) (fields.without [name]) where
  null := Table.get?_set_self name .null fields
  missing := by rw [Table.get?_without, if_pos (List.mem_singleton.mpr rfl)]
  rest other apart := by
    rw [Table.get?_set_of_ne apart, Table.get?_without, if_neg (mt List.mem_singleton.mp apart)]

section Nulled

variable {name : Text} {fields others : Json.Fields} (h : Nulled name fields others)

include h

theorem Nulled.agreeOn {names : List Text} (unread : name ∉ names) : AgreeOn names fields others :=
  fun _ hn => h.rest _ (ne_of_mem_of_not_mem hn unread)

theorem Nulled.firstGiven?_eq (names : List Text) :
    firstGiven? fields names = firstGiven? others names := by
  induction names with
  | nil => rfl
  | cons other names ih =>
    rw [firstGiven?, firstGiven?, ih]
    by_cases same : other = name
    · subst same
      rw [h.null, h.missing]
    · rw [h.rest other same]

theorem Nulled.readText_eq (names : List Text) : readText fields names = readText others names := by
  rw [readText, readText, h.firstGiven?_eq]

theorem Nulled.readFlag_eq (path : Path) (default : Bool) (names : List Text) :
    readFlag fields path default names = readFlag others path default names := by
  rw [readFlag, readFlag, h.firstGiven?_eq]

end Nulled

section Parts

variable {name : Text} {value other : Json} (h : AlikeObject (Nulled name) value other)

include h

theorem readDeployment_of_nulled : readDeployment value = readDeployment other :=
  readObject_bind_congr h _ fun _ _ null => by simp only [null.readText_eq, null.readFlag_eq]

theorem readAgent_of_nulled (path : Path) (apart : name ∉ (["tools", "temperature"] : List Text)) :
    readAgent path value = readAgent path other := by
  refine readObject_bind_congr h _ fun fields others null => ?_
  have own := null.agreeOn apart
  simp only [own "tools" (by decide), own "temperature" (by decide), null.readText_eq]

end Parts

/-! ## Edits side by side -/

section Edits

variable {R : Json.Fields → Json.Fields → Prop} {f g : Json.Fields → Json.Fields}

theorem alikeObject_onFields (h : ∀ fields, R (f fields) (g fields)) (value : Json) :
    AlikeObject R (onFields f value) (onFields g value) := by
  cases value with
  | object fields => exact .object (h fields)
  | _ => exact .same _

theorem forall₂_modify {S : Json → Json → Prop} {f g : Json → Json} (refl : ∀ value, S value value)
    (h : ∀ value, S (f value) (g value)) (items : List Json) (i : Nat) :
    List.Forall₂ S (items.modify i f) (items.modify i g) := by
  induction items generalizing i with
  | nil => simp
  | cons item items ih =>
    cases i with
    | zero => exact .cons (h item) (List.forall₂_same.mpr fun value _ => refl value)
    | succ i => exact .cons (refl item) (ih i)

theorem alikeList_onItem (h : ∀ fields, R (f fields) (g fields)) (i : Nat) (value : Json) :
    AlikeList R (onItem i (onFields f) value) (onItem i (onFields g) value) := by
  cases value with
  | array items => exact .array (forall₂_modify .same (alikeObject_onFields h) items i)
  | _ => exact .same _

theorem rel_get?_modify {S : Json → Json → Prop} {f g : Json → Json}
    (refl : ∀ value, S value value) (h : ∀ value, S (f value) (g value)) (key name : Text)
    (fields : Json.Fields) :
    Option.Rel S (Table.get? (Table.modify key f fields) name)
      (Table.get? (Table.modify key g fields) name) := by
  rw [Table.get?_modify, Table.get?_modify]
  split
  · cases Table.get? fields name with
    | none => exact .none
    | some value => exact .some (h value)
  · exact rel_of_eq refl rfl

theorem agreeOn_modify {names : List Text} {key : Text} (unread : key ∉ names) (f g : Json → Json)
    (fields : Json.Fields) : AgreeOn names (Table.modify key f fields) (Table.modify key g fields) := by
  intro name hn
  have apart := ne_of_mem_of_not_mem hn unread
  rw [Table.get?_modify, Table.get?_modify, if_neg apart, if_neg apart]

end Edits

/-! ## Agents and settings -/

section Agree

variable {fields others : Json.Fields}

theorem readAgents_of_agreeOn (h : AgreeOn ["agents"] fields others) :
    readAgents fields = readAgents others := by
  rw [readAgents, readAgents, h "agents" (by decide)]

theorem deploymentValue_of_agreeOn (h : AgreeOn ["deploymentConfig", "gcpConfig"] fields others) :
    deploymentValue fields = deploymentValue others := by
  rw [deploymentValue, deploymentValue, h "deploymentConfig" (by decide), h "gcpConfig" (by decide)]

end Agree

/-- A null in an agent is skipped like a missing value, under every name but those of its tools and
temperature. -/
theorem nullIsMissing_agent {name : Text} (apart : name ∉ (["tools", "temperature"] : List Text))
    (i : Nat) (document : Json) : NullIsMissing (.agent i) name document := by
  cases document with
  | object fields =>
    have agents := rel_get?_modify .same (alikeList_onItem (nulled_set_without name) i) "agents"
      "agents" fields
    refine ofJson_congr (readAgents_congr (fun i _ _ h => ?_) agents)
      (congrArg readDeployment (deploymentValue_of_agreeOn ?_)) (readKind_congr ?_)
    · exact readAgent_of_nulled h (Path.agent i) apart
    · exact agreeOn_modify (by decide) _ _ fields
    · exact agreeOn_modify (by decide) _ _ fields
  | _ => rfl

theorem ofJson_modify_settings {key : Text}
    (hk : key ∈ (["deploymentConfig", "gcpConfig"] : List Text)) (name : Text)
    (fields : Json.Fields) :
    Workflow.ofJson (.object (Table.modify key (onFields (Table.set name .null)) fields))
      = Workflow.ofJson (.object (Table.modify key (onFields (Table.without [name])) fields)) := by
  have unread : ∀ key ∈ (["deploymentConfig", "gcpConfig"] : List Text),
      key ∉ (["agents"] : List Text) ∧ key ∉ (["workflowType", "workflow_type"] : List Text) := by
    decide
  have settings (other : Text) := rel_get?_modify .same
    (alikeObject_onFields (nulled_set_without name)) key other fields
  refine ofJson_congr (readAgents_of_agreeOn ?_)
    (readDeployment_of_nulled (alike_deploymentValue fun other _ => settings other))
    (readKind_congr ?_)
  · exact agreeOn_modify (unread key hk).1 _ _ fields
  · exact agreeOn_modify (unread key hk).2 _ _ fields

theorem nullIsMissing_settings (name : Text) (document : Json) :
    NullIsMissing .settings name document ∧ NullIsMissing .oldSettings name document := by
  cases document with
  | object fields =>
    exact ⟨ofJson_modify_settings (by decide) name fields,
      ofJson_modify_settings (by decide) name fields⟩
  | _ => exact ⟨rfl, rfl⟩

/-! ## The document itself -/

def ofParts (agents : Reading (List Agent)) (deployment : Reading Deployment)
    (kind : Reading WorkflowKind) : Reading Workflow := do
  return { agents := ← agents, deployment := ← deployment, kind := ← kind }

theorem ofJson_object (fields : Json.Fields) :
    Workflow.ofJson (.object fields) = ofParts (readAgents fields)
      (readDeployment (deploymentValue fields)) (readKind fields) := rfl

section Parts

variable {agents : Reading (List Agent)} {deployment : Reading Deployment}
  {kind : Reading WorkflowKind}

theorem ofParts_ok_deployment_iff (apart : ∀ e, deployment = .error e → kind ≠ .error e)
    (d : Deployment) :
    ofParts agents (.ok d) kind = ofParts agents deployment kind ↔
      ¬(Accepted agents ∧ deployment ≠ .ok d ∧ (Accepted deployment → Accepted kind)) := by
  cases agents <;> cases deployment <;> cases kind <;>
    simp_all [ofParts, Accepted, bind, Except.bind, pure, Except.pure, eq_comm]

theorem ofParts_error_kind_iff (e : DocumentError) :
    ofParts agents deployment (.error e) = ofParts agents deployment kind ↔
      ¬(Accepted agents ∧ Accepted deployment ∧ kind ≠ .error e) := by
  cases agents <;> cases deployment <;> cases kind <;>
    simp [ofParts, Accepted, bind, Except.bind, pure, Except.pure, eq_comm]

end Parts

theorem exists_of_readKind_error {fields : Json.Fields} {e : DocumentError}
    (h : readKind fields = .error e) : ∃ value, e = .malformed (.unknownKind value) := by
  unfold readKind readTarget at h
  split at h
  · cases h
  · split at h
    · cases h
    · cases h
      exact ⟨_, rfl⟩

/-- A reason that is not about the kind. -/
def NamesNoKind (e : DocumentError) : Prop := ∀ value, e ≠ .malformed (.unknownKind value)

theorem stopsBy_namesNoKind (value : Json) : StopsBy NamesNoKind (readDeployment value) := by
  have text (fields : Json.Fields) (names : List Text) :
      StopsBy NamesNoKind (readText fields names) := by
    unfold readText
    split
    · exact stopsBy_ok []
    · split
      · exact stopsBy_ok _
      · rintro _ ⟨⟩ _ ⟨⟩
  have flag (fields : Json.Fields) (path : Path) (names : List Text) :
      StopsBy NamesNoKind (readFlag fields path false names) := by
    unfold readFlag
    split
    · exact stopsBy_ok false
    · exact stopsBy_ok _
    · rintro _ ⟨⟩ _ ⟨⟩
  have object (path : Path) : StopsBy NamesNoKind (readObject path value) := by
    unfold readObject
    split
    · exact stopsBy_ok _
    · rintro _ ⟨⟩ _ ⟨⟩
  exact (object _).bind fun fields => (text fields _).bind fun projectId =>
    (text fields _).bind fun serviceName => (text fields _).bind fun region =>
      (flag fields _ _).bind fun memoryBank => (text fields _).bind fun credentialRef =>
        stopsBy_ok _

theorem agreeOn_set {names : List Text} {name : Text} (unread : name ∉ names) (value : Json)
    (fields : Json.Fields) : AgreeOn names (Table.set name value fields) fields :=
  fun _ hn => Table.get?_set_of_ne (ne_of_mem_of_not_mem hn unread) value fields

theorem agreeOn_without {names : List Text} {name : Text} (unread : name ∉ names)
    (fields : Json.Fields) : AgreeOn names (fields.without [name]) fields := by
  intro other ho
  have apart := ne_of_mem_of_not_mem ho unread
  rw [Table.get?_without, if_neg (mt List.mem_singleton.mp apart)]

/-- A null under the new name hides the settings under the old one, unless this makes no
difference to what is read. -/
theorem nullIsMissing_deploymentConfig_iff (fields : Json.Fields) :
    NullIsMissing .document "deploymentConfig" (.object fields) ↔
      ¬(Accepted (readAgents fields) ∧ oldDeployment fields ≠ .ok {} ∧
        (Accepted (oldDeployment fields) → Accepted (readKind fields))) := by
  have apart : ∀ e, oldDeployment fields = .error e → readKind fields ≠ .error e := by
    intro e stopped refused
    obtain ⟨value, rfl⟩ := exists_of_readKind_error refused
    exact stopsBy_namesNoKind _ _ stopped value rfl
  have empty : readDeployment (deploymentValue (Table.set "deploymentConfig" .null fields))
      = .ok {} := by
    rw [deploymentValue, Table.get?_set_self]
    rfl
  rw [← ofParts_ok_deployment_iff apart, NullIsMissing, oldDeployment]
  dsimp only [Place.edit, onFields]
  rw [ofJson_object, ofJson_object, empty, readAgents_of_agreeOn (agreeOn_set (by decide) _ _),
    readAgents_of_agreeOn (agreeOn_without (by decide) _),
    readKind_congr (agreeOn_set (by decide) _ _), readKind_congr (agreeOn_without (by decide) _)]

theorem readTarget_eq_refuse_null_iff {value : Json} :
    readTarget value = refuse (.unknownKind .null) ↔ value = .null := by
  constructor
  · intro h
    unfold readTarget at h
    split at h
    · cases h
    · cases h
      rfl
  · rintro rfl
    rfl

theorem readKind_without_iff (fields : Json.Fields) :
    readKind (fields.without ["workflowType"]) = refuse (.unknownKind .null) ↔
      Table.get? fields "workflow_type" = some .null := by
  have kept : ("workflow_type" : Text) ∉ (["workflowType"] : List Text) := by decide
  rw [readKind, Table.get?_without, if_pos (by decide), Table.get?_without, if_neg kept]
  dsimp only [Option.orElse]
  cases Table.get? fields "workflow_type" with
  | none => exact iff_of_false (by rintro ⟨⟩) (by rintro ⟨⟩)
  | some value => rw [readTarget_eq_refuse_null_iff, Option.some.injEq]

/-- A null under the new name is read as a kind, unless the reading stops before it gets there or
the old name has a null as well. -/
theorem nullIsMissing_workflowType_iff (fields : Json.Fields) :
    NullIsMissing .document "workflowType" (.object fields) ↔
      ¬(Accepted (readAgents fields) ∧ Accepted (readDeployment (deploymentValue fields)) ∧
        Table.get? fields "workflow_type" ≠ some .null) := by
  have refused : readKind (Table.set "workflowType" .null fields) = refuse (.unknownKind .null) := by
    rw [readKind, Table.get?_set_self]
    rfl
  rw [Ne, ← readKind_without_iff, ← Ne, refuse, ← ofParts_error_kind_iff, NullIsMissing]
  dsimp only [Place.edit, onFields]
  rw [ofJson_object, ofJson_object, refused, readAgents_of_agreeOn (agreeOn_set (by decide) _ _),
    readAgents_of_agreeOn (agreeOn_without (by decide) _),
    deploymentValue_of_agreeOn (agreeOn_set (by decide) _ _),
    deploymentValue_of_agreeOn (agreeOn_without (by decide) _), refuse]

/-- The two fields of the document itself: a null is taken for a missing value unless it is
seen. -/
theorem nullIsMissing_document_iff {name : Text} {others : List Text}
    (h : name :: others ∈ Place.document.spellings) (document : Json) :
    NullIsMissing .document name document ↔ ¬NullIsSeen name .document document := by
  have names : name = "deploymentConfig" ∨ name = "workflowType" := by
    simp only [Place.spellings, List.mem_cons, List.cons.injEq, List.not_mem_nil, or_false] at h
    exact h.imp And.left And.left
  have apart : ("deploymentConfig" : Text) ≠ "workflowType" := by decide
  cases document with
  | object fields =>
    rcases names with rfl | rfl
    · rw [nullIsMissing_deploymentConfig_iff]
      refine not_congr ⟨fun ⟨agents, said, kind⟩ => .settings rfl agents said kind, ?_⟩
      rintro (⟨-, agents, said, kind⟩ | ⟨other, -⟩)
      · exact ⟨agents, said, kind⟩
      · exact absurd other apart
    · rw [nullIsMissing_workflowType_iff]
      refine not_congr ⟨fun ⟨agents, deployment, given⟩ => .kind rfl agents deployment given, ?_⟩
      rintro (⟨other, -⟩ | ⟨-, agents, deployment, given⟩)
      · exact absurd other.symm apart
      · exact ⟨agents, deployment, given⟩
  | _ => exact iff_of_true rfl (by rintro ⟨⟩)

/-- Null under the first spelling of a field is read as nothing in all places and documents but
those in which it is seen. -/
theorem nullIsMissing_iff {place : Place} {name : Text} {others : List Text}
    (h : name :: others ∈ place.spellings) (document : Json) :
    NullIsMissing place name document ↔ ¬NullIsSeen name place document := by
  have texts : ∀ names ∈ agentTexts, ∀ name ∈ names, name ∉ (["tools", "temperature"] : List Text) := by
    decide
  cases place with
  | document => exact nullIsMissing_document_iff h document
  | agent i =>
    have apart := texts _ h name List.mem_cons_self
    exact iff_of_true (nullIsMissing_agent apart i document) (by rintro ⟨⟩)
  | settings => exact iff_of_true (nullIsMissing_settings name document).1 (by rintro ⟨⟩)
  | oldSettings => exact iff_of_true (nullIsMissing_settings name document).2 (by rintro ⟨⟩)

/-- A document with settings, a kind and the parent of an agent in the spellings that come second.
-/
def secondSpellings : Json := .object
  [("agents", .array [.object [("id", .text "a"), ("name", .text "lead")],
      .object [("id", .text "b"), ("name", .text "writer"), ("parent_id", .text "a")]]),
    ("gcpConfig", .object [("projectId", .text "my-gcp-project")]),
    ("workflow_type", .text "Hierarchical")]

/-- A null in front of the second spelling hides the settings and the kind, and not the parent
of an agent. -/
theorem secondSpellings_seen :
    ¬NullIsMissing .document "deploymentConfig" secondSpellings ∧
      ¬NullIsMissing .document "workflowType" secondSpellings ∧
      NullIsMissing (.agent 1) "parentId" secondSpellings := by
  have settings : ("deploymentConfig" : Text) :: ["gcpConfig"] ∈ Place.document.spellings := by
    decide
  have kind : ("workflowType" : Text) :: ["workflow_type"] ∈ Place.document.spellings := by decide
  have parent : ("parentId" : Text) :: ["parent_id"] ∈ (Place.agent 1).spellings := by decide
  refine ⟨(nullIsMissing_iff settings _).not_left.mpr (.settings rfl ⟨_, rfl⟩ ?_ fun _ => ⟨_, rfl⟩),
    (nullIsMissing_iff kind _).not_left.mpr (.kind rfl ⟨_, rfl⟩ ⟨_, rfl⟩ ?_),
    (nullIsMissing_iff parent _).mpr (by rintro ⟨⟩)⟩
  · intro same
    have project := congrArg (fun read => read.toOption.map (·.projectId)) same
    revert project
    decide +kernel
  · intro same
    cases same

end Document

end AgentWorkflow
