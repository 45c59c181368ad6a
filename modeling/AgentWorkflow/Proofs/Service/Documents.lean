import AgentWorkflow.Proofs.Text.Tables
import AgentWorkflow.Proofs.Workflow.Unread
import AgentWorkflow.Service.Form

/-!
# Forms and documents

A form gives a workflow by building a document of its own. The reader of documents understands
spellings of the deployment settings and of the kind that no form declares. They are dropped with
every other undeclared field, so that the form's document says what the whole body says without
them.

Results:
1. `ofJson_document`: the document of a form is read as the body without the old spellings, and as
   the body itself where a current spelling stands beside every old one.
2. `ofJson_document_generate`: the same of a form for generating.
3. `nested_generate_differs`: a body that gives its kind in the old spelling and is read otherwise.
-/

namespace AgentWorkflow

/-! ## Checked values -/

namespace Checked

variable {α β γ : Type}

theorem both_eq_ok {f : α → β → γ} {x : Checked α} {y : Checked β} {z : γ} :
    both f x y = .ok z ↔ ∃ a b, x = .ok a ∧ y = .ok b ∧ f a b = z := by
  cases x <;> cases y <;> simp [both]

end Checked

namespace Form

theorem eq_object_of_checkObject {path : Path} {value : Json} {fields : Json.Fields}
    (h : checkObject path value = .ok fields) : value = .object fields := by
  cases value <;> cases h
  rfl

theorem eq_text_of_checkText {name t : Text} {value : Json} (h : checkText name value = .ok t) :
    value = .text t := by
  cases value <;> cases h
  rfl

theorem eq_map_of_each {items : List Json} {objects : List Json.Fields} {i : Nat}
    (h : Checked.each (fun i => checkObject (Path.agent i)) i items = .ok objects) :
    items = objects.map .object := by
  induction items generalizing i objects with
  | nil =>
    cases h
    rfl
  | cons item items ih =>
    obtain ⟨fields, rest, hitem, hrest, rfl⟩ := Checked.both_eq_ok.mp h
    rw [List.map_cons, ← ih hrest, eq_object_of_checkObject hitem]

end Form

/-! ## What a document is read from -/

namespace Document

open Form

variable {fields : Json.Fields} {f : WorkflowForm}

/-- The names of the fields that only documents have: an old spelling of the deployment settings
and one of the kind. -/
def oldNames : List Text := ["gcpConfig", "workflow_type"]

/-- Nothing stands under an old name, unless something stands under the current one. -/
def Supersedes (fields : Json.Fields) (current old : Text) : Prop :=
  Table.get? fields current = none → Table.get? fields old = none

theorem supersedes_without_old {old : Text} (h : old ∈ oldNames) (current : Text) :
    Supersedes (fields.without oldNames) current old :=
  fun _ => by rw [Table.get?_without, if_pos h]

/-- Agents that have been checked are read the same from the form as from the body. -/
theorem readAgents_of_checkAgents {objects : List Json.Fields} {others : Json.Fields}
    (h : checkAgents fields = .ok objects)
    (given : Table.get? others "agents" = some (.array (objects.map .object))) :
    readAgents others = readAgents fields := by
  unfold checkAgents at h
  split at h
  · case h_1 missing =>
    cases h
    simp [readAgents, missing, given, readEach]
  · case h_2 items found => simp [readAgents, found, given, eq_map_of_each h]
  · cases h

/-- The settings in a form are those that the body gives, unless only an old name gives them. -/
theorem deploymentValue_of_checkDeployment {settings : Option Json.Fields} {others : Json.Fields}
    (h : checkDeployment fields = .ok settings)
    (given : Table.get? others "deploymentConfig" = some (.object (settings.getD [])))
    (old : Supersedes fields "deploymentConfig" "gcpConfig") :
    deploymentValue others = deploymentValue fields := by
  unfold checkDeployment at h
  split at h
  · case h_1 missing =>
    cases h
    simp [deploymentValue, missing, old missing, given, Json.isVoid]
  · case h_2 found =>
    cases h
    simp [deploymentValue, found, given, Json.isVoid]
  · case h_3 value _ found =>
    cases hvalue : checkObject [.field "deploymentConfig"] value with
    | error problems =>
      rw [hvalue] at h
      cases h
    | ok object =>
      rw [hvalue] at h
      cases h
      simp [deploymentValue, found, given, eq_object_of_checkObject hvalue]

/-- A kind that has been checked is read the same from the form as from the body. -/
theorem readKind_of_checkKind {t : Text} {others : Json.Fields} (h : checkKind fields = .ok t)
    (given : Table.get? others "workflowType" = some (.text t))
    (old : Supersedes fields "workflowType" "workflow_type") :
    readKind others = readKind fields := by
  unfold checkKind at h
  split at h
  · case h_1 missing =>
    cases h
    have sequential : readTarget (.text "Sequential") = .ok .sequential := by rfl
    simp [readKind, missing, old missing, given, sequential]
  · case h_2 value found => simp [readKind, found, given, eq_text_of_checkText h]

theorem ofJson_document_of_supersedes (h : checkWorkflow fields = .ok f)
    (deployment : Supersedes fields "deploymentConfig" "gcpConfig")
    (kind : Supersedes fields "workflowType" "workflow_type") :
    Workflow.ofJson f.document = Workflow.ofJson (.object fields) := by
  obtain ⟨⟨objects, settings⟩, t, hfirst, hkind, rfl⟩ := Checked.both_eq_ok.mp h
  obtain ⟨_, _, hagents, hdeployment, ⟨⟩⟩ := Checked.both_eq_ok.mp hfirst
  exact ofJson_congr (readAgents_of_checkAgents hagents rfl)
    (congrArg readDeployment (deploymentValue_of_checkDeployment hdeployment rfl deployment))
    (readKind_of_checkKind hkind rfl kind)

/-- A form's check does not see the old names. -/
theorem checkWorkflow_without_old (fields : Json.Fields) :
    checkWorkflow (fields.without oldNames) = checkWorkflow fields := by
  have kept : ∀ name ∉ oldNames, Table.get? (fields.without oldNames) name = Table.get? fields name :=
    fun name h => by rw [Table.get?_without, if_neg h]
  simp only [checkWorkflow, checkAgents, checkDeployment, checkKind, kept "agents" (by decide),
    kept "deploymentConfig" (by decide), kept "workflowType" (by decide)]

/-- The document of a form is read as the body without its old names: as the same workflow, or with
the same error. -/
theorem ofJson_document (h : checkWorkflow fields = .ok f) :
    Workflow.ofJson f.document = Workflow.ofJson (.object (fields.without oldNames)) :=
  ofJson_document_of_supersedes ((checkWorkflow_without_old fields).trans h)
    (supersedes_without_old (by decide) _) (supersedes_without_old (by decide) _)

/-- The workflow of a form for generating is read from the body without its old names, and from the
body itself where nothing but a current name decides. -/
theorem ofJson_document_generate {form : GenerateForm} (h : checkGenerate fields = .ok form) :
    Workflow.ofJson form.workflow.document
        = Workflow.ofJson (.object (fields.without oldNames)) ∧
      (Supersedes fields "deploymentConfig" "gcpConfig" →
        Supersedes fields "workflowType" "workflow_type" →
        Workflow.ofJson form.workflow.document = Workflow.ofJson (.object fields)) := by
  obtain ⟨workflow, _, hworkflow, -, rfl⟩ := Checked.both_eq_ok.mp h
  exact ⟨ofJson_document hworkflow, ofJson_document_of_supersedes hworkflow⟩

/-- A body with old and current names: no deployment settings, and agents that work together. -/
def mixedBody : Json.Fields :=
  [("gcpConfig", .object [("region", .text "europe-west1")]),
    ("agents", .array [.object [("id", .text "a"), ("name", .text "writer")]]),
    ("deploymentConfig", .null), ("workflow_type", .text "Hierarchical"),
    ("workflowType", .text "Collaborative")]

/-- The hypotheses hold of a body whose old names are overruled by the current ones. -/
theorem mixedBody_agrees :
    ∃ form, checkGenerate mixedBody = .ok form ∧
      Workflow.ofJson form.workflow.document
        = .ok { agents := [{ id := "a", name := "writer" }], kind := .collaborative } ∧
      Workflow.ofJson form.workflow.document = Workflow.ofJson (.object mixedBody) :=
  ⟨_, rfl, rfl, (@ofJson_document_generate mixedBody _ rfl).2 (fun h => nomatch h)
    (fun h => nomatch h)⟩

/-- A body with one agent below itself, whose kind is given in the old spelling only. -/
def nestedBody : Json.Fields :=
  [("agents", .array [.object [("id", .text "a"), ("name", .text "writer"), ("parentId", .text "a")]]),
    ("workflow_type", .text "Hierarchical")]

/-- A kind in the old spelling is read from a document, and dropped from a body. -/
theorem nested_generate_differs :
    ∃ form, checkGenerate nestedBody = .ok form ∧
      Workflow.ofJson form.workflow.document ≠ Workflow.ofJson (.object nestedBody) := by
  let writer : Agent := { id := "a", name := "writer", parent := some "a" }
  have sent : Workflow.ofJson (.object nestedBody)
      = .ok { agents := [writer], kind := .hierarchical } := rfl
  refine ⟨⟨⟨_, _, _⟩, _, _⟩, rfl, ?_⟩
  rw [sent]
  intro h
  cases h

end Document

end AgentWorkflow
