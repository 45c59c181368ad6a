import AgentWorkflow.Proofs.Workflow.Encodable
import AgentWorkflow.Workflow.Edit

/-!
# Reading undoes writing

A document may spell a workflow in many ways, so writing a workflow and reading it again can only
give it back if its fields are as reading leaves them: every text can be written in UTF-8, a parent
and a model are not empty, and the settings of the deployment have no blanks around them. A workflow
like that is in *normal form*.

Results:
1. `Workflow.ofJson_toJson`: a workflow in normal form is read back from its own document.
2. `Workflow.normal_ofJson`: whatever is read from a document is in normal form.
3. `Workflow.normal_edit`, `Workflow.normal_run`: an editor that loads, switches and reads anew never
   leaves the normal form.
4. `Workflow.ofJson_toJson_run`: so after any run of edits, reading undoes writing.
-/

namespace AgentWorkflow

/-! ## Normal forms -/

structure Agent.Normal (a : Agent) : Prop where
  encodable : a.Encodable
  parent : a.parent ≠ some []
  model : a.model ≠ []

structure Deployment.Normal (d : Deployment) : Prop where
  encodable : d.Encodable
  projectId : d.projectId.trim = d.projectId
  serviceName : d.serviceName.trim = d.serviceName
  region : d.region.trim = d.region

/-- A workflow that is as reading a document leaves it. -/
structure Workflow.Normal (w : Workflow) : Prop where
  agents : ∀ a ∈ w.agents, a.Normal
  deployment : w.deployment.Normal

/-! ## Reading what was written -/

namespace Document

variable {fields : Json.Fields} {name t : Text} {names : List Text}

theorem ok_bind {α β : Type} (x : α) (f : α → Reading β) : (Except.ok x >>= f) = f x := rfl

theorem readText_of_get? (h : Table.get? fields name = some (.text t)) (ht : t.isEncodable) :
    readText fields (name :: names) = .ok t := by
  have given : firstGiven? fields (name :: names) = some (name, .text t) := by
    rw [firstGiven?, h]
  have clean : t.findIdx? CodePoint.isSurrogate = none :=
    List.findIdx?_eq_none_iff.mpr (Text.isEncodable_iff.mp ht)
  simp only [readText, given, Json.asText, clean]

theorem readEach_map {α : Type} {read : Nat → Json → Reading α} {write : α → Json} {xs : List α}
    (h : ∀ i, ∀ x ∈ xs, read i (write x) = .ok x) (i : Nat) :
    readEach read i (xs.map write) = .ok xs := by
  induction xs generalizing i with
  | nil => rfl
  | cons x xs ih =>
    have rest := ih (fun j y hy => h j y (List.mem_cons_of_mem x hy)) (i + 1)
    rw [List.map_cons, readEach, h i x List.mem_cons_self, ok_bind, rest]
    rfl

theorem parameterType?_name (type : ParameterType) :
    parameterType? (.text type.name) = some type := by
  cases type <;> decide

theorem readTarget_name (kind : WorkflowKind) : readTarget (.text kind.name) = .ok kind := by
  have found : workflowKind? (.text kind.name) = some kind := by cases kind <;> decide
  rw [readTarget, found]

theorem readParameter_toJson (path : Path) {p : Parameter} (h : p.Encodable) :
    readParameter path p.toJson = .ok p := by
  unfold readParameter Parameter.toJson
  rw [readObject, ok_bind]
  generalize found : (Table.get? _ "type").getD _ = given
  obtain rfl : given = .text p.type.name := found.symm
  dsimp only
  rw [parameterType?_name]
  dsimp only
  rw [readText_of_get? (t := p.id) rfl h.id, ok_bind, readText_of_get? (t := p.name) rfl h.name,
    ok_bind, readText_of_get? (t := p.description) rfl h.description, ok_bind]
  rfl

theorem readTool_toJson (path : Path) {t : Tool} (h : t.Encodable) :
    readTool path t.toJson = .ok t := by
  unfold readTool Tool.toJson
  rw [readObject, ok_bind]
  change ((.ok (t.parameters.map Parameter.toJson) : Reading (List Json)) >>= _) = _
  rw [ok_bind, readText_of_get? (t := t.id) rfl h.id, ok_bind,
    readText_of_get? (t := t.name) rfl h.name, ok_bind,
    readText_of_get? (t := t.description) rfl h.description, ok_bind,
    readEach_map fun i p hp => readParameter_toJson (path.parameter i) (h.parameters p hp)]
  rfl

/-- An agent in normal form is read back from its document. -/
theorem readAgent_toJson (path : Path) {a : Agent} (h : a.Normal) :
    readAgent path a.toJson = .ok a := by
  obtain ⟨texts, hparent, hmodel⟩ := h
  unfold readAgent Agent.toJson
  rw [readObject, ok_bind]
  change ((.ok (a.tools.map Tool.toJson) : Reading (List Json)) >>= _) = _
  rw [ok_bind]
  change ((.ok a.temperature : Reading Binary64) >>= _) = _
  rw [ok_bind, readText_of_get? (t := a.id) rfl texts.id, ok_bind,
    readText_of_get? (t := a.name) rfl texts.name, ok_bind,
    readText_of_get? (t := a.systemPrompt) rfl texts.systemPrompt, ok_bind,
    readText_of_get? (t := a.welcomeMessage) rfl texts.welcomeMessage, ok_bind,
    readText_of_get? (t := a.inputPlaceholder) rfl texts.inputPlaceholder, ok_bind,
    readEach_map fun i t ht => readTool_toJson (path.tool i) (texts.tools t ht), ok_bind]
  have kept : (if a.model.isEmpty then defaultModel else a.model) = a.model := by simp [hmodel]
  -- an agent without a parent is written with null, which counts as no parent given
  cases hp : a.parent with
  | none =>
    change ((.ok [] : Reading Text) >>= _) = _
    rw [ok_bind, readText_of_get? (t := a.model) rfl texts.model, ok_bind, kept]
    simp [← hp]
    rfl
  | some parent =>
    have some_parent : parent ≠ [] := by
      rintro rfl
      exact hparent hp
    have encodable := texts.parent parent hp
    rw [readText_of_get? (t := parent) rfl encodable, ok_bind,
      readText_of_get? (t := a.model) rfl texts.model, ok_bind, kept]
    simp [some_parent, ← hp]
    rfl

theorem readDeployment_toJson {d : Deployment} (h : d.Normal) :
    readDeployment d.toJson = .ok d := by
  obtain ⟨texts, hproject, hservice, hregion⟩ := h
  unfold readDeployment Deployment.toJson
  rw [readObject, ok_bind, readText_of_get? (t := d.projectId) rfl texts.projectId, ok_bind,
    readText_of_get? (t := d.serviceName) rfl texts.serviceName, ok_bind,
    readText_of_get? (t := d.region) rfl texts.region, ok_bind]
  change ((.ok d.memoryBank : Reading Bool) >>= _) = _
  rw [ok_bind, readText_of_get? (t := d.credentialRef) rfl texts.credentialRef, ok_bind, hproject,
    hservice, hregion]
  rfl

end Document

/-- A workflow in normal form is read back from its own document. -/
theorem Workflow.ofJson_toJson {w : Workflow} (h : w.Normal) :
    Workflow.ofJson w.toJson = .ok w := by
  unfold Workflow.ofJson Workflow.toJson
  have agents : Document.readEach (fun i => Document.readAgent (Path.agent i)) 0
      (w.agents.map Agent.toJson) = .ok w.agents :=
    Document.readEach_map (fun i a ha => Document.readAgent_toJson (Path.agent i) (h.agents a ha)) 0
  change (Document.readEach _ 0 (w.agents.map Agent.toJson) >>= fun agents =>
    Document.readDeployment w.deployment.toJson >>= fun deployment =>
      Document.readTarget (.text w.kind.name) >>= fun kind => _) = _
  rw [agents, Document.ok_bind, Document.readDeployment_toJson h.deployment, Document.ok_bind,
    Document.readTarget_name]
  rfl

/-! ## Reading gives normal forms -/

namespace Document

theorem Gives.and {α : Type} {P Q : α → Prop} {r : Reading α} (hp : Gives P r) (hq : Gives Q r) :
    Gives (fun x => P x ∧ Q x) r := fun x hx => ⟨hp x hx, hq x hx⟩

theorem gives_filled_readAgent (path : Path) (value : Json) :
    Gives (fun a => a.parent ≠ some [] ∧ a.model ≠ []) (readAgent path value) := by
  refine (Gives.any _).bind fun fields _ => (Gives.any _).bind fun items _ => ?_
  refine (Gives.any _).bind fun temperature _ => (Gives.any _).bind fun id _ => ?_
  refine (Gives.any _).bind fun name _ => (Gives.any _).bind fun systemPrompt _ => ?_
  refine (Gives.any _).bind fun welcomeMessage _ => (Gives.any _).bind fun inputPlaceholder _ => ?_
  refine (Gives.any _).bind fun tools _ => (Gives.any _).bind fun parent _ => ?_
  refine (Gives.any _).bind fun model _ => .ok ⟨?_, ?_⟩
  · cases parent <;> simp
  · cases model with
    | nil => exact (by decide : defaultModel ≠ [])
    | cons c model => simp

theorem gives_normal_readAgent (path : Path) (value : Json) :
    Gives Agent.Normal (readAgent path value) := by
  intro a ha
  obtain ⟨encodable, parent, model⟩ :=
    (gives_readAgent path value).and (gives_filled_readAgent path value) a ha
  exact ⟨encodable, parent, model⟩

theorem gives_trimmed_readDeployment (value : Json) :
    Gives (fun d => d.projectId.trim = d.projectId ∧ d.serviceName.trim = d.serviceName ∧
      d.region.trim = d.region) (readDeployment value) := by
  refine (Gives.any _).bind fun fields _ => (Gives.any _).bind fun projectId _ => ?_
  refine (Gives.any _).bind fun serviceName _ => (Gives.any _).bind fun region _ => ?_
  refine (Gives.any _).bind fun memoryBank _ => (Gives.any _).bind fun credentialRef _ => .ok ?_
  exact ⟨projectId.trim_trim, serviceName.trim_trim, region.trim_trim⟩

theorem gives_normal_readDeployment (value : Json) :
    Gives Deployment.Normal (readDeployment value) := by
  intro d hd
  obtain ⟨encodable, projectId, serviceName, region⟩ :=
    (gives_readDeployment value).and (gives_trimmed_readDeployment value) d hd
  exact ⟨encodable, projectId, serviceName, region⟩

theorem gives_normal_readAgents (fields : Json.Fields) :
    Gives (fun agents => ∀ a ∈ agents, Agent.Normal a) (readAgents fields) := by
  unfold readAgents
  split
  · exact .ok (by simp)
  · exact .readEach (fun _ _ => gives_normal_readAgent _ _) _ _
  · exact .error _

end Document

/-- A workflow that is read from a document is in normal form. -/
theorem Workflow.normal_ofJson {document : Json} {w : Workflow}
    (h : Workflow.ofJson document = .ok w) : w.Normal := by
  cases document with
  | object fields =>
    refine Document.Gives.bind (Q := Workflow.Normal) (Document.gives_normal_readAgents fields)
      (fun agents ha => ?_) w h
    refine (Document.gives_normal_readDeployment _).bind fun deployment hd => ?_
    exact (Document.Gives.any _).bind fun kind _ => .ok ⟨ha, hd⟩
  | _ => cases h

/-! ## Runs of edits -/

namespace Workflow

variable {w : Workflow}

theorem normal_withKind (h : w.Normal) (kind : WorkflowKind) : (w.withKind kind).Normal := by
  refine ⟨fun a ha => ?_, h.deployment⟩
  unfold withKind switchAgents at ha
  split at ha
  · exact h.agents a ha
  · -- the agents of a flat workflow have lost their parents
    obtain ⟨b, hb, rfl⟩ := List.mem_map.mp ha
    obtain ⟨texts, -, model⟩ := h.agents b hb
    exact ⟨⟨texts.id, texts.name, texts.systemPrompt, texts.welcomeMessage, texts.inputPlaceholder,
      texts.tools, by simp, texts.model⟩, by simp, model⟩

/-- An edit keeps the normal form: a switch changes the kind alone, and a document is read into
normal form. -/
theorem normal_edit (h : w.Normal) {e : Edit} {v : Workflow} (he : w.edit e = .ok v) :
    v.Normal := by
  cases e with
  | load document => exact normal_ofJson he
  | reparse =>
    have read : Workflow.ofJson w.toJson = .ok v := he
    exact normal_ofJson read
  | switch target =>
    rw [edit] at he
    cases ht : Document.readTarget target with
    | error e =>
      rw [ht] at he
      cases he
    | ok kind =>
      rw [ht] at he
      cases he
      exact normal_withKind h kind

/-- By induction on the run, from one edit. -/
theorem normal_run (h : w.Normal) (edits : List Edit) : (w.run edits).Normal := by
  induction edits generalizing w with
  | nil => exact h
  | cons e edits ih =>
    -- an edit that fails leaves the workflow as it is
    have next : ((w.edit e).toOption.getD w).Normal := by
      cases he : w.edit e with
      | error reason => exact h
      | ok v => exact normal_edit h he
    exact ih next

theorem normal_default : ({} : Workflow).Normal := by
  have read : Workflow.ofJson (.object []) = .ok {} := rfl
  exact normal_ofJson read

/-- However a workflow has been loaded, switched and read anew, reading its document gives it
back. -/
theorem ofJson_toJson_run (edits : List Edit) :
    Workflow.ofJson (run {} edits).toJson = .ok (run {} edits) :=
  ofJson_toJson (normal_run normal_default edits)

end Workflow

end AgentWorkflow
