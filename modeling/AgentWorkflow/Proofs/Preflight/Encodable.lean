import AgentWorkflow.Proofs.Json.Shown
import AgentWorkflow.Proofs.Preflight.Findings
import AgentWorkflow.Proofs.Workflow.Cycles
import AgentWorkflow.Proofs.Workflow.Encodable

/-!
# Encodable issues

A message repeats texts of the workflow and the names made from them, so what is said about an
encodable workflow can be written in UTF-8.

Results:
1. `isEncodable_message_of_finds`, `isEncodable_text_path`: what preflight finds, and where.
2. `isEncodable_message_of_hierarchy`: why the agents form no structure.
-/

namespace AgentWorkflow

open Text

/-! ## Why agents form no structure -/

theorem Workflow.Encodable.id_of_mem {w : Workflow} (h : w.Encodable) {id : Text}
    (hid : id ∈ w.agents.map (·.id)) : id.isEncodable := by
  obtain ⟨a, ha, rfl⟩ := List.mem_map.mp hid
  exact (h.agents a ha).id

theorem isEncodable_message_of_hierarchy {w : Workflow} (h : w.Encodable) {reason : HierarchyError}
    (hr : w.hierarchy = .error reason) : reason.message.isEncodable := by
  rcases Hierarchy.resolve_error_cases hr with ⟨-, id, hid, rfl⟩ | ⟨-, -, c, cycle, rfl⟩
  · simp [HierarchyError.message]
  · have ids : ∀ id ∈ c ++ c.take 1, id.isEncodable := by
      intro id hid
      refine h.id_of_mem (cycle.mem id ?_)
      exact (List.mem_append.mp hid).elim (fun hid => hid) List.mem_of_mem_take
    simp [HierarchyError.message, isEncodable_join (isEncodable_ofString _) ids]

namespace Preflight

/-! ## Paths -/

/-- True of a step whose name, if it has one, can be written in UTF-8. -/
def isWritable : Step → Bool
  | .field name => name.isEncodable
  | .item _ => true

theorem isEncodable_suffix {p : Path} (h : p.all isWritable) : p.suffix.isEncodable := by
  induction p with
  | nil => rfl
  | cons step p ih =>
    rw [List.all_cons, Bool.and_eq_true] at h
    cases step with
    | field name =>
      have writable : name.isEncodable = true := h.1
      simp [Path.suffix, writable, ih h.2]
    | item index => simp [Path.suffix, ih h.2]

theorem isEncodable_pathText {p : Path} (h : p.all isWritable) : p.text.isEncodable := by
  cases p with
  | nil => rfl
  | cons step p =>
    cases step with
    | field name =>
      have both : name.isEncodable && p.all isWritable := h
      rw [Bool.and_eq_true] at both
      simp [Path.text, both.1, isEncodable_suffix both.2]
    | item index => exact isEncodable_suffix h

theorem isEncodable_text_path (f : Field) : f.path.text.isEncodable := by
  refine isEncodable_pathText ?_
  cases f with
  | agents | id | temperature | model => rfl
  | name s => cases s <;> rfl
  | setting s => cases s <;> rfl

/-! ## Findings -/

variable {w : Workflow}

theorem isEncodable_snakeCase (t : Text) : (Naming.snakeCase t).isEncodable :=
  isEncodable_of_isWord fun _ hc =>
    Naming.isWordPoint_of_isSnakePoint (Naming.isSnakePoint_of_mem_snakeCase hc)

theorem isEncodable_of_mem_names (h : w.Encodable) {s : Scope} {name : Text}
    (hname : name ∈ s.names w) : name.isEncodable := by
  have tools : ∀ i, ∀ t ∈ Scope.toolsOf w i, t.Encodable := by
    intro i t ht
    unfold Scope.toolsOf at ht
    split at ht
    · case h_1 a found => exact (h.agents a (List.mem_of_getElem? found)).tools t ht
    · cases ht
  cases s with
  | agents =>
    obtain ⟨a, ha, rfl⟩ := List.mem_map.mp hname
    exact (h.agents a ha).name
  | tools i =>
    obtain ⟨t, ht, rfl⟩ := List.mem_map.mp hname
    exact (tools i t ht).name
  | parameters i j =>
    dsimp only [Scope.names] at hname
    split at hname
    · case h_1 t found =>
      obtain ⟨p, hp, rfl⟩ := List.mem_map.mp hname
      exact ((tools i t (List.mem_of_getElem? found)).parameters p hp).name
    · cases hname

theorem isEncodable_message_of_onName {kind : NameKind} {earlier : List Text} {name : Text}
    {finding : Finding} (h : name.isEncodable) (rule : OnName kind earlier name finding) :
    finding.message.isEncodable := by
  cases rule with
  | missing => cases kind <;> simp [Finding.message, NameKind.title]
  | invalid => cases kind <;> simp [Finding.message, NameKind.title, inQuotes, h]
  | changed =>
    cases kind <;> simp [Finding.message, NameKind.title, inQuotes, h, isEncodable_snakeCase]
  | repeated => cases kind <;> simp [Finding.message, NameKind.word, NameKind.rule, inQuotes, h]

theorem isEncodable_message_of_onSetting {d : Deployment} {s : Setting} {finding : Finding}
    (h : d.Encodable) (rule : OnSetting d s finding) : finding.message.isEncodable := by
  cases rule with
  | memoryWithoutProject | settingsWithoutProject => simp [Finding.message]
  | invalidProject => simp [Finding.message, inQuotes, isEncodable_trim h.projectId]
  | invalidRegion => simp [Finding.message, inQuotes, isEncodable_trim h.region]
  | unusableService => simp [Finding.message, inQuotes, isEncodable_trim h.serviceName]
  | changedService =>
    simp [Finding.message, inQuotes, isEncodable_trim h.serviceName, isEncodable_kebabCase]

/-- Messages quote texts of the workflow and fixed ones, so they are as encodable as these. -/
theorem isEncodable_message_of_finds (h : w.Encodable) {f : Field} {finding : Finding}
    (rule : Finds w f finding) : finding.message.isEncodable := by
  cases rule with
  | noAgents => exact isEncodable_ofString _
  | repeatedId ha =>
    simp [Finding.message, inQuotes, (h.agents _ (List.mem_of_getElem? ha)).id]
  | name here rule =>
    exact isEncodable_message_of_onName (isEncodable_of_mem_names h (List.mem_of_getElem? here)) rule
  | temperature => simp [Finding.message]
  | model ha =>
    have models : (Text.join ", " supportedModels).isEncodable := by decide
    simp [Finding.message, inQuotes, (h.agents _ (List.mem_of_getElem? ha)).model, models]
  | setting rule => exact isEncodable_message_of_onSetting h.deployment rule

end Preflight

end AgentWorkflow
