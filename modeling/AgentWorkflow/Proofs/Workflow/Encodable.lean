import AgentWorkflow.Proofs.Text.Encodable
import AgentWorkflow.Workflow.Document

/-!
# Encodable workflows

A workflow is encodable when all its texts can be written in UTF-8. Reading a document looks at
every text before it takes it, so a workflow that comes from a document is encodable
(`Workflow.encodable_of_ofJson`).
-/

namespace AgentWorkflow

structure Parameter.Encodable (p : Parameter) : Prop where
  id : p.id.isEncodable
  name : p.name.isEncodable
  description : p.description.isEncodable

structure Tool.Encodable (t : Tool) : Prop where
  id : t.id.isEncodable
  name : t.name.isEncodable
  description : t.description.isEncodable
  parameters : ∀ p ∈ t.parameters, p.Encodable

structure Agent.Encodable (a : Agent) : Prop where
  id : a.id.isEncodable
  name : a.name.isEncodable
  systemPrompt : a.systemPrompt.isEncodable
  welcomeMessage : a.welcomeMessage.isEncodable
  inputPlaceholder : a.inputPlaceholder.isEncodable
  tools : ∀ t ∈ a.tools, t.Encodable
  parent : ∀ p ∈ a.parent, p.isEncodable
  model : a.model.isEncodable

structure Deployment.Encodable (d : Deployment) : Prop where
  projectId : d.projectId.isEncodable
  serviceName : d.serviceName.isEncodable
  region : d.region.isEncodable
  credentialRef : d.credentialRef.isEncodable

/-- All texts of a workflow can be written in UTF-8. -/
structure Workflow.Encodable (w : Workflow) : Prop where
  agents : ∀ a ∈ w.agents, a.Encodable
  deployment : w.deployment.Encodable

namespace Document

/-! ## Readings -/

/-- `Gives P r`: if the reading does not stop, what it gives satisfies `P`. -/
def Gives {α : Type} (P : α → Prop) (r : Reading α) : Prop := ∀ x, r = .ok x → P x

section Gives

variable {α β : Type} {P : α → Prop} {Q : β → Prop}

theorem Gives.ok {x : α} (h : P x) : Gives P (.ok x) := by
  rintro _ ⟨⟩
  exact h

theorem Gives.error (e : DocumentError) : Gives P (.error e) := by
  rintro _ ⟨⟩

theorem Gives.bind {r : Reading α} {f : α → Reading β} (h : Gives P r)
    (hf : ∀ x, P x → Gives Q (f x)) : Gives Q (r >>= f) := by
  intro y hy
  cases r with
  | error e => cases hy
  | ok x => exact hf x (h x rfl) y hy

/-- A reading whose result does not matter. -/
theorem Gives.any (r : Reading α) : Gives (fun _ => True) r := fun _ _ => trivial

/-- What holds of each item as it is read holds of every item of the list. -/
theorem Gives.readEach {read : Nat → Json → Reading α} (h : ∀ i item, Gives P (read i item))
    (i : Nat) (items : List Json) : Gives (fun xs => ∀ x ∈ xs, P x) (readEach read i items) := by
  induction items generalizing i with
  | nil => exact .ok (by simp)
  | cons item items ih =>
    refine (h i item).bind fun x hx => (ih (i + 1)).bind fun xs hxs => .ok ?_
    intro y hy
    rcases List.mem_cons.mp hy with rfl | hy
    · exact hx
    · exact hxs y hy

end Gives

/-! ## The texts of a document -/

theorem gives_readText (fields : Json.Fields) (names : List Text) :
    Gives (fun t => t.isEncodable) (readText fields names) := by
  unfold readText
  split
  · exact .ok rfl
  · split
    · next none_found =>
      refine .ok (Text.isEncodable_iff.mpr fun c hc => ?_)
      exact List.findIdx?_eq_none_iff.mp none_found c hc
    · exact .error _

theorem gives_readParameter (path : Path) (value : Json) :
    Gives Parameter.Encodable (readParameter path value) := by
  refine (Gives.any _).bind fun fields _ => ?_
  dsimp only
  split
  · exact .error _
  · refine (gives_readText _ _).bind fun id hid => ?_
    refine (gives_readText _ _).bind fun name hname => ?_
    refine (gives_readText _ _).bind fun description hdescription => ?_
    exact (Gives.any _).bind fun required _ => .ok ⟨hid, hname, hdescription⟩

theorem gives_readTool (path : Path) (value : Json) : Gives Tool.Encodable (readTool path value) := by
  refine (Gives.any _).bind fun fields _ => (Gives.any _).bind fun items _ => ?_
  refine (gives_readText _ _).bind fun id hid => ?_
  refine (gives_readText _ _).bind fun name hname => ?_
  refine (gives_readText _ _).bind fun description hdescription => ?_
  refine (Gives.readEach (fun _ _ => gives_readParameter _ _) _ _).bind fun parameters hp => ?_
  exact .ok ⟨hid, hname, hdescription, hp⟩

/-- A document of encodable strings gives an agent of encodable texts. -/
theorem gives_readAgent (path : Path) (value : Json) :
    Gives Agent.Encodable (readAgent path value) := by
  refine (Gives.any _).bind fun fields _ => (Gives.any _).bind fun items _ => ?_
  refine (Gives.any _).bind fun temperature _ => ?_
  refine (gives_readText _ _).bind fun id hid => ?_
  refine (gives_readText _ _).bind fun name hname => ?_
  refine (gives_readText _ _).bind fun systemPrompt hprompt => ?_
  refine (gives_readText _ _).bind fun welcomeMessage hwelcome => ?_
  refine (gives_readText _ _).bind fun inputPlaceholder hplaceholder => ?_
  refine (Gives.readEach (fun _ _ => gives_readTool _ _) _ _).bind fun tools ht => ?_
  refine (gives_readText _ _).bind fun parent hparent => ?_
  refine (gives_readText _ _).bind fun model hmodel => .ok ?_
  refine ⟨hid, hname, hprompt, hwelcome, hplaceholder, ht, ?_, ?_⟩
  · intro p hp
    simp only [Option.mem_def, Option.ite_none_left_eq_some, Option.some.injEq] at hp
    exact hp.2 ▸ hparent
  · dsimp only
    split
    · exact Text.isEncodable_ofString _
    · exact hmodel

theorem gives_readDeployment (value : Json) : Gives Deployment.Encodable (readDeployment value) := by
  refine (Gives.any _).bind fun fields _ => ?_
  refine (gives_readText _ _).bind fun projectId hproject => ?_
  refine (gives_readText _ _).bind fun serviceName hservice => ?_
  refine (gives_readText _ _).bind fun region hregion => (Gives.any _).bind fun memoryBank _ => ?_
  refine (gives_readText _ _).bind fun credentialRef hcredential => .ok ?_
  exact ⟨Text.isEncodable_trim hproject, Text.isEncodable_trim hservice,
    Text.isEncodable_trim hregion, hcredential⟩

theorem gives_readAgents (fields : Json.Fields) :
    Gives (fun agents => ∀ a ∈ agents, Agent.Encodable a) (readAgents fields) := by
  unfold readAgents
  split
  · exact .ok (by simp)
  · exact .readEach (fun _ _ => gives_readAgent _ _) _ _
  · exact .error _

end Document

/-- A workflow that is read from a document is encodable. -/
theorem Workflow.encodable_of_ofJson {document : Json} {w : Workflow}
    (h : Workflow.ofJson document = .ok w) : w.Encodable := by
  cases document with
  | object fields =>
    refine Document.Gives.bind (Q := Workflow.Encodable) (Document.gives_readAgents fields)
      (fun agents ha => ?_) w h
    refine (Document.gives_readDeployment _).bind fun deployment hd => ?_
    exact (Document.Gives.any _).bind fun kind _ => .ok ⟨ha, hd⟩
  | _ => cases h

end AgentWorkflow
