import AgentWorkflow.Proofs.Service.Answers
import AgentWorkflow.Proofs.Workflow.RoundTrip

/-!
# Sending a switched workflow back

The answer to a switch is the document of the switched workflow, with null in the place of every
temperature that JSON cannot write. The reader takes no null for a temperature. So an editor can
send the answer back if all temperatures are finite, and is refused at the first agent whose
temperature is not.

Results:
1. `ofJson_withoutNonFinite`: what is read from the document of a workflow once it has been sent.
2. `answer_switch`: what an answer to a switch holds and what is read from it.
3. `undefined_switch_refused`: a switch that is answered and whose answer is not read.
-/

namespace AgentWorkflow

/-! ## Documents that are sent -/

theorem Parameter.isFinite_toJson (p : Parameter) : p.toJson.isFinite := rfl

theorem Tool.isFinite_toJson (t : Tool) : t.toJson.isFinite := by
  simp only [toJson, Json.isFinite, Json.fieldsFinite,
    Json.areFinite_map fun p _ => Parameter.isFinite_toJson p, Bool.and_self]

theorem Agent.isFinite_toJson {a : Agent} (h : a.temperature.isFinite) : a.toJson.isFinite := by
  have parent : ((a.parent.map Json.text).getD .null).isFinite := by cases a.parent <;> rfl
  simp only [toJson, Json.isFinite, Json.fieldsFinite, h, parent,
    Json.areFinite_map fun t _ => Tool.isFinite_toJson t, Bool.and_self]

theorem Deployment.isFinite_toJson (d : Deployment) : d.toJson.isFinite := rfl

namespace Document

theorem readAgent_sent {a : Agent} (h : a.Normal) (finite : a.temperature.isFinite) (path : Path) :
    readAgent path a.toJson.withoutNonFinite = .ok a := by
  rw [Json.withoutNonFinite_of_isFinite _ (Agent.isFinite_toJson finite)]
  exact readAgent_toJson path h

/-- The reader stops at a temperature that was not finite, before it looks at any text. -/
theorem readAgent_sent_of_not_finite {a : Agent} (h : a.temperature.isFinite = false) (path : Path) :
    readAgent path a.toJson.withoutNonFinite
      = refuse (.numberExpected (path.field "temperature") .null) := by
  have sent : (Json.real a.temperature).withoutNonFinite = .null := by
    rw [Json.withoutNonFinite, h]
    rfl
  unfold readAgent Agent.toJson
  simp only [Json.withoutNonFinite, Json.fieldsWithoutNonFinite]
  rw [← Json.withoutNonFinite, sent]
  rfl

/-- Reading the items that were written from a list, some of which do not come back: the reading
stops at the first of those. -/
theorem readEach_map_of_stops {α : Type} {read : Nat → Json → Reading α} {write : α → Json}
    {stops : α → Bool} {error : Nat → DocumentError} {xs : List α}
    (good : ∀ i, ∀ x ∈ xs, stops x = false → read i (write x) = .ok x)
    (bad : ∀ i, ∀ x ∈ xs, stops x → read i (write x) = .error (error i)) (i : Nat) :
    readEach read i (xs.map write) =
      match xs.findIdx? stops with
      | none => .ok xs
      | some j => .error (error (i + j)) := by
  induction xs generalizing i with
  | nil => rfl
  | cons x xs ih =>
    have rest := ih (fun j y hy => good j y (List.mem_cons_of_mem x hy))
      (fun j y hy => bad j y (List.mem_cons_of_mem x hy)) (i + 1)
    cases hx : stops x with
    | true =>
      rw [List.map_cons, readEach, bad i x List.mem_cons_self hx, List.findIdx?_cons, hx]
      rfl
    | false =>
      rw [List.map_cons, readEach, good i x List.mem_cons_self hx, ok_bind, rest,
        List.findIdx?_cons, hx]
      cases xs.findIdx? stops with
      | none => rfl
      | some j => simp [Nat.add_right_comm, Nat.add_assoc, bind, Except.bind]

end Document

namespace Workflow

/-- What is read from a workflow's document once it has been sent: the workflow, or an error at the
first agent whose temperature is not finite. -/
def sentBack (w : Workflow) : Reading Workflow :=
  match w.agents.findIdx? fun a => !a.temperature.isFinite with
  | none => .ok w
  | some i => Document.refuse (.numberExpected ((Path.agent i).field "temperature") .null)

/-- A number that is not finite is sent as null, which is no temperature: the first such agent
is reported. -/
theorem ofJson_withoutNonFinite {w : Workflow} (h : w.Normal) :
    ofJson w.toJson.withoutNonFinite = w.sentBack := by
  have agents : Document.readEach (fun i => Document.readAgent (Path.agent i)) 0
      (w.agents.map fun a => a.toJson.withoutNonFinite) =
        match w.agents.findIdx? fun a => !a.temperature.isFinite with
        | none => .ok w.agents
        | some i => .error (.malformed
            (.numberExpected ((Path.agent (0 + i)).field "temperature") .null)) :=
    Document.readEach_map_of_stops
      (fun i a ha finite => Document.readAgent_sent (h.agents a ha) (by simpa using finite) _)
      (fun i a _ infinite => Document.readAgent_sent_of_not_finite (by simpa using infinite) _) 0
  have sent : (w.agents.map Agent.toJson).map Json.withoutNonFinite
      = w.agents.map fun a => a.toJson.withoutNonFinite := List.map_map
  unfold ofJson toJson
  simp only [Json.withoutNonFinite, Json.fieldsWithoutNonFinite, Json.itemsWithoutNonFinite_eq_map,
    sent]
  change (Document.readEach _ 0 _ >>= fun agents =>
    Document.readDeployment w.deployment.toJson.withoutNonFinite >>= fun deployment =>
      Document.readTarget (.text w.kind.name) >>= fun kind => _) = _
  rw [agents, sentBack, Json.withoutNonFinite_of_isFinite _ w.deployment.isFinite_toJson]
  cases w.agents.findIdx? fun a => !a.temperature.isFinite with
  | none =>
    dsimp only
    rw [Document.ok_bind, Document.readDeployment_toJson h.deployment, Document.ok_bind,
      Document.readTarget_name]
    rfl
  | some i =>
    dsimp only
    rw [Nat.zero_add]
    rfl

theorem sentBack_eq_ok_iff {w : Workflow} :
    w.sentBack = .ok w ↔ ∀ a ∈ w.agents, a.temperature.isFinite := by
  unfold sentBack
  split
  · case h_1 none_found => simpa using List.findIdx?_eq_none_iff.mp none_found
  · case h_2 i found =>
    obtain ⟨hi, infinite, -⟩ := List.findIdx?_eq_some_iff_getElem.mp found
    refine ⟨fun h => (by cases h), fun finite => ?_⟩
    simp [finite _ (List.getElem_mem hi)] at infinite

/-- Switching keeps the temperatures. -/
theorem isFinite_switchAgents {kind : WorkflowKind} {agents : List Agent} :
    (∀ a ∈ switchAgents kind agents, a.temperature.isFinite) ↔
      ∀ a ∈ agents, a.temperature.isFinite := by
  unfold switchAgents
  split
  · rfl
  · exact List.forall_mem_map

end Workflow

/-! ## Answers to a switch -/

namespace Server

variable {s : Server} {environment : Table Text} {r : Request} {reply : Reply}

/-- A switch that is answered with 200 is answered with the document of the switched workflow, null
standing for the temperatures that are not finite. Reading the answer gives the switched workflow
exactly if there are none, and otherwise the error at the first of them. -/
theorem answer_switch (sent : r.endpoint? = some .workflowType)
    (h : (s.answer environment r).2 = .ok reply) (granted : reply.status = 200) :
    ∃ form w kind, Service.accept s.depth environment r = .ok (.switch form) ∧
      Workflow.ofJson form.workflow.document = .ok w ∧
      Document.readTarget (.text form.target) = .ok kind ∧
      reply.body = (w.withKind kind).toJson.withoutNonFinite ∧
      Workflow.ofJson reply.body = (w.withKind kind).sentBack ∧
      (Workflow.ofJson reply.body = .ok (w.withKind kind) ↔
        ∀ a ∈ w.agents, a.temperature.isFinite) := by
  obtain ⟨call, body, accepted, -, handled, written⟩ := exists_of_granted h granted
  have endpoint : call.endpoint = .workflowType :=
    Option.some.inj ((Service.endpoint_of_accept accepted).symm.trans sent)
  cases call with
  | switch form =>
    obtain ⟨w, read, handled⟩ := Except.bind_eq_ok.mp handled
    obtain ⟨switched, edited, ⟨⟩⟩ := Except.bind_eq_ok.mp handled
    rw [Service.readWorkflow, Service.ofReading_eq_ok] at read
    rw [Service.ofReading_eq_ok, Workflow.edit] at edited
    cases target : Document.readTarget (.text form.target) with
    | error e =>
      rw [target] at edited
      cases edited
    | ok kind =>
      rw [target] at edited
      cases edited
      have normal := Workflow.normal_withKind (Workflow.normal_ofJson read) kind
      have back := Workflow.ofJson_withoutNonFinite normal
      rw [← written] at back
      refine ⟨form, w, kind, accepted, read, target, written, back, ?_⟩
      rw [back, Workflow.sentBack_eq_ok_iff]
      exact Workflow.isFinite_switchAgents
  | _ => cases endpoint

/-- A request to switch a workflow with one agent, whose temperature is no number. -/
def undefinedSwitch : Request where
  method := "POST"
  url := "/workflow-type"
  body := "\x7b\"agents\":[\x7b\"temperature\":\"nan\"\x7d],\"target\":\"Sequential\"\x7d"

/-- The message of the error that reading an answer's body ends with. -/
def rereadError? (a : Answer) : Option Text :=
  match a with
  | .error _ => none
  | .ok reply =>
    match Workflow.ofJson reply.body with
    | .error e => some e.message
    | .ok _ => none

/-- The hypotheses hold of a request whose answer is not read back. -/
theorem undefined_switch_refused :
    ∃ reply switched, (answer { depth := 9 } [] undefinedSwitch).2 = .ok reply ∧ reply.status = 200 ∧
      reply.body = (switched : Workflow).toJson.withoutNonFinite ∧
      Workflow.ofJson reply.body ≠ .ok switched ∧
      rereadError? (.ok reply) = some "agents[0].temperature must be a number, got None" := by
  have granted : (answer { depth := 9 } [] undefinedSwitch).2.toOption.map (·.status) = some 200 := by
    decide +kernel
  have refused : rereadError? (answer { depth := 9 } [] undefinedSwitch).2
      = some "agents[0].temperature must be a number, got None" := by decide +kernel
  cases h : (answer { depth := 9 } [] undefinedSwitch).2 with
  | error failure =>
    rw [h] at granted
    cases granted
  | ok reply =>
    rw [h] at granted refused
    have status : reply.status = 200 := Option.some.inj granted
    obtain ⟨-, w, kind, -, -, -, written, -⟩ := answer_switch (by decide +kernel) h status
    refine ⟨reply, w.withKind kind, rfl, status, written, fun same => ?_, refused⟩
    rw [rereadError?, same] at refused
    cases refused

end Server

end AgentWorkflow
