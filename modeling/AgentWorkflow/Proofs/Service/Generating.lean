import AgentWorkflow.Proofs.Compilation.Exits
import AgentWorkflow.Proofs.Preflight.Encodable
import AgentWorkflow.Proofs.Project.Files
import AgentWorkflow.Proofs.Service.Answers

/-!
# Answers to a request for a project

A request for a project is answered in one of three ways. The agents are arranged first, and if
they form no structure the request is refused with 422. If errors block and there are some, it is
refused with 409. Otherwise the project is sent. A compilation has other ways of giving no files,
but none of them is left for a workflow that was read from a document and whose agents have been
arranged: so an answer with 409 always means that errors have blocked.

Results:
1. `Service.generate_cases`: how a request for a project is handled.
2. `Server.answer_generate`: how it is answered.
-/

namespace AgentWorkflow

variable {block : Bool} {options : GenerateOptions} {w : Workflow}

/-! ## What is told -/

/-- The issues of a workflow and the hash of its files, as an answer holds them. -/
def Workflow.reportFields (w : Workflow) (hash : Text) : Json.Fields :=
  [("errors", .array (w.preflight.errors.map Issue.toJson)),
    ("warnings", .array (w.preflight.warnings.map Issue.toJson)), ("payload_hash", .text hash)]

/-- What is told of a workflow whose errors block: no file and no hash. -/
def Workflow.blockedBody (w : Workflow) : Json :=
  .object [("detail", .object (("ok", .bool false) :: w.reportFields []))]

/-- What is sent of a workflow and its files, which stand in the order in which they were made. -/
def Workflow.generatedBody (w : Workflow) (files : Table Text) : Json :=
  .object (("ok", .bool w.preflight.errors.isEmpty)
    :: ("files", .object (files.map fun (name, content) => (name, .text content)))
    :: w.reportFields (Project.payloadHash files))

theorem isFinite_issue (i : Issue) : i.toJson.isFinite := by
  obtain ⟨finding, path⟩ := i
  cases path <;> rfl

theorem fieldsFinite_reportFields (w : Workflow) (hash : Text) :
    Json.fieldsFinite (w.reportFields hash) := by
  simp only [Workflow.reportFields, Json.fieldsFinite, Json.isFinite,
    Json.areFinite_map fun i _ => isFinite_issue i, Bool.and_self]

theorem isFinite_blockedBody (w : Workflow) : w.blockedBody.isFinite := by
  simp only [Workflow.blockedBody, Json.isFinite, Json.fieldsFinite, fieldsFinite_reportFields,
    Bool.and_self]

theorem isFinite_generatedBody (w : Workflow) (files : Table Text) :
    (w.generatedBody files).isFinite := by
  have texts : Json.fieldsFinite (files.map fun (name, content) => (name, .text content)) :=
    Json.fieldsFinite_map fun _ _ => rfl
  simp only [Workflow.generatedBody, Json.isFinite, Json.fieldsFinite, texts,
    fieldsFinite_reportFields, Bool.and_self]

theorem encodable_issue (h : w.Encodable) {i : Issue} {f : Preflight.Field}
    (found : Preflight.FoundAt w f i) : i.toJson.Encodable := by
  obtain ⟨finding, rule, rfl⟩ := found
  have severity : finding.severity.name.isEncodable := by
    cases finding.severity <;> exact Text.isEncodable_ofString _
  have message : finding.message.isEncodable := Preflight.isEncodable_message_of_finds h rule
  simp [Issue.toJson, Issue.on, Issue.severity, Issue.message, severity, message,
    Preflight.isEncodable_text_path f]

theorem encodable_reportFields (h : w.Encodable) {hash : Text} (hh : hash.isEncodable) :
    ∀ field ∈ w.reportFields hash, field.1.isEncodable ∧ field.2.Encodable := by
  have errors : ∀ i ∈ w.preflight.errors, i.toJson.Encodable := by
    intro i hi
    obtain ⟨f, found⟩ := (Preflight.mem_errors.mp hi).1
    exact encodable_issue h found
  have warnings : ∀ i ∈ w.preflight.warnings, i.toJson.Encodable := by
    intro i hi
    obtain ⟨f, found⟩ := (Preflight.mem_warnings.mp hi).1
    exact encodable_issue h found
  simpa [Workflow.reportFields, hh] using ⟨errors, warnings⟩

theorem encodable_blockedBody (h : w.Encodable) : w.blockedBody.Encodable := by
  simpa [Workflow.blockedBody] using encodable_reportFields h rfl

theorem encodable_generatedBody (h : w.Encodable) {files : Table Text}
    (hg : w.generate options = .ok files) : (w.generatedBody files).Encodable := by
  have hash : (Project.payloadHash files).isEncodable := by
    simp [Project.payloadHash]
  have contents : ∀ file ∈ files, file.1.isEncodable ∧ file.2.isEncodable := by
    obtain ⟨g, -, rfl⟩ := generate_eq_ok.mp hg
    have names : ∀ name ∈ Project.fileNames, name.isEncodable := by decide
    exact fun file hf => ⟨names _ (Project.name_mem_of_mem_files hf),
      Project.isEncodable_of_mem_files h file hf⟩
  have sent : (Json.object (files.map fun (name, content) => (name, .text content))).Encodable := by
    refine Json.encodable_object_iff.mpr fun field hf => ?_
    obtain ⟨file, hfile, rfl⟩ := List.mem_map.mp hf
    exact ⟨(contents file hfile).1, .text (contents file hfile).2⟩
  refine Json.encodable_object_iff.mpr fun field hf => ?_
  rcases List.mem_cons.mp hf with rfl | hf
  · exact ⟨Text.isEncodable_ofString _, .bool _⟩
  · rcases List.mem_cons.mp hf with rfl | hf
    · exact ⟨Text.isEncodable_ofString _, sent⟩
    · exact encodable_reportFields h hash field hf

/-! ## Handling -/

namespace Service

variable {form : GenerateForm} {strict : Bool}

theorem generate_of_error (read : Workflow.ofJson form.workflow.document = .ok w)
    {reason : HierarchyError} (hh : w.hierarchy = .error reason) :
    Service.generate form strict = refuse (.unresolved reason) := by
  have given : readWorkflow form.workflow = .ok w := ofReading_eq_ok.mpr read
  simp only [Service.generate, given, bind, Except.bind, hh]

theorem generate_of_ok (read : Workflow.ofJson form.workflow.document = .ok w) {g : Hierarchy}
    (hh : w.hierarchy = .ok g) {result : Compilation}
    (hr : w.compile (form.blockOnErrors.getD strict) ⟨form.environmentExample⟩ = result) :
    Service.generate form strict =
      if result.files.isEmpty then refuse (.blocked result) else .ok result.toJson := by
  have given : readWorkflow form.workflow = .ok w := ofReading_eq_ok.mpr read
  simp only [Service.generate, given, bind, Except.bind, hh, hr, pure, Except.pure]

/-- A request for the project of a workflow is refused if the agents form no structure, or if errors
block, and is granted otherwise. -/
theorem generate_cases (read : Workflow.ofJson form.workflow.document = .ok w) :
    (∃ reason, w.hierarchy = .error reason ∧
      Service.generate form strict = refuse (.unresolved reason)) ∨
    ((∃ g, w.hierarchy = .ok g) ∧ w.Blocks (form.blockOnErrors.getD strict) ∧
      ∃ result, Service.generate form strict = refuse (.blocked result) ∧
        (Refusal.blocked result).body = w.blockedBody) ∨
    ((∃ g, w.hierarchy = .ok g) ∧ ¬w.Blocks (form.blockOnErrors.getD strict) ∧
      ∃ files, w.generate ⟨form.environmentExample⟩ = .ok files ∧
        Service.generate form strict = .ok (w.generatedBody files)) := by
  cases hh : w.hierarchy with
  | error reason => exact .inl ⟨reason, rfl, generate_of_error read hh⟩
  | ok g =>
    refine .inr ?_
    by_cases blocks : w.Blocks (form.blockOnErrors.getD strict)
    · refine .inl ⟨⟨g, rfl⟩, blocks, _, generate_of_ok read hh (compile_of_blocks blocks), ?_⟩
      simp [Refusal.body, Compilation.toJsonWithoutFiles, Compilation.issueFields,
        Compilation.succeeded, Workflow.blockedBody, Workflow.reportFields]
    · have generated : w.generate ⟨form.environmentExample⟩
          = .ok (Project.files ⟨form.environmentExample⟩ w g) := generate_eq_ok.mpr ⟨g, hh, rfl⟩
      have someFiles := generate_ne_nil generated
      have result := compile_of_generate (Workflow.encodable_of_ofJson read) blocks generated
      refine .inr ⟨⟨g, rfl⟩, blocks, _, generated, ?_⟩
      rw [generate_of_ok read hh result, if_neg (by simpa using someFiles)]
      simp [Compilation.toJson, Compilation.issueFields, Compilation.succeeded, someFiles,
        Workflow.generatedBody, Workflow.reportFields]

end Service

/-! ## Answering -/

/-- How a request for the project of a workflow is answered: which of the three statuses it gets,
and what is told at each of them. -/
structure GenerateAnswer (block : Bool) (options : GenerateOptions) (w : Workflow) (reply : Reply) :
    Prop where
  status_unresolved : reply.status = 422 ↔ ∃ reason, w.hierarchy = .error reason
  status_blocked : reply.status = 409 ↔ (∃ g, w.hierarchy = .ok g) ∧ w.Blocks block
  status_generated : reply.status = 200 ↔ (∃ g, w.hierarchy = .ok g) ∧ ¬w.Blocks block
  unresolved : ∀ reason, w.hierarchy = .error reason →
    reply.body = .object [("detail", .text reason.message)]
  blocked : reply.status = 409 → w.preflight.errors ≠ [] ∧ reply.body = w.blockedBody
  generated : reply.status = 200 → ∃ files, w.generate options = .ok files ∧
    reply.body = w.generatedBody files
  written : reply.body.isFinite ∧ reply.body.Encodable

namespace GenerateAnswer

/-- Agents that form no hierarchy: the answer for a cycle or a repeated id. -/
theorem of_unresolved (h : w.Encodable) {reason : HierarchyError} (hr : w.hierarchy = .error reason) :
    ∃ reply, Reply.refuse (.unresolved reason) = .ok reply ∧ GenerateAnswer block options w reply := by
  have encodable : (Refusal.unresolved reason).body.Encodable := by
    simp [Refusal.body, isEncodable_message_of_hierarchy h hr]
  refine ⟨_, Reply.refuse_eq_ok rfl encodable, ?_⟩
  constructor
  case written => exact ⟨rfl, encodable⟩
  case unresolved =>
    intro reason' hr'
    cases hr.symm.trans hr'
    rfl
  all_goals simp [Refusal.status, hr]

/-- Errors of a workflow that are not ignored: the answer that lists them. -/
theorem of_blocked (h : w.Encodable) {g : Hierarchy} (hg : w.hierarchy = .ok g)
    (blocks : w.Blocks block) {result : Compilation}
    (body : (Refusal.blocked result).body = w.blockedBody) :
    ∃ reply, Reply.refuse (.blocked result) = .ok reply ∧ GenerateAnswer block options w reply := by
  have finite := isFinite_blockedBody w
  have encodable := encodable_blockedBody h
  rw [← body] at finite encodable
  refine ⟨_, Reply.refuse_eq_ok finite encodable, ?_⟩
  constructor
  case written => exact ⟨finite, encodable⟩
  case blocked =>
    have someErrors : w.preflight.errors ≠ [] := by simpa [Report.hasErrors] using blocks.2
    exact fun _ => ⟨someErrors, body⟩
  all_goals simp [Refusal.status, hg, blocks]

/-- Nothing in the way: the answer with the files. -/
theorem of_generated (h : w.Encodable) {g : Hierarchy} (hg : w.hierarchy = .ok g)
    (blocks : ¬w.Blocks block) {files : Table Text} (generated : w.generate options = .ok files) :
    GenerateAnswer block options w (.grant (w.generatedBody files)) := by
  have finite := isFinite_generatedBody w files
  have sent : (Reply.grant (w.generatedBody files)).body = w.generatedBody files :=
    Json.withoutNonFinite_of_isFinite _ finite
  have status : (Reply.grant (w.generatedBody files)).status = 200 := rfl
  constructor
  case written =>
    rw [sent]
    exact ⟨finite, encodable_generatedBody h generated⟩
  case generated => exact fun _ => ⟨files, generated, sent⟩
  all_goals simp [status, hg, blocks]

end GenerateAnswer

namespace Server

variable {s : Server} {environment : Table Text} {r : Request}

/-- Every accepted request for a project, within the limit and with a body that is read as a
workflow, is answered: with 422 if the agents form no structure, else with 409 if errors are to
block and there are some, else with 200 and the project. -/
theorem answer_generate {form : GenerateForm} {strict : Bool} {settings : Settings}
    (accepted : Service.accept s.depth environment r = .ok (.generate form strict))
    (valid : Settings.ofEnvironment environment = .ok settings)
    (within : s.exceeded? r.path (.generate form strict) = none)
    (read : Workflow.ofJson form.workflow.document = .ok w) :
    ∃ reply, (s.answer environment r).2 = .ok reply ∧
      GenerateAnswer (form.blockOnErrors.getD settings.strict) ⟨form.environmentExample⟩ w reply := by
  obtain ⟨settings', valid', rfl⟩ := Service.settings_of_accept accepted
  obtain rfl : settings' = settings := Except.ok.inj (valid'.symm.trans valid)
  rw [answer_of_accept accepted within]
  have encodable := Workflow.encodable_of_ofJson read
  change ∃ reply, Handling.answer (Service.generate form settings'.strict) = .ok reply ∧ _
  rcases @Service.generate_cases w form settings'.strict read with
    ⟨reason, hr, handled⟩ | ⟨⟨g, hg⟩, blocks, result, handled, body⟩ |
      ⟨⟨g, hg⟩, blocks, files, generated, handled⟩ <;> rw [handled]
  · exact GenerateAnswer.of_unresolved encodable hr
  · exact GenerateAnswer.of_blocked encodable hg blocks body
  · exact ⟨_, rfl, GenerateAnswer.of_generated encodable hg blocks generated⟩

/-- A request for the project of one agent, whose name cannot stand in a program. -/
def reservedRequest : Request where
  method := "POST"
  url := "/generate"
  body := "\x7b\"agents\":[\x7b\"name\":\"class\"\x7d]\x7d"

/-- The workflow that a call for a project gives, if it leaves everything else open. -/
def plainWorkflow? (call : Handling Call) : Option Workflow :=
  match call with
  | .ok (.generate ⟨workflow, false, none⟩ true) => (Workflow.ofJson workflow.document).toOption
  | _ => none

/-- A service that nobody has called, for bodies that nest nine deep. -/
def idleServer : Server where
  depth := 9

/-- The hypotheses hold of a request that is answered with 409. -/
theorem reserved_generate_blocked :
    ∃ reply, (answer idleServer [] reservedRequest).2 = .ok reply ∧ reply.status = 409 ∧
      GenerateAnswer true ⟨false⟩ { agents := [{ name := "class" }] } reply := by
  have given : plainWorkflow? (Service.accept idleServer.depth [] reservedRequest)
      = some { agents := [{ name := "class" }] } := by decide +kernel
  have blocks : (∃ g, Workflow.hierarchy { agents := [{ name := "class" }] } = .ok g) ∧
      Workflow.Blocks true { agents := [{ name := "class" }] } :=
    ⟨⟨_, rfl⟩, rfl, by decide +kernel⟩
  unfold plainWorkflow? at given
  split at given
  · case h_1 workflow accepted =>
    obtain ⟨settings, valid, strict⟩ := Service.settings_of_accept accepted
    cases read : Workflow.ofJson workflow.document with
    | error e =>
      rw [read] at given
      cases given
    | ok w =>
      rw [read] at given
      obtain rfl : w = { agents := [{ name := "class" }] } := Option.some.inj given
      have within : idleServer.exceeded? reservedRequest.path
          (.generate ⟨workflow, false, none⟩ true) = none := rfl
      obtain ⟨reply, answered, told⟩ := answer_generate accepted valid within read
      simp only [Option.getD_none, strict] at told
      exact ⟨reply, answered, told.status_blocked.mpr blocks, told⟩
  · cases given

end Server

end AgentWorkflow
