import AgentWorkflow.Proofs.Console.Escapes
import AgentWorkflow.Proofs.Preflight.Encodable
import AgentWorkflow.Proofs.Service.Answers
import AgentWorkflow.Proofs.Workflow.Overflow

/-!
# What comes of a document

A document is read, or it is refused with a reason that reaches whoever sent it: the service answers
422 with the reason in it, and a command reports the reason and ends with 1. The exception are the
documents of `Overflows`, whose temperature stops the reader: the service gives no answer, and the
program is ended.

Results:
1. `isEncodable_message`: the reason can always be sent.
2. `answer_handle_of_malformed`, `runCommand_of_malformed`: a refused document.
3. `course_ofJson`: every document.
-/

namespace AgentWorkflow

/-! ## The reason -/

namespace Document

theorem isWritable_of_isKnown {p : Path} (h : p.all isKnown) : p.all Preflight.isWritable := by
  have names : ∀ name ∈ fieldNames, name.isEncodable := by simp [fieldNames]
  refine List.all_eq_true.mpr fun step hstep => ?_
  have known := List.all_eq_true.mp h step hstep
  cases step with
  | field name => exact names name (List.contains_iff_mem.mp known)
  | item index => rfl

theorem isEncodable_message {reason : Malformation} (h : HasKnownNames reason) :
    reason.message.isEncodable := by
  have path : ∀ {p : Path}, p.all isKnown → p.text.isEncodable :=
    fun known => Preflight.isEncodable_pathText (isWritable_of_isKnown known)
  cases reason with
  | notAnObject | agentsNotAList | unknownKind => simp [Malformation.message]
  | objectExpected p | listExpected p | numberExpected p | flagExpected p | unknownType p =>
    simp [Malformation.message, path h]
  | unencodable name position =>
    have names : ∀ name ∈ fieldNames, name.isEncodable := by simp [fieldNames]
    simp [Malformation.message, names name h]

end Document

variable {document : Json} {reason : Malformation} {e : DocumentError}

/-! ## The service -/

/-- The document that a call gives to the reader. -/
def Call.document? : Call → Option Json
  | .health => none
  | .preflight form => some form.document
  | .generate form _ => some form.workflow.document
  | .switch form => some form.workflow.document

namespace Service

theorem handle_of_error {call : Call} (given : call.document? = some document)
    (stopped : Workflow.ofJson document = .error e) : handle call = ofReading (.error e) := by
  cases call with
  | health => cases given
  | preflight form | generate form strict | switch form =>
    cases given
    cases e <;>
      simp only [handle, preflight, generate, switch, readWorkflow, stopped, ofReading, refuse, fail,
        bind, Except.bind]

/-- The reason is sent as it is. -/
theorem answer_handle_of_malformed {call : Call} (given : call.document? = some document)
    (refused : Workflow.ofJson document = .error (.malformed reason)) :
    Handling.answer (handle call)
      = .ok ⟨422, .object [("detail", .text reason.message)]⟩ := by
  have message := Document.isEncodable_message (Document.hasKnownNames_of_ofJson refused)
  have body : (Refusal.malformed reason).body.Encodable := by
    simp [Refusal.body, message]
  rw [handle_of_error given refused]
  exact Reply.refuse_eq_ok rfl body

end Service

/-! ## The program -/

namespace Console

variable {m : Machine} {d : Disk} {file : Text} {command : Command}

/-- `Spells depth d file document`: the path leads to a file that spells the document, which nests
no deeper than given. -/
def Spells (depth : Nat) (d : Disk) (file : Text) (document : Json) : Prop :=
  ∃ t : Text, Contains d file t.utf8 ∧ t.isEncodable ∧
    Json.read depth t.unifyLineEnds = .ok document

theorem load_of_spells {depth : Nat} (spells : Spells depth d file document) : load depth d file =
    match Workflow.ofJson document with
    | .ok w => .ok w
    | .error (.malformed reason) => .error (.malformed reason)
    | .error .temperatureTooLarge => .error (.crash .temperatureTooLarge) := by
  obtain ⟨t, contains, encodable, read⟩ := spells
  simp only [load, loadText_of_contains contains encodable, loadJson, read, bind, Except.bind]
  rfl

theorem runCommand_of_malformed (spells : Spells m.depth d file document)
    (reads : command.file? = some file)
    (refused : Workflow.ofJson document = .error (.malformed reason)) (level : NoticeLevel) :
    runCommand m level d command
      = { ending := .exit 1, errors := [errorLine reason.message], disk := d } := by
  have failed : load m.depth d file = .error (.malformed reason) := by
    rw [load_of_spells spells, refused]
  exact runCommand_of_load_error reads failed level

theorem runCommand_of_overflow (spells : Spells m.depth d file document)
    (reads : command.file? = some file)
    (stopped : Workflow.ofJson document = .error .temperatureTooLarge) (level : NoticeLevel) :
    runCommand m level d command = { ending := .crash .temperatureTooLarge, disk := d } := by
  have failed : load m.depth d file = .error (.crash .temperatureTooLarge) := by
    rw [load_of_spells spells, stopped]
  exact runCommand_of_load_error reads failed level

end Console

/-! ## Every document -/

namespace Document

/-- What comes of a document. -/
inductive Course (document : Json) : Prop
  /-- It is read. -/
  | read (w : Workflow) (fits : ¬Overflows document) (given : Workflow.ofJson document = .ok w)
  /-- It is refused, and the reason is told in every answer to a call with it and in what every
  command on a file with it writes. -/
  | refused (reason : Malformation) (fits : ¬Overflows document)
      (refused : Workflow.ofJson document = .error (.malformed reason))
      (answered : ∀ call : Call, call.document? = some document →
        Handling.answer (Service.handle call)
          = .ok ⟨422, .object [("detail", .text reason.message)]⟩)
      (ended : ∀ m d file command level, Console.Spells m.depth d file document →
        Console.Command.file? command = some file → Console.runCommand m level d command
          = { ending := .exit 1, errors := [Console.errorLine reason.message], disk := d })
  /-- A temperature stops the reader, the service and the program. -/
  | overflow (overflows : Overflows document)
      (stopped : Workflow.ofJson document = .error .temperatureTooLarge)
      (answered : ∀ call : Call, call.document? = some document →
        Handling.answer (Service.handle call) = .error .temperatureTooLarge)
      (ended : ∀ m d file command level, Console.Spells m.depth d file document →
        Console.Command.file? command = some file → Console.runCommand m level d command
          = { ending := .crash .temperatureTooLarge, disk := d })

/-- A document is read or refused with a reason that is told, unless it overflows. -/
theorem course_ofJson (document : Json) : Course document := by
  have overflow := ofJson_eq_overflow_iff document
  cases ended : Workflow.ofJson document with
  | ok w => exact .read w (by simpa [ended] using overflow) ended
  | error e =>
    cases e with
    | malformed reason =>
      refine .refused reason (by simpa [ended] using overflow) ended ?_ ?_
      · exact fun call given => Service.answer_handle_of_malformed given ended
      · exact fun m d file command level spells reads =>
          Console.runCommand_of_malformed spells reads ended level
    | temperatureTooLarge =>
      refine .overflow (overflow.mp ended) ended ?_ ?_
      · intro call given
        rw [Service.handle_of_error given ended]
        rfl
      · exact fun m d file command level spells reads =>
          Console.runCommand_of_overflow spells reads ended level

end Document

end AgentWorkflow
