import AgentWorkflow.Compilation.Outcome
import AgentWorkflow.Proofs.Project.Encodable
import Mathlib.Logic.ExistsUnique

/-!
# The exits of a compilation

Compiling a workflow ends in one of four ways, and what it gives is determined by which: there is
never a part of the files, never a hash without files, and the warnings are always those of the
check. A workflow that was read from a document cannot end at the third exit.

Results:
1. `exists_unique_exit`: the four exits exclude each other, and one always applies.
2. `result_of_applies`: what a compilation gives at each of them.
3. `compile_of_blocks`, `compile_of_generate`: the whole result at two of them.
4. `compile_clean`: all of it together, and the exit that documents rule out.
-/

namespace AgentWorkflow

/-- The ways in which compiling a workflow can end. -/
inductive Exit
  | blocked
  | unresolved
  | unencodable
  | generated
deriving DecidableEq

section Exits

variable (block : Bool) (options : GenerateOptions) (w : Workflow)

/-- Errors of the check stop the compilation. -/
def Workflow.Blocks : Prop := block = true ∧ w.preflight.hasErrors = true

namespace Exit

/-- When a compilation takes an exit. -/
def Applies : Exit → Prop
  | .blocked => w.Blocks block
  | .unresolved => ¬w.Blocks block ∧ ∃ reason, w.hierarchy = .error reason
  | .unencodable => ¬w.Blocks block ∧
      ∃ files, w.generate options = .ok files ∧ ∃ file ∈ files, ¬file.2.isEncodable
  | .generated => ¬w.Blocks block ∧
      ∃ files, w.generate options = .ok files ∧ ∀ file ∈ files, file.2.isEncodable

/-- What a compilation gives at an exit. -/
def Result (c : Compilation) : Exit → Prop
  | .blocked => c.files = [] ∧ c.errors = w.preflight.errors
  | .unresolved => c.files = [] ∧ ∃ reason, w.hierarchy = .error reason ∧
      c.errors = w.preflight.errors ++ [.on [.field "agents"] (.unresolved reason)]
  | .unencodable => c.files = [] ∧ ∃ files, w.generate options = .ok files ∧
      c.errors = w.preflight.errors
        ++ (files.filter fun file => !file.2.isEncodable).map fun file => ⟨.unencodable file.1, none⟩
  | .generated => w.generate options = .ok c.files ∧ c.files ≠ [] ∧ c.errors = w.preflight.errors

end Exit

/-- A compilation of a workflow without partial results. -/
structure Compilation.Clean (c : Compilation) : Prop where
  exit : ∃! e : Exit, e.Applies block options w
  result : ∀ e : Exit, e.Applies block options w → e.Result options w c
  errors : ∀ i ∈ c.errors, i.severity = .error
  warnings : c.warnings = w.preflight.warnings
  hash_eq_nil : c.hash = [] ↔ c.files = []
  hash : c.files ≠ [] → c.hash = Project.payloadHash c.files
  succeeded : c.succeeded ↔ Exit.generated.Applies block options w ∧ w.preflight.errors = []

end Exits

variable {block : Bool} {options : GenerateOptions} {w : Workflow}

/-! ## The exit taken -/

theorem generate_eq_error (options : GenerateOptions) {reason : HierarchyError} :
    w.generate options = .error reason ↔ w.hierarchy = .error reason := by
  cases h : w.hierarchy <;> simp [Workflow.generate, h, Except.map]

/-- What is generated is the project of the agents as they are arranged. -/
theorem generate_eq_ok {files : Table Text} :
    w.generate options = .ok files ↔
      ∃ g, w.hierarchy = .ok g ∧ Project.files options w g = files := by
  cases h : w.hierarchy <;> simp [Workflow.generate, h, Except.map]

theorem generate_ne_nil {files : Table Text} (h : w.generate options = .ok files) : files ≠ [] := by
  obtain ⟨g, -, rfl⟩ := generate_eq_ok.mp h
  exact List.cons_ne_nil _ _

theorem unencodableNames_eq_nil {files : Table Text} :
    Outcome.unencodableNames files = [] ↔ ∀ file ∈ files, file.2.isEncodable := by
  simp [Outcome.unencodableNames]

/-- No two exits apply to one workflow. -/
theorem Exit.eq_of_applies {e e' : Exit} (h : e.Applies block options w)
    (h' : e'.Applies block options w) : e = e' := by
  cases e <;> cases e' <;> simp only [Applies, ← generate_eq_error options] at h h' <;> grind

/-- The four outcomes, each with the exit that applies. -/
theorem outcome_cases (block : Bool) (options : GenerateOptions) (w : Workflow) :
    (Exit.blocked.Applies block options w ∧ w.outcome block options = .blocked) ∨
    (Exit.unresolved.Applies block options w ∧
      ∃ reason, w.hierarchy = .error reason ∧ w.outcome block options = .unresolved reason) ∨
    (Exit.unencodable.Applies block options w ∧ ∃ files, w.generate options = .ok files ∧
      w.outcome block options = .unencodable (Outcome.unencodableNames files)) ∨
    (Exit.generated.Applies block options w ∧
      ∃ files, w.generate options = .ok files ∧ w.outcome block options = .generated files) := by
  by_cases hb : w.Blocks block
  · exact .inl ⟨hb, by simp [Workflow.outcome, hb.1, hb.2]⟩
  -- from here on the check stops nothing, and what is generated decides
  have through : ¬(block && w.preflight.hasErrors) = true := by
    simpa [Workflow.Blocks] using hb
  refine .inr ?_
  cases hg : w.generate options with
  | error reason =>
    have hh := (generate_eq_error options).mp hg
    refine .inl ⟨⟨hb, reason, hh⟩, reason, hh, ?_⟩
    rw [Workflow.outcome, if_neg through, hg]
  | ok files =>
    refine .inr ?_
    have out : w.outcome block options = .ofFiles files := by
      rw [Workflow.outcome, if_neg through, hg]
    by_cases hf : Outcome.unencodableNames files = []
    · refine .inr ⟨⟨hb, files, hg, unencodableNames_eq_nil.mp hf⟩, files, rfl, ?_⟩
      rw [out, Outcome.ofFiles, hf]
      rfl
    · refine .inl ⟨⟨hb, files, hg, ?_⟩, files, rfl, ?_⟩
      · simpa [unencodableNames_eq_nil] using hf
      · rw [out, Outcome.ofFiles, if_neg (by simpa using hf)]

/-! ## What a compilation gives -/

theorem length_hex_ge (width n : Nat) : width ≤ (Text.hex width n).length := by
  simp only [Text.hex, List.length_append, List.length_replicate]
  omega

theorem payloadHash_ne_nil (files : Table Text) : Project.payloadHash files ≠ [] := by
  have long : ∀ word : UInt32, Text.hex 8 word.toNat ≠ [] := fun word h => by
    have := length_hex_ge 8 word.toNat
    simp [h] at this
  simp [Project.payloadHash, Sha256.digest, Sha256.State.words, long]

theorem severity_of_mem_compile_errors {i : Issue} (h : i ∈ (w.compile block options).errors) :
    i.severity = .error := by
  rcases List.mem_append.mp h with h | h
  · exact of_decide_eq_true (List.mem_filter.mp h).2
  · cases ho : w.outcome block options <;> rw [ho] at h
    case unresolved => exact (List.mem_singleton.mp h) ▸ rfl
    case unencodable =>
      obtain ⟨name, -, rfl⟩ := List.mem_map.mp h
      rfl
    all_goals cases h

/-- Each exit has its result: the four cases of the run in order. -/
theorem result_of_applies {e : Exit} (h : e.Applies block options w) :
    e.Result options w (w.compile block options) := by
  rcases outcome_cases block options w with
    ⟨ha, ho⟩ | ⟨ha, reason, hr, ho⟩ | ⟨ha, files, hg, ho⟩ | ⟨ha, files, hg, ho⟩ <;>
    obtain rfl := Exit.eq_of_applies h ha
  all_goals rw [Workflow.compile, ho]
  · exact ⟨rfl, List.append_nil _⟩
  · exact ⟨rfl, reason, hr, rfl⟩
  · refine ⟨rfl, files, hg, ?_⟩
    simp [Compilation.ofOutcome, Outcome.issues, Outcome.unencodableNames]
  · exact ⟨hg, generate_ne_nil hg, List.append_nil _⟩

theorem exists_unique_exit (block : Bool) (options : GenerateOptions) (w : Workflow) :
    ∃! e : Exit, e.Applies block options w := by
  rcases outcome_cases block options w with ⟨ha, -⟩ | ⟨ha, -⟩ | ⟨ha, -⟩ | ⟨ha, -⟩ <;>
    exact ⟨_, ha, fun e he => Exit.eq_of_applies he ha⟩

theorem hash_compile (block : Bool) (options : GenerateOptions) (w : Workflow) :
    (w.compile block options).hash =
      if (w.compile block options).files = [] then []
      else Project.payloadHash (w.compile block options).files := by
  simp [Workflow.compile, Compilation.ofOutcome]

/-- Success is the fourth exit without errors. Files alone are not enough: they are generated in
spite of errors too. -/
theorem succeeded_compile : (w.compile block options).succeeded ↔
    Exit.generated.Applies block options w ∧ w.preflight.errors = [] := by
  simp only [Compilation.succeeded, Bool.and_eq_true, List.isEmpty_iff, Bool.not_eq_true',
    List.isEmpty_eq_false_iff]
  constructor
  · rintro ⟨noErrors, someFiles⟩
    obtain ⟨e, he, -⟩ := exists_unique_exit block options w
    have result := result_of_applies he
    cases e with
    | generated => exact ⟨he, result.2.2 ▸ noErrors⟩
    | blocked | unresolved | unencodable => exact absurd result.1 someFiles
  · rintro ⟨he, noErrors⟩
    obtain ⟨-, someFiles, errors⟩ := result_of_applies he
    exact ⟨errors ▸ noErrors, someFiles⟩

/-- An encodable workflow does not end at the third exit. -/
theorem not_applies_unencodable (h : w.Encodable) : ¬Exit.unencodable.Applies block options w := by
  rintro ⟨-, files, hg, file, hf, unencodable⟩
  obtain ⟨g, -, rfl⟩ := generate_eq_ok.mp hg
  exact unencodable (Project.isEncodable_of_mem_files h file hf)

theorem files_compile_of_error (block : Bool) {reason : HierarchyError}
    (h : w.generate options = .error reason) : (w.compile block options).files = [] := by
  by_cases hb : w.Blocks block
  · exact (@result_of_applies block options w .blocked hb).1
  · exact (@result_of_applies block options w .unresolved
      ⟨hb, reason, (generate_eq_error options).mp h⟩).1

theorem compile_of_blocks (h : w.Blocks block) :
    w.compile block options = ⟨[], w.preflight.errors, w.preflight.warnings, []⟩ := by
  have out : w.outcome block options = .blocked := by simp [Workflow.outcome, h.1, h.2]
  rw [Workflow.compile, out]
  simp [Compilation.ofOutcome, Outcome.files, Outcome.issues]

/-- What a compilation gives for files that are generated and can be hashed. -/
theorem compile_of_generate (hw : w.Encodable) (h : ¬w.Blocks block) {files : Table Text}
    (hg : w.generate options = .ok files) :
    w.compile block options
      = ⟨files, w.preflight.errors, w.preflight.warnings, Project.payloadHash files⟩ := by
  have out : w.outcome block options = .generated files := by
    rcases outcome_cases block options w with
      ⟨ha, -⟩ | ⟨⟨-, reason, hr⟩, -⟩ | ⟨ha, -⟩ | ⟨-, files', hg', ho⟩
    · exact absurd ha h
    · rw [(generate_eq_error options).mpr hr] at hg
      cases hg
    · exact absurd ha (not_applies_unencodable hw)
    · rw [hg] at hg'
      cases hg'
      exact ho
  rw [Workflow.compile, out]
  simp [Compilation.ofOutcome, Outcome.files, Outcome.issues, generate_ne_nil hg]

/-- Every compilation is clean, and one of a workflow read from a document has only files that can
be written in UTF-8. -/
theorem compile_clean (block : Bool) (options : GenerateOptions) (w : Workflow) :
    (w.compile block options).Clean block options w ∧
      ∀ document, Workflow.ofJson document = .ok w →
        ¬Exit.unencodable.Applies block options w := by
  refine ⟨?_, fun document h => not_applies_unencodable (Workflow.encodable_of_ofJson h)⟩
  have hash := hash_compile block options w
  constructor
  case exit => exact exists_unique_exit block options w
  case result => exact fun e => result_of_applies
  case errors => exact fun i => severity_of_mem_compile_errors
  case warnings => rfl
  case succeeded => exact succeeded_compile
  case hash =>
    intro h
    rw [hash, if_neg h]
  case hash_eq_nil =>
    rw [hash]
    split
    · next h => simp [h]
    · next h => simp [h, payloadHash_ne_nil]

def singleDocument : Json := .object [("agents", .array [.object [("name", .text "helper")]])]

/-- The hypotheses hold of a workflow that is read from a document. -/
theorem compile_clean_single :
    ∃ w, Workflow.ofJson singleDocument = .ok w ∧ (w.compile true {}).Clean true {} w ∧
      ¬Exit.unencodable.Applies true {} w := by
  refine ⟨{ agents := [{ name := "helper" }] }, rfl, ?_⟩
  obtain ⟨clean, documents⟩ := compile_clean true {} { agents := [{ name := "helper" }] }
  exact ⟨clean, documents singleDocument rfl⟩

end AgentWorkflow
