import AgentWorkflow.Proofs.Compilation.Exits
import AgentWorkflow.Proofs.Console.Arguments
import AgentWorkflow.Proofs.Console.Storing
import AgentWorkflow.Proofs.Preflight.Verdict
import AgentWorkflow.Proofs.Project.Acceptance
import AgentWorkflow.Proofs.Workflow.Cycles

/-!
# Checking and generating

A run that checks a file and one that generates its project into a fresh directory read the same
workflow and put it to the same check, but only the latter arranges the agents. There is room for
its files. Where every line is printed and the parser has nothing to say against the programs of a
project, both runs succeed or both fail, except for a hierarchy in which an agent is its own
ancestor: there the check finds nothing, and nothing can be generated.

Results:
1. `print_of_takes`, `print_of_not_takes`: printing.
2. `ending_runValidate`, `ending_runGenerate`: when each of the two runs succeeds.
3. `run_generate_iff`: how the two agree.
-/

namespace AgentWorkflow

/-- A hierarchy in which an agent is its own ancestor. -/
def Workflow.Cyclic (w : Workflow) : Prop :=
  w.kind = .hierarchical ∧ ∃ id, Hierarchy.Below w.agents id id

/-- A workflow without errors can be generated unless it is cyclic. -/
theorem Workflow.generate_iff {w : Workflow} (silent : w.preflight.errors = [])
    (options : GenerateOptions) : (∃ files, w.generate options = .ok files) ↔ ¬w.Cyclic := by
  have ids := (Preflight.errors_eq_nil_iff.mp silent).ids
  rw [Workflow.Cyclic, ← Hierarchy.resolve_eq_ok_iff ids]
  simp only [generate_eq_ok, Workflow.hierarchy]
  constructor
  · rintro ⟨_, g, hg, _⟩
    exact ⟨g, hg⟩
  · rintro ⟨g, hg⟩
    exact ⟨_, g, hg, rfl⟩

namespace Console

variable {m : Machine} {d : Disk} {file out : Text} {dir : DiskPath} {level : NoticeLevel}
  {w : Workflow}
  {options : GenerateOptions} {files : Table Text}

/-! ## Printing -/

/-- `m.Takes printed lines`: standard output takes the lines behind those that are printed. -/
inductive Machine.Takes (m : Machine) : List Text → List Text → Prop
  | nil (printed : List Text) : Takes m printed []
  | cons {printed : List Text} {line : Text} {rest : List Text}
      (taken : m.refusal printed line = none) (takes : Takes m (printed ++ [line]) rest) :
      Takes m printed (line :: rest)

theorem print_of_takes {printed lines : List Text} (takes : m.Takes printed lines) :
    m.print printed lines = (printed ++ lines, none) := by
  induction takes with
  | nil => simp [Machine.print]
  | cons taken _ ih =>
    rw [Machine.print, taken]
    dsimp only
    rw [ih, List.append_assoc, List.singleton_append]

theorem print_of_not_takes {printed lines : List Text} (refuses : ¬m.Takes printed lines) :
    ∃ output c, m.print printed lines = (output, some c) := by
  induction lines generalizing printed with
  | nil => exact absurd (.nil printed) refuses
  | cons line rest ih =>
    rw [Machine.print]
    cases refused : m.refusal printed line with
    | some reason => exact ⟨printed, .unprinted reason, rfl⟩
    | none => exact ih fun takes => refuses (.cons refused takes)

/-- True of a machine that prints every line and has a parser that takes the programs of every
project. -/
structure Machine.Willing (m : Machine) : Prop where
  prints : ∀ printed line, m.refusal printed line = none
  parses : ∀ (w : Workflow) (options : GenerateOptions) (files : Table Text),
    w.generate options = .ok files → Source.objections m.parser files = []

theorem Machine.Willing.takes (willing : m.Willing) (printed lines : List Text) :
    m.Takes printed lines := by
  induction lines generalizing printed with
  | nil => exact .nil printed
  | cons line rest ih => exact .cons (willing.prints printed line) (ih _)

/-! ## Loading -/

theorem ofJson_of_load {depth : Nat} (h : load depth d file = .ok w) :
    ∃ v, Workflow.ofJson v = .ok w := by
  simp only [load, bind, Except.bind] at h
  split at h
  · cases h
  · split at h
    · cases h
    · next v _ =>
      split at h
      · next read =>
        cases h
        exact ⟨v, read⟩
      · cases h
      · cases h

theorem encodable_of_load {depth : Nat} (h : load depth d file = .ok w) : w.Encodable := by
  obtain ⟨v, read⟩ := ofJson_of_load h
  exact Workflow.encodable_of_ofJson read

theorem ending_ofLoadError (d : Disk) (e : LoadError) :
    (Run.ofLoadError d e).ending ≠ .exit 0 := by
  unfold Run.ofLoadError
  split <;> simp

/-! ## The two runs -/

/-- A check succeeds if there is a workflow to check and no error in it, and the report can be
printed. -/
theorem ending_runValidate : (runValidate m d file).ending = .exit 0 ↔
    ∃ w, load m.depth d file = .ok w ∧ w.preflight.errors = [] ∧
      m.Takes [] (reportLines w.preflight) := by
  unfold runValidate
  cases hl : load m.depth d file with
  | error e => simp [ending_ofLoadError]
  | ok w =>
    by_cases takes : m.Takes [] (reportLines w.preflight)
    · simp [print_of_takes takes, takes, Ending.after, Report.hasErrors]
    · obtain ⟨output, c, refused⟩ := print_of_not_takes takes
      simp [refused, takes, Ending.after]

theorem runCompile_of_no_files {block : Bool} (none : (w.compile block options).files = []) :
    (runCompile m level d dir block options w).ending ≠ .exit 0 := by
  rcases printed : m.print [] (issueLines (w.compile block options)) with ⟨output, _ | c⟩
  · simp [runCompile, printed, none]
  · simp [runCompile, printed]

/-- Nothing is stored when errors stop the compilation. -/
theorem runCompile_of_errors (found : w.preflight.errors ≠ []) :
    (runCompile m level d dir true options w).ending ≠ .exit 0 := by
  have blocks : w.Blocks true := ⟨rfl, by simpa [Report.hasErrors] using found⟩
  exact runCompile_of_no_files (by rw [compile_of_blocks blocks])

/-- Nothing is stored when the agents form no structure. -/
theorem runCompile_of_error {reason : HierarchyError} (hr : w.generate options = .error reason) :
    (runCompile m level d dir true options w).ending ≠ .exit 0 :=
  runCompile_of_no_files (files_compile_of_error true hr)

/-- In a fresh directory, the files of a workflow without errors are stored. -/
theorem runCompile_of_generate (willing : m.Willing) (fresh : Fresh d dir) (hw : w.Encodable)
    (silent : w.preflight.errors = []) (hg : w.generate options = .ok files) :
    (runCompile m level d dir true options w).ending = .exit 0 := by
  have parsable := willing.parses w options files hg
  have blocks : ¬w.Blocks true := by simp [Workflow.Blocks, Report.hasErrors, silent]
  have someFiles := generate_ne_nil hg
  have compiled := compile_of_generate hw blocks hg
  obtain ⟨g, -, rfl⟩ := generate_eq_ok.mp hg
  have stored := store_of_fresh fresh fun file (mem : file ∈ Project.files options w g) =>
    Project.name_mem_of_mem_files mem
  have told := fun printed lines => print_of_takes (willing.takes printed lines)
  simp [runCompile, runStore, told, compiled, someFiles, parsable, stored, Compilation.succeeded,
    silent, Ending.after]

/-- Into a fresh directory, a project is generated if there is a workflow without errors, whose
agents can be arranged. -/
theorem ending_runGenerate (willing : m.Willing)
    (fresh : Fresh d (DiskPath.ofText out)) :
    (runGenerate m level d file (some out) false true options).ending = .exit 0 ↔
      ∃ w, load m.depth d file = .ok w ∧ w.preflight.errors = [] ∧
        ∃ files, w.generate options = .ok files := by
  unfold runGenerate
  cases hl : load m.depth d file with
  | error e => simp [ending_ofLoadError]
  | ok w =>
    have hw := encodable_of_load hl
    simp only [runGenerateIn, isOccupied_of_fresh fresh, Bool.false_and, Bool.false_eq_true,
      if_false, Except.ok.injEq, exists_eq_left']
    by_cases silent : w.preflight.errors = []
    · cases hg : w.generate options with
      | error reason => simp [runCompile_of_error hg]
      | ok files => simp [runCompile_of_generate willing fresh hw silent hg, silent]
    · simp [runCompile_of_errors silent, silent]

/-! ## The two commands -/

/-- On a willing machine, a file whose project can be generated into a fresh directory is one that a
check finds nothing wrong with and that holds no cyclic hierarchy. -/
theorem run_generate_iff (willing : m.Willing)
    (environment : Table Text) (hf : IsPlain file) (ho : IsPlain out)
    (fresh : Fresh d (DiskPath.ofText out)) :
    (run m environment d ["generate", file, "--out", out]).ending = .exit 0 ↔
      (run m environment d ["validate", file]).ending = .exit 0 ∧
        ∀ w, load m.depth d file = .ok w → ¬w.Cyclic := by
  simp only [run, ofArguments_validate hf, ofArguments_generate hf ho]
  -- a run that does not get as far as its command ends the same way for both
  cases Settings.ofEnvironment environment with
  | error e => simp
  | ok settings =>
    cases hlevel : NoticeLevel.ofName? settings.logLevel with
    | none => simp [hlevel]
    | some level =>
      simp only [hlevel, runCommand, Bool.not_false]
      rw [ending_runValidate]
      rw [ending_runGenerate willing fresh]
      constructor
      · rintro ⟨w, hw, silent, made⟩
        refine ⟨⟨w, hw, silent, willing.takes _ _⟩, fun w' hw' => ?_⟩
        obtain rfl : w = w' := Except.ok.inj (hw.symm.trans hw')
        exact (w.generate_iff silent {}).mp made
      · rintro ⟨⟨w, hw, silent, -⟩, acyclic⟩
        exact ⟨w, hw, silent, (w.generate_iff silent {}).mpr (acyclic w hw)⟩

/-- A disk with the file of a hierarchy in which the only agent is its own parent. -/
def loopDisk : Disk where
  home := ["home"]
  entries := [(["home", "w.json"], .file (Text.utf8
    "\x7b\"agents\":[\x7b\"id\":\"a\",\"name\":\"writer\",\"parentId\":\"a\"\x7d],\"workflowType\":\"Hierarchical\"\x7d"))]

/-- A machine on which JSON may nest a hundred deep, the outline of a program is all that is looked
at, and every line is printed. -/
def plainMachine : Machine where
  depth := 100
  parser := Source.outlineObjection?
  refusal _ _ := none

theorem willing_plainMachine : plainMachine.Willing where
  prints _ _ := rfl
  parses _ _ _ := Workflow.objections_of_generate

def loop : Workflow where
  agents := [{ id := "a", name := "writer", parent := some "a" }]
  kind := .hierarchical

theorem fresh_out : Fresh loopDisk (DiskPath.ofText "out") := by
  have rooted : loopDisk.IsRooted := by
    intro entry he _
    obtain rfl := List.mem_singleton.mp he
    rfl
  have opens : loopDisk.Opens (DiskPath.ofText "") ["home"] := ⟨by rfl, by rfl⟩
  have plain : Disk.Plain "out" := ⟨by decide, by decide, by decide⟩
  exact fresh_of_new ⟨fun _ _ => rfl, fun _ _ _ => rfl⟩ rooted opens rfl rfl plain (by decide)
    (by decide) (by decide)

theorem load_loop : load plainMachine.depth loopDisk "w.json" = .ok loop := by
  have read : (load plainMachine.depth loopDisk "w.json").toOption = some loop := by decide +kernel
  cases hl : load plainMachine.depth loopDisk "w.json" with
  | error e =>
    rw [hl] at read
    cases read
  | ok w =>
    rw [hl] at read
    exact congrArg _ (Option.some.inj read)

theorem cyclic_loop : loop.Cyclic :=
  ⟨rfl, "a", .single ⟨by decide, _, List.mem_cons_self, rfl, rfl⟩⟩

/-- The check finds nothing wrong with the loop, and its project cannot be generated. -/
theorem run_generate_loop :
    (run plainMachine [] loopDisk ["validate", "w.json"]).ending = .exit 0 ∧
      (run plainMachine [] loopDisk ["generate", "w.json", "--out", "out"]).ending ≠ .exit 0 := by
  refine ⟨by decide +kernel, fun generated => ?_⟩
  have agreed :=
    (run_generate_iff willing_plainMachine [] (by decide) (by decide) fresh_out).mp generated
  exact agreed.2 loop load_loop cyclic_loop

end Console

end AgentWorkflow
