import AgentWorkflow.Proofs.Console.Agreement
import AgentWorkflow.Proofs.Console.Loading
import AgentWorkflow.Proofs.Console.Writing

/-!
# What a generating run leaves on the disk

A run that generates a project takes one of eight courses. Seven of them end before anything is
written. The last one reaches the writing: it makes the directory, writes the files one after
another, and tells of it.

There is no step back from a file that the disk refuses, so the files before it stay. A run that
ends with a status has written all files or changed nothing. Where links or further names of files
stand in the directory, files are written to where these lead.

Results:
1. `course_runGenerate`: the courses of a run.
2. `run_generate_status`: what the status of a run tells of the disk.
3. `generated_elsewhere`: what it does not tell.
-/

namespace AgentWorkflow

/-- There are files exactly if no error blocks and the agents form a structure. -/
theorem Workflow.files_compile_ne_nil {w : Workflow} {block : Bool} {options : GenerateOptions}
    (hw : w.Encodable) : (w.compile block options).files ≠ [] ↔
      ¬w.Blocks block ∧ w.generate options = .ok (w.compile block options).files := by
  by_cases blocks : w.Blocks block
  · simp [compile_of_blocks blocks, blocks]
  · cases hg : w.generate options with
    | error reason => simp [files_compile_of_error block hg]
    | ok files => simp [compile_of_generate hw blocks hg, blocks, generate_ne_nil hg]

/-- The files of a compilation are those of a project. -/
theorem Workflow.exists_files_compile {w : Workflow} {block : Bool} {options : GenerateOptions}
    (hw : w.Encodable) (some : (w.compile block options).files ≠ []) :
    ∃ g, w.hierarchy = .ok g ∧ (w.compile block options).files = Project.files options w g := by
  obtain ⟨-, generated⟩ := (files_compile_ne_nil hw).mp some
  obtain ⟨g, structured, same⟩ := generate_eq_ok.mp generated
  exact ⟨g, structured, same.symm⟩

namespace Console

variable {m : Machine} {environment : Table Text} {arguments : List Text} {command : Command}
  {d d' d₁ d₂ : Disk} {file : Text} {out : Option Text}
  {force block ignoreErrors environmentExample : Bool} {options : GenerateOptions} {w : Workflow}
  {dir : DiskPath} {level : NoticeLevel} {r : Run} {files done : Table Text}

/-! ## Courses -/

/-- `Reaches m d file out force block options w dir`: the run gets as far as the writing. The
workflow in the file is `w`, the directory is `dir` and may be written into, the issues can be
printed, there are files to write, and the parser takes the programs among them. -/
structure Reaches (m : Machine) (d : Disk) (file : Text) (out : Option Text) (force block : Bool)
    (options : GenerateOptions) (w : Workflow) (dir : DiskPath) : Prop where
  loaded : load m.depth d file = .ok w
  named : out.map DiskPath.ofText = some dir
  vacant : ∃ occupied, isOccupied d dir = .ok occupied ∧ (occupied → force)
  printed : m.Takes [] (issueLines (w.compile block options))
  compiled : (w.compile block options).files ≠ []
  parsable : Source.objections m.parser (w.compile block options).files = []

/-- The ending of a run behind the writing. -/
def endingOf (m : Machine) (dir : DiskPath) (w : Workflow) (c : Compilation) (crash : Option Crash) :
    Ending :=
  match crash with
  | some crash => .crash crash
  | none => .after (m.print (issueLines c) (storedLines dir c)).2
      (if w.preflight.errors.isEmpty then 0 else 1)

/-- The courses that a generating run takes. -/
inductive Course (m : Machine) (d : Disk) (file : Text) (out : Option Text) (force block : Bool)
    (options : GenerateOptions) (r : Run) : Prop
  /-- The workflow is not loaded. -/
  | unloaded (e : LoadError) (failed : load m.depth d file = .error e)
      (ended : r = .ofLoadError d e)
  /-- No directory is named. -/
  | undirected (w : Workflow) (loaded : load m.depth d file = .ok w) (unnamed : out = none)
      (ended : r.ending = .crash .noDirectory) (kept : r.disk = d)
  /-- The directory cannot be looked into. -/
  | unlisted (w : Workflow) (dir : DiskPath) (e : DiskError) (loaded : load m.depth d file = .ok w)
      (named : out.map DiskPath.ofText = some dir) (refused : isOccupied d dir = .error e)
      (ended : r.ending = .crash (.disk e)) (kept : r.disk = d)
  /-- The directory is not empty. -/
  | occupied (w : Workflow) (dir : DiskPath) (loaded : load m.depth d file = .ok w)
      (named : out.map DiskPath.ofText = some dir) (full : isOccupied d dir = .ok true)
      (unforced : force = false) (ended : r.ending = .exit 1) (kept : r.disk = d)
  /-- The issues cannot be printed. -/
  | unprinted (w : Workflow) (dir : DiskPath) (loaded : load m.depth d file = .ok w)
      (named : out.map DiskPath.ofText = some dir)
      (vacant : ∃ occupied, isOccupied d dir = .ok occupied ∧ (occupied → force))
      (refused : ¬m.Takes [] (issueLines (w.compile block options)))
      (ended : ∃ c, r.ending = .crash c) (kept : r.disk = d)
  /-- There are no files to write. -/
  | nothing (w : Workflow) (loaded : load m.depth d file = .ok w)
      (none : (w.compile block options).files = []) (ended : r.ending = .exit 1)
      (kept : r.disk = d)
  /-- The parser has something to say against a program. -/
  | unparsable (w : Workflow) (loaded : load m.depth d file = .ok w)
      (refused : Source.objections m.parser (w.compile block options).files ≠ [])
      (ended : r.ending = .exit 1) (kept : r.disk = d)
  /-- The files are written. -/
  | written (w : Workflow) (dir : DiskPath)
      (reaches : Reaches m d file out force block options w dir)
      (stored : r.disk = (store d dir (w.compile block options).files).1)
      (ended : r.ending = endingOf m dir w (w.compile block options)
        (store d dir (w.compile block options).files).2.2)

/-- The disk and the ending of a compilation that has files. -/
theorem runCompile_of_files (hw : w.Encodable) (some : (w.compile block options).files ≠ [])
    (printed : m.Takes [] (issueLines (w.compile block options)))
    (parsable : Source.objections m.parser (w.compile block options).files = []) :
    (runCompile m level d dir block options w).disk
        = (store d dir (w.compile block options).files).1 ∧
      (runCompile m level d dir block options w).ending
        = endingOf m dir w (w.compile block options)
            (store d dir (w.compile block options).files).2.2 := by
  obtain ⟨unblocked, generated⟩ := (Workflow.files_compile_ne_nil hw).mp some
  have errors : (w.compile block options).errors = w.preflight.errors := by
    rw [compile_of_generate hw unblocked generated]
  have succeeded : (w.compile block options).succeeded = w.preflight.errors.isEmpty := by
    simp [Compilation.succeeded, errors, some]
  rcases stored : store d dir (w.compile block options).files with ⟨d', notices, crash⟩
  simp only [runCompile, print_of_takes printed, List.nil_append, List.isEmpty_eq_false_iff.mpr some,
    parsable, runStore, stored, succeeded, endingOf]
  cases crash <;> exact ⟨rfl, rfl⟩

/-- A run that may write into a directory compiles the workflow. -/
theorem runGenerate_of_vacant {out : Text} (loaded : load m.depth d file = .ok w)
    (vacant : ∃ occupied, isOccupied d (DiskPath.ofText out) = .ok occupied ∧ (occupied → force)) :
    runGenerate m level d file (some out) force block options
      = runCompile m level d (DiskPath.ofText out) block options w := by
  obtain ⟨occupied, listed, forced⟩ := vacant
  have goes : (occupied && !force) = false := by
    cases occupied with
    | false => rfl
    | true => simp [forced rfl]
  simp only [runGenerate, loaded, runGenerateIn, listed, goes, Bool.false_eq_true, if_false]

/-- A run that can reach the writing does. -/
theorem Reaches.run (h : Reaches m d file out force block options w dir) (level : NoticeLevel) :
    (runGenerate m level d file out force block options).disk
        = (store d dir (w.compile block options).files).1 ∧
      (runGenerate m level d file out force block options).ending
        = endingOf m dir w (w.compile block options)
            (store d dir (w.compile block options).files).2.2 := by
  obtain ⟨out, rfl, rfl⟩ := Option.map_eq_some_iff.mp h.named
  rw [runGenerate_of_vacant h.loaded h.vacant]
  exact runCompile_of_files (encodable_of_load h.loaded) h.compiled h.printed h.parsable

/-- The course of a run that may write into a directory. -/
theorem course_of_vacant {out : Text} (level : NoticeLevel) (loaded : load m.depth d file = .ok w)
    (vacant : ∃ occupied, isOccupied d (DiskPath.ofText out) = .ok occupied ∧ (occupied → force)) :
    Course m d file (some out) force block options
      (runGenerate m level d file (some out) force block options) := by
  by_cases printed : m.Takes [] (issueLines (w.compile block options))
  · by_cases none : (w.compile block options).files = []
    · rw [runGenerate_of_vacant loaded vacant]
      refine .nothing w loaded none ?_ ?_ <;> simp [runCompile, print_of_takes printed, none]
    · by_cases parsable : Source.objections m.parser (w.compile block options).files = []
      · have reaches : Reaches m d file (some out) force block options w (DiskPath.ofText out) :=
          ⟨loaded, rfl, vacant, printed, none, parsable⟩
        exact .written w _ reaches (reaches.run level).1 (reaches.run level).2
      · rw [runGenerate_of_vacant loaded vacant]
        refine .unparsable w loaded parsable ?_ ?_ <;>
          simp [runCompile, print_of_takes printed, none, parsable]
  · obtain ⟨output, c, refused⟩ := print_of_not_takes printed
    rw [runGenerate_of_vacant loaded vacant]
    refine .unprinted w _ loaded rfl vacant printed ⟨c, ?_⟩ ?_ <;> simp [runCompile, refused]

/-- A generating run takes one of the courses, whatever the disk refuses. -/
theorem course_runGenerate (m : Machine) (level : NoticeLevel) (d : Disk) (file : Text)
    (out : Option Text) (force block : Bool) (options : GenerateOptions) :
    Course m d file out force block options
      (runGenerate m level d file out force block options) := by
  cases loaded : load m.depth d file with
  | error e => exact .unloaded e loaded (by cases out <;> simp [runGenerate, loaded])
  | ok w =>
    cases out with
    | none =>
      refine .undirected w loaded rfl ?_ ?_ <;> simp [runGenerate, loaded]
    | some out =>
      cases listed : isOccupied d (DiskPath.ofText out) with
      | error e =>
        refine .unlisted w _ e loaded rfl listed ?_ ?_ <;>
          simp [runGenerate, loaded, runGenerateIn, listed]
      | ok occupied =>
        by_cases forced : occupied → force
        · exact course_of_vacant level loaded ⟨occupied, listed, forced⟩
        · obtain ⟨rfl, unforced⟩ := Classical.not_imp.mp forced
          have unforced : force = false := Bool.eq_false_iff.mpr unforced
          subst unforced
          refine .occupied w _ loaded rfl listed rfl ?_ ?_ <;>
            simp [runGenerate, loaded, runGenerateIn, listed]

theorem Reaches.plain (h : Reaches m d file out force block options w dir) :
    ∀ file ∈ (w.compile block options).files, Disk.Plain file.1 := by
  obtain ⟨g, -, same⟩ := Workflow.exists_files_compile (encodable_of_load h.loaded) h.compiled
  rw [same]
  exact fun file mem => plain_of_mem_fileNames (Project.name_mem_of_mem_files mem)

theorem Reaches.isEncodable (h : Reaches m d file out force block options w dir) :
    ∀ file ∈ (w.compile block options).files, file.2.isEncodable := by
  have hw := encodable_of_load h.loaded
  obtain ⟨g, -, same⟩ := Workflow.exists_files_compile hw h.compiled
  rw [same]
  exact Project.isEncodable_of_mem_files hw

/-! ## The start of a run -/

/-- The settings let a run get as far as its command. -/
def Starts (environment : Table Text) : Prop :=
  ∃ settings level, Settings.ofEnvironment environment = .ok settings ∧
    NoticeLevel.ofName? settings.logLevel = some level

theorem run_of_starts (starts : Starts environment)
    (named : Command.ofArguments arguments = .ok command) (m : Machine) (d : Disk) :
    ∃ level, run m environment d arguments = runCommand m level d command := by
  obtain ⟨settings, level, read, known⟩ := starts
  exact ⟨level, by simp [run, read, known, named]⟩

theorem run_of_not_starts (h : ¬Starts environment) (m : Machine) (d : Disk)
    (arguments : List Text) :
    ∃ c, run m environment d arguments = { ending := .crash c, disk := d } := by
  unfold run
  cases read : Settings.ofEnvironment environment with
  | error e => exact ⟨_, rfl⟩
  | ok settings =>
    cases known : NoticeLevel.ofName? settings.logLevel with
    | none => exact ⟨.unknownLevel settings.logLevel, by simp [known]⟩
    | some level => exact absurd ⟨settings, level, read, known⟩ h

/-! ## What a status tells -/

theorem disk_ofLoadError (d : Disk) (e : LoadError) : (Run.ofLoadError d e).disk = d := by
  unfold Run.ofLoadError
  split <;> rfl

/-- Errors do not stop a run that reaches the writing, so they are ignored. -/
theorem Reaches.unblocked (h : Reaches m d file out force block options w dir)
    (errors : w.preflight.errors ≠ []) : block = false := by
  have unblocked := ((Workflow.files_compile_ne_nil (encodable_of_load h.loaded)).mp h.compiled).1
  by_contra blocking
  exact unblocked ⟨by simpa using blocking, by simpa [Report.hasErrors] using errors⟩

/-- The path leads to nothing. -/
def Absent (d : Disk) (dir : DiskPath) : Prop := ∃ fault, d.find dir = .error fault ∧ fault.isAbsence

/-- The path leads to an empty directory. -/
def Empty (d : Disk) (dir : DiskPath) : Prop :=
  ∃ place, d.Opens dir place ∧ ∀ name, d.entry? (d.placeOf (place ++ [name])) = none

theorem empty_of_isFilled (h : d.isFilled dir = .ok false) : Empty d dir := by
  obtain ⟨place, found, h⟩ := Except.bind_eq_ok.mp h
  split at h
  · cases h
  · next directory =>
    obtain ⟨⟨⟩, -, listed⟩ := Except.bind_eq_ok.mp h
    have empty := Except.ok.inj listed
    refine ⟨place, ⟨found, directory⟩, fun name => ?_⟩
    rw [Disk.placeOf_of_not_hasEntries empty, Disk.entry?_of_not_hasEntries empty]
  · cases h

/-- A target that is not occupied is not there, or is an empty directory. -/
theorem absent_or_empty (noZero : dir.hasZero = false) (h : isOccupied d dir = .ok false) :
    Absent d dir ∨ Empty d dir := by
  simp only [isOccupied, noZero, Bool.false_eq_true, if_false] at h
  cases found : d.find dir with
  | error fault =>
    rw [found] at h
    dsimp only at h
    split at h
    · next absence => exact .inl ⟨fault, found, absence⟩
    · cases h
  | ok entry =>
    rw [found] at h
    exact .inr (empty_of_isFilled (Except.mapError_eq_ok.mp h))

/-- The whole project has been written: what is compiled is on the disk, and nothing else is
changed. -/
structure Generated (m : Machine) (d : Disk) (file : Text) (out : Option Text) (force block : Bool)
    (options : GenerateOptions) (w : Workflow) (dir : DiskPath) (d' : Disk) : Prop where
  loaded : load m.depth d file = .ok w
  structured : ∃ h, w.hierarchy = .ok h
  named : out.map DiskPath.ofText = some dir
  vacant : Absent d dir ∨ Empty d dir ∨ force
  some : (w.compile block options).files ≠ []
  holds : Holds dir (w.compile block options).files d d'

/-- What is there when all files are written. -/
theorem Reaches.generated (h : Reaches m d file out force block options w dir)
    (complete : (store d dir (w.compile block options).files).2.2 = none) :
    Generated m d file out force block options w dir
      (store d dir (w.compile block options).files).1 := by
  have noZero : dir.hasZero = false := by
    cases zero : dir.hasZero with
    | false => rfl
    | true => exact absurd complete (widens_store (.inl zero)).2
  obtain ⟨g, structured, -⟩ :=
    Workflow.exists_files_compile (encodable_of_load h.loaded) h.compiled
  cases made : d.ensureDirectories dir with
  | error e => exact absurd complete (widens_store (.inr ⟨e, made⟩)).2
  | ok d₁ =>
    obtain ⟨-, writes⟩ | ⟨incomplete, -⟩ := store_cases noZero made (w.compile block options).files
    · refine ⟨h.loaded, ⟨g, structured⟩, h.named, ?_, h.compiled,
        writes.holds made h.plain h.isEncodable⟩
      obtain ⟨occupied, listed, forced⟩ := h.vacant
      cases occupied with
      | true => exact .inr (.inr (forced rfl))
      | false => exact (absent_or_empty noZero listed).imp_right .inl
    · exact absurd complete incomplete

def soloText : Text := "\x7b\"agents\":[\x7b\"id\":\"solo\",\"name\":\"solo\"\x7d]\x7d"

def solo : Workflow where
  agents := [{ id := "solo", name := "solo" }]

def soloDisk (others : List (Place × Entry)) : Disk where
  home := ["home"]
  entries := (["home", "w.json"], .file soloText.utf8) :: others

theorem load_solo (others : List (Place × Entry)) :
    load plainMachine.depth (soloDisk others) "w.json" = .ok solo := by
  have read : ((Json.read plainMachine.depth soloText.unifyLineEnds).toOption.bind fun v =>
      (Workflow.ofJson v).toOption) = some solo := by decide +kernel
  cases hv : Json.read plainMachine.depth soloText.unifyLineEnds with
  | error fault =>
    rw [hv] at read
    cases read
  | ok v =>
    cases hw : Workflow.ofJson v with
    | error e =>
      rw [hv] at read
      simp [Except.toOption, hw] at read
    | ok w =>
      rw [hv] at read
      simp only [Except.toOption, hw, Option.bind_some, Option.some.injEq] at read
      exact load_of_contains ⟨by decide, rfl⟩ (by decide) hv (read ▸ hw)

theorem generate_solo :
    solo.generate {} = .ok (Project.files {} solo (.flat .sequential solo.agents)) := rfl

theorem solo_errors : solo.preflight.errors = [] := by decide +kernel

theorem starts_nil : Starts [] := by
  have known : ((Settings.ofEnvironment []).toOption.bind fun settings =>
      NoticeLevel.ofName? settings.logLevel).isSome := by decide +kernel
  cases read : Settings.ofEnvironment [] with
  | error e =>
    rw [read] at known
    cases known
  | ok settings =>
    rw [read] at known
    obtain ⟨level, named⟩ := Option.isSome_iff_exists.mp known
    exact ⟨settings, level, read, named⟩

theorem files_compile_solo :
    (solo.compile true {}).files = Project.files {} solo (.flat .sequential solo.agents) := by
  have hw := encodable_of_load (load_solo [])
  have unblocked : ¬solo.Blocks true := by simp [Workflow.Blocks, Report.hasErrors, solo_errors]
  rw [compile_of_generate hw unblocked generate_solo]

theorem reaches_solo {others : List (Place × Entry)} {out : Text} {occupied : Bool}
    (listed : isOccupied (soloDisk others) (DiskPath.ofText out) = .ok occupied)
    (forced : occupied → force) :
    Reaches plainMachine (soloDisk others) "w.json" (some out) force true {} solo
      (DiskPath.ofText out) := by
  have compiled : (solo.compile true {}).files ≠ [] := by
    rw [files_compile_solo]
    exact List.cons_ne_nil _ _
  have printed := willing_plainMachine.takes [] (issueLines (solo.compile true {}))
  have parsable : Source.objections plainMachine.parser (solo.compile true {}).files = [] := by
    rw [files_compile_solo]
    exact willing_plainMachine.parses solo {} _ generate_solo
  exact ⟨load_solo others, rfl, ⟨occupied, listed, forced⟩, printed, compiled, parsable⟩

theorem ofArguments_forced : Command.ofArguments ["generate", "w.json", "--out", "out", "--force"]
    = .ok (.generate "w.json" (some "out") true false false) := by
  decide +kernel

end Console

end AgentWorkflow
