import AgentWorkflow.Proofs.Console.Generating

/-!
# Runs that break off

A run that generates a project may be stopped by the disk between two files, or within one. What it
leaves then is the beginning of the project: the files before the one that is refused, and perhaps a
part of that one. A run that does not begin to write leaves nothing but directories.

Results:
1. `run_generate_prefix`: what is on the disk behind any run.
2. `taken_prefix`, `taken_half_written`: a run that leaves one file of several.
-/

namespace AgentWorkflow

namespace Console

variable {m : Machine} {environment : Table Text} {arguments : List Text} {d d' d₁ d₂ : Disk}
  {file : Text} {out : Option Text} {force block ignoreErrors environmentExample : Bool}
  {options : GenerateOptions} {w : Workflow} {dir : DiskPath} {files done : Table Text}

/-- The run begins to write: it reaches the writing, and the directory is made. -/
structure Begins (m : Machine) (environment : Table Text) (d : Disk) (file : Text)
    (out : Option Text) (force block : Bool) (options : GenerateOptions) (w : Workflow)
    (dir : DiskPath) : Prop extends Reaches m d file out force block options w dir where
  starts : Starts environment
  noZero : dir.hasZero = false
  made : ∃ d₁, d.ensureDirectories dir = .ok d₁

/-- `Breaks dir files d d'`: the files before one that the disk refuses are there, and that one is
as it was, or a part of it has been written. -/
inductive Breaks (dir : DiskPath) (files : Table Text) (d d' : Disk) : Prop
  | intro (done : Table Text) (file : Text × Text) (later : Table Text) (d₁ : Disk)
      (parts : files = done ++ file :: later) (holds : Holds dir done d d₁)
      (refused : d₁.Refuses (dir.child file.1) file.2.utf8) (left : Left dir file d₁ d')

theorem Halts.breaks (h : Halts dir files done d₂ d₁ d') (made : d.ensureDirectories dir = .ok d₁)
    (plain : ∀ file ∈ files, Disk.Plain file.1) (encodable : ∀ file ∈ files, file.2.isEncodable) :
    Breaks dir files d d' := by
  obtain ⟨file, later, rfl, refuses, left⟩ := h.refused
  have holds := h.writes.holds made (fun file mem => plain file (List.mem_append_left _ mem))
    fun file mem => encodable file (List.mem_append_left _ mem)
  exact .intro done file later d₂ rfl holds refuses left

/-- A run that begins to write leaves the whole project or breaks off. Any other run leaves the
files on the disk as they are. -/
theorem run_generate_prefix (m : Machine) (environment : Table Text) (d : Disk)
    (named : Command.ofArguments arguments
      = .ok (.generate file out force ignoreErrors environmentExample)) :
    (∀ w dir,
      Begins m environment d file out force (!ignoreErrors) { environmentExample } w dir →
      Holds dir (w.compile (!ignoreErrors) { environmentExample }).files d
          (run m environment d arguments).disk ∨
        Breaks dir (w.compile (!ignoreErrors) { environmentExample }).files d
          (run m environment d arguments).disk) ∧
    ((¬∃ w dir,
      Begins m environment d file out force (!ignoreErrors) { environmentExample } w dir) →
      d.Widens (run m environment d arguments).disk) := by
  constructor
  case left =>
    intro w dir begins
    obtain ⟨level, ran⟩ := run_of_starts begins.starts named m d
    obtain ⟨stored, -⟩ := begins.toReaches.run level
    obtain ⟨d₁, made⟩ := begins.made
    rw [ran, runCommand, stored]
    rcases store_cases begins.noZero made (w.compile (!ignoreErrors) { environmentExample }).files
      with ⟨-, writes⟩ | ⟨-, done, d₂, halts⟩
    · exact .inl (writes.holds made begins.plain begins.isEncodable)
    · exact .inr (halts.breaks made begins.plain begins.isEncodable)
  case right =>
    intro stops
    by_cases starts : Starts environment
    · obtain ⟨level, ran⟩ := run_of_starts starts named m d
      rw [ran, runCommand]
      cases course_runGenerate m level d file out force (!ignoreErrors) { environmentExample } with
      | unloaded e failed same =>
        rw [same]
        exact .of_eq (disk_ofLoadError d e)
      | undirected w loaded unnamed crash kept => exact .of_eq kept
      | unlisted w dir e loaded named refused crash kept => exact .of_eq kept
      | occupied w dir loaded named full unforced exit kept => exact .of_eq kept
      | unprinted w dir loaded named vacant refused crash kept => exact .of_eq kept
      | nothing w loaded none exit kept => exact .of_eq kept
      | unparsable w loaded refused exit kept => exact .of_eq kept
      | written w dir reaches stored ending =>
        rw [stored]
        refine (widens_store ?_).1
        by_contra ready
        simp only [not_or, Bool.not_eq_true, not_exists] at ready
        cases made : d.ensureDirectories dir with
        | error e => exact ready.2 e made
        | ok d₁ => exact stops ⟨w, dir, reaches, starts, ready.1, d₁, made⟩
    · obtain ⟨c, crashed⟩ := run_of_not_starts starts m d arguments
      rw [crashed]
      exact .refl d

/-- The disk with the one agent and a directory that holds a directory under the name of the second
file. -/
def takenDisk : Disk :=
  soloDisk [(["home", "out"], .directory), (["home", "out", "tools.py"], .directory)]

theorem begins_taken : Begins plainMachine [] takenDisk "w.json" (some "out") true true {} solo
    (DiskPath.ofText "out") where
  toReaches := by
    have listed : isOccupied takenDisk (DiskPath.ofText "out") = .ok true := by rfl
    exact reaches_solo listed fun _ => rfl
  starts := starts_nil
  noZero := by decide
  made := ⟨takenDisk, by rfl⟩

/-- The files of the one agent. -/
theorem exists_files_solo : ∃ main tools requirements guide dockerfile ignore,
    (solo.compile true {}).files = [(Project.mainName, main), (Project.toolsName, tools),
      (Project.requirementsName, requirements), (Project.guideName, guide),
      (Project.dockerfileName, dockerfile), (Project.ignoreName, ignore)] := by
  rw [files_compile_solo]
  exact ⟨_, _, _, _, _, _, rfl⟩

/-- The first file is written and the second one is refused. -/
theorem store_taken (main tools : Text) (others : Table Text) :
    (store takenDisk (DiskPath.ofText "out")
      ((Project.mainName, main) :: (Project.toolsName, tools) :: others)).1
        = takenDisk.put ["home", "out", "main.py"] (.file main.utf8) := by
  rfl

/-- What the run leaves of the disk. -/
theorem disk_taken {main tools : Text} {others : Table Text}
    (files : (solo.compile true {}).files
      = (Project.mainName, main) :: (Project.toolsName, tools) :: others) :
    (run plainMachine [] takenDisk ["generate", "w.json", "--out", "out", "--force"]).disk
      = takenDisk.put ["home", "out", "main.py"] (.file main.utf8) := by
  obtain ⟨level, ran⟩ := run_of_starts starts_nil ofArguments_forced plainMachine takenDisk
  obtain ⟨stored, -⟩ := begins_taken.toReaches.run level
  rw [ran, runCommand, Bool.not_false, stored, files, store_taken]

/-- The project is not on the disk behind the run. -/
theorem not_holds_taken {content : List UInt8} :
    ¬Holds (DiskPath.ofText "out") (solo.compile true {}).files takenDisk
      (takenDisk.put ["home", "out", "main.py"] (.file content)) := by
  intro holds
  obtain ⟨main, tools, requirements, guide, dockerfile, ignore, files⟩ := exists_files_solo
  rw [files] at holds
  obtain ⟨p, led, text⟩ := holds.inside [_] _ _ rfl
  obtain rfl : (["home", "out", "tools.py"] : Place) = p := Except.ok.inj led
  have alone : ∀ other ∈ [(Project.requirementsName, requirements), (Project.guideName, guide),
      (Project.dockerfileName, dockerfile), (Project.ignoreName, ignore)],
      (takenDisk.put ["home", "out", "main.py"] (.file content)).place
        ((DiskPath.ofText "out").child other.1) ≠ .ok ["home", "out", "tools.py"] := by
    have others : ∀ name ∈ [Project.requirementsName, Project.guideName, Project.dockerfileName,
        Project.ignoreName], takenDisk.place ((DiskPath.ofText "out").child name)
          = .ok ((["home", "out"] : Place) ++ [name]) ∧ name ≠ Project.toolsName := by
      decide +kernel
    intro other mem same
    have named : other.1 ∈ [Project.requirementsName, Project.guideName, Project.dockerfileName,
        Project.ignoreName] := List.mem_map_of_mem (f := (·.1)) mem
    obtain ⟨led, apart⟩ := others other.1 named
    have grows := Disk.grows_put (d := takenDisk) (p := ["home", "out", "main.py"])
      (e := .file content) (.inl rfl) nofun
    have names := Except.ok.inj ((grows.place_eq_ok led).symm.trans same)
    exact apart (by simpa [Project.toolsName] using names)
  obtain ⟨bytes, -, file | ⟨reads, device⟩⟩ := text alone
  · cases file
  · cases device

/-- The project of the one agent is not written to its end. -/
theorem taken_prefix : Breaks (DiskPath.ofText "out") (solo.compile true {}).files takenDisk
    (run plainMachine [] takenDisk ["generate", "w.json", "--out", "out", "--force"]).disk := by
  obtain ⟨main, tools, requirements, guide, dockerfile, ignore, files⟩ := exists_files_solo
  obtain ⟨begun, -⟩ := run_generate_prefix plainMachine [] takenDisk ofArguments_forced
  rcases begun solo (DiskPath.ofText "out") begins_taken with whole | breaks
  · rw [disk_taken files] at whole
    exact absurd whole not_holds_taken
  · exact breaks

/-- Neither have all files been written nor are all paths as they were: the second file is missing,
and the first one is new. -/
theorem taken_half_written :
    load plainMachine.depth takenDisk "w.json" = .ok solo ∧
    ¬((∀ file ∈ (solo.compile true {}).files, ∃ bytes,
        (run plainMachine [] takenDisk
          ["generate", "w.json", "--out", "out", "--force"]).disk.readFile
            ((DiskPath.ofText "out").child file.1) = .ok bytes ∧ Utf8.decode bytes = .ok file.2) ∨
      ∀ file ∈ (solo.compile true {}).files,
        (run plainMachine [] takenDisk
          ["generate", "w.json", "--out", "out", "--force"]).disk.find
            ((DiskPath.ofText "out").child file.1)
          = takenDisk.find ((DiskPath.ofText "out").child file.1)) := by
  obtain ⟨main, tools, requirements, guide, dockerfile, ignore, files⟩ := exists_files_solo
  rw [disk_taken files, files]
  refine ⟨load_solo _, ?_⟩
  rintro (written | untouched)
  · obtain ⟨bytes, read, -⟩ := written (Project.toolsName, tools) (by simp)
    cases (show Except.error DiskFault.isDirectory = Except.ok bytes from read)
  · have same := untouched (Project.mainName, main) List.mem_cons_self
    cases (show Except.ok ((["home", "out", "main.py"] : Place), Entry.file main.utf8)
      = Except.error DiskFault.notFound from same)

end Console

end AgentWorkflow
