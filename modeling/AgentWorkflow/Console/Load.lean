import AgentWorkflow.Disk.Operations
import AgentWorkflow.Json.Reader
import AgentWorkflow.Service.Settings
import AgentWorkflow.Text.Lines
import AgentWorkflow.Workflow.Document

/-!
# Loading a workflow

Reading a workflow from a file on the disk, and everything that can go wrong with it. Some faults
are reported to the user; others end the program.
-/

namespace AgentWorkflow

namespace Console

/-- What ends the program. -/
inductive Crash
  | settings (e : SettingsError)
  | unknownLevel (name : Text)
  | noDirectory
  | zeroInPath
  | undecodable (fault : Utf8.Fault)
  | excess (e : Json.Excess)
  | temperatureTooLarge
  | disk (e : DiskError)
  | unprinted (reason : Text)
deriving DecidableEq

/-- What ends the program, in words. -/
def Crash.message : Crash → Text
  | .settings e => e.message
  | .unknownLevel name => ("Unknown level: " : Text) ++ name.quoted
  | .noDirectory => "expected str, bytes or os.PathLike object, not list"
  | .zeroInPath => "embedded null byte"
  | .undecodable fault => fault.message
  | .excess e => e.message
  | .temperatureTooLarge => DocumentError.temperatureTooLarge.message
  | .disk e => e.message
  | .unprinted reason => reason

/-- Why a workflow cannot be loaded. -/
inductive LoadError
  | unreadable (path : Text) (fault : DiskFault)
  | notJson (path : Text) (message : Text)
  | malformed (reason : Malformation)
  | crash (c : Crash)

/-- The error as it is reported, unless it ends the program. -/
def LoadError.report : LoadError → Except Crash Text
  | .unreadable path fault => .ok (("cannot read " : Text) ++ path ++ ": " ++ fault.message)
  | .notJson path message => .ok (path ++ " is not valid JSON: " ++ message)
  | .malformed reason => .ok reason.message
  | .crash c => .error c

/-- The content of the file at a path as text, every line ending in a line feed. -/
def loadText (d : Disk) (path : Text) : Except LoadError Text :=
  if (DiskPath.ofText path).hasZero then .error (.crash .zeroInPath)
  else match d.readFile (DiskPath.ofText path) with
    | .error fault => .error (.unreadable path fault)
    | .ok bytes =>
      match Utf8.decode bytes with
      | .error fault => .error (.crash (.undecodable fault))
      | .ok t => .ok t.unifyLineEnds

def loadJson (depth : Nat) (path t : Text) : Except LoadError Json :=
  match Json.read depth t with
  | .ok v => .ok v
  | .error (.excess e) => .error (.crash (.excess e))
  | .error fault => .error (.notJson path (fault.message t))

/-- The workflow in the file at a path. Its JSON may nest as deep as given. -/
def load (depth : Nat) (d : Disk) (path : Text) : Except LoadError Workflow := do
  let v ← loadJson depth path (← loadText d path)
  match Workflow.ofJson v with
  | .ok w => return w
  | .error (.malformed reason) => .error (.malformed reason)
  | .error .temperatureTooLarge => .error (.crash .temperatureTooLarge)

end Console

end AgentWorkflow
