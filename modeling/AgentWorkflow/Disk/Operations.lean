import AgentWorkflow.Disk.Tree
import AgentWorkflow.Text.Quoted

/-!
# Operations on the disk

Looking, reading, making directories and writing files. What fails may leave its traces: the
directories that were made before, or a file of which a part was written.
-/

namespace AgentWorkflow

/-- What is refused, and at which path, if that is said. -/
structure DiskError where
  fault : DiskFault
  path : Option Text
deriving DecidableEq

def DiskError.message (e : DiskError) : Text :=
  ("[Errno " : Text) ++ Text.ofNat e.fault.number ++ "] " ++ e.fault.message
    ++ ((e.path.map fun p => (": " : Text) ++ p.quoted).getD [])

/-- An operation that failed, with the disk behind it. -/
structure Failure where
  error : DiskError
  disk : Disk

namespace Disk

/-! ## Looking and reading -/

def find (d : Disk) (p : DiskPath) : Except DiskFault (Place × Entry) := do
  let place ← d.place p
  match d.entry? place with
  | none => .error .notFound
  | some entry =>
    d.permit .look place
    return (place, entry)

/-- True when a path leads to a directory. A fault that speaks of an absence is no error. -/
def isDirectory (d : Disk) (p : DiskPath) : Except DiskFault Bool :=
  match d.find p with
  | .ok (_, entry) => .ok (entry = .directory)
  | .error fault => if fault.isAbsence then .ok false else .error fault

/-- The content of a file, or what a device gives. -/
def readFile (d : Disk) (p : DiskPath) : Except DiskFault (List UInt8) := do
  let place ← d.place p
  match d.entry? place with
  | none => .error .notFound
  | some entry =>
    d.permit .read place
    match entry with
    | .file content | .device content => return content
    | .directory | .link _ => .error .isDirectory

/-- True when something is in the directory at a place. -/
def hasEntries (d : Disk) (place : Place) : Bool :=
  (d.home ≠ place && place.isPrefixOf d.home)
    || (d.entries.map (·.1) ++ d.names.map (·.1)).any fun p => !p.isEmpty && p.dropLast = place

/-- True when something is in the directory that a path leads to. -/
def isFilled (d : Disk) (p : DiskPath) : Except DiskFault Bool := do
  let place ← d.place p
  match d.entry? place with
  | none => .error .notFound
  | some .directory =>
    d.permit .list place
    return d.hasEntries place
  | some _ => .error .notDirectory

/-! ## Writing -/

/-- Lets a place be opened for writing, which makes a file where nothing is. -/
def allow (d : Disk) (place : Place) : Except DiskFault Unit :=
  match d.entry? place with
  | none => d.permit .make place
  | some (.file _) | some (.device _) => d.permit .write place
  | some .directory | some (.link _) => .error .isDirectory

/-- The place of what a path leads to when it is opened for writing. -/
def openFile (d : Disk) (p : DiskPath) : Except DiskFault Place := do
  let place ← d.place p
  d.allow place
  return place

/-- The disk with a content at a place. A device does not keep it. -/
def pour (d : Disk) (place : Place) (content : List UInt8) : Disk :=
  match d.entry? place with
  | some (.device _) => d
  | _ => d.put place (.file content)

/-- The disk with the given content in a file, which is emptied before. -/
def writeFile (d : Disk) (p : DiskPath) (content : List UInt8) : Except Failure Disk :=
  match d.openFile p with
  | .error fault => .error ⟨⟨fault, some p.text⟩, d⟩
  | .ok place =>
    match d.shortage (d.pour place []).entries place content.length with
    | some (kept, fault) => .error ⟨⟨fault, none⟩, d.pour place (content.take kept)⟩
    | none => .ok (d.pour place content)

/-! ## Making directories -/

def makeDirectory (d : Disk) (p : DiskPath) : Except DiskFault Disk := do
  let place ← d.seat p
  match d.entry? place with
  | some _ => .error .alreadyThere
  | none =>
    d.permit .make place
    return d.put place .directory

/-- Makes a directory unless it is there. -/
def ensureDirectory (d : Disk) (p : DiskPath) : Except DiskFault Disk :=
  match d.makeDirectory p with
  | .ok d' => .ok d'
  | .error fault =>
    if fault.number = DiskFault.notFound.number then .error fault
    else match d.isDirectory p with
      | .ok true => .ok d
      | .ok false => .error fault
      | .error other => .error other

/-- The same, where a failure names the path. -/
def ensureAt (d : Disk) (p : DiskPath) : Except Failure Disk :=
  (d.ensureDirectory p).mapError fun fault => ⟨⟨fault, some p.text⟩, d⟩

/-- Makes a directory and those above it, unless they are there. The names are given from the last
to the first. -/
def ensureNames (d : Disk) (root : Text) : List Text → Except Failure Disk
  | [] => d.ensureAt ⟨root, []⟩
  | name :: above =>
    let p : DiskPath := ⟨root, (name :: above).reverse⟩
    match d.ensureAt p with
    | .ok d' => .ok d'
    | .error e =>
      if e.error.fault.number = DiskFault.notFound.number then do
        let d' ← d.ensureNames root above
        d'.ensureAt p
      else .error e

/-- Makes the directory at a path and those above it. -/
def ensureDirectories (d : Disk) (p : DiskPath) : Except Failure Disk :=
  d.ensureNames p.root p.names.reverse

end Disk

end AgentWorkflow
