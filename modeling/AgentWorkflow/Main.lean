import AgentWorkflow.Console.Run

/-!
# The program

What a run of the program does is worked out on a picture of the disk, which holds what the run
can touch. This module takes the picture, works out the run, and then writes what the run wrote
and puts on the real disk what is new in the picture behind it. What the real disk refuses is not
in the picture; it is met when the picture is put there.

Serving is up to whatever holds this program; a run that asks for it only says so.
-/

namespace AgentWorkflow

namespace Program

def spell (t : Text) : String := String.ofList (t.map fun c => Char.ofNat c.val)

def spellPlace (place : Place) : String := "/" ++ "/".intercalate (place.map spell)

def placeOf (spelling : String) : Place := (Text.splitOn '/' spelling).filter (!·.isEmpty)

/-- The place where the program was started. -/
def homePlace : IO Place := return placeOf (← IO.currentDir).toString

/-- What is really at a place. A link is taken to lead straight to where it ends. -/
def readEntry (place : Place) : IO (Option Entry) := do
  let path := (← IO.currentDir) / spellPlace place
  if !(← path.pathExists) then return none
  let real := placeOf (← IO.FS.realPath path).toString
  if real ≠ place then return some (.link ⟨"/", real⟩)
  else if ← path.isDir then return some .directory
  else return some (.file (← IO.FS.readBinFile path).toList)

/-- The picture with what is really at a place and at those around it. -/
def recordAround (d : Disk) (place : Place) : IO Disk :=
  (List.range (place.length + 1)).foldlM (fun d n => do
    match ← readEntry (place.take n) with
    | some entry => return d.put (place.take n) entry
    | none => return d) d

/-- The picture with what is really there along names from a place. -/
def recordAlong (d : Disk) (place : Place) : List Text → IO Disk
  | [] => return d
  | name :: rest => do
    let next := if name = ".." then place.dropLast else place ++ [name]
    match ← readEntry next with
    | some (.link target) =>
      recordAlong (← recordAround (d.put next (.link target)) target.names) target.names rest
    | some entry => recordAlong (d.put next entry) next rest
    | none => return d

/-- The picture with what is really there along a path. -/
def recordPath (d : Disk) (p : DiskPath) : IO Disk :=
  recordAlong d (if p.root.isEmpty then d.home else []) p.names

/-- The picture with a mark for everything in a real directory that it does not show. -/
def recordChildren (d : Disk) (place : Place) : IO Disk := do
  let children ← ((← IO.currentDir) / spellPlace place).readDir
  return children.foldl (fun d child =>
    let child_ : Place := place ++ [(child.fileName : Text)]
    if (d.entry? child_).isSome then d else d.put child_ (.file [])) d

/-- The picture with the directory that files go into. -/
def recordOutput (d : Disk) (out : DiskPath) : IO Disk := do
  let d ← recordPath d out
  match d.find out with
  | .ok (place, .directory) =>
    let d ← Project.fileNames.foldlM (fun d name => recordPath d (out.child name)) d
    recordChildren d place
  | _ => return d

/-- The picture that a run with the given arguments needs. -/
def picture (arguments : List Text) : IO Disk := do
  let d : Disk := { home := ← homePlace, entries := [] }
  match Console.Command.ofArguments arguments with
  | .ok (.validate config) | .ok (.generate config none _ _ _) =>
    recordPath d (DiskPath.ofText config)
  | .ok (.generate config (some out) _ _ _) =>
    recordOutput (← recordPath d (DiskPath.ofText config)) (DiskPath.ofText out)
  | _ => return d

/-- Puts on the real disk what is in a picture but not in the one before. -/
def apply (before after : Disk) : IO Unit :=
  after.entries.forM fun (place, entry) => do
    if before.entries.lookup place ≠ some entry then
      match entry with
      | .directory => IO.FS.createDirAll (spellPlace place)
      | .file content => IO.FS.writeBinFile (spellPlace place) ⟨content.toArray⟩
      | .link _ | .device _ => return ()

def machine : Console.Machine where
  depth := 991
  parser := Source.outlineObjection?
  refusal _ _ := none

/-- The variables that are set, of those that are read. -/
def environment : IO (Table Text) :=
  Settings.variableNames.filterMapM fun name => do
    return (← IO.getEnv (spell name)).map fun value => (name, (value : Text))

/-- Writes what a run writes, and returns its status. -/
def finish (run : Console.Run) : IO UInt32 := do
  (← IO.getStdout).putStr (spell (Text.unlines run.output))
  (← IO.getStderr).putStr (spell (Text.unlines run.errors))
  if let some ⟨some host, some number, _⟩ := run.server then
    IO.eprintln s!"to be served at {spell host}:{number}"
  match run.ending with
  | .exit status => return status.toUInt32
  | .crash c =>
    IO.eprintln (spell c.message)
    return 1

end Program

end AgentWorkflow

open AgentWorkflow in
/-- Runs the program. -/
def main (arguments : List String) : IO UInt32 := do
  let arguments := arguments.map Text.ofString
  let before ← Program.picture arguments
  let run := Console.run Program.machine (← Program.environment) before arguments
  Program.apply before run.disk
  Program.finish run
