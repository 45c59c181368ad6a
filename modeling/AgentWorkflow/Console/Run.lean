import AgentWorkflow.Compilation.Notice
import AgentWorkflow.Console.Command
import AgentWorkflow.Console.Load
import AgentWorkflow.Source.Syntax

/-!
# Running the program

What a run of the program writes, how it ends and what it leaves on the disk, from its arguments,
its environment, the machine that it runs on and the disk before.
-/

namespace AgentWorkflow

namespace Console

/-- What a run meets besides its arguments, its environment and its disk: how deep the JSON of a
workflow may nest, what the parser of the programs says against one, and what standard output says
when it refuses a line behind the lines before it. Standard error takes every line. -/
structure Machine where
  depth : Nat
  parser : Text → Option Source.Objection
  refusal : List Text → Text → Option Text

/-- Prints lines behind those that are printed, up to the first one that is refused. -/
def Machine.print (m : Machine) (printed : List Text) : List Text → List Text × Option Crash
  | [] => (printed, none)
  | line :: rest =>
    match m.refusal printed line with
    | some reason => (printed, some (.unprinted reason))
    | none => m.print (printed ++ [line]) rest

inductive Ending
  | exit (status : Nat)
  | crash (c : Crash)
deriving DecidableEq

def Ending.after (crash : Option Crash) (status : Nat) : Ending :=
  match crash with
  | some c => .crash c
  | none => .exit status

/-- The address at which a run asks to be served, as far as it is given. -/
structure Address where
  host : Option Text
  portNumber : Option Int
  reload : Bool
deriving DecidableEq

/-- A run: how it ends, what it writes to each of its two streams, the disk behind it, and the
server that it starts. -/
structure Run where
  ending : Ending
  output : List Text := []
  errors : List Text := []
  disk : Disk
  server : Option Address := none

def issueLine (i : Issue) : Text :=
  i.severity.name
    ++ ((i.path.map fun p => (" [" : Text) ++ p.text ++ "]").getD [])
    ++ ": " ++ i.message

def errorLine (message : Text) : Text := ("error: " : Text) ++ message

/-- The lines of the notices at a level or above. -/
def noticeLines (level : NoticeLevel) (notices : List Notice) : List Text :=
  (notices.filter fun n => level.rank ≤ n.level.rank).map Notice.line

/-- A run that ends because the workflow cannot be loaded. -/
def Run.ofLoadError (d : Disk) (e : LoadError) : Run :=
  match e.report with
  | .ok message => { ending := .exit 1, errors := [errorLine message], disk := d }
  | .error c => { ending := .crash c, disk := d }

def reportLines (r : Report) : List Text :=
  r.issues.map issueLine
    ++ [Text.ofNat r.errors.length ++ " error(s), " ++ Text.ofNat r.warnings.length ++ " warning(s)"]

def runValidate (m : Machine) (d : Disk) (config : Text) : Run :=
  match load m.depth d config with
  | .error e => .ofLoadError d e
  | .ok w =>
    let (output, crash) := m.print [] (reportLines w.preflight)
    { ending := .after crash (if w.preflight.hasErrors then 1 else 0), output, disk := d }

/-- True when a path leads to a directory that is not empty. -/
def isOccupied (d : Disk) (p : DiskPath) : Except DiskError Bool :=
  if p.hasZero then .ok false
  else match d.find p with
    | .ok _ => (d.isFilled p).mapError fun fault => ⟨fault, some p.text⟩
    | .error fault => if fault.isAbsence then .ok false else .error ⟨fault, some p.text⟩

/-- Writes files into a directory one after another. An error leaves the files before it in place;
the notices tell which these are. -/
def writeFiles (d : Disk) (dir : DiskPath) : Table Text → Disk × List Notice × Option DiskError
  | [] => (d, [], none)
  | (name, content) :: rest =>
    let p := dir.child name
    match d.writeFile p content.utf8 with
    | .error e => (e.disk, [], some e.error)
    | .ok d =>
      let (d, notices, error) := writeFiles d dir rest
      (d, .wrote p.text :: notices, error)

/-- Makes a directory and writes files into it. -/
def store (d : Disk) (dir : DiskPath) (files : Table Text) : Disk × List Notice × Option Crash :=
  if dir.hasZero then (d, [], some .zeroInPath)
  else match d.ensureDirectories dir with
    | .error e => (e.disk, [], some (.disk e.error))
    | .ok d =>
      let (d, notices, error) := writeFiles d dir files
      (d, notices, error.map .disk)

/-- What a run reports of files that it has written. -/
def storedLines (dir : DiskPath) (c : Compilation) : List Text :=
  [("Generated " : Text) ++ Text.ofNat c.files.length ++ " file(s) in " ++ dir.text,
   ("payload_hash: " : Text) ++ c.hash]

/-- Stores the files of a compilation, `output` and `errors` being written before. -/
def runStore (m : Machine) (level : NoticeLevel) (d : Disk) (dir : DiskPath) (c : Compilation)
    (output errors : List Text) : Run :=
  let (d, notices, crash) := store d dir c.files
  let errors := errors ++ noticeLines level notices
  match crash with
  | some crash => { ending := .crash crash, output, errors, disk := d }
  | none =>
    let (output, crash) := m.print output (storedLines dir c)
    { ending := .after crash (if c.succeeded then 0 else 1), output, errors, disk := d }

def issueLines (c : Compilation) : List Text := (c.errors ++ c.warnings).map issueLine

def runCompile (m : Machine) (level : NoticeLevel) (d : Disk) (dir : DiskPath) (block : Bool)
    (options : GenerateOptions) (w : Workflow) : Run :=
  let c := w.compile block options
  let told := noticeLines level (w.notices block options)
  match m.print [] (issueLines c) with
  | (output, some crash) => { ending := .crash crash, output, errors := told, disk := d }
  | (output, none) =>
    let objections := Source.objections m.parser c.files
    if c.files.isEmpty then
      { ending := .exit 1, output, errors := told ++ [errorLine "nothing generated"], disk := d }
    else if !objections.isEmpty then
      { ending := .exit 1, output, disk := d,
        errors := told
          ++ noticeLines level (objections.map fun (name, o) => .unparsable name o.message o.line)
          ++ objections.map fun (name, o) => errorLine (o.report name) }
    else runStore m level d dir c output told

def runGenerateIn (m : Machine) (level : NoticeLevel) (d : Disk) (dir : DiskPath)
    (force block : Bool) (options : GenerateOptions) (w : Workflow) : Run :=
  match isOccupied d dir with
  | .error e => { ending := .crash (.disk e), disk := d }
  | .ok occupied =>
    if occupied && !force then
      { ending := .exit 1, disk := d,
        errors := [errorLine (dir.text ++ " is not empty (use --force to overwrite)")] }
    else runCompile m level d dir block options w

/-- Generates a project. The workflow is loaded before the directory is looked at. -/
def runGenerate (m : Machine) (level : NoticeLevel) (d : Disk) (config : Text) (out : Option Text)
    (force block : Bool) (options : GenerateOptions) : Run :=
  match load m.depth d config, out with
  | .error e, _ => .ofLoadError d e
  | .ok _, none => { ending := .crash .noDirectory, disk := d }
  | .ok w, some out => runGenerateIn m level d (DiskPath.ofText out) force block options w

def runCommand (m : Machine) (level : NoticeLevel) (d : Disk) : Command → Run
  | .validate config => runValidate m d config
  | .generate config out force ignoreErrors environmentExample =>
    runGenerate m level d config out force (!ignoreErrors) { environmentExample }
  | .serve host portNumber reload =>
    { ending := .exit 0, disk := d, server := some { host, portNumber, reload } }

/-- A run that ends because its arguments name no command. Help is plain and always printed. -/
def Run.ofRefusal (d : Disk) : Refusal → Run
  | .help topic => { ending := .exit 0, output := topic.help, disk := d }
  | .noCommand => { ending := .exit 1, output := Topic.program.help, disk := d }
  | .wrong topic fault =>
    { ending := .exit 2, disk := d,
      errors := topic.usage ++ [topic.title ++ ": error: " ++ fault.message] }

/-- Runs the program. The settings are read before the arguments. -/
def run (m : Machine) (environment : Table Text) (d : Disk) (arguments : List Text) : Run :=
  match Settings.ofEnvironment environment with
  | .error e => { ending := .crash (.settings e), disk := d }
  | .ok settings =>
    match NoticeLevel.ofName? settings.logLevel with
    | none => { ending := .crash (.unknownLevel settings.logLevel), disk := d }
    | some level =>
      match Command.ofArguments arguments with
      | .error refusal => .ofRefusal d refusal
      | .ok command => runCommand m level d command

end Console

end AgentWorkflow
