import AgentWorkflow.Console.Grammar

/-!
# Commands

The commands of the program, how they are written, and what is shown of their usage.
-/

namespace AgentWorkflow

namespace Console

/-- A command with its arguments. Options that take a value may be given without one. -/
inductive Command
  | validate (config : Text)
  | generate (config : Text) (out : Option Text) (force ignoreErrors environmentExample : Bool)
  | serve (host : Option Text) (portNumber : Option Int) (reload : Bool)
deriving DecidableEq

/-- What usage can be shown of: the program or one of its commands. -/
inductive Topic
  | program
  | validate
  | generate
  | serve
deriving DecidableEq

def helpRule : OptionRule := { spellings := ["-h", "--help"], kind := .help }

/-- The option that names the output directory. -/
def outRule : OptionRule := { spellings := ["--out"], kind := .value false, required := true }

/-- The option that allows a directory with files in it. -/
def forceRule : OptionRule := { spellings := ["--force"], kind := .flag }

def ignoreErrorsRule : OptionRule := { spellings := ["--ignore-errors"], kind := .flag }

/-- The option that adds an example of an environment file. -/
def environmentRule : OptionRule := { spellings := ["--env-example"], kind := .flag }

/-- The option that names the address to serve at. -/
def hostRule : OptionRule := { spellings := ["--host"], kind := .value false }

/-- The option that gives the number to listen at. -/
def portRule : OptionRule := { spellings := ["--port"], kind := .value true }

/-- The option that restarts the server when its program changes. -/
def reloadRule : OptionRule := { spellings := ["--reload"], kind := .flag }

def commandNames : List Text := ["validate", "generate", "serve"]

namespace Topic

def ofName? (name : Text) : Option Topic :=
  if name = ("validate" : Text) then some .validate
  else if name = ("generate" : Text) then some .generate
  else if name = ("serve" : Text) then some .serve
  else none

def grammar : Topic → Grammar
  | .program => ⟨[helpRule], .command⟩
  | .validate => ⟨[helpRule], .argument "config"⟩
  | .generate =>
    ⟨[helpRule, outRule, forceRule, ignoreErrorsRule, environmentRule], .argument "config"⟩
  | .serve => ⟨[helpRule, hostRule, portRule, reloadRule], .none⟩

def title : Topic → Text
  | .program => "agent-builder"
  | .validate => "agent-builder validate"
  | .generate => "agent-builder generate"
  | .serve => "agent-builder serve"

def usage : Topic → List Text
  | .program => ["usage: agent-builder [-h] COMMAND ..."]
  | .validate => ["usage: agent-builder validate [-h] config"]
  | .generate =>
    ["usage: agent-builder generate [-h] --out DIR [--force] [--ignore-errors]",
     "                              [--env-example]",
     "                              config"]
  | .serve => ["usage: agent-builder serve [-h] [--host HOST] [--port PORT] [--reload]"]

/-- What the help of a topic says below its usage. -/
def details : Topic → List Text
  | .program =>
    ["",
     "Compile a multi-agent workflow config into a Chainlit / ADK project",
     "",
     "positional arguments:",
     "  COMMAND",
     "    validate  Run preflight checks on a workflow config",
     "    generate  Generate the project files",
     "    serve     Run the HTTP API",
     "",
     "options:",
     "  -h, --help  show this help message and exit"]
  | .validate =>
    ["",
     "positional arguments:",
     "  config      Path to the workflow JSON file",
     "",
     "options:",
     "  -h, --help  show this help message and exit"]
  | .generate =>
    ["",
     "positional arguments:",
     "  config           Path to the workflow JSON file",
     "",
     "options:",
     "  -h, --help       show this help message and exit",
     "  --out DIR        Output directory",
     "  --force          write into a non-empty output directory",
     "  --ignore-errors  generate even when preflight reports errors",
     "  --env-example    also write a .env.example file"]
  | .serve =>
    ["",
     "options:",
     "  -h, --help   show this help message and exit",
     "  --host HOST",
     "  --port PORT",
     "  --reload"]

def help (t : Topic) : List Text := t.usage ++ t.details

end Topic

/-- Why arguments name no command: help is wanted, there is no command, or they are wrong. -/
inductive Refusal
  | help (topic : Topic)
  | noCommand
  | wrong (topic : Topic) (fault : UsageFault)
deriving DecidableEq

def Refusal.ofFault (topic : Topic) : UsageFault → Refusal
  | .helpWanted => .help topic
  | fault => .wrong topic fault

def takeFor (topic : Topic) (arguments : List Text) : Except Refusal Taken :=
  (topic.grammar.take arguments).mapError (Refusal.ofFault topic)

def commandOf (topic : Topic) (t : Taken) : Option Command :=
  let config := ((t.operand.bind List.head?)).getD []
  match topic with
  | .program => none
  | .validate => some (.validate config)
  | .generate =>
    some (.generate config ((t.value? "--out").getD none) (t.has "--force")
      (t.has "--ignore-errors") (t.has "--env-example"))
  | .serve =>
    let host := (t.value? "--host").getD (some "0.0.0.0")
    let number := match t.value? "--port" with
      | some value => value.bind fun v => (Numeral.integer? v).toOption
      | none => some 8000
    some (.serve host number (t.has "--reload"))

/-- The command that arguments name. Arguments that nothing takes are only refused at the end. -/
def Command.ofArguments (arguments : List Text) : Except Refusal Command := do
  let outer ← takeFor .program arguments
  match outer.operand with
  | none | some [] =>
    if outer.extras.isEmpty then .error .noCommand
    else .error (.wrong .program (.unrecognized outer.extras))
  | some (name :: rest) =>
    match Topic.ofName? name with
    | none => .error (.wrong .program (.unknownCommand name commandNames))
    | some topic =>
      let inner ← takeFor topic rest
      let extras := outer.extras ++ inner.extras
      if !extras.isEmpty then .error (.wrong .program (.unrecognized extras))
      else match commandOf topic inner with
        | some command => .ok command
        | none => .error .noCommand

end Console

end AgentWorkflow
