import AgentWorkflow.Number.Literal
import AgentWorkflow.Text.Digit
import AgentWorkflow.Text.Quoted

/-!
# Arguments

How a list of arguments is taken apart. A grammar names options and at most one operand. An option
may be cut short as long as its beginning fits no other; a value stands behind an equals sign or in
the next argument; options of one letter may be joined. Behind two dashes everything is an operand.
-/

namespace AgentWorkflow

namespace Console

/-- What an option does: show the help, be there, or take a value. -/
inductive OptionKind
  | help
  | flag
  | value (integer : Bool)
deriving DecidableEq

structure OptionRule where
  spellings : List Text
  kind : OptionKind
  required : Bool := false
deriving DecidableEq

/-- The operand of a grammar: none, one argument that has to be there, or a command with all
arguments behind it. -/
inductive Operand
  | none
  | argument (name : Text)
  | command
deriving DecidableEq

/-- What arguments a program or a command takes. -/
structure Grammar where
  options : List OptionRule
  operand : Operand
deriving DecidableEq

/-- What is wrong with arguments, or that help is wanted. -/
inductive UsageFault
  | helpWanted
  | ambiguous (argument : Text) (spellings : List Text)
  | unwantedValue (rule : OptionRule) (value : Text)
  | missingValue (rule : OptionRule)
  | invalidInteger (rule : OptionRule) (value : Text)
  | missing (names : List Text)
  | unknownCommand (name : Text) (commands : List Text)
  | unrecognized (arguments : List Text)
deriving DecidableEq

def OptionRule.name (r : OptionRule) : Text := Text.join "/" r.spellings

def UsageFault.message : UsageFault → Text
  | .helpWanted => []
  | .ambiguous argument spellings =>
    ("ambiguous option: " : Text) ++ argument ++ " could match " ++ Text.join ", " spellings
  | .unwantedValue rule value =>
    ("argument " : Text) ++ rule.name ++ ": ignored explicit argument " ++ value.quoted
  | .missingValue rule => ("argument " : Text) ++ rule.name ++ ": expected one argument"
  | .invalidInteger rule value =>
    ("argument " : Text) ++ rule.name ++ ": invalid int value: " ++ value.quoted
  | .missing names =>
    ("the following arguments are required: " : Text) ++ Text.join ", " names
  | .unknownCommand name commands =>
    ("argument COMMAND: invalid choice: " : Text) ++ name.quoted ++ " (choose from "
      ++ Text.join ", " (commands.map Text.quoted) ++ ")"
  | .unrecognized arguments =>
    ("unrecognized arguments: " : Text) ++ Text.join " " arguments

/-- An argument read as an option. There is no rule for one that the grammar does not know. A value
is attached behind an equals sign or right behind a letter. -/
structure OptionUse where
  rule : Option OptionRule
  spelling : Text
  attached : Option Text
deriving DecidableEq

/-- What an argument is read as. -/
inductive Role
  | option (use : OptionUse)
  | operand
  | separator
deriving DecidableEq

/-- An argument with its role. -/
structure Token where
  argument : Text
  role : Role
deriving DecidableEq

/-- True of a decimal digit of any script. -/
def isDecimal (c : CodePoint) : Bool := c.plain.isDigit

/-- True of a text of one or more decimal digits. -/
def isDecimals (t : Text) : Bool := !t.isEmpty && t.all isDecimal

/-- True of a negative number, with a point or without; a line feed may follow. -/
def isNegativeNumber : Text → Bool
  | [] => false
  | c :: rest =>
    let body := if rest.getLast? = some '\n' then rest.dropLast else rest
    c = '-' && (isDecimals body
      || match body.dropWhile isDecimal with
        | d :: fraction => d = '.' && isDecimals fraction
        | [] => false)

/-- A text cut at its first equals sign, if it has one. -/
def cutAtEquals (t : Text) : Text × Option Text :=
  match t.dropWhile fun (c : CodePoint) => c ≠ '=' with
  | _ :: value => (t.takeWhile fun (c : CodePoint) => c ≠ '=', some value)
  | [] => (t, none)

namespace Grammar

def spellings (g : Grammar) : List (Text × OptionRule) :=
  g.options.flatMap fun r => r.spellings.map (·, r)

def rule? (g : Grammar) (spelling : Text) : Option OptionRule := g.spellings.lookup spelling

/-- The readings of an argument as the beginning of a long option. -/
def longUses (g : Grammar) (argument : Text) : List OptionUse :=
  let (start, attached) := cutAtEquals argument
  (g.spellings.filter fun (s, _) => start.isPrefixOf s).map fun (s, r) => ⟨some r, s, attached⟩

/-- The readings of an argument as an option of one letter with something joined to it, or as the
beginning of an option. -/
def shortUses (g : Grammar) (argument : Text) : List OptionUse :=
  g.spellings.filterMap fun (s, r) =>
    if s = argument.take 2 then some ⟨some r, s, some (argument.drop 2)⟩
    else if argument.isPrefixOf s then some ⟨some r, s, none⟩
    else none

/-- The role of an argument that starts with a dash, has more behind it and is no option as it
stands. -/
def partialRole (g : Grammar) (argument : Text) : Except UsageFault Role :=
  let uses := if ("--" : Text).isPrefixOf argument then g.longUses argument else g.shortUses argument
  match uses with
  | [use] => .ok (.option use)
  | [] =>
    if isNegativeNumber argument || argument.contains (' ' : CodePoint) then .ok .operand
    else .ok (.option ⟨none, argument, none⟩)
  | _ => .error (.ambiguous argument (uses.map (·.spelling)))

/-- The role of an argument before any two dashes. -/
def role (g : Grammar) (argument : Text) : Except UsageFault Role :=
  if argument.head? ≠ some '-' then .ok .operand
  else match g.rule? argument with
    | some r => .ok (.option ⟨some r, argument, none⟩)
    | none =>
      if argument.length = 1 then .ok .operand
      else
        let (start, attached) := cutAtEquals argument
        match attached, g.rule? start with
        | some _, some r => .ok (.option ⟨some r, start, attached⟩)
        | _, _ => g.partialRole argument

/-- The roles of arguments. -/
def tokens (g : Grammar) : List Text → Except UsageFault (List Token)
  | [] => .ok []
  | argument :: rest =>
    if argument = "--" then
      .ok (⟨argument, .separator⟩ :: rest.map fun a => ⟨a, .operand⟩)
    else do
      let role ← g.role argument
      return ⟨argument, role⟩ :: (← g.tokens rest)

end Grammar

/-- What has been taken from arguments: options, those with a value with it, the operand with what
belongs to it, and what nothing takes. -/
structure Taken where
  options : List (OptionRule × Option Text) := []
  operand : Option (List Text) := none
  extras : List Text := []
deriving DecidableEq

namespace Taken

/-- Takes an option that has no value. -/
def addFlag (t : Taken) (rule : OptionRule) : Except UsageFault Taken :=
  if rule.kind = .help then .error .helpWanted
  else .ok { t with options := t.options ++ [(rule, none)] }

/-- Takes an option with its value. Two dashes stand for no value. -/
def addValue (t : Taken) (rule : OptionRule) (integer : Bool) (value : Text) :
    Except UsageFault Taken :=
  if value = "--" then .ok { t with options := t.options ++ [(rule, none)] }
  else if integer && !(Numeral.integer? value).isOk then .error (.invalidInteger rule value)
  else .ok { t with options := t.options ++ [(rule, some value)] }

def addExtras (t : Taken) (arguments : List Text) : Taken :=
  { t with extras := t.extras ++ arguments }

/-- The value last given to an option: nothing for an option that is not there, and no value for
one that is there without. -/
def value? (t : Taken) (spelling : Text) : Option (Option Text) :=
  (t.options.reverse.find? fun (r, _) => r.spellings.contains spelling).map (·.2)

def has (t : Taken) (spelling : Text) : Bool := (t.value? spelling).isSome

end Taken

/-- The options joined behind an option of one letter, itself first. Each letter has to be an option
of its own. Options of one letter take no values. -/
def joined (g : Grammar) (rule : OptionRule) : Text → Except UsageFault (List OptionRule)
  | [] => .error (.unwantedValue rule [])
  | c :: rest =>
    match g.rule? ['-', c] with
    | none => .error (.unwantedValue rule (c :: rest))
    | some next => if rest.isEmpty then .ok [rule, next] else (rule :: ·) <$> joined g next rest

def takeAttached (g : Grammar) (t : Taken) (use : OptionUse) (rule : OptionRule) (value : Text) :
    Except UsageFault Taken :=
  match rule.kind with
  | .value integer => t.addValue rule integer value
  | _ =>
    if ("--" : Text).isPrefixOf use.spelling then .error (.unwantedValue rule value)
    else do (← joined g rule value).foldlM Taken.addFlag t

/-- Takes an option, with its value from the tokens behind it where it needs one. -/
def takeOption (g : Grammar) (t : Taken) (argument : Text) (use : OptionUse) (rest : List Token) :
    Except UsageFault (Taken × List Token) :=
  match use.rule with
  | none => .ok (t.addExtras [argument], rest)
  | some rule =>
    match use.attached with
    | some a => (·, rest) <$> takeAttached g t use rule a
    | none =>
      match rule.kind with
      | .value integer =>
        match rest with
        | ⟨value, .operand⟩ :: rest => (·, rest) <$> t.addValue rule integer value
        | _ => .error (.missingValue rule)
      | _ => (·, rest) <$> t.addFlag rule

def Token.isOption (t : Token) : Bool :=
  match t.role with
  | .option _ => true
  | _ => false

/-- True of two dashes. -/
def Token.isSeparator (t : Token) : Bool := t.role = .separator

/-- The operand at the head of tokens, if there is one: the arguments that make it up, and the
tokens behind it. -/
def takeOperand? (operand : Operand) (tokens : List Token) : Option (List Text × List Token) :=
  match tokens.dropWhile Token.isSeparator with
  | ⟨argument, .operand⟩ :: rest =>
    match operand with
    | .none => none
    | .argument _ => some ([argument], rest.dropWhile Token.isSeparator)
    | .command => some (tokens.map Token.argument, [])
  | _ => none

/-- The operand that is still wanted. -/
def wanted (g : Grammar) (t : Taken) : Operand := if t.operand.isSome then .none else g.operand

/-- Takes the operand at the end of the tokens and leaves the rest untaken. -/
def takeLast (g : Grammar) (t : Taken) (tokens : List Token) : Taken :=
  match takeOperand? (wanted g t) tokens with
  | some (operand, rest) =>
    { t with operand := some operand }.addExtras (rest.map Token.argument)
  | none => t.addExtras (tokens.map Token.argument)

/-- Takes tokens in turn: operands where one is wanted, options with their values. Every step takes
at least one token, so there are as many `steps` as tokens. -/
def takeTokens (g : Grammar) : Nat → Taken → List Token → Except UsageFault Taken
  | 0, t, tokens => .ok (takeLast g t tokens)
  | steps + 1, t, tokens =>
    if !tokens.any Token.isOption then .ok (takeLast g t tokens)
    else match tokens with
      | ⟨argument, .option use⟩ :: rest => do
        let (t, rest) ← takeOption g t argument use rest
        takeTokens g steps t rest
      | _ =>
        match takeOperand? (wanted g t) tokens with
        | some (operand, rest) => takeTokens g steps { t with operand := some operand } rest
        | none =>
          let skipped := tokens.takeWhile (!·.isOption)
          takeTokens g steps (t.addExtras (skipped.map Token.argument))
            (tokens.dropWhile (!·.isOption))

def missingNames (g : Grammar) (t : Taken) : List Text :=
  (match wanted g t with
    | .argument name => [name]
    | _ => [])
    ++ (g.options.filter fun r => r.required && !t.options.any fun (o, _) => o = r).map (·.name)

def Grammar.take (g : Grammar) (arguments : List Text) : Except UsageFault Taken := do
  let tokens ← g.tokens arguments
  let t ← takeTokens g tokens.length {} tokens
  match missingNames g t with
  | [] => return t
  | names => .error (.missing names)

end Console

end AgentWorkflow
