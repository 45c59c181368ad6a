import AgentWorkflow.Number.Literal
import AgentWorkflow.Text.Blank
import AgentWorkflow.Text.Case
import AgentWorkflow.Text.Quoted
import AgentWorkflow.Text.Table

/-!
# Settings

What the environment decides: the key that requests need, which notices are shown, whether errors
block generation, how many requests a minute are served and which sites may ask.
-/

namespace AgentWorkflow

/-- The settings. An empty key leaves the service open. -/
structure Settings where
  apiKey : Text
  logLevel : Text
  strict : Bool
  rateLimit : Int
  origins : List Text
deriving DecidableEq

/-- A rate limit that is no integer. -/
inductive SettingsError
  | invalidRate (value : Text)
  | longRate (digits : Nat)
deriving DecidableEq

/-- The error in words. At most two hundred points of a value are shown. -/
def SettingsError.message : SettingsError → Text
  | .invalidRate value =>
    ("invalid literal for int() with base 10: " : Text) ++ value.quoted.take 200
  | .longRate digits => Numeral.tooLongMessage digits

namespace Settings

/-- The value of a variable, or the default where it is not set. -/
def valueOf (environment : Table Text) (name default : Text) : Text :=
  (Table.get? environment name).getD default

/-- The variables that are read. -/
def variableNames : List Text :=
  ["AGENT_BUILDER_API_KEY", "AGENT_BUILDER_LOG_LEVEL", "AGENT_BUILDER_STRICT",
   "AGENT_BUILDER_RATE_LIMIT_PER_MIN", "CORS_ORIGINS"]

/-- The words that switch strictness off. -/
def offWords : List Text := ["0", "false", "no"]

def originsOf (list : Text) : List Text :=
  ((Text.splitOn ',' list).map Text.trim).filter (!·.isEmpty)

def rateOf (value : Text) : Except SettingsError Int :=
  match Numeral.integer? value with
  | .ok n => .ok n
  | .error .invalid => .error (.invalidRate value)
  | .error (.tooLong digits) => .error (.longRate digits)

def ofEnvironment (environment : Table Text) : Except SettingsError Settings := do
  let rate ← rateOf (valueOf environment "AGENT_BUILDER_RATE_LIMIT_PER_MIN" "30")
  return {
    apiKey := valueOf environment "AGENT_BUILDER_API_KEY" "",
    logLevel := (valueOf environment "AGENT_BUILDER_LOG_LEVEL" "WARNING").upper,
    strict := !offWords.contains (valueOf environment "AGENT_BUILDER_STRICT" "true").lower,
    rateLimit := rate,
    origins :=
      originsOf (valueOf environment "CORS_ORIGINS" "http://localhost:3000,http://localhost:5173") }

/-- A tuple of texts: one item has a comma behind it. -/
def quotedTuple (items : List Text) : Text :=
  ("(" : Text) ++ Text.join ", " (items.map Text.quoted) ++ (if items.length = 1 then ",)" else ")")

def truthName (b : Bool) : Text := if b then "True" else "False"

/-- The settings on one line, without the key. -/
def summary (s : Settings) : Text :=
  ("Settings(log_level=" : Text) ++ s.logLevel.quoted ++ ", strict=" ++ truthName s.strict
    ++ ", rate_limit_per_min=" ++ Text.ofInt s.rateLimit ++ ", cors_origins="
    ++ quotedTuple s.origins ++ ")"

end Settings

end AgentWorkflow
