import RowQuery.Decimal
import RowQuery.Settings.File
import RowQuery.Text.Lowercase

/-!
# Parameters

What can be given on the command line or by an environment variable, under which names, and how the
values are read. A parameter that is given twice in one place is refused.
-/
namespace RowQuery.CommandLine
-- Powers are those of the core library, also where an algebra library offers its own.
attribute [local instance (high)] instPowNat

inductive Parameter
  | host
  | port
  | debug
  | config
  | baseUrl
  | model
  | timeoutSeconds
  | maxAttempts
  | policy
deriving DecidableEq, Repr

inductive Fault
  | missingValue
  | invalidValue
  | unreadableValue
  | unknownArgument
  | unknownCommand
  | repeated
  | uselessValue
  | missingArgument
deriving DecidableEq, Repr

/-- What is given in one place; of the debug flag also that it is given as off. -/
structure Given where
  host : Option String := none
  port : Option Nat := none
  debug : Option Bool := none
  config : Option String := none
  baseUrl : Option String := none
  model : Option String := none
  timeoutSeconds : Option Nat := none
  maxAttempts : Option Nat := none
  policy : Option Generation.Policy := none
deriving DecidableEq, Repr

namespace Parameter

def all : List Parameter :=
  [.host, .port, .debug, .config, .baseUrl, .model, .timeoutSeconds, .maxAttempts, .policy]

theorem mem_all (p : Parameter) : p ∈ all := by cases p <;> decide

def longName : Parameter → String
  | .host => "host"
  | .port => "port"
  | .debug => "debug"
  | .config => "config"
  | .baseUrl => "llm-base-url"
  | .model => "model"
  | .timeoutSeconds => "llm-timeout-secs"
  | .maxAttempts => "max-attempts"
  | .policy => "on-exhausted"

def letter? : Parameter → Option Char
  | .host => some 'H'
  | .port => some 'p'
  | .config => some 'c'
  | .model => some 'm'
  | _ => none

def variableName : Parameter → String
  | .host => "QUERYGENIE_HOST"
  | .port => "QUERYGENIE_PORT"
  | .debug => "QUERYGENIE_DEBUG"
  | .config => "QUERYGENIE_CONFIG"
  | .baseUrl => "QUERYGENIE_LLM_BASE_URL"
  | .model => "QUERYGENIE_MODEL"
  | .timeoutSeconds => "QUERYGENIE_LLM_TIMEOUT_SECS"
  | .maxAttempts => "QUERYGENIE_MAX_ATTEMPTS"
  | .policy => "QUERYGENIE_ON_EXHAUSTED"

def ofLongName? (name : String) : Option Parameter := all.find? (·.longName == name)

def ofLetter? (c : Char) : Option Parameter := all.find? (·.letter? == some c)

def readInteger? (cs : List Char) : Option Int :=
  let (negative, digits) := Decimal.sign cs
  if digits ≠ [] ∧ digits.all Char.isDigit then
    some (if negative then -(Decimal.ofDigits digits : Int) else Decimal.ofDigits digits)
  else none

def readNatural (bits : Nat) (minus : Bool) (text : String) : Except Fault Nat :=
  match readInteger? text.toList with
  | some z =>
    if 0 ≤ z ∧ z < 2 ^ bits ∧ (minus ∨ text.toList.head? ≠ some '-') then .ok z.toNat
    else .error .unreadableValue
  | none => .error .unreadableValue

def readFlag (text : String) : Except Fault Bool :=
  if text = "true" then .ok true
  else if text = "false" then .ok false
  else .error .invalidValue

def readPath (text : String) : Except Fault String :=
  if text = "" then .error .invalidValue else .ok text

def readPolicy (text : String) : Except Fault Generation.Policy :=
  match Settings.File.policies.lookup (Text.lowercase text) with
  | some p => .ok p
  | none => .error .unreadableValue

end Parameter

namespace Given

def has (g : Given) : Parameter → Bool
  | .host => g.host.isSome
  | .port => g.port.isSome
  | .debug => g.debug.isSome
  | .config => g.config.isSome
  | .baseUrl => g.baseUrl.isSome
  | .model => g.model.isSome
  | .timeoutSeconds => g.timeoutSeconds.isSome
  | .maxAttempts => g.maxAttempts.isSome
  | .policy => g.policy.isSome

def set (g : Given) (p : Parameter) (text : String) : Except Fault Given :=
  match p with
  | .host => .ok { g with host := text }
  | .port => do return { g with port := ← Parameter.readNatural 16 true text }
  | .debug => do return { g with debug := ← Parameter.readFlag text }
  | .config => do return { g with config := ← Parameter.readPath text }
  | .baseUrl => .ok { g with baseUrl := text }
  | .model => .ok { g with model := text }
  | .timeoutSeconds => do return { g with timeoutSeconds := ← Parameter.readNatural 64 false text }
  | .maxAttempts => do return { g with maxAttempts := ← Parameter.readNatural 32 true text }
  | .policy => do return { g with policy := ← Parameter.readPolicy text }

def add (g : Given) (p : Parameter) (text : String) : Except Fault Given :=
  if g.has p then .error .repeated else g.set p text

/-- What is given, and what the variables give beside it. A variable is read only for a parameter
that is not given. -/
def fillFrom (environment : List (String × String)) (g : Given) :
    List Parameter → Except Fault Given
  | [] => .ok g
  | p :: ps =>
    match g.has p, environment.lookup p.variableName with
    | false, some text =>
      match g.set p text with
      | .ok g => fillFrom environment g ps
      | .error e => .error e
    | _, _ => fillFrom environment g ps

def withVariables (environment : List (String × String)) (g : Given) : Except Fault Given :=
  g.fillFrom environment Parameter.all

def above (upper lower : Given) : Given where
  host := upper.host <|> lower.host
  port := upper.port <|> lower.port
  debug := upper.debug <|> lower.debug
  config := upper.config <|> lower.config
  baseUrl := upper.baseUrl <|> lower.baseUrl
  model := upper.model <|> lower.model
  timeoutSeconds := upper.timeoutSeconds <|> lower.timeoutSeconds
  maxAttempts := upper.maxAttempts <|> lower.maxAttempts
  policy := upper.policy <|> lower.policy

def layer (g : Given) : Settings.Layer where
  host := g.host
  port := g.port
  baseUrl := g.baseUrl
  model := g.model
  timeoutSeconds := g.timeoutSeconds
  maxAttempts := g.maxAttempts
  policy := g.policy
  debug := g.debug.getD false

end Given
end RowQuery.CommandLine
