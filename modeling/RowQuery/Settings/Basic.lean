import RowQuery.Chat.Completion
import RowQuery.Event
import RowQuery.Http.Cors
import RowQuery.Settings.File
import RowQuery.Text.Blank

/-!
# Settings

The settings a service runs with. Each is the first one given by the command line and the settings
file, or else its default; the key comes from the environment. What comes out is checked as it is: a
setting that cannot be used is never replaced by one of a lower layer.
-/
namespace RowQuery

/-- A text that is not shown. -/
structure Secret where
  reveal : String
deriving DecidableEq

def Secret.shown (_ : Secret) : String := "[REDACTED]"

def Secret.described (s : Secret) : String := s!"Secret({s.shown})"

structure Settings where
  host : String
  port : Nat
  baseUrl : String
  model : String
  apiKey : Secret
  timeoutSeconds : Nat
  maxAttempts : Nat
  policy : Generation.Policy
  origins : List String
  debug : Bool
deriving DecidableEq

namespace Settings

inductive Error
  | missingKey
  | emptyHost
  | zeroPort
  | emptyBaseUrl
  | emptyModel
  | zeroTimeout
  | attemptsOutOfRange
deriving DecidableEq, Repr

def maxAttemptsLimit : Nat := 10

def keyVariable : String := "GROQ_API_KEY"

def Error.message : Error → String
  | .missingKey =>
    s!"{keyVariable} not found. Add your LLM provider API key to the environment or a .env file."
  | .emptyHost => "Configuration error: server.host must not be empty"
  | .zeroPort => "Configuration error: server.port must be greater than 0"
  | .emptyBaseUrl => "Configuration error: llm.base_url must not be empty"
  | .emptyModel => "Configuration error: llm.model must not be empty"
  | .zeroTimeout => "Configuration error: llm.timeout_secs must be greater than 0"
  | .attemptsOutOfRange =>
    s!"Configuration error: llm.max_attempts must be between 1 and {maxAttemptsLimit}"

def defaultHost : String := "127.0.0.1"

def defaultPort : Nat := 8000

def defaultBaseUrl : String := "https://api.groq.com/openai/v1"

def defaultModel : String := "openai/gpt-oss-20b"

def defaultTimeoutSeconds : Nat := 30

def defaultMaxAttempts : Nat := 3

def defaultOrigins : List String := ["*"]

def withoutTrailingSlashes (s : String) : String :=
  String.ofList (s.toList.reverse.dropWhile (· = '/')).reverse

def usableKey? (key : Option String) : Option Secret :=
  match key with
  | some k => if Text.isBlankText k then none else some ⟨Text.trim k⟩
  | none => none

def ofLayer (l : Layer) (origins : Option (List String)) (apiKey : Secret) : Settings where
  host := l.host.getD defaultHost
  port := l.port.getD defaultPort
  baseUrl := withoutTrailingSlashes (l.baseUrl.getD defaultBaseUrl)
  model := l.model.getD defaultModel
  apiKey := apiKey
  timeoutSeconds := l.timeoutSeconds.getD defaultTimeoutSeconds
  maxAttempts := l.maxAttempts.getD defaultMaxAttempts
  policy := l.policy.getD .fail
  origins := origins.getD defaultOrigins
  debug := l.debug

def check (s : Settings) : Except Error Unit :=
  if s.host = "" then .error .emptyHost
  else if s.port = 0 then .error .zeroPort
  else if s.baseUrl = "" then .error .emptyBaseUrl
  else if s.model = "" then .error .emptyModel
  else if s.timeoutSeconds = 0 then .error .zeroTimeout
  else if s.maxAttempts = 0 ∨ maxAttemptsLimit < s.maxAttempts then .error .attemptsOutOfRange
  else .ok ()

def warnings (s : Settings) : List Warning := if s.origins = [] then [.noOrigins] else []

def ofSources (command : Layer) (file : File) (key : Option String) : Except Error Settings :=
  match usableKey? key with
  | none => .error .missingKey
  | some apiKey => do
    let s := ofLayer (command.above file.layer) file.origins apiKey
    s.check
    return s

def generation (s : Settings) : Generation.Settings := ⟨s.maxAttempts, s.policy, s.debug⟩

def service (s : Settings) : Chat.Completion.Service :=
  ⟨s.baseUrl, s.model, s.apiKey.reveal, s.timeoutSeconds⟩

def isOnAllInterfaces (host : String) : Bool :=
  host = "0.0.0.0" || host = "::" || host = "[::]"

end Settings
end RowQuery
