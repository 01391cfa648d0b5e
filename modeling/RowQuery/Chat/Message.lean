import RowQuery.Json.Printer

/-!
# Conversations with a model

The turns of a conversation, what is asked of a model, and what comes back: a text, nothing, or a
failure.
-/
namespace RowQuery.Chat
open Json

inductive Role
  | system
  | user
  | assistant
deriving DecidableEq, Repr

def Role.text : Role → String
  | .system => "system"
  | .user => "user"
  | .assistant => "assistant"

structure Message where
  role : Role
  content : String
deriving DecidableEq, Repr

def Message.toValue (m : Message) : Value :=
  .object [("role", .string m.role.text), ("content", .string m.content)]

/-- What is asked of a model. A temperature beyond the largest number of its format is absent. -/
structure Request where
  messages : List Message
  temperature : Option Single
  jsonOutput : Bool
deriving DecidableEq

inductive Failure
  | timeout (seconds : Nat)
  | connection (message : String)
  | http (status : Nat) (body : String)
  | invalidResponse (message : String)
  | configuration (message : String)
deriving DecidableEq, Repr

namespace Failure

def message : Failure → String
  | .timeout seconds => s!"LLM request timed out after {seconds}s"
  | .connection m => s!"LLM connection error: {m}"
  | .http status body => s!"LLM returned HTTP {status}: {body}"
  | .invalidResponse m => s!"Invalid LLM response: {m}"
  | .configuration m => s!"LLM client configuration error: {m}"

def isTimeout : Failure → Bool
  | .timeout _ => true
  | _ => false

end Failure

abbrev Reply := Except Failure (Option String)

end RowQuery.Chat
