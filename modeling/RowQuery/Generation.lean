import RowQuery.Chat.Message
import RowQuery.Filter.Reply
import RowQuery.Prompt

/-!
# Generating filters

Filters are obtained from a model in a conversation of at most so many attempts. A reply that can
be read ends it; one that cannot is put back to the model with a correction; an empty reply or a
timeout uses up an attempt and leaves the conversation as it is; any other failure ends it. What is
returned without filters is a matter of policy: a failure, or the empty filter.
-/
namespace RowQuery.Generation
open Chat

/-- What becomes of a query for which there are no filters. -/
inductive Policy
  | fail
  | unfiltered
deriving DecidableEq, Repr

def Policy.text : Policy → String
  | .fail => "fail"
  | .unfiltered => "unfiltered"

structure Settings where
  maxAttempts : Nat
  policy : Policy
  debug : Bool
deriving DecidableEq, Repr

/-- The budget of a conversation: there is always one attempt. -/
def Settings.attempts (s : Settings) : Nat := max s.maxAttempts 1

inductive Error
  | exhausted (attempts : Nat)
  | backend (failure : Failure)
deriving DecidableEq, Repr

def Error.message : Error → String
  | .exhausted attempts => s!"AI failed to generate valid filters after {attempts} attempts"
  | .backend failure => s!"AI service error: {failure.message}"

/-- What a reply does to the conversation. -/
inductive Turn
  | accept (filters : Filters) (events : List Event)
  | stop (failure : Failure)
  | retry (messages : List Message) (events : List Event)

def correctionTurns (text : String) : List Message :=
  [⟨.assistant, text⟩, ⟨.user, Prompt.correction⟩]

def Turn.ofReply (debug : Bool) (attempt : Nat) : Reply → Turn
  | .ok none => .retry [] [.warning (.emptyReply attempt)]
  | .error failure =>
    if failure.isTimeout then .retry [] [.warning (.timedOut attempt failure.message)]
    else .stop failure
  | .ok (some text) =>
    let seen : List Event := if debug then [.response attempt text] else []
    match Filter.ofReply text with
    | .ok (filters, warnings) => .accept filters (seen ++ warnings.map .warning)
    | .error e =>
      .retry (correctionTurns text) (seen ++ [.warning (.unusableReply attempt e.message)])

/-- A finished conversation: its result, the requests sent, what was logged, and the replies that
were not asked for. -/
structure Run where
  result : Except Error Filters
  requests : List Request
  events : List Event
  unused : List Reply

def Run.after (request : Request) (events : List Event) (r : Run) : Run :=
  { r with requests := request :: r.requests, events := events ++ r.events }

def request (messages : List Message) : Request := ⟨messages, some (.zero false), true⟩

def opening (query : String) (headers : List String) : List Message :=
  [⟨.system, Prompt.system headers⟩, ⟨.user, query⟩]

def fallback (policy : Policy) (error : Error) (warning : Warning) :
    Except Error Filters × List Event :=
  match policy with
  | .fail => (.error error, [])
  | .unfiltered => (.ok [], [.warning warning])

def exhausted (s : Settings) (replies : List Reply) : Run :=
  let (result, events) := fallback s.policy (.exhausted s.attempts) (.exhausted s.attempts)
  ⟨result, [], events, replies⟩

def stopped (s : Settings) (failure : Failure) (replies : List Reply) : Run :=
  let (result, events) := fallback s.policy (.backend failure) (.backendFailed failure.message)
  ⟨result, [], events, replies⟩

/-- The next reply; when none is left, an empty one. -/
def nextReply : List Reply → Reply × List Reply
  | [] => (.ok none, [])
  | reply :: replies => (reply, replies)

def converse (s : Settings) (messages : List Message) (replies : List Reply) : Nat → Run
  | 0 => exhausted s replies
  | left + 1 =>
    let (reply, replies) := nextReply replies
    match Turn.ofReply s.debug (s.attempts - left) reply with
    | .accept filters events => ⟨.ok filters, [request messages], events, replies⟩
    | .stop failure => (stopped s failure replies).after (request messages) []
    | .retry more events =>
      (converse s (messages ++ more) replies left).after (request messages) events

def run (s : Settings) (query : String) (headers : List String) (replies : List Reply) : Run :=
  let r := converse s (opening query headers) replies s.attempts
  if s.debug then { r with events := .prompt query (Prompt.system headers) :: r.events } else r

end RowQuery.Generation
