/-!
# Log events

What the library reports beside its results: warnings, and under debug the prompt and the replies
of a conversation.
-/
namespace RowQuery

inductive Warning
  | malformedCondition (entry : String)
  | nonNumericValue (header operator value : String)
  | unknownHeader (header : String)
  | unusableCondition (condition : String)
  | emptyReply (attempt : Nat)
  | timedOut (attempt : Nat) (error : String)
  | unusableReply (attempt : Nat) (error : String)
  | exhausted (attempts : Nat)
  | backendFailed (error : String)
  | noOrigins
  | invalidOrigin (origin : String)
  | unknownFields (names : List String)
deriving DecidableEq, Repr

def Warning.message : Warning → String
  | .malformedCondition _ => "Dropping malformed filter condition"
  | .nonNumericValue .. => "Dropping numeric condition with non-numeric value"
  | .unknownHeader _ => "Filter header not in dataset, skipping"
  | .unusableCondition _ => "Could not apply filter, skipping"
  | .emptyReply _ => "AI returned an empty response"
  | .timedOut .. => "AI request timed out"
  | .unusableReply .. => "AI returned unusable output"
  | .exhausted _ => "No usable filters from AI, returning unfiltered data"
  | .backendFailed _ => "AI service failed, returning unfiltered data"
  | .noOrigins => "cors.allowed_origins is empty, browser clients will be rejected"
  | .invalidOrigin _ => "Ignoring invalid CORS origin"
  | .unknownFields _ => "Unknown fields in config file (possible typos)"

def Warning.details : Warning → List (String × String)
  | .malformedCondition entry => [("entry", entry)]
  | .nonNumericValue header operator value =>
    [("header", header), ("operator", operator), ("value", value)]
  | .unknownHeader header => [("header", header)]
  | .unusableCondition condition => [("condition", condition)]
  | .emptyReply attempt => [("attempt", toString attempt)]
  | .timedOut attempt error => [("attempt", toString attempt), ("error", error)]
  | .unusableReply attempt error => [("attempt", toString attempt), ("error", error)]
  | .exhausted attempts => [("attempts", toString attempts)]
  | .backendFailed error => [("error", error)]
  | .noOrigins => []
  | .invalidOrigin origin => [("origin", origin)]
  | .unknownFields names => [("fields", ", ".intercalate names)]

inductive Event
  | warning (w : Warning)
  | prompt (query system : String)
  | response (attempt : Nat) (text : String)
deriving DecidableEq, Repr

def Event.warning? : Event → Option Warning
  | .warning w => some w
  | _ => none

def Event.warnings (es : List Event) : List Warning := es.filterMap Event.warning?

end RowQuery
