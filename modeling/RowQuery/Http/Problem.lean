import RowQuery.Http.Message
import RowQuery.Query

/-!
# Error responses

What went wrong with a request, as a response: an object of a kind of error, a code and a message.
-/
namespace RowQuery.Http
open Json

inductive Problem
  | badRequest (code message : String)
  | internal (code message : String)
deriving DecidableEq, Repr

namespace Problem

def status : Problem → Nat
  | .badRequest _ _ => 400
  | .internal _ _ => 500

def body (kind code message : String) : Value :=
  .object [("error", .string kind), ("code", .string code), ("message", .string message)]

def response : Problem → Response
  | .badRequest code message => .json 400 (body "bad_request" code message)
  | .internal code message => .json 500 (body "internal_error" code message)

def validationMessage (field : String) (messages : List (Option String)) : String :=
  "; ".intercalate (messages.map fun m => m.getD s!"{field}: validation failed")

def validation (message : String) : Problem := .badRequest "VALIDATION_ERROR" message

def unreadable (message : String) : Problem := .badRequest "JSON_PARSE_ERROR" message

def ofQueryError : Query.Error → Problem
  | .invalidData e => .badRequest "INVALID_DATA" s!"Invalid data format: {e.message}"
  | .generation (.exhausted attempts) =>
    .internal "AI_FILTER_EXHAUSTED" (Generation.Error.exhausted attempts).message
  | .generation (.backend failure) =>
    .internal "AI_SERVICE_ERROR" (Generation.Error.backend failure).message
  | .evaluation m => .internal "FILTER_APPLY_FAILED" (Query.Error.evaluation m).message

end Problem
end RowQuery.Http
