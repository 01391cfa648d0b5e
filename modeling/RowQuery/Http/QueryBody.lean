import RowQuery.Http.MediaType
import RowQuery.Http.Problem

/-!
# The body of a query

A query is posted as a JSON record of its text and the rows. It is refused if the body is not
declared as JSON, is too large, cannot be read as that record, or has too long a text, in that
order.
-/
namespace RowQuery.Http
open Json

structure QueryBody where
  query : String
  data : List Value

namespace QueryBody

def maxSize : Nat := 32 * 1024 * 1024

def maxQueryLength : Nat := 4000

def form : Record QueryBody := .strict "QueryRequest" [
  .required "query" Decoder.string fun query b => { b with query },
  .required "data" (Decoder.list Decoder.any) fun data b => { b with data }]

def decoder : Decoder QueryBody := form.decode ⟨"", []⟩

def pathText : List String → String
  | [] => ""
  | step :: steps =>
    step ++ String.join (steps.map fun s => if s.startsWith "[" then s else "." ++ s)

def faultMessage (e : Failure) : String :=
  if e.fault.isSyntactic then "Failed to parse the request body as JSON"
  else
    let place := if e.path = [] then "" else pathText e.path ++ ": "
    s!"Failed to deserialize the JSON body into the target type: {place}{e.fault.message}"

def isDeclaredJson (r : Request) : Bool :=
  match r.field? "content-type" with
  | some value => isPlainField value && (MediaType.read? value).any MediaType.isJson
  | none => false

def isShort (query : String) : Bool := query.length ≤ maxQueryLength

def ofRequest (r : Request) : Except Problem QueryBody :=
  if !isDeclaredJson r then
    .error (.unreadable "Expected request with `Content-Type: application/json`")
  else if maxSize < r.body.size then
    .error (.unreadable "Failed to buffer the request body: length limit exceeded")
  else
    match decoder.ofBytes r.body with
    | .error e => .error (.unreadable (faultMessage e))
    | .ok b =>
      if isShort b.query then .ok b
      else .error (.validation s!"Query must be at most {maxQueryLength} characters")

end QueryBody
end RowQuery.Http
