import RowQuery.Http.Message
import RowQuery.Json.Reader

/-!
# The log of unknown routes

A request to no route is written to the debug log with its headers and its body: as JSON if it is
that, else as a text, else by its size. A body that is too large is not read at all.
-/
namespace RowQuery.Http.NotFound
open Json

def maxBody : Nat := 64 * 1024

def headerValue (r : Request) : Value :=
  .object ((r.fields.filter fun f => isPlainField f.2).foldl
    (fun ms (name, value) => Members.insert ms name (.string value)) [])

def bodyValue (body : ByteArray) : Value :=
  if body.size = 0 then .null
  else
    match Value.ofBytes body with
    | .ok v => v
    | .error _ => .string ((String.fromUTF8? body).getD s!"<binary {body.size} bytes>")

def entry (r : Request) : Value := .object [
  ("status", .number (.integer ⟨404, by decide⟩)),
  ("method", .string r.method),
  ("url", .string r.url),
  ("headers", headerValue r),
  ("body", bodyValue r.body)]

def line (r : Request) : String :=
  if maxBody < r.body.size then s!"[404] {r.method} {r.url} (failed to read body)"
  else "[404]\n" ++ (entry r).prettyText

end RowQuery.Http.NotFound
