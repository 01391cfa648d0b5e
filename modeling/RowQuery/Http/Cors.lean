import RowQuery.Event
import RowQuery.Http.Message

/-!
# Access from other origins

A list of origins with the entry `*` admits all of them, without credentials. Any other list admits
its entries, with credentials; an entry that cannot be a header value is left out with a warning.
-/
namespace RowQuery.Http

inductive Cors
  | anyOrigin
  | listed (origins : List String)
deriving DecidableEq, Repr

namespace Cors

def allowsAny (origins : List String) : Bool := origins.contains "*"

def ofOrigins (origins : List String) : Cors × List Warning :=
  if allowsAny origins then (.anyOrigin, [])
  else
    (.listed (origins.filter isField),
      (origins.filter (!isField ·)).map .invalidOrigin)

def originFields : Cors → Option String → List (String × String)
  | .anyOrigin, _ => [("access-control-allow-origin", "*")]
  | .listed origins, some origin =>
    if origins.contains origin then [("access-control-allow-origin", origin)] else []
  | .listed _, none => []

def credentialFields : Cors → List (String × String)
  | .anyOrigin => []
  | .listed _ => [("access-control-allow-credentials", "true")]

def fields (cors : Cors) (origin : Option String) : List (String × String) :=
  cors.originFields origin ++ cors.credentialFields

def preflightFields : Cors → List (String × String)
  | .anyOrigin => [("access-control-allow-methods", "*"), ("access-control-allow-headers", "*")]
  | .listed _ =>
    [("access-control-allow-methods", "GET,POST,OPTIONS"),
      ("access-control-allow-headers", "content-type,authorization,accept,origin")]

end Cors
end RowQuery.Http
