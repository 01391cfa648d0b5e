import RowQuery.Json.Printer

/-!
# Requests and responses

A header name is compared without regard to the case of its letters; a header that comes more than
once keeps all its values, and its first is the one that counts. A target may be a path alone, a
path behind a scheme and a server, a server alone, or `*`.
-/
namespace RowQuery.Http

structure Request where
  method : String
  target : String
  headers : List (String × String)
  body : ByteArray

structure Response where
  status : Nat
  headers : List (String × String)
  body : String
deriving DecidableEq, Repr

/-- The parts of a target; the query keeps its `?`. -/
structure Location where
  scheme : Option String
  server : String
  path : String
  query : String
deriving DecidableEq, Repr

namespace Location

def splitScheme? (target : List Char) : Option (List Char × List Char) :=
  match target.dropWhile (· != ':') with
  | ':' :: '/' :: '/' :: rest => some (target.takeWhile (· != ':'), rest)
  | _ => none

/-- The schemes of the web are known in any case of their letters. -/
def schemeText (scheme : List Char) : String :=
  let lower := scheme.map Char.toLower
  String.ofList (if lower = "http".toList ∨ lower = "https".toList then lower else scheme)

def isInServer (c : Char) : Bool := c != '/' && c != '?'

/-- A server with what stands behind it; no path at all is that of the root. -/
def onServer (scheme : Option String) (server whole : List Char) : Location :=
  let path := whole.takeWhile (· != '?')
  ⟨scheme, String.ofList server, if path = [] then "/" else String.ofList path,
    String.ofList (whole.dropWhile (· != '?'))⟩

def ofTarget (target : String) : Location :=
  let parts := target.toList.takeWhile (· != '#')
  if parts.head? = some '/' ∨ parts = ['*'] then onServer none [] parts
  else
    match splitScheme? parts with
    | some (scheme, rest) =>
      onServer (some (schemeText scheme)) (rest.takeWhile isInServer) (rest.dropWhile isInServer)
    | none => ⟨none, String.ofList parts, "", ""⟩

def text (l : Location) : String :=
  (l.scheme.elim "" (· ++ "://")) ++ l.server ++ l.path ++ l.query

end Location

namespace Request

def fields (r : Request) : List (String × String) := r.headers.map fun (n, v) => (n.toLower, v)

def field? (r : Request) (name : String) : Option String := r.fields.lookup name

def location (r : Request) : Location := .ofTarget r.target

def url (r : Request) : String := r.location.text

def path (r : Request) : String := r.location.path

end Request

def isPlainField (value : String) : Bool :=
  value.toList.all fun c => c = '\t' || (0x20 ≤ c.toNat && c.toNat < 0x7F)

/-- Whether a text may be a header value at all: it holds no control but tabs. -/
def isField (value : String) : Bool :=
  value.toList.all fun c => c = '\t' || (0x20 ≤ c.toNat && c.toNat ≠ 0x7F)

namespace Response

def empty (status : Nat) : Response := ⟨status, [], ""⟩

def json (status : Nat) (body : Json.Value) : Response :=
  ⟨status, [("content-type", "application/json")], body.text⟩

def html (body : String) : Response :=
  ⟨200, [("content-type", "text/html; charset=utf-8")], body⟩

def withField (r : Response) (name value : String) : Response :=
  { r with headers := r.headers ++ [(name, value)] }

end Response
end RowQuery.Http
