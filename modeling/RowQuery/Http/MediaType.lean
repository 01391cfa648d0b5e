/-!
# Media types

`type/subtype`, where the part of the subtype behind its last `+` is a suffix, and parameters
behind semicolons whose values are tokens or quoted. Blanks are allowed before a parameter and after
a quoted value only.
-/
namespace RowQuery.Http

structure MediaType where
  main : List Char
  subtype : List Char
  suffix : Option (List Char)
deriving DecidableEq, Repr

namespace MediaType

def isTokenChar (c : Char) : Bool := c.isAlphanum || "!#$%&'*+-.^_`|~".toList.contains c

def isQuotedChar (c : Char) : Bool := 0x20 ≤ c.toNat && c.toNat != 0x7F

inductive Place
  | between
  | name
  | valueStart
  | value
  | quoteStart
  | quoted
  | afterQuoted

/-- The place behind a character. The character behind an opening quote is never a closing one. -/
def Place.next? (c : Char) : Place → Option Place
  | .between => if c = ' ' then some .between else if isTokenChar c then some .name else none
  | .name => if c = '=' then some .valueStart else if isTokenChar c then some .name else none
  | .valueStart =>
    if c = '"' then some .quoteStart else if isTokenChar c then some .value else none
  | .value => if c = ';' then some .between else if isTokenChar c then some .value else none
  | .quoteStart => if isQuotedChar c then some .quoted else none
  | .quoted => if c = '"' then some .afterQuoted else if isQuotedChar c then some .quoted else none
  | .afterQuoted =>
    if c = ';' then some .between else if c = ' ' then some .afterQuoted else none

def Place.mayEnd : Place → Bool
  | .between | .valueStart | .value | .afterQuoted => true
  | _ => false

def areParameters (place : Place) : List Char → Bool
  | [] => place.mayEnd
  | c :: cs =>
    match place.next? c with
    | some place => areParameters place cs
    | none => false

def splitSuffix (subtype : List Char) : List Char × Option (List Char) :=
  let behind := (subtype.reverse.takeWhile (· != '+')).reverse
  let before := subtype.take (subtype.length - behind.length - 1)
  if before = [] then (subtype, none) else (before, some behind)

def read? (text : String) : Option MediaType :=
  let cs := text.toList
  let main := cs.takeWhile isTokenChar
  match cs.dropWhile isTokenChar with
  | '/' :: rest =>
    let subtype := rest.takeWhile isTokenChar
    let parametersOk :=
      match rest.dropWhile isTokenChar with
      | [] => true
      | ';' :: parameters => areParameters .between parameters
      | _ => false
    if main = [] || !parametersOk || (subtype = [] && rest ≠ []) then none
    else
      let (before, suffix) := splitSuffix (subtype.map Char.toLower)
      some ⟨main.map Char.toLower, before, suffix⟩
  | _ => none

def isJson (t : MediaType) : Bool :=
  t.main = "application".toList && (t.subtype = "json".toList || t.suffix = some "json".toList)

end MediaType
end RowQuery.Http
