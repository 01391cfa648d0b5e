import RowQuery.Event
import RowQuery.Filter.Coercion
import RowQuery.Filter.Condition

/-!
# Filters from a reply

A reply is a JSON object whose member `filters`, if there is one, is a list. Each entry of the list
gives one condition or none, whatever the others are: an entry of another form is dropped, and so is
an ordering whose value is no number. The value of an ordering is kept as the number it spells.
-/
namespace RowQuery.Filter
open Json

inductive ReplyError
  | invalidJson (b : Break)
  | notAnObject
  | filtersNotList
deriving DecidableEq, Repr

def ReplyError.message : ReplyError → String
  | .invalidJson b => s!"response is not valid JSON: {b.message}"
  | .notAnObject => "response is not a JSON object"
  | .filtersNotList => "the 'filters' key does not contain a list"

/-- The condition with the value an ordering needs. -/
def normalize (c : Condition) : Except Warning Condition :=
  if c.operator.isNumeric then
    match c.value.asNumber? with
    | some x => .ok { c with value := .number (.real x) }
    | none => .error (.nonNumericValue c.header c.operator.symbol c.value.text)
  else .ok c

def ofEntry (entry : Value) : Except Warning Condition :=
  match Condition.ofValue? entry with
  | some c => normalize c
  | none => .error (.malformedCondition entry.text)

def entries (document : Value) : Except ReplyError (List Value) :=
  match document with
  | .object members =>
    match members.lookup "filters" with
    | none => .ok []
    | some (.list items) => .ok items
    | some _ => .error .filtersNotList
  | _ => .error .notAnObject

def kept (entries : List Value) : Filters := entries.filterMap fun e => (ofEntry e).toOption

def dropped (entries : List Value) : List Warning :=
  entries.filterMap fun e =>
    match ofEntry e with
    | .ok _ => none
    | .error w => some w

/-- The filters of a reply and a warning for each entry dropped. -/
def ofReply (text : String) : Except ReplyError (Filters × List Warning) := do
  let document ← (Value.read (Text.trim text)).mapError .invalidJson
  let items ← entries document
  return (kept items, dropped items)

end RowQuery.Filter
