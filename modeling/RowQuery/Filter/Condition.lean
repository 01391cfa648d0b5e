import RowQuery.Json.Converter

/-!
# Filter conditions

A condition compares the cells under one header with a value. Its record form is an object or a
list of header, operator and value, read from a text or from a value. `ofValue?` is the stricter
form expected of a reply: an object with a header that is not empty, an operator by its symbol, and
a value that is not null.
-/
namespace RowQuery
open Json

inductive Operator
  | equal
  | notEqual
  | greater
  | less
  | atLeast
  | atMost
  | contains
  | notContains
deriving DecidableEq, Repr

namespace Operator

def all : List Operator :=
  [.equal, .notEqual, .greater, .less, .atLeast, .atMost, .contains, .notContains]

def symbol : Operator → String
  | .equal => "==="
  | .notEqual => "!=="
  | .greater => ">"
  | .less => "<"
  | .atLeast => ">="
  | .atMost => "<="
  | .contains => "contains"
  | .notContains => "!contains"

def tag : Operator → String
  | .equal => "==="
  | .notEqual => "!=="
  | .greater => ">"
  | .less => "<"
  | .atLeast => ">="
  | .atMost => "<="
  | .contains => "contains"
  | .notContains => "!contains"

def isNumeric : Operator → Bool
  | .greater | .less | .atLeast | .atMost => true
  | _ => false

def ofSymbol? (s : String) : Option Operator := all.find? (·.symbol == s)

def unknownMessage (s : String) : String := s!"unknown operator '{s}'"

theorem ofSymbol?_symbol (o : Operator) : ofSymbol? o.symbol = some o := by
  cases o <;> decide

theorem symbol_of_ofSymbol? {s : String} {o : Operator} (h : ofSymbol? s = some o) :
    o.symbol = s := by
  have := List.find?_some h
  simpa using this

theorem tag_eq_symbol (o : Operator) : o.tag = o.symbol := by
  cases o <;> rfl

def decoder : Decoder Operator := Decoder.variant (all.map fun o => (o.tag, o))

def converter : Converter Operator := Converter.variant (all.map fun o => (o.tag, o))

end Operator

structure Condition where
  header : String
  operator : Operator
  value : Value

abbrev Filters := List Condition

namespace Condition

def toValue (c : Condition) : Value :=
  .object [("header", .string c.header), ("operator", .string c.operator.tag),
    ("value", c.value)]

def display (c : Condition) : String := s!"{c.header} {c.operator.symbol} {c.value.text}"

def same (c d : Condition) : Bool :=
  c.header == d.header && c.operator == d.operator && c.value.same d.value

def ofValue? (entry : Value) : Option Condition := do
  let members ← entry.members?
  let header ← (← members.lookup "header").string?
  if header = "" then none
  let operator ← Operator.ofSymbol? (← (← members.lookup "operator").string?)
  let value ← members.lookup "value"
  if value.isNull then none
  return ⟨header, operator, value⟩

def blank : Condition := ⟨"", .equal, .null⟩

def form : Record Condition := .strict "Condition" [
  .required "header" Decoder.string fun header c => { c with header },
  .required "operator" Operator.decoder fun operator c => { c with operator },
  .required "value" Decoder.any fun value c => { c with value }]

def decoder : Decoder Condition := form.decode blank

def reads : List (Value → Condition → Except Fault Condition) := [
  Converter.string.into fun header c => { c with header },
  Operator.converter.into fun operator c => { c with operator },
  Converter.any.into fun value c => { c with value }]

def converter : Converter Condition := form.convert reads blank

end Condition

namespace Filters

def toValue (fs : Filters) : Value := .list (fs.map Condition.toValue)

def same (fs gs : Filters) : Bool :=
  fs.length == gs.length && (fs.zip gs).all fun (c, d) => c.same d

def decoder : Decoder Filters := Decoder.list Condition.decoder

end Filters
end RowQuery
