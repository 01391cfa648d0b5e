import RowQuery.Json.Printer
import RowQuery.Text.Blank
import RowQuery.Text.Lowercase

/-!
# Cells as numbers, as texts and as values

The three ways in which a cell and the value of a condition are compared. A number is read from a
number or from a string that spells one. A text is a string itself or the compact text of any other
value but null. As values, two top-level numbers are equal when the doubles nearest to them are.
-/
namespace RowQuery.Json.Value

def asNumber? : Value → Option Double
  | .number n => n.toDouble?
  | .string s =>
    (Decimal.read? (Text.trimChars s.toList)).bind (·.nearest? Binary.binary64)
  | _ => none

def asChars? : Value → Option (List Char)
  | .null => none
  | .string s => some s.toList
  | v => some v.chars

def typedEqual : Value → Value → Bool
  | .number a, .number b =>
    match a.toDouble?, b.toDouble? with
    | some x, some y => x.same y
    | _, _ => a.same b
  | .string a, .string b => a == b
  | .bool a, .bool b => a == b
  | .list xs, .list ys => (Value.list xs).same (.list ys)
  | .object ms, .object ns => (Value.object ms).same (.object ns)
  | _, _ => false

def mentions (cell : Value) (needle : List Char) : Bool :=
  match cell.asChars? with
  | some cs => Text.occursIn needle (Text.lowercaseChars cs)
  | none => false

end RowQuery.Json.Value
