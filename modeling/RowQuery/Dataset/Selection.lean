import RowQuery.Dataset.Basic
import RowQuery.Event
import RowQuery.Filter.Coercion
import RowQuery.Filter.Condition

/-!
# Selecting rows

The conditions of a filter narrow a dataset one after another. A condition is passed over with a
warning when its header is unknown, its value is null, or it orders numbers and its value is none.
A cell that is missing or null satisfies no condition but the negated ones.
-/
namespace RowQuery
open Json

/-- A condition made ready for many cells. -/
inductive Test
  | equal (value : Value)
  | notEqual (value : Value)
  | greater (bound : Double)
  | less (bound : Double)
  | atLeast (bound : Double)
  | atMost (bound : Double)
  | contains (needle : List Char)
  | notContains (needle : List Char)

namespace Test

def ofCondition? (c : Condition) : Option Test :=
  if c.value.isNull then none
  else match c.operator with
  | .equal => some (.equal c.value)
  | .notEqual => some (.notEqual c.value)
  | .greater => c.value.asNumber?.map .greater
  | .less => c.value.asNumber?.map .less
  | .atLeast => c.value.asNumber?.map .atLeast
  | .atMost => c.value.asNumber?.map .atMost
  | .contains => c.value.asChars?.map fun cs => .contains (Text.lowercaseChars cs)
  | .notContains => c.value.asChars?.map fun cs => .notContains (Text.lowercaseChars cs)

def holds (cell : Option Value) (p : Value → Bool) : Bool := cell.any p

def ordered (cell : Option Value) (p : Double → Bool) : Bool :=
  (cell.bind Value.asNumber?).any p

def accepts (cell : Option Value) : Test → Bool
  | .equal v => holds cell (·.typedEqual v)
  | .notEqual v => !holds cell (·.typedEqual v)
  | .greater b => ordered cell (b.lt ·)
  | .less b => ordered cell (·.lt b)
  | .atLeast b => ordered cell (b.le ·)
  | .atMost b => ordered cell (·.le b)
  | .contains needle => holds cell (·.mentions needle)
  | .notContains needle => !holds cell (·.mentions needle)

end Test

namespace Dataset

/-- The cell under a header; null is as good as none. -/
def cell (row : Members) (header : String) : Option Value :=
  (row.lookup header).filter (!·.isNull)

def narrow (d : Dataset) (c : Condition) : Dataset × List Warning :=
  if c.header ∈ d.headers then
    match Test.ofCondition? c with
    | some test =>
      ({ d with rows := d.rows.filter fun row => test.accepts (cell row c.header) }, [])
    | none => (d, [.unusableCondition c.display])
  else (d, [.unknownHeader c.header])

def apply (d : Dataset) : Filters → Dataset × List Warning
  | [] => (d, [])
  | c :: cs =>
    let (narrowed, warnings) := d.narrow c
    let (selected, more) := apply narrowed cs
    (selected, warnings ++ more)

end Dataset
end RowQuery
