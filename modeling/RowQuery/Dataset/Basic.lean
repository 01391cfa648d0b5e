import RowQuery.Json.Value

/-!
# Datasets

Rows of cells under headers. The headers of a list of records are the names in them, each once, in
the order in which they first come. A row may lack cells; written out, it has one for every header.
-/
namespace RowQuery
open Json

structure Dataset where
  headers : List String
  rows : List Members

structure NotAnObject where
  position : Nat
deriving DecidableEq, Repr

def NotAnObject.message (e : NotAnObject) : String := s!"row {e.position} is not a JSON object"

namespace Dataset

def rowsOf (position : Nat) (done : List Members) : List Value → Except NotAnObject (List Members)
  | [] => .ok done.reverse
  | .object row :: records => rowsOf (position + 1) (row :: done) records
  | _ :: _ => .error ⟨position⟩

def headersOf (rows : List Members) : List String := (rows.flatMap Members.names).eraseDups

def ofRecords (records : List Value) : Except NotAnObject Dataset := do
  let rows ← rowsOf 0 [] records
  return ⟨headersOf rows, rows⟩

/-- Puts a cell behind those done for each header. A cell is taken out of the row, and is null when
the row has none. -/
def fill (done row : Members) : List String → Members
  | [] => done
  | h :: hs =>
    let (value, rest) := row.takeOut h
    fill (done.insert h (value.getD .null)) rest hs

def toRecord (headers : List String) (row : Members) : Members := fill [] row headers

def toRecords (d : Dataset) : List Members := d.rows.map (toRecord d.headers)

end Dataset
end RowQuery
