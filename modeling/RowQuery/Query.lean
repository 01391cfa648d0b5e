import RowQuery.Dataset.Selection
import RowQuery.Generation

/-!
# Queries over records

A query in plain language over a list of records is answered with the records that its filters
select. Records that make no dataset, and an empty list of them, are answered without a model.
-/
namespace RowQuery.Query
open Json

inductive Error
  | invalidData (e : NotAnObject)
  | generation (e : Generation.Error)
  | evaluation (message : String)
deriving DecidableEq, Repr

def Error.message : Error → String
  | .invalidData e => s!"invalid data: {e.message}"
  | .generation e => e.message
  | .evaluation m => s!"Failed to apply filters: {m}"

structure Answer where
  result : Except Error (List Members)
  requests : List Chat.Request
  events : List Event
  unused : List Chat.Reply

def select (d : Dataset) (filters : Filters) : List Members × List Warning :=
  let (selected, warnings) := d.apply filters
  (selected.toRecords, warnings)

def answerOf (d : Dataset) (r : Generation.Run) : Answer :=
  match r.result with
  | .error e => ⟨.error (.generation e), r.requests, r.events, r.unused⟩
  | .ok filters =>
    if filters.isEmpty then ⟨.ok d.toRecords, r.requests, r.events, r.unused⟩
    else
      let (rows, warnings) := select d filters
      ⟨.ok rows, r.requests, r.events ++ warnings.map .warning, r.unused⟩

def run (s : Generation.Settings) (query : String) (records : List Value)
    (replies : List Chat.Reply) : Answer :=
  match Dataset.ofRecords records with
  | .error e => ⟨.error (.invalidData e), [], [], replies⟩
  | .ok d =>
    if d.rows.isEmpty then ⟨.ok [], [], [], replies⟩
    else answerOf d (Generation.run s query d.headers replies)

end RowQuery.Query
