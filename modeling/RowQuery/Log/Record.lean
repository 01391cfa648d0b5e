import RowQuery.Log.Level

/-!
# Log records

What is offered to a log: where it comes from, how grave it is, and a message with named details.
-/
namespace RowQuery.Log

structure Record where
  source : String
  level : Level
  message : String
  details : List (String × String)
deriving DecidableEq, Repr

namespace Record

def fieldNames (r : Record) : List String := "message" :: r.details.map Prod.fst

def line (r : Record) : String :=
  r.message ++ String.join (r.details.map fun (name, value) => s!" {name}={value}")

end Record
end RowQuery.Log
