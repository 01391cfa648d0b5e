import RowQuery.Http.Router
import RowQuery.Server.Address

/-!
# Starting to listen

A server starts in three steps: its host has to be an address, the router is built, and the place,
an address with a port, has to be free. Any address will do, be it one of this machine or not.
-/
namespace RowQuery.Server

inductive Error
  | invalidHost (host : String)
  | placeTaken (place : String)
deriving DecidableEq, Repr

def Error.message : Error → String
  | .invalidHost host => s!"Invalid host address: {host}: invalid IP address syntax"
  | .placeTaken place => s!"Failed to bind {place}: Address already in use (os error 98)"

structure Listening where
  place : String
  router : Http.Router

def bind (address : Address) (port : Nat) (isTaken : Bool) : Except Error String :=
  let place := address.withPort port
  if isTaken then .error (.placeTaken place) else .ok place

def start (host : String) (port : Nat) (isTaken : Bool) (origins : List String)
    (settings : Generation.Settings) : Except Error Listening × List Warning :=
  match Address.read? host with
  | none => (.error (.invalidHost host), [])
  | some address =>
    let (router, ws) := Http.Router.ofOrigins origins settings
    ((bind address port isTaken).map fun place => ⟨place, router⟩, ws)

end RowQuery.Server
