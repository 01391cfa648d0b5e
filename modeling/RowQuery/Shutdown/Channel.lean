/-!
# Watched values

A value that senders set and receivers watch. Every value sent is a new version, by which a receiver
knows whether it has looked at the latest. Nothing is sent while there is no receiver, and once the
sender is dropped the channel is closed and its value is the last.
-/
namespace RowQuery

structure Channel where
  value : Bool
  version : Nat
  shares : Nat
  receivers : Nat
deriving DecidableEq, Repr

/-- A wait for the value to be true. One that is suspended has found the value of a version false,
and looks again only at a later version. -/
inductive Wait
  | created
  | suspended (seen : Nat)
  | ended
deriving DecidableEq, Repr

namespace Wait

def isEnded : Wait → Bool
  | .ended => true
  | _ => false

@[simp] theorem isEnded_created : created.isEnded = false := rfl

@[simp] theorem isEnded_suspended (seen : Nat) : (suspended seen).isEnded = false := rfl

@[simp] theorem isEnded_ended : ended.isEnded = true := rfl

end Wait

namespace Channel

def initial : Channel := ⟨false, 0, 1, 1⟩

def isClosed (c : Channel) : Bool := c.shares == 0

def send? (c : Channel) (value : Bool) : Option Channel :=
  if c.receivers = 0 then none else some { c with value, version := c.version + 1 }

def share (c : Channel) : Channel := { c with shares := c.shares + 1 }

def unshare (c : Channel) : Channel := { c with shares := c.shares - 1 }

def subscribe (c : Channel) : Channel := { c with receivers := c.receivers + 1 }

def unsubscribe (c : Channel) : Channel := { c with receivers := c.receivers - 1 }

def look (c : Channel) : Wait :=
  if c.value || c.isClosed then .ended else .suspended c.version

def poll (c : Channel) : Wait → Wait
  | .created => c.look
  | .suspended seen =>
    if c.version ≠ seen then c.look
    else if c.isClosed then .ended
    else .suspended seen
  | .ended => .ended

end Channel
end RowQuery
