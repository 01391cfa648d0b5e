import RowQuery.Shutdown.Channel

/-!
# Shutting down

Handles of one signal, and waits for it. The handles share the sender of a channel, and each has a
receiver of its own; a wait has a receiver alone. So a wait ends once the signal is given, be it
before or after the wait began, or once no handle is left that could give it. A wait that has ended
is spent.
-/
namespace RowQuery

/-- Handles and waits are numbered from zero, in the order in which they came to be. -/
structure Shutdown where
  channel : Channel
  handles : List Bool
  waits : List Wait
deriving DecidableEq, Repr

namespace Shutdown

inductive Operation
  | trigger (handle : Nat)
  | clone (handle : Nat)
  | drop (handle : Nat)
  | wait (handle : Nat)
  | poll (wait : Nat)
deriving DecidableEq, Repr

inductive Answer
  | done
  | handle (n : Nat)
  | future (n : Nat)
  | pending
  | ready
  | gone
deriving DecidableEq, Repr

def initial : Shutdown := ⟨.initial, [true], []⟩

def isHandle (s : Shutdown) (i : Nat) : Bool := s.handles[i]? == some true

/-- A signal that nobody can receive is lost. -/
def signal (s : Shutdown) : Shutdown :=
  { s with channel := (s.channel.send? true).getD s.channel }

def pollWait (s : Shutdown) (i : Nat) (wait : Wait) : Shutdown × Answer :=
  let wait := s.channel.poll wait
  let channel := if wait.isEnded then s.channel.unsubscribe else s.channel
  (⟨channel, s.handles, s.waits.set i wait⟩, if wait.isEnded then .ready else .pending)

def step (s : Shutdown) : Operation → Shutdown × Answer
  | .trigger i => if s.isHandle i then (s.signal, .done) else (s, .gone)
  | .clone i =>
    if s.isHandle i then
      (⟨s.channel.share.subscribe, s.handles ++ [true], s.waits⟩, .handle s.handles.length)
    else (s, .gone)
  | .drop i =>
    if s.isHandle i then
      (⟨s.channel.unshare.unsubscribe, s.handles.set i false, s.waits⟩, .done)
    else (s, .gone)
  | .wait i =>
    if s.isHandle i then
      (⟨s.channel.subscribe, s.handles, s.waits ++ [.created]⟩, .future s.waits.length)
    else (s, .gone)
  | .poll i =>
    match s.waits[i]? with
    | some wait => if wait.isEnded then (s, .gone) else s.pollWait i wait
    | none => (s, .gone)

def run (s : Shutdown) : List Operation → Shutdown × List Answer
  | [] => (s, [])
  | o :: os =>
    let (s, a) := s.step o
    let (s, as) := run s os
    (s, a :: as)

end Shutdown
end RowQuery
