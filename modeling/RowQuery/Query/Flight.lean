import RowQuery.Query

/-!
# Queries in flight

A service answers queries one after another or many at a time. At a time, each is a session: it
waits with its next request, or it is answered. In one move of the service a query arrives, or a
session that waits sends its request and receives a reply. Of the service itself a session knows
nothing but the settings.
-/
namespace RowQuery.Query
open Json Chat Generation

structure Ask where
  query : String
  records : List Value

def runAll (s : Settings) (replies : List Reply) : List Ask → List Answer
  | [] => []
  | ask :: asks =>
    let answer := run s ask.query ask.records replies
    answer :: runAll s answer.unused asks

/-- A conversation before its next request: the messages to send, the attempts left behind this one,
and what was sent and logged so far. -/
structure Waiting where
  dataset : Dataset
  messages : List Message
  left : Nat
  sent : List Request
  events : List Event

inductive Session
  | waiting (w : Waiting)
  | answered (a : Answer)

def Session.start (s : Settings) (ask : Ask) : Session :=
  match Dataset.ofRecords ask.records with
  | .error e => .answered ⟨.error (.invalidData e), [], [], []⟩
  | .ok d =>
    if d.rows.isEmpty then .answered ⟨.ok [], [], [], []⟩
    else
      let events := if s.debug then [.prompt ask.query (Prompt.system d.headers)] else []
      .waiting ⟨d, opening ask.query d.headers, s.attempts - 1, [], events⟩

namespace Waiting

def request (w : Waiting) : Request := Generation.request w.messages

def close (w : Waiting) (events : List Event) (r : Run) : Session :=
  let sent := w.sent ++ w.request :: r.requests
  .answered (answerOf w.dataset ⟨r.result, sent, w.events ++ events ++ r.events, r.unused⟩)

def receive (s : Settings) (w : Waiting) (reply : Reply) : Session :=
  match Turn.ofReply s.debug (s.attempts - w.left) reply with
  | .accept filters events => w.close events ⟨.ok filters, [], [], []⟩
  | .stop failure => w.close [] (stopped s failure [])
  | .retry more events =>
    match w.left with
    | 0 => w.close events (exhausted s [])
    | left + 1 =>
      .waiting ⟨w.dataset, w.messages ++ more, left, w.sent ++ [w.request], w.events ++ events⟩

end Waiting

/-- What happens to a service: a query arrives and gets the next number, or the session of a number
sends a request and receives a reply. -/
inductive Move
  | arrive (ask : Ask)
  | exchange (number : Nat) (request : Request) (reply : Reply)

inductive Flight (s : Settings) : List Move → List Session → Prop
  | empty : Flight s [] []
  | arrive {moves : List Move} {sessions : List Session} (ask : Ask) :
      Flight s moves sessions →
      Flight s (moves ++ [.arrive ask]) (sessions ++ [.start s ask])
  | exchange {moves : List Move} {sessions : List Session} {number : Nat} {w : Waiting}
      (reply : Reply) :
      Flight s moves sessions → sessions[number]? = some (.waiting w) →
      Flight s (moves ++ [.exchange number w.request reply])
        (sessions.set number (w.receive s reply))

namespace Move

def ask? : Move → Option Ask
  | .arrive ask => some ask
  | .exchange .. => none

def requestOf? (number : Nat) : Move → Option Request
  | .arrive _ => none
  | .exchange n request _ => if n = number then some request else none

def replyTo? (number : Nat) : Move → Option Reply
  | .arrive _ => none
  | .exchange n _ reply => if n = number then some reply else none

def asks (moves : List Move) : List Ask := moves.filterMap ask?

def requestsOf (number : Nat) (moves : List Move) : List Request :=
  moves.filterMap (requestOf? number)

def repliesTo (number : Nat) (moves : List Move) : List Reply :=
  moves.filterMap (replyTo? number)

end Move
end RowQuery.Query
