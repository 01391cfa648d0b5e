import RowQuery.Json.Token

/-!
# The tree a JSON text spells

The tree of a text has the shape of the text and no more: numbers and strings are undecoded, names
may repeat, and there is no bound on depth. A text that breaks off still has a tree. It ends in a
`broken` leaf or in a container whose ending says why, and every container that encloses that place
says so too. So whoever walks a tree from left to right meets the faults of a text in the order in
which they stand in it, and whoever skips a subtree needs to look at its ending alone.
-/
namespace RowQuery.Json

inductive Ending
  | closed
  | cut (b : Break)
deriving DecidableEq

inductive Tree
  | null
  | bool (b : Bool)
  | number (l : Literal)
  | string (q : Quoted)
  | list (items : List Tree) (ending : Ending)
  | object (members : List (Quoted × Tree)) (ending : Ending)
  | broken (b : Break)

/-- A container whose parts are being read, nearest first; an object waits for a value. -/
inductive Frame
  | list (done : List Tree)
  | object (done : List (Quoted × Tree)) (name : Quoted)

inductive Expecting
  | value
  | listStart
  | objectStart
  | nextItem (done : List Tree)
  | nextName (done : List (Quoted × Tree))
  | colon (done : List (Quoted × Tree)) (name : Quoted)
  | separator (last : Tree)

structure Document where
  tree : Tree
  trailing : Bool

namespace Tree

def ofWord : Word → Tree
  | .null => .null
  | .true => .bool true
  | .false => .bool false

/-- Closes the open containers around a place where the text breaks off. -/
def cutOff (b : Break) (inner : Tree) : List Frame → Tree
  | [] => inner
  | .list done :: frames => cutOff b (.list (inner :: done).reverse (.cut b)) frames
  | .object done name :: frames =>
    cutOff b (.object ((name, inner) :: done).reverse (.cut b)) frames

end Tree

namespace Document

def cutOff (b : Break) (inner : Tree) (frames : List Frame) : Document :=
  ⟨Tree.cutOff b inner frames, false⟩

def brokenAt (b : Break) (frames : List Frame) : Document := cutOff b (.broken b) frames

def listCut (b : Break) (done : List Tree) (frames : List Frame) : Document :=
  cutOff b (.list done.reverse (.cut b)) frames

def objectCut (b : Break) (done : List (Quoted × Tree)) (frames : List Frame) : Document :=
  cutOff b (.object done.reverse (.cut b)) frames

def ofEnd (frames : List Frame) : Expecting → Document
  | .value => brokenAt .unfinishedValue frames
  | .listStart => listCut .unfinishedList [] frames
  | .objectStart => objectCut .unfinishedObject [] frames
  | .nextItem done => brokenAt .unfinishedValue (.list done :: frames)
  | .nextName done => objectCut .unfinishedMember done frames
  | .colon done name => brokenAt .unfinishedObject (.object done name :: frames)
  | .separator last =>
    match frames with
    | [] => ⟨last, false⟩
    | .list done :: frames => listCut .unfinishedList (last :: done) frames
    | .object done name :: frames => objectCut .unfinishedObject ((name, last) :: done) frames

end Document

inductive Move
  | go (frames : List Frame) (expecting : Expecting)
  | stop (d : Document)

namespace Move
open Document

def value (frames : List Frame) : Token → Move
  | .word w => .go frames (.separator (.ofWord w))
  | .number l => .go frames (.separator (.number l))
  | .string q =>
    match q.ending with
    | none => .go frames (.separator (.string q))
    | some b => .stop (cutOff b (.string q) frames)
  | .listOpen => .go frames .listStart
  | .objectOpen => .go frames .objectStart
  | .broken b => .stop (brokenAt b frames)
  | _ => .stop (brokenAt .expectedValue frames)

def name (frames : List Frame) (done : List (Quoted × Tree)) (q : Quoted) : Move :=
  match q.ending with
  | none => .go frames (.colon done q)
  | some b => .stop (brokenAt b (.object done q :: frames))

def separator (last : Tree) : List Frame → Token → Move
  | [], _ => .stop ⟨last, true⟩
  | .list done :: frames, .comma => .go frames (.nextItem (last :: done))
  | .list done :: frames, .listClose =>
    .go frames (.separator (.list (last :: done).reverse .closed))
  | .list done :: frames, _ => .stop (listCut .expectedListSeparator (last :: done) frames)
  | .object done q :: frames, .comma => .go frames (.nextName ((q, last) :: done))
  | .object done q :: frames, .objectClose =>
    .go frames (.separator (.object ((q, last) :: done).reverse .closed))
  | .object done q :: frames, _ =>
    .stop (objectCut .expectedObjectSeparator ((q, last) :: done) frames)

def ofToken (frames : List Frame) : Expecting → Token → Move
  | .value, token => value frames token
  | .listStart, .listClose => .go frames (.separator (.list [] .closed))
  | .listStart, token => value (.list [] :: frames) token
  | .nextItem done, .listClose => .stop (listCut .listTrailingComma done frames)
  | .nextItem done, token => value (.list done :: frames) token
  | .objectStart, .objectClose => .go frames (.separator (.object [] .closed))
  | .objectStart, .string q => name frames [] q
  | .objectStart, _ => .stop (objectCut .keyNotString [] frames)
  | .nextName done, .objectClose => .stop (objectCut .objectTrailingComma done frames)
  | .nextName done, .string q => name frames done q
  | .nextName done, _ => .stop (objectCut .keyNotString done frames)
  | .colon done q, .colon => .go (.object done q :: frames) .value
  | .colon done q, _ => .stop (brokenAt .expectedColon (.object done q :: frames))
  | .separator last, token => separator last frames token

end Move

namespace Document

def read (frames : List Frame) (expecting : Expecting) : List Token → Document
  | [] => ofEnd frames expecting
  | token :: tokens =>
    match Move.ofToken frames expecting token with
    | .go frames expecting => read frames expecting tokens
    | .stop d => d

def ofTokens (tokens : List Token) : Document := read [] .value tokens

def ofBytes (bs : List UInt8) : Document := ofTokens (Token.scan bs)

end Document
end RowQuery.Json
