import RowQuery.Json.Tree
import RowQuery.Json.Value

/-!
# Reading JSON values

`Tree.value` decodes a tree as a value of any form, from left to right, so the first break of the
text is the one reported. At most 127 containers may enclose each other. A name that comes again
gives its value to the first place of the name.
-/
namespace RowQuery.Json

namespace Quoted

def surrogatePair (high low : Nat) : Char :=
  Char.ofNat (0x10000 + (high - 0xD800) * 0x400 + (low - 0xDC00))

def isHigh (u : Nat) : Bool := 0xD800 ≤ u && u ≤ 0xDBFF

def isLow (u : Nat) : Bool := 0xDC00 ≤ u && u ≤ 0xDFFF

def unpaired (ending : Option Break) : List Piece → Break
  | [] =>
    match ending with
    | some .unfinishedString => .unfinishedString
    | some .badHexEscape => .badHexEscape
    | _ => .unpairedSurrogate
  | .octet _ :: _ => .unpairedSurrogate
  | .unit _ :: _ => .loneSurrogate

def octets (ending : Option Break) (done : List UInt8) : List Piece → Except Break (List UInt8)
  | [] =>
    match ending with
    | none => .ok done.reverse
    | some b => .error b
  | .octet b :: pieces => octets ending (b :: done) pieces
  | .unit u :: .unit v :: pieces =>
    if isLow u then .error .loneSurrogate
    else if isHigh u then
      if isLow v then
        octets ending ((String.utf8EncodeChar (surrogatePair u v)).reverse ++ done) pieces
      else .error .loneSurrogate
    else octets ending ((String.utf8EncodeChar (Char.ofNat u)).reverse ++ done) (.unit v :: pieces)
  | .unit u :: pieces =>
    if isLow u then .error .loneSurrogate
    else if isHigh u then .error (unpaired ending pieces)
    else octets ending ((String.utf8EncodeChar (Char.ofNat u)).reverse ++ done) pieces

def text (q : Quoted) : Except Break String := do
  let bytes ← octets q.ending [] q.pieces
  match String.fromUTF8? ⟨bytes.toArray⟩ with
  | some s => .ok s
  | none => .error .invalidText

end Quoted

def maxDepth : Nat := 127

def Literal.read (l : Literal) : Except Break Number :=
  match l.number? with
  | some n => .ok n
  | none => .error .numberOutOfRange

def Ending.check : Ending → Except Break Unit
  | .closed => .ok ()
  | .cut b => .error b

namespace Tree

mutual

/-- The value of a tree in which `room` more containers may enclose each other. -/
def valueWithin (room : Nat) : Tree → Except Break Value
  | .null => .ok .null
  | .bool b => .ok (.bool b)
  | .number l => l.read.map .number
  | .string q => q.text.map .string
  | .list items ending =>
    match room with
    | 0 => .error .tooDeep
    | room + 1 => do
      let values ← itemsWithin room [] items
      ending.check
      return .list values
  | .object members ending =>
    match room with
    | 0 => .error .tooDeep
    | room + 1 => do
      let values ← membersWithin room [] members
      ending.check
      return .object values
  | .broken b => .error b

def itemsWithin (room : Nat) (done : List Value) : List Tree → Except Break (List Value)
  | [] => .ok done.reverse
  | t :: ts =>
    match valueWithin room t with
    | .ok v => itemsWithin room (v :: done) ts
    | .error b => .error b

def membersWithin (room : Nat) (done : Members) : List (Quoted × Tree) → Except Break Members
  | [] => .ok done
  | m :: ms =>
    match memberWithin room m with
    | .ok (name, v) => membersWithin room (done.insert name v) ms
    | .error b => .error b

def memberWithin (room : Nat) : Quoted × Tree → Except Break (String × Value)
  | (q, t) =>
    match q.text with
    | .error b => .error b
    | .ok name =>
      match valueWithin room t with
      | .ok v => .ok (name, v)
      | .error b => .error b

end

def value (t : Tree) : Except Break Value := valueWithin maxDepth t

end Tree

def Document.value (d : Document) : Except Break Value := do
  let v ← d.tree.value
  if d.trailing then .error .trailingCharacters else .ok v

namespace Value

def ofBytes (bytes : ByteArray) : Except Break Value := (Document.ofBytes bytes.data.toList).value

def read (text : String) : Except Break Value := ofBytes text.toUTF8

end Value
end RowQuery.Json
