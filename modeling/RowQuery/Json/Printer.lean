import RowQuery.Json.Value

/-!
# Writing JSON

The compact text of a value has no blanks, and its strings escape the quote, the backslash and the
controls below `0x20` only. The laid out text gives every item and member a line of its own,
indented by two blanks a level.
-/
namespace RowQuery.Json

def escapeChar (c : Char) : List Char :=
  match c with
  | '"' => ['\\', '"']
  | '\\' => ['\\', '\\']
  | '\x08' => ['\\', 'b']
  | '\x0c' => ['\\', 'f']
  | '\n' => ['\\', 'n']
  | '\r' => ['\\', 'r']
  | '\t' => ['\\', 't']
  | c =>
    if c.toNat < 0x20 then
      ['\\', 'u', '0', '0', Nat.digitChar (c.toNat / 16), Nat.digitChar (c.toNat % 16)]
    else [c]

def quote (s : String) : List Char := '"' :: (s.toList.flatMap escapeChar ++ ['"'])

def commaSeparated (parts : List (List Char)) : List Char := [','].intercalate parts

namespace Value

mutual

def chars : Value → List Char
  | .null => ['n', 'u', 'l', 'l']
  | .bool true => ['t', 'r', 'u', 'e']
  | .bool false => ['f', 'a', 'l', 's', 'e']
  | .number n => n.text
  | .string s => quote s
  | .list items => '[' :: (commaSeparated (itemChars [] items) ++ [']'])
  | .object members => '\x7b' :: (commaSeparated (memberChars [] members) ++ ['\x7d'])

def itemChars (done : List (List Char)) : List Value → List (List Char)
  | [] => done.reverse
  | v :: vs => itemChars (v.chars :: done) vs

def memberChars (done : List (List Char)) : List (String × Value) → List (List Char)
  | [] => done.reverse
  | m :: ms => memberChars (pairChars m :: done) ms

def pairChars : String × Value → List Char
  | (name, value) => quote name ++ ':' :: value.chars

end

def text (v : Value) : String := String.ofList v.chars

def newLine (depth : Nat) : List Char := '\n' :: List.replicate (2 * depth) ' '

def laidOut (depth : Nat) (first last : Char) (parts : List (List Char)) : List Char :=
  if parts = [] then [first, last]
  else
    let lines := parts.map (newLine (depth + 1) ++ ·)
    first :: (commaSeparated lines ++ newLine depth ++ [last])

mutual

def prettyChars (depth : Nat) : Value → List Char
  | .list items => laidOut depth '[' ']' (prettyItems depth [] items)
  | .object members => laidOut depth '\x7b' '\x7d' (prettyMembers depth [] members)
  | v => v.chars

def prettyItems (depth : Nat) (done : List (List Char)) : List Value → List (List Char)
  | [] => done.reverse
  | v :: vs => prettyItems depth (v.prettyChars (depth + 1) :: done) vs

def prettyMembers (depth : Nat) (done : List (List Char)) :
    List (String × Value) → List (List Char)
  | [] => done.reverse
  | m :: ms => prettyMembers depth (prettyPair depth m :: done) ms

def prettyPair (depth : Nat) : String × Value → List Char
  | (name, value) => quote name ++ ':' :: ' ' :: value.prettyChars (depth + 1)

end

def prettyText (v : Value) : String := String.ofList (v.prettyChars 0)

end Value
end RowQuery.Json
