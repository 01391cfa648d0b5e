import RowQuery.Text.Hex

/-!
# Symbols of a pattern

A pattern is read as symbols: characters that may have a meaning, and escapes, which mean the same
wherever they stand. An escape of a letter or digit that is not known is refused, and so is one for
a property, since no tables of properties are held.
-/
namespace RowQuery.Log

/-- A character, an escaped one, one by its number up to 255, a kind of characters (digits, blanks,
letters) or its complement, a boundary of words, or an edge of the text. -/
inductive Symbol
  | plain (c : Char)
  | escaped (c : Char)
  | octet (n : Nat)
  | kind (isNegated : Bool)
  | boundary
  | edge
deriving DecidableEq, Repr

namespace Symbol

def char? : Symbol → Option Char
  | .plain c | .escaped c => some c
  | .octet n => some (Char.ofNat n)
  | _ => none

def ofEscape? (c : Char) : Option Symbol :=
  match c with
  | 'd' | 's' | 'w' => some (.kind false)
  | 'D' | 'S' | 'W' => some (.kind true)
  | 'b' | 'B' | '<' | '>' => some .boundary
  | 'A' | 'z' => some .edge
  | 'a' => some (.escaped '\x07')
  | 'f' => some (.escaped '\x0c')
  | 't' => some (.escaped '\t')
  | 'n' => some (.escaped '\n')
  | 'r' => some (.escaped '\r')
  | 'v' => some (.escaped '\x0b')
  | c => if c.isAlphanum ∨ 128 ≤ c.toNat then none else some (.escaped c)

def ofHexDigits? (digits : List Char) : Option Symbol := do
  let n ← Text.ofHex? digits
  if n.isValidChar then some (.escaped (Char.ofNat n)) else none

def scan? : List Char → Option (List Symbol)
  | [] => some []
  | '\\' :: 'x' :: a :: b :: cs => do return .octet (← Text.ofHex? [a, b]) :: (← scan? cs)
  | '\\' :: 'u' :: a :: b :: c :: d :: cs => do
    return (← ofHexDigits? [a, b, c, d]) :: (← scan? cs)
  | '\\' :: 'U' :: a :: b :: c :: d :: e :: f :: g :: h :: cs => do
    return (← ofHexDigits? [a, b, c, d, e, f, g, h]) :: (← scan? cs)
  | '\\' :: c :: cs => do return (← ofEscape? c) :: (← scan? cs)
  | ['\\'] => none
  | c :: cs => (scan? cs).map (.plain c :: ·)

end Symbol
end RowQuery.Log
