import RowQuery.Binary.Basic

/-!
# Decimal numerals

A numeral is an optional sign, digits with at most one point among or beside them, and an optional
power of ten: `7`, `+5`, `.5`, `5.`, `-1E-3`. It stands for `± coefficient * 10 ^ exponent` exactly,
and `nearest?` rounds that once, so no numeral loses more than half a unit.
-/
namespace RowQuery
-- Powers are those of the core library, also where an algebra library offers its own.
attribute [local instance (high)] instPowNat

structure Decimal where
  negative : Bool
  coefficient : Nat
  exponent : Int
deriving DecidableEq, Repr

namespace Decimal

def digitValue (c : Char) : Nat := c.toNat - '0'.toNat

def ofDigits (cs : List Char) : Nat := cs.foldl (fun n c => 10 * n + digitValue c) 0

def sign : List Char → Bool × List Char
  | '-' :: cs => (true, cs)
  | '+' :: cs => (false, cs)
  | cs => (false, cs)

def readExponent? : List Char → Option Int
  | [] => some 0
  | c :: cs =>
    let (negative, digits) := sign cs
    if (c = 'e' ∨ c = 'E') ∧ digits ≠ [] ∧ digits.all Char.isDigit then
      some (if negative then -(ofDigits digits : Int) else ofDigits digits)
    else none

def read? (cs : List Char) : Option Decimal :=
  let (negative, body) := sign cs
  let whole := body.takeWhile Char.isDigit
  let rest := body.dropWhile Char.isDigit
  let (fraction, rest) :=
    match rest with
    | '.' :: after => (after.takeWhile Char.isDigit, after.dropWhile Char.isDigit)
    | _ => ([], rest)
  if whole = [] ∧ fraction = [] then none
  else (readExponent? rest).map fun exponent =>
    ⟨negative, ofDigits (whole ++ fraction), exponent - fraction.length⟩

/-- The number of the format nearest to the numeral. The two bounds only keep powers of ten small
that could not change the result: beyond the first nothing is in range, below the second all is
under half a unit. -/
def nearest? (f : Binary.Format) (d : Decimal) : Option (Binary f) :=
  if d.coefficient = 0 then some (.zero d.negative)
  else match d.exponent with
  | .ofNat e =>
    if f.top + f.precision < e then none
    else Binary.nearest? f d.negative (d.coefficient * 10 ^ e) 1
  | .negSucc e =>
    if d.coefficient.log2 + f.unit + 2 ≤ 3 * (e + 1) then some (.zero d.negative)
    else Binary.nearest? f d.negative d.coefficient (10 ^ (e + 1))

end Decimal
end RowQuery
