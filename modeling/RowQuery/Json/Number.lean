import RowQuery.Binary.Shortest
import RowQuery.Decimal

/-!
# JSON numbers

A number literal is kept as its digits. An integer literal that fits 64 bits stands for itself;
every other literal stands for a double, found by `Literal.scale?` from the digits that fit 64 bits
and one power of ten. That reading is cheap and not exactly rounded. A double is written with the
fewest digits that read back to it: positional up to fifteen places, else with a power of ten.
-/
namespace RowQuery.Json
-- Powers are those of the core library, also where an algebra library offers its own.
attribute [local instance (high)] instPowNat

/-- An integer of 64 bits, signed or not. -/
structure Integer where
  value : Int
  inRange : -2 ^ (63 : Nat) ≤ value ∧ value < 2 ^ (64 : Nat)
deriving DecidableEq

/-- The digits of a number literal; no fraction and no exponent make it an integer literal. -/
structure Literal where
  negative : Bool
  whole : List Char
  fraction : List Char
  exponent : Option Int
deriving DecidableEq

inductive Number
  | integer (z : Integer)
  | real (x : Double)
deriving DecidableEq

namespace Literal

def maxCoefficient : Nat := 2 ^ (64 : Nat) - 1

/-- Appends digits to a coefficient as long as they fit; the digits from the first that does not
are left over. -/
def gather (coefficient : Nat) : List Char → Nat × List Char
  | [] => (coefficient, [])
  | d :: ds =>
    let next := 10 * coefficient + Decimal.digitValue d
    if next ≤ maxCoefficient then gather next ds else (coefficient, d :: ds)

def powerOfTen? (e : Nat) : Option Double := Binary.nearest? Binary.binary64 false (10 ^ e) 1

/-- `coefficient * 10 ^ exponent` in steps that are each rounded: to a double, then by powers up to
`10 ^ 308`. `none` beyond the largest double. Two such powers take any coefficient to zero. -/
def scale? (coefficient : Nat) (exponent : Int) : Option Double := do
  let x ← Binary.ofInt? Binary.binary64 coefficient
  match exponent with
  | .ofNat e =>
    if 308 < e then (if coefficient = 0 then some x else none)
    else x.mul? (← powerOfTen? e)
  | .negSucc e =>
    if e + 1 ≤ 308 then x.div? (← powerOfTen? (e + 1))
    else if e + 1 ≤ 616 then
      let y ← x.div? (← powerOfTen? 308)
      y.div? (← powerOfTen? (e + 1 - 308))
    else some (.zero false)

/-- The integer that an integer literal stands for, if 64 bits hold it; there is no integer `-0`. -/
def integer? (negative : Bool) (coefficient : Nat) : Option Integer :=
  let value : Int := if negative then -coefficient else coefficient
  if h : (-2 ^ (63 : Nat) ≤ value ∧ value < 2 ^ (64 : Nat)) ∧ ¬(negative ∧ coefficient = 0) then
    some ⟨value, h.1⟩
  else none

def number? (l : Literal) : Option Number :=
  let (coefficient, excess) := gather 0 l.whole
  let (coefficient, unused) := gather coefficient l.fraction
  let shift : Int := excess.length - (l.fraction.length - unused.length) + l.exponent.getD 0
  let integer :=
    if l.fraction = [] ∧ l.exponent = none ∧ excess = [] then integer? l.negative coefficient
    else none
  match integer with
  | some z => some (.integer z)
  | none => (scale? coefficient shift).map fun x => .real (if l.negative then x.neg else x)

end Literal

namespace Number

def toDouble? : Number → Option Double
  | .integer z => Binary.ofInt? Binary.binary64 z.value
  | .real x => some x

/-- Equality of values: an integer is never equal to a real, and the two real zeros are equal. -/
def same : Number → Number → Bool
  | .integer a, .integer b => a.value == b.value
  | .real x, .real y => x.same y
  | _, _ => false

def positional (digits : List Char) (point : Int) : List Char :=
  match point with
  | .ofNat 0 => '0' :: '.' :: digits
  | .ofNat n =>
    let whole := digits.take n ++ List.replicate (n - digits.length) '0'
    let fraction := digits.drop n
    whole ++ '.' :: (if fraction = [] then ['0'] else fraction)
  | .negSucc n => '0' :: '.' :: (List.replicate (n + 1) '0' ++ digits)

def scientific (digits : List Char) (power : Int) : List Char :=
  let fraction := if digits.drop 1 = [] then [] else '.' :: digits.drop 1
  let exponent := (if power < 0 then '-' else '+') :: Nat.toDigits 10 power.natAbs
  digits.take 1 ++ fraction ++ 'e' :: exponent

def realText {f : Binary.Format} (x : Binary f) : List Char :=
  let shortest := x.shortest
  let digits := Nat.toDigits 10 shortest.digits
  let power : Int := shortest.exponent + digits.length - 1
  let text :=
    if -5 ≤ power ∧ power ≤ 15 then positional digits (power + 1) else scientific digits power
  if x.negative then '-' :: text else text

def integerText (z : Int) : List Char :=
  if z < 0 then '-' :: Nat.toDigits 10 z.natAbs else Nat.toDigits 10 z.natAbs

def text : Number → List Char
  | .integer z => integerText z.value
  | .real x => realText x

end Number
end RowQuery.Json
