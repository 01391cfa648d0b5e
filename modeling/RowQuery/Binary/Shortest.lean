import RowQuery.Binary.Basic

/-!
# The shortest decimal that reads back

The reals that round to a finite number form an interval around it, with the end points when its
significand is even. `shortest` is the decimal in that interval that lies on the coarsest grid
`10 ^ e`, the one nearest to the number where the grid has several, a tie going to the even digits.
Everything is counted in quarters of a unit, so that the ends of the interval are whole.
-/
namespace RowQuery.Binary
-- Powers are those of the core library, also where an algebra library offers its own.
attribute [local instance (high)] instPowNat

variable {f : Format}

structure Digits where
  digits : Nat
  exponent : Int
deriving DecidableEq, Repr

def quarters (x : Binary f) : Nat := 4 * x.magnitude

/-- Half the gap to the next number up, in quarters. -/
def gapAbove (x : Binary f) : Nat := 2 * 2 ^ x.scale

/-- Half the gap to the next number down, in quarters: at the least significand of a scale the
numbers below lie twice as close. -/
def gapBelow (x : Binary f) : Nat :=
  if x.scale ≠ 0 ∧ x.significand = 2 ^ (f.precision - 1) then 2 ^ x.scale else 2 * 2 ^ x.scale

/-- Whether `num / den` quarters round to the number. -/
def covers (x : Binary f) (num den : Nat) : Bool :=
  let low := (x.quarters - x.gapBelow) * den
  let high := (x.quarters + x.gapAbove) * den
  if x.significand % 2 = 0 then low ≤ num && num ≤ high else low < num && num < high

def gridStep (f : Format) (exponent : Int) : Nat × Nat :=
  match exponent with
  | .ofNat e => (10 ^ e * 2 ^ (f.unit + 2), 1)
  | .negSucc e => (2 ^ (f.unit + 2), 10 ^ (e + 1))

def onGrid? (x : Binary f) (exponent : Int) : Option Nat :=
  let (num, den) := gridStep f exponent
  let below := x.quarters * den / num
  let rest := x.quarters * den % num
  let hitBelow := x.covers (below * num) den
  let hitAbove := x.covers ((below + 1) * num) den
  if hitBelow && hitAbove then
    some (if 2 * rest < num ∨ (2 * rest = num ∧ below % 2 = 0) then below else below + 1)
  else if hitBelow then some below
  else if hitAbove then some (below + 1)
  else none

/-- A grid at least as coarse as any that meets the interval around the number. -/
def coarsest (x : Binary f) : Int :=
  ((x.quarters.log2 : Int) - f.unit) * 30103 / 100000 + 1

def shortestFrom (x : Binary f) (exponent : Int) : Nat → Digits
  | 0 => ⟨0, 0⟩
  | finer + 1 =>
    match x.onGrid? exponent with
    | some digits => ⟨digits, exponent⟩
    | none => x.shortestFrom (exponent - 1) finer

/-- The shortest decimal that rounds to the number, its sign left aside. -/
def shortest (x : Binary f) : Digits :=
  if x.isZero then ⟨0, 0⟩ else x.shortestFrom x.coarsest (f.precision + 3)

end RowQuery.Binary
