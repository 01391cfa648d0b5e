/-!
# Finite binary floating-point numbers

A format fixes how many bits a significand has and how small and large the powers of two in front
of it may be. A finite number of a format is a sign, a significand and a scale, and is read as a
whole number of units, the unit being the least positive number of the format. Comparison is
comparison of those whole numbers, so it is exact, and `nearest?` rounds any quotient of natural
numbers to the format, a tie going to the even significand.
-/
namespace RowQuery
-- Powers are those of the core library, also where an algebra library offers its own.
attribute [local instance (high)] instPowNat

/-- The unit of a format is `2 ^ -unit`, and its numbers are scaled by at most `2 ^ top` units. -/
structure Binary.Format where
  precision : Nat
  unit : Nat
  top : Nat
  precision_pos : 0 < precision
deriving DecidableEq

def Binary.binary64 : Binary.Format := ⟨53, 1074, 2045, by decide⟩

def Binary.binary32 : Binary.Format := ⟨24, 149, 253, by decide⟩

/-- A finite number of the format: `± significand * 2 ^ scale` units. Only numbers of the least
scale may leave the leading bit of the significand clear, so each number is written once; zero
alone has two signs. -/
structure Binary (f : Binary.Format) where
  negative : Bool
  significand : Nat
  scale : Nat
  significand_lt : significand < 2 ^ f.precision
  normal : scale = 0 ∨ 2 ^ (f.precision - 1) ≤ significand
  scale_le : scale ≤ f.top
deriving DecidableEq

abbrev Double := Binary Binary.binary64

abbrev Single := Binary Binary.binary32

namespace Binary
variable {f : Format}

def magnitude (x : Binary f) : Nat := x.significand * 2 ^ x.scale

/-- The number counted in units, with its sign. -/
def units (x : Binary f) : Int := if x.negative then -x.magnitude else x.magnitude

def neg (x : Binary f) : Binary f := { x with negative := !x.negative }

def zero (negative : Bool) : Binary f where
  negative := negative
  significand := 0
  scale := 0
  significand_lt := Nat.two_pow_pos _
  normal := .inl rfl
  scale_le := Nat.zero_le _

def isZero (x : Binary f) : Bool := x.significand == 0

def same (x y : Binary f) : Bool := x.units == y.units

def lt (x y : Binary f) : Bool := x.units < y.units

def le (x y : Binary f) : Bool := x.units ≤ y.units

@[simp] theorem units_zero (negative : Bool) : (zero negative : Binary f).units = 0 := by
  cases negative <;> simp [units, magnitude, zero]

@[simp] theorem units_neg (x : Binary f) : x.neg.units = -x.units := by
  cases h : x.negative <;> simp [units, neg, magnitude, h]

theorem same_iff {x y : Binary f} : x.same y = true ↔ x.units = y.units := by simp [same]

theorem lt_iff {x y : Binary f} : x.lt y = true ↔ x.units < y.units := by simp [lt]

theorem le_iff {x y : Binary f} : x.le y = true ↔ x.units ≤ y.units := by simp [le]

/-- The whole number nearest to `num / den`, a tie going to the even one. -/
def roundHalfEven (num den : Nat) : Nat :=
  let whole := num / den
  let twice := 2 * (num % den)
  if den < twice ∨ (twice = den ∧ whole % 2 = 1) then whole + 1 else whole

theorem div_le_roundHalfEven (num den : Nat) : num / den ≤ roundHalfEven num den := by
  simp only [roundHalfEven]; split <;> omega

theorem roundHalfEven_le (num den : Nat) : roundHalfEven num den ≤ num / den + 1 := by
  simp only [roundHalfEven]; split <;> omega

/-- The least scale at which `num / den` units need no more bits than the precision. -/
def scaleOf (f : Format) (num den : Nat) : Nat := (num / den).log2 + 1 - f.precision

theorem rounded_le {num den : Nat} :
    roundHalfEven num (den * 2 ^ scaleOf f num den) ≤ 2 ^ f.precision := by
  refine Nat.le_trans (roundHalfEven_le _ _) ?_
  rw [← Nat.div_div_eq_div_mul]
  refine Nat.div_lt_of_lt_mul (Nat.lt_of_lt_of_le Nat.lt_log2_self ?_)
  rw [← Nat.pow_add]
  exact Nat.pow_le_pow_right (by decide) (by simp only [scaleOf]; omega)

theorem le_rounded {num den : Nat} (h : scaleOf f num den ≠ 0) :
    2 ^ (f.precision - 1) ≤ roundHalfEven num (den * 2 ^ scaleOf f num den) := by
  refine Nat.le_trans ?_ (div_le_roundHalfEven _ _)
  rw [← Nat.div_div_eq_div_mul, Nat.le_div_iff_mul_le (Nat.two_pow_pos _), ← Nat.pow_add]
  have hne : num / den ≠ 0 := by
    intro hz
    have := f.precision_pos
    simp [scaleOf, hz] at h
    omega
  refine Nat.le_trans (Nat.pow_le_pow_right (by decide) ?_) (Nat.log2_self_le hne)
  have := f.precision_pos
  simp only [scaleOf] at h ⊢
  omega

/-- The number of the format nearest to `num / den` units, a tie going to the even significand;
`none` when it would lie beyond the largest number. -/
def nearestUnits? (f : Format) (negative : Bool) (num den : Nat) : Option (Binary f) :=
  let scale := scaleOf f num den
  let rounded := roundHalfEven num (den * 2 ^ scale)
  if fits : rounded < 2 ^ f.precision then
    if inRange : scale ≤ f.top then
      some ⟨negative, rounded, scale, fits,
        if h : scale = 0 then .inl h else .inr (le_rounded h), inRange⟩
    else none
  else if inRange : scale + 1 ≤ f.top then
    some ⟨negative, 2 ^ (f.precision - 1), scale + 1,
      Nat.pow_lt_pow_right (by decide) (by have := f.precision_pos; omega),
      .inr (Nat.le_refl _), inRange⟩
  else none

def nearest? (f : Format) (negative : Bool) (num den : Nat) : Option (Binary f) :=
  nearestUnits? f negative (num * 2 ^ f.unit) den

def mul? (x y : Binary f) : Option (Binary f) :=
  nearestUnits? f (x.negative != y.negative) (x.magnitude * y.magnitude) (2 ^ f.unit)

def div? (x y : Binary f) : Option (Binary f) :=
  nearest? f (x.negative != y.negative) x.magnitude y.magnitude

def ofInt? (f : Format) (z : Int) : Option (Binary f) := nearest? f (z < 0) z.natAbs 1

def round? (g : Format) (x : Binary f) : Option (Binary g) :=
  nearest? g x.negative x.magnitude (2 ^ f.unit)

end Binary
end RowQuery
