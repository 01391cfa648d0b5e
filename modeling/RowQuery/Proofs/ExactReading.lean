import Mathlib
import RowQuery.Proofs.NumberText
import RowQuery.Proofs.Rounding

/-!
# Which literals are read exactly

A literal is read by one multiplication or division of two doubles. Where both are exact that is
one rounding, and the reading is the double nearest to the numeral: the digits have to be those of
a double, and the power of ten must not go beyond `10 ^ 22`, the last that is a double itself.
Integers of 64 bits are read as they are.
-/
namespace RowQuery
-- Powers are those of the core library, also where an algebra library offers its own.
attribute [local instance (high)] instPowNat

namespace Binary
variable {f : Format} {x : Binary f} {negative : Bool} {num den m k : Nat}

theorem roundHalfEven_mul (pos : 0 < den) : roundHalfEven (m * den) den = m := by
  simp only [roundHalfEven, Nat.mul_mod_left, Nat.mul_div_cancel m pos]
  rw [if_neg (by omega)]

theorem magnitude_of_nearestUnits? (h : nearestUnits? f negative num den = some x) :
    x.magnitude = roundHalfEven num (den * 2 ^ scaleOf f num den) * 2 ^ scaleOf f num den := by
  obtain ⟨-, ⟨hscale, hsignificand⟩ | ⟨hscale, hsignificand, hrounded⟩⟩ :=
    nearestUnits?_eq_some_iff.mp h
  · rw [magnitude, hsignificand, hscale]
  · rw [magnitude, hsignificand, hscale, hrounded, Nat.pow_succ, two_pow_precision]
    ring

theorem scaleOf_le (bits : m < 2 ^ f.precision) : scaleOf f (m * 2 ^ k) 1 ≤ k := by
  have hprecision := f.precision_pos
  by_cases hzero : m * 2 ^ k = 0
  · simp only [scaleOf, hzero, Nat.zero_div, Nat.log2_zero]
    omega
  · have htotal : m * 2 ^ k < 2 ^ (f.precision + k) := by
      rw [Nat.pow_add]
      exact Nat.mul_lt_mul_of_pos_right bits (Nat.two_pow_pos k)
    have hlog := (Nat.log2_lt hzero).mpr htotal
    simp only [scaleOf, Nat.div_one]
    omega

theorem exists_exact (negative : Bool) (bits : m < 2 ^ f.precision)
    (range : scaleOf f (m * 2 ^ k) 1 < f.top) : ∃ x : Binary f,
    nearestUnits? f negative (m * 2 ^ k) 1 = some x ∧ x.negative = negative ∧
      x.magnitude = m * 2 ^ k := by
  obtain ⟨x, hx⟩ := exists_nearestUnits? negative range
  refine ⟨x, hx, (nearestUnits?_eq_some_iff.mp hx).1, ?_⟩
  have hscale := scaleOf_le (f := f) (k := k) bits
  have hmagnitude := magnitude_of_nearestUnits? hx
  generalize scaleOf f (m * 2 ^ k) 1 = scale at *
  obtain ⟨j, rfl⟩ := Nat.exists_eq_add_of_le hscale
  have hsplit : m * 2 ^ (scale + j) = m * 2 ^ j * 2 ^ scale := by
    rw [Nat.pow_add]
    ring
  rw [hmagnitude, hsplit, Nat.one_mul, roundHalfEven_mul (Nat.two_pow_pos scale)]

theorem mul?_of_magnitudes {x y : Binary f} {a b : Nat} (hx : x.magnitude = a * 2 ^ f.unit)
    (hy : y.magnitude = b * 2 ^ f.unit) :
    x.mul? y = nearest? f (x.negative != y.negative) (a * b) 1 := by
  refine nearestUnits?_congr _ (Nat.two_pow_pos _) Nat.one_pos ?_
  rw [hx, hy]
  ring

theorem div?_of_magnitudes {x y : Binary f} {a b : Nat} (pos : 0 < b)
    (hx : x.magnitude = a * 2 ^ f.unit) (hy : y.magnitude = b * 2 ^ f.unit) :
    x.div? y = nearest? f (x.negative != y.negative) a b := by
  have hden : 0 < y.magnitude := hy ▸ Nat.mul_pos pos (Nat.two_pow_pos _)
  refine nearest?_congr _ hden pos ?_
  rw [hx, hy]
  ring

end Binary

namespace Json.Literal
open Binary
variable {l : Literal} {coefficient m j e : Nat}

theorem exists_double (bits : m < 2 ^ (53 : Nat)) (size : m * 2 ^ j < 2 ^ (128 : Nat)) :
    ∃ x : Double, nearest? binary64 false (m * 2 ^ j) 1 = some x ∧ x.negative = false ∧
      x.magnitude = m * 2 ^ j * 2 ^ binary64.unit := by
  have hproduct : m * 2 ^ j * 2 ^ binary64.unit = m * 2 ^ (j + binary64.unit) := by
    rw [Nat.pow_add, Nat.mul_assoc]
  have hsize : m * 2 ^ j * 2 ^ binary64.unit < 2 ^ (128 + binary64.unit) := by
    rw [Nat.pow_add]
    exact Nat.mul_lt_mul_of_pos_right size (Nat.two_pow_pos _)
  have hrange : scaleOf binary64 (m * 2 ^ j * 2 ^ binary64.unit) 1 < binary64.top :=
    scaleOf_lt (by decide) (by decide) hsize
  rw [hproduct] at hrange
  rw [nearest?, hproduct]
  exact exists_exact false bits hrange

theorem exists_powerOfTen? (small : e ≤ 22) : ∃ y, powerOfTen? e = some y ∧ y.negative = false ∧
    y.magnitude = 10 ^ e * 2 ^ binary64.unit := by
  have hten : 10 ^ e = 5 ^ e * 2 ^ e := Nat.mul_pow 5 2 e
  have hbits : 5 ^ e < 2 ^ (53 : Nat) := by
    calc 5 ^ e ≤ 5 ^ (22 : Nat) := Nat.pow_le_pow_right (by decide) small
      _ < 2 ^ (53 : Nat) := by decide
  have hsize : 5 ^ e * 2 ^ e < 2 ^ (128 : Nat) := by
    calc 5 ^ e * 2 ^ e = 10 ^ e := hten.symm
      _ ≤ 10 ^ (22 : Nat) := Nat.pow_le_pow_right (by decide) small
      _ < 2 ^ (128 : Nat) := by decide
  rw [powerOfTen?, hten]
  exact exists_double hbits hsize

theorem ofInt?_natCast (f : Format) (n : Nat) : ofInt? f n = nearest? f false n 1 := by
  have hsign : decide ((n : Int) < 0) = false := decide_eq_false (by omega)
  rw [ofInt?, hsign, Int.natAbs_natCast]

theorem scale?_eq (bits : m < 2 ^ (53 : Nat)) (digits : coefficient = m * 2 ^ j)
    (fits : coefficient ≤ maxCoefficient) {shift : Int} (near : shift.natAbs ≤ 22) :
    scale? coefficient shift = (⟨false, coefficient, shift⟩ : Decimal).nearest? binary64 := by
  have hsize : m * 2 ^ j < 2 ^ (128 : Nat) := by
    rw [← digits]
    exact Nat.lt_of_le_of_lt fits (by decide)
  obtain ⟨x, hx, hsign, hmagnitude⟩ := exists_double bits hsize
  rw [← digits] at hx hmagnitude
  rw [Decimal.nearest?_eq, scale?, ofInt?_natCast, hx]
  -- Coefficient and power are doubles as they stand, so one rounding is left.
  cases shift with
  | ofNat e =>
    have he : e ≤ 22 := near
    obtain ⟨y, hy, hsign', hmagnitude'⟩ := exists_powerOfTen? he
    have hnear : ¬308 < e := by omega
    rw [Option.bind_eq_bind, Option.bind_some]
    dsimp only
    rw [if_neg hnear, hy, Option.bind_some, mul?_of_magnitudes hmagnitude hmagnitude', hsign,
      hsign', bne_self_eq_false, Int.ofNat_eq_natCast, Int.toNat_natCast, Int.toNat_neg_natCast,
      Nat.pow_zero]
  | negSucc e =>
    have he : e + 1 ≤ 22 := near
    obtain ⟨y, hy, hsign', hmagnitude'⟩ := exists_powerOfTen? he
    have hnear : e + 1 ≤ 308 := by omega
    rw [Option.bind_eq_bind, Option.bind_some]
    dsimp only
    rw [if_pos hnear, hy, Option.bind_some,
      div?_of_magnitudes (Nat.pow_pos (by decide)) hmagnitude hmagnitude', hsign, hsign',
      bne_self_eq_false, Int.toNat_negSucc, Nat.pow_zero, Nat.mul_one, Int.neg_negSucc,
      Int.toNat_natCast]

theorem gather_eq (digits : List Char) (coefficient : Nat)
    (fits : 10 ^ digits.length * coefficient + Decimal.ofDigits digits ≤ maxCoefficient) :
    gather coefficient digits =
      (10 ^ digits.length * coefficient + Decimal.ofDigits digits, []) := by
  induction digits generalizing coefficient with
  | nil => simp [gather, Decimal.ofDigits]
  | cons d ds ih =>
    have hvalue : 10 ^ (d :: ds).length * coefficient + Decimal.ofDigits (d :: ds) =
        10 ^ ds.length * (10 * coefficient + Decimal.digitValue d) + Decimal.ofDigits ds := by
      rw [Decimal.ofDigits_cons, List.length_cons, Nat.pow_succ]
      ring
    rw [hvalue] at fits ⊢
    have hnext : 10 * coefficient + Decimal.digitValue d ≤ maxCoefficient := by
      have := Nat.le_mul_of_pos_left (10 * coefficient + Decimal.digitValue d)
        (Nat.pow_pos (by decide : 0 < 10) : 0 < 10 ^ ds.length)
      omega
    simp only [gather]
    rw [if_pos hnext, ih _ fits]

/-- What is gathered from the digits before the point, and the digits left over. -/
def beforePoint (l : Literal) : Nat × List Char := gather 0 l.whole

def gathered (l : Literal) : Nat × List Char := gather l.beforePoint.1 l.fraction

def dropped (l : Literal) : Nat := l.beforePoint.2.length + l.gathered.2.length

def whole? (l : Literal) : Option Integer :=
  if l.fraction = [] ∧ l.exponent = none ∧ l.beforePoint.2 = [] then
    integer? l.negative l.gathered.1
  else none

theorem number?_eq (l : Literal) : l.number? = (l.whole?.map .integer).or
    ((scale? l.gathered.1 (l.dropped + l.decimal.exponent)).map fun x =>
      .real (if l.negative then x.neg else x)) := by
  have hshift : (l.beforePoint.2.length - (l.fraction.length - l.gathered.2.length) +
      l.exponent.getD 0 : Int) = l.dropped + l.decimal.exponent := by
    simp only [dropped, decimal]
    omega
  rw [← hshift]
  simp only [number?]
  split
  · next z hz =>
    have hwhole : l.whole? = some z := hz
    rw [hwhole, Option.map_some, Option.some_or]
  · next hz =>
    have hnone : l.whole? = none := hz
    rw [hnone, Option.map_none, Option.none_or, gathered, beforePoint]

/-- All digits fit 64 bits and stand for a double, and the power of ten is one that is a double. -/
structure Short (l : Literal) : Prop where
  fits : l.decimal.coefficient ≤ maxCoefficient
  double : ∃ m j, l.decimal.coefficient = m * 2 ^ j ∧ m < 2 ^ (53 : Nat)
  near : l.decimal.exponent.natAbs ≤ 22

theorem number?_of_fits (fits : l.decimal.coefficient ≤ maxCoefficient) : l.number? =
    (l.asInteger?.map .integer).or
      ((scale? l.decimal.coefficient l.decimal.exponent).map fun x =>
        .real (if l.negative then x.neg else x)) := by
  have hdigits : l.decimal.coefficient =
      10 ^ l.fraction.length * Decimal.ofDigits l.whole + Decimal.ofDigits l.fraction :=
    Decimal.ofDigits_append l.whole l.fraction
  rw [hdigits] at fits
  have hbefore : l.beforePoint = (Decimal.ofDigits l.whole, []) := by
    have hpow : 0 < 10 ^ l.fraction.length := Nat.pow_pos (by decide)
    have hle := Nat.le_mul_of_pos_left (Decimal.ofDigits l.whole) hpow
    rw [beforePoint, gather_eq _ _ (by omega), Nat.mul_zero, Nat.zero_add]
  have hgathered : l.gathered = (l.decimal.coefficient, []) := by
    rw [gathered, hbefore, gather_eq _ _ fits, hdigits]
  have hwhole : l.whole? = l.asInteger? := by
    simp only [whole?, asInteger?, hbefore, hgathered, and_true]
  have hdropped : l.dropped = 0 := by
    simp only [dropped, hbefore, hgathered, List.length_nil]
  rw [number?_eq, hwhole, hgathered, hdropped, Int.natCast_zero, Int.zero_add]

theorem value_of_integer? {negative : Bool} {z : Integer}
    (h : integer? negative coefficient = some z) :
    z.value.natAbs = coefficient ∧ decide (z.value < 0) = negative := by
  cases negative with
  | true =>
    simp only [integer?, if_true] at h
    split at h
    · next hrange =>
      obtain rfl := Option.some.inj h
      have hnonzero : coefficient ≠ 0 := fun hzero => hrange.2 ⟨trivial, hzero⟩
      simp only [Int.natAbs_neg, Int.natAbs_natCast, decide_eq_true_eq, true_and]
      omega
    · cases h
  | false =>
    simp only [integer?, Bool.false_eq_true, if_false] at h
    split at h
    · obtain rfl := Option.some.inj h
      simp only [Int.natAbs_natCast, decide_eq_false_iff_not, true_and]
      omega
    · cases h

theorem fits_of_integer? {sign : Bool} {z : Integer} (h : integer? sign coefficient = some z) :
    coefficient ≤ maxCoefficient := by
  have hsize := (value_of_integer? h).1
  have hrange := z.inRange
  simp only [maxCoefficient]
  omega

theorem fits_of_asInteger? {z : Integer} (h : l.asInteger? = some z) :
    l.decimal.coefficient ≤ maxCoefficient := by
  rw [asInteger?] at h
  split at h
  · exact fits_of_integer? h
  · cases h

theorem number?_eq_denoted? (h : l.asInteger?.isSome ∨ l.Short) : l.number? = l.denoted? := by
  rcases h with hinteger | hshort
  · obtain ⟨z, hz⟩ := Option.isSome_iff_exists.mp hinteger
    rw [number?_of_fits (fits_of_asInteger? hz), denoted?, hz, Option.map_some, Option.some_or,
      Option.some_or]
  · obtain ⟨m, j, hdigits, hbits⟩ := hshort.double
    have hsign : l.decimal.negative = l.negative := rfl
    rw [number?_of_fits hshort.fits, denoted?, scale?_eq hbits hdigits hshort.fits hshort.near,
      Decimal.nearest?_eq, Decimal.nearest?_eq, nearest?_signed l.decimal.negative, Option.map_map,
      hsign]
    rfl

end Json.Literal
end RowQuery
