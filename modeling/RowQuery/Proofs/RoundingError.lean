import Mathlib
import RowQuery.Proofs.ExactReading

/-!
# What roundings do to a size

One rounding to a double changes a size by a factor of at most `ratio`, or else, where the result is
small, by at most half a unit. Sizes that are the same up to some roundings can be multiplied and
divided, and their roundings add up.
-/
namespace RowQuery
-- Powers are those of the core library, also where an algebra library offers its own.
attribute [local instance (high)] instPowNat

namespace Binary
variable {f : Format} {x y z : Double} {negative : Bool} {num den : Nat}

theorem least_of_scaled (scaled : scaleOf f num den ≠ 0) :
    2 ^ f.precision * (den * 2 ^ scaleOf f num den) ≤ 2 * num := by
  have hprecision := f.precision_pos
  have hquotient : num / den ≠ 0 := by
    intro hzero
    simp only [scaleOf, hzero, Nat.log2_zero] at scaled
    omega
  have hbits : f.precision + scaleOf f num den = (num / den).log2 + 1 := by
    simp only [scaleOf] at scaled ⊢
    omega
  calc 2 ^ f.precision * (den * 2 ^ scaleOf f num den)
      = den * 2 ^ (f.precision + scaleOf f num den) := by
        rw [Nat.pow_add]
        ring
    _ = 2 * (den * 2 ^ (num / den).log2) := by
        rw [hbits, Nat.pow_succ]
        ring
    _ ≤ 2 * (den * (num / den)) :=
        Nat.mul_le_mul_left 2 (Nat.mul_le_mul_left den (Nat.log2_self_le hquotient))
    _ ≤ 2 * num := Nat.mul_le_mul_left 2 (Nat.mul_div_le num den)

theorem magnitude_near {x : Binary f} (h : nearestUnits? f negative num den = some x)
    (pos : 0 < den) :
    2 * (x.magnitude * den) ≤ 2 * num + den ∧ 2 * num ≤ 2 * (x.magnitude * den) + den ∨
      2 ^ f.precision * (x.magnitude * den) ≤ 2 ^ f.precision * num + num ∧
        2 ^ f.precision * num ≤ 2 ^ f.precision * (x.magnitude * den) + num := by
  have hunit : 0 < den * 2 ^ scaleOf f num den := Nat.mul_pos pos (Nat.two_pow_pos _)
  obtain ⟨habove, hbelow⟩ := @roundHalfEven_near num _ hunit
  have hproduct : x.magnitude * den =
      roundHalfEven num (den * 2 ^ scaleOf f num den) * (den * 2 ^ scaleOf f num den) := by
    rw [magnitude_of_nearestUnits? h]
    ring
  rw [← hproduct] at habove hbelow
  by_cases hscale : scaleOf f num den = 0
  · left
    rw [hscale, Nat.pow_zero, Nat.mul_one] at habove hbelow
    exact ⟨habove, hbelow⟩
  · right
    have hleast := least_of_scaled hscale
    have habove' := Nat.mul_le_mul_left (2 ^ f.precision) habove
    have hbelow' := Nat.mul_le_mul_left (2 ^ f.precision) hbelow
    rw [Nat.mul_add, Nat.mul_left_comm, Nat.mul_left_comm _ 2] at habove' hbelow'
    omega

def largest (f : Format) (negative : Bool) : Binary f where
  negative := negative
  significand := 2 ^ f.precision - 1
  scale := f.top
  significand_lt := Nat.sub_lt (Nat.two_pow_pos _) Nat.one_pos
  normal := .inr (Nat.le_sub_one_of_lt
    (Nat.pow_lt_pow_right (by decide) (Nat.sub_lt f.precision_pos Nat.one_pos)))
  scale_le := Nat.le_refl _

theorem magnitude_largest :
    (largest f negative).magnitude = (2 ^ f.precision - 1) * 2 ^ f.top := rfl

theorem magnitude_le_largest (x : Binary f) (negative : Bool) :
    x.magnitude ≤ (largest f negative).magnitude :=
  Nat.mul_le_mul (Nat.le_sub_one_of_lt x.significand_lt)
    (Nat.pow_le_pow_right (by decide) x.scale_le)

theorem largest_le_of_nearestUnits? (h : nearestUnits? f negative num den = none) (pos : 0 < den) :
    (largest f negative).magnitude * den ≤ num := by
  have hunit : 0 < den * 2 ^ scaleOf f num den := Nat.mul_pos pos (Nat.two_pow_pos _)
  obtain ⟨habove, -⟩ := @roundHalfEven_near num _ hunit
  obtain ⟨q, hq⟩ : ∃ q, 2 ^ f.precision = q + 1 :=
    ⟨2 ^ f.precision - 1, (Nat.sub_add_cancel (Nat.two_pow_pos _)).symm⟩
  have hlargest : (largest f negative).magnitude * den = q * (den * 2 ^ f.top) := by
    rw [magnitude_largest, hq, Nat.add_sub_cancel]
    ring
  have hscaled (k : Nat) (hk : f.top ≤ k) : q * (den * 2 ^ f.top) ≤ q * (den * 2 ^ k) :=
    Nat.mul_le_mul_left q (Nat.mul_le_mul_left den (Nat.pow_le_pow_right (by decide) hk))
  rw [hlargest]
  simp only [nearestUnits?] at h
  split at h
  · split at h
    · cases h
    -- The quotient has more bits than the largest scale leaves room for.
    · next hscale =>
      have hleast : 2 ^ f.precision * (den * 2 ^ scaleOf f num den) ≤ 2 * num :=
        least_of_scaled (by omega)
      obtain ⟨k, hk⟩ : ∃ k, scaleOf f num den = k + 1 := ⟨scaleOf f num den - 1, by omega⟩
      have hdouble : (q + 1) * (den * (2 ^ k * 2)) =
          2 * (q * (den * 2 ^ k)) + 2 * (den * 2 ^ k) := by ring
      rw [hk, Nat.pow_succ, hq, hdouble] at hleast
      have hle := hscaled k (by omega)
      omega
  · split at h
    · cases h
    -- At the largest scale it is rounded up to one bit more.
    · next hfits hscale =>
      have hle := hscaled _ (by omega : f.top ≤ scaleOf f num den)
      have hrounded : (q + 1) * (den * 2 ^ scaleOf f num den) ≤
          roundHalfEven num (den * 2 ^ scaleOf f num den) * (den * 2 ^ scaleOf f num den) :=
        Nat.mul_le_mul_right _ (by omega)
      rw [Nat.add_mul] at hrounded
      omega

section Signs
variable {x y z : Binary f}

theorem negative_of_nearest? (h : nearest? f negative num den = some x) : x.negative = negative :=
  (nearestUnits?_eq_some_iff.mp h).1

theorem negative_of_mul? (h : x.mul? y = some z) : z.negative = (x.negative != y.negative) :=
  (nearestUnits?_eq_some_iff.mp h).1

theorem negative_of_div? (h : x.div? y = some z) : z.negative = (x.negative != y.negative) :=
  (nearestUnits?_eq_some_iff.mp h).1

end Signs

/-- The factor by which one rounding changes a size at most. -/
def ratio : ℚ := 2 ^ 53 / (2 ^ 53 - 1)

theorem one_le_ratio : 1 ≤ ratio := by norm_num [ratio]

theorem one_le_ratio_pow (n : Nat) : 1 ≤ ratio ^ n := one_le_pow₀ one_le_ratio

section Sides
variable {m n : Nat} {s t a b c d : ℚ}

theorem chain_le (h : a ≤ ratio ^ m * (b + s)) (h' : b ≤ ratio ^ n * (c + t)) (hs : 0 ≤ s) :
    a ≤ ratio ^ (m + n) * (c + (s + t)) := by
  have hm := one_le_ratio_pow m
  have hslack : s ≤ ratio ^ n * s := le_mul_of_one_le_left hs (one_le_ratio_pow n)
  calc a ≤ ratio ^ m * (b + s) := h
    _ ≤ ratio ^ m * (ratio ^ n * (c + t) + ratio ^ n * s) := by gcongr
    _ = ratio ^ (m + n) * (c + (s + t)) := by ring

theorem product_le (h : a ≤ ratio ^ m * b) (h' : c ≤ ratio ^ n * d) (hb : 0 ≤ b) (hc : 0 ≤ c) :
    a * c ≤ ratio ^ (m + n) * (b * d) := by
  have hm := one_le_ratio_pow m
  calc a * c ≤ ratio ^ m * b * (ratio ^ n * d) := by gcongr
    _ = ratio ^ (m + n) * (b * d) := by ring

theorem quotient_le (h : a ≤ ratio ^ m * (b + s)) (h' : d ≤ ratio ^ n * c) (hc : 1 ≤ c) (hd : 1 ≤ d)
    (hb : 0 ≤ b) (hs : 0 ≤ s) : a / c ≤ ratio ^ (m + n) * (b / d + s) := by
  have hm := one_le_ratio_pow m
  have hpart : b + s ≤ (b / d + s) * d := by
    rw [add_mul, div_mul_cancel₀ b (by positivity)]
    gcongr
    exact le_mul_of_one_le_right hs hd
  rw [div_le_iff₀ (by positivity)]
  calc a ≤ ratio ^ m * (b + s) := h
    _ ≤ ratio ^ m * ((b / d + s) * d) := by gcongr
    _ ≤ ratio ^ m * ((b / d + s) * (ratio ^ n * c)) := by gcongr
    _ = ratio ^ (m + n) * (b / d + s) * c := by ring

end Sides

/-- The two sizes are the same up to some roundings and a slack. -/
structure Close (roundings : Nat) (slack a b : ℚ) : Prop where
  nonneg : 0 ≤ a
  nonneg' : 0 ≤ b
  slack_nonneg : 0 ≤ slack
  above : a ≤ ratio ^ roundings * (b + slack)
  below : b ≤ ratio ^ roundings * (a + slack)

namespace Close
variable {m n : Nat} {s t a b c d : ℚ}

theorem refl (ha : 0 ≤ a) : Close 0 0 a a := ⟨ha, ha, le_rfl, by simp, by simp⟩

theorem symm (h : Close m s a b) : Close m s b a :=
  ⟨h.nonneg', h.nonneg, h.slack_nonneg, h.below, h.above⟩

theorem mono (h : Close m s a b) (hmn : m ≤ n) (hst : s ≤ t) : Close n t a b := by
  obtain ⟨ha, hb, hs, habove, hbelow⟩ := h
  have hpow : ratio ^ m ≤ ratio ^ n := pow_le_pow_right₀ one_le_ratio hmn
  have hn := one_le_ratio_pow n
  exact ⟨ha, hb, hs.trans hst, habove.trans (by gcongr), hbelow.trans (by gcongr)⟩

theorem trans (h : Close m s a b) (h' : Close n t b c) : Close (m + n) (s + t) a c where
  nonneg := h.nonneg
  nonneg' := h'.nonneg'
  slack_nonneg := add_nonneg h.slack_nonneg h'.slack_nonneg
  above := chain_le h.above h'.above h.slack_nonneg
  below := by
    rw [add_comm m, add_comm s]
    exact chain_le h'.below h.below h'.slack_nonneg

theorem mul (h : Close m 0 a b) (h' : Close n 0 c d) : Close (m + n) 0 (a * c) (b * d) := by
  obtain ⟨ha, hb, -, habove, hbelow⟩ := h
  obtain ⟨hc, hd, -, habove', hbelow'⟩ := h'
  rw [add_zero] at habove hbelow habove' hbelow'
  refine ⟨by positivity, by positivity, le_rfl, ?_, ?_⟩ <;> rw [add_zero]
  · exact product_le habove habove' hb hc
  · exact product_le hbelow hbelow' ha hd

theorem div (h : Close m s a b) (h' : Close n 0 c d) (hc : 1 ≤ c) (hd : 1 ≤ d) :
    Close (m + n) s (a / c) (b / d) := by
  obtain ⟨ha, hb, hs, habove, hbelow⟩ := h
  obtain ⟨-, -, -, habove', hbelow'⟩ := h'
  rw [add_zero] at habove' hbelow'
  exact ⟨by positivity, by positivity, hs, quotient_le habove hbelow' hc hd hb hs,
    quotient_le hbelow habove' hd hc ha hs⟩

theorem of_relative (above : 2 ^ 53 * a ≤ 2 ^ 53 * b + b) (below : 2 ^ 53 * b ≤ 2 ^ 53 * a + b)
    (ha : 0 ≤ a) (hb : 0 ≤ b) : Close 1 0 a b := by
  refine ⟨ha, hb, le_rfl, ?_, ?_⟩ <;>
    rw [pow_one, add_zero, ratio, div_mul_eq_mul_div, le_div_iff₀ (by norm_num)]
  · linarith only [above, hb]
  · linarith only [below]

theorem of_absolute (above : a ≤ b + s) (below : b ≤ a + s) (ha : 0 ≤ a) (hb : 0 ≤ b)
    (hs : 0 ≤ s) : Close 1 s a b := by
  refine ⟨ha, hb, hs, ?_, ?_⟩ <;> rw [pow_one]
  · exact above.trans (le_mul_of_one_le_left (by positivity) one_le_ratio)
  · exact below.trans (le_mul_of_one_le_left (by positivity) one_le_ratio)

end Close

@[irreducible]
def one : ℚ := (2 ^ binary64.unit : Nat)

def halfUnit : ℚ := 1 / 2 / one

theorem one_pos : 0 < one := by
  rw [one]
  exact Nat.cast_pos.mpr (Nat.two_pow_pos _)

theorem halfUnit_pos : 0 < halfUnit := by
  have := one_pos
  rw [halfUnit]
  positivity

def size (x : Double) : ℚ := x.magnitude / one

theorem size_nonneg (x : Double) : 0 ≤ x.size := by
  have := one_pos
  rw [size]
  positivity

theorem size_mul_one (x : Double) : x.size * one = x.magnitude := div_mul_cancel₀ _ one_pos.ne'

theorem size_le_largest (x : Double) (negative : Bool) :
    x.size ≤ (largest binary64 negative).size := by
  have hone := one_pos
  rw [size, size]
  gcongr
  exact x.magnitude_le_largest negative

theorem close_of_nearestUnits? (h : nearestUnits? binary64 negative num den = some x)
    (pos : 0 < den) : Close 1 halfUnit x.size (num / den / one) := by
  have hone := one_pos
  have hden : (0 : ℚ) < den := by exact_mod_cast pos
  have hunits : 0 < one * den := by positivity
  obtain ⟨q, hq⟩ : ∃ q : ℚ, q = num / den / one := ⟨_, rfl⟩
  have hnum : (num : ℚ) = q * (one * den) := by
    rw [hq]
    field_simp
  have hhalf : halfUnit * (one * den) = den / 2 := by
    rw [halfUnit]
    field_simp
  have hmagnitude : (x.magnitude : ℚ) * den = x.size * (one * den) := by
    rw [← x.size_mul_one, mul_assoc]
  have hnonneg : 0 ≤ q := by
    rw [hq]
    positivity
  rw [← hq]
  -- Off by half a unit at the least scale, by a part of the quotient at all others.
  obtain ⟨habove, hbelow⟩ | ⟨habove, hbelow⟩ := magnitude_near h pos
  · have habove' : (2 * (x.magnitude * den) : ℚ) ≤ 2 * num + den := by exact_mod_cast habove
    have hbelow' : (2 * num : ℚ) ≤ 2 * (x.magnitude * den) + den := by exact_mod_cast hbelow
    rw [hnum, hmagnitude] at habove' hbelow'
    refine .of_absolute (le_of_mul_le_mul_right ?_ hunits) (le_of_mul_le_mul_right ?_ hunits)
      x.size_nonneg hnonneg halfUnit_pos.le <;> rw [add_mul, hhalf]
    · linarith only [habove']
    · linarith only [hbelow']
  · have habove' : (2 ^ 53 * (x.magnitude * den) : ℚ) ≤ 2 ^ 53 * num + num := by
      exact_mod_cast habove
    have hbelow' : (2 ^ 53 * num : ℚ) ≤ 2 ^ 53 * (x.magnitude * den) + num := by
      exact_mod_cast hbelow
    rw [hnum, hmagnitude] at habove' hbelow'
    refine Close.mono (.of_relative (le_of_mul_le_mul_right ?_ hunits)
      (le_of_mul_le_mul_right ?_ hunits) x.size_nonneg hnonneg) le_rfl halfUnit_pos.le
    · linarith only [habove']
    · linarith only [hbelow']

theorem close_of_whole_units (h : nearestUnits? binary64 negative num 1 = some x) :
    Close 1 0 x.size (num / one) := by
  have hone := one_pos
  obtain ⟨habove, hbelow⟩ | ⟨habove, hbelow⟩ := magnitude_near h Nat.one_pos
  · have hsame : x.magnitude = num := by omega
    have hnonneg := x.size_nonneg
    rw [size, hsame] at hnonneg ⊢
    exact .of_relative (by linarith only [hnonneg]) (by linarith only [hnonneg]) hnonneg hnonneg
  · rw [Nat.mul_one] at habove hbelow
    have habove' : (2 ^ 53 * x.magnitude : ℚ) ≤ 2 ^ 53 * num + num := by exact_mod_cast habove
    have hbelow' : (2 ^ 53 * num : ℚ) ≤ 2 ^ 53 * x.magnitude + num := by exact_mod_cast hbelow
    have hnum : (num : ℚ) = num / one * one := (div_mul_cancel₀ _ hone.ne').symm
    rw [← x.size_mul_one, hnum] at habove' hbelow'
    exact .of_relative (le_of_mul_le_mul_right (by linarith only [habove']) hone)
      (le_of_mul_le_mul_right (by linarith only [hbelow']) hone) x.size_nonneg (by positivity)

theorem cast_mul_units (num : Nat) : ((num * 2 ^ binary64.unit : Nat) : ℚ) = num * one := by
  rw [Nat.cast_mul, one]

theorem close_of_nearest? (h : nearest? binary64 negative num den = some x) (pos : 0 < den) :
    Close 1 halfUnit x.size (num / den) := by
  have hone := one_pos
  have hquotient : (num * one / den / one : ℚ) = num / den := by field_simp
  have hclose := close_of_nearestUnits? h pos
  rwa [cast_mul_units, hquotient] at hclose

theorem largest_le_of_nearest? (h : nearest? binary64 negative num den = none) (pos : 0 < den) :
    (largest binary64 negative).size ≤ num / den := by
  have hden : (0 : ℚ) < den := by exact_mod_cast pos
  have hbeyond := largest_le_of_nearestUnits? h pos
  rw [size, div_le_div_iff₀ one_pos hden, ← cast_mul_units]
  exact_mod_cast hbeyond

theorem close_of_whole (h : nearest? binary64 negative num 1 = some x) :
    Close 1 0 x.size num := by
  have hclose := close_of_whole_units h
  rwa [cast_mul_units, mul_div_cancel_right₀ _ one_pos.ne'] at hclose

theorem close_of_mul? (h : x.mul? y = some z) : Close 1 halfUnit z.size (x.size * y.size) := by
  have hone := one_pos
  have hproduct : ((x.magnitude * y.magnitude : Nat) / one / one : ℚ) = x.size * y.size := by
    rw [size, size, Nat.cast_mul]
    field_simp
  have hclose := close_of_nearestUnits? h (Nat.two_pow_pos _)
  rwa [← one, hproduct] at hclose

theorem close_of_div? (h : x.div? y = some z) (pos : 0 < y.size) :
    Close 1 halfUnit z.size (x.size / y.size) := by
  have hone := one_pos
  have hmagnitude : 0 < y.magnitude := by
    rw [size, div_pos_iff_of_pos_right hone] at pos
    exact_mod_cast pos
  have hquotient : (x.magnitude / y.magnitude : ℚ) = x.size / y.size := by
    rw [size, size, div_div_div_cancel_right₀ hone.ne']
  rw [← hquotient]
  exact close_of_nearest? h hmagnitude

/-- Seven roundings and three half units are one part in `2 ^ 50` and two units at most. -/
theorem magnitude_le_of_close (h : Close 7 (3 * halfUnit) x.size y.size) :
    2 ^ (50 : Nat) * x.magnitude ≤ 2 ^ (50 : Nat) * y.magnitude + y.magnitude + 2 ^ (51 : Nat) := by
  have hone := one_pos
  have hhalf : halfUnit * one = 1 / 2 := by rw [halfUnit, div_mul_cancel₀ _ hone.ne']
  have hratio : 2 ^ 50 * ratio ^ 7 ≤ 2 ^ 50 + 1 := by norm_num [ratio]
  have hunits : (x.magnitude : ℚ) ≤ ratio ^ 7 * (y.magnitude + 3 / 2) := by
    calc (x.magnitude : ℚ) = x.size * one := x.size_mul_one.symm
      _ ≤ ratio ^ 7 * (y.size + 3 * halfUnit) * one := by gcongr; exact h.above
      _ = ratio ^ 7 * (y.size * one + 3 * (halfUnit * one)) := by ring
      _ = ratio ^ 7 * (y.magnitude + 3 / 2) := by
        rw [y.size_mul_one, hhalf]
        ring
  have hbound : (2 ^ 50 * x.magnitude : ℚ) ≤ 2 ^ 50 * y.magnitude + y.magnitude + 2 ^ 51 := by
    calc (2 ^ 50 * x.magnitude : ℚ) ≤ 2 ^ 50 * (ratio ^ 7 * (y.magnitude + 3 / 2)) := by gcongr
      _ = 2 ^ 50 * ratio ^ 7 * (y.magnitude + 3 / 2) := by ring
      _ ≤ (2 ^ 50 + 1) * (y.magnitude + 3 / 2) := by gcongr
      _ ≤ 2 ^ 50 * y.magnitude + y.magnitude + 2 ^ 51 := by linarith
  exact_mod_cast hbound

/-- The numbers are apart by at most one part in `2 ^ 50` and two units. -/
def Near (x y : Double) : Prop :=
  2 ^ (50 : Nat) * (x.units - y.units).natAbs ≤ y.magnitude + 2 ^ (51 : Nat)

theorem near_of_close (hsign : x.negative = y.negative)
    (h : Close 7 (3 * halfUnit) x.size y.size) : x.Near y := by
  have habove := magnitude_le_of_close h
  have hbelow := magnitude_le_of_close h.symm
  have hdistance : (x.units - y.units).natAbs = ((x.magnitude : Int) - y.magnitude).natAbs := by
    rw [units, units, hsign]
    split <;> omega
  rw [Near, hdistance]
  omega

end Binary
end RowQuery
