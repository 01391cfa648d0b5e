import Mathlib
import RowQuery.Proofs.Nearest

/-!
# The shortest digits round to the number

A grid with a hit gives a decimal that the number covers, so the first such grid does. One is always
reached: a grid whose spacing is at most half the gap below the number has a point next to it, and
the count of grids goes down to such a one for every double.
-/
namespace RowQuery.Binary
-- Powers are those of the core library, also where an algebra library offers its own.
attribute [local instance (high)] instPowNat

section Grid
variable {f : Format} {x : Binary f} {exponent : Int} {digits num den : Nat}

theorem covers_of_onGrid? (h : x.onGrid? exponent = some digits) :
    x.covers (digits * (gridStep f exponent).1) (gridStep f exponent).2 := by
  simp only [onGrid?] at h
  split at h
  · next hboth =>
    obtain ⟨hbelow, habove⟩ := Bool.and_eq_true_iff.mp hboth
    split at h
    · cases h
      exact hbelow
    · cases h
      exact habove
  · split at h
    · next hbelow =>
      cases h
      exact hbelow
    · split at h
      · next habove =>
        cases h
        exact habove
      · cases h

theorem covers_of_inside (low : (x.quarters - x.gapBelow) * den < num)
    (high : num < (x.quarters + x.gapAbove) * den) : x.covers num den := by
  simp only [covers]
  split
  · simp [low.le, high.le]
  · simp [low, high]

theorem exists_onGrid? (pos : 0 < (gridStep f exponent).1) (pos' : 0 < (gridStep f exponent).2)
    (nonzero : x.gapBelow ≤ x.quarters)
    (fine : (gridStep f exponent).1 ≤ x.gapBelow * (gridStep f exponent).2) :
    ∃ digits, x.onGrid? exponent = some digits := by
  simp only [onGrid?]
  generalize (gridStep f exponent).1 = num at *
  generalize (gridStep f exponent).2 = den at *
  have hsplit := Nat.div_add_mod' (x.quarters * den) num
  have hrest := Nat.mod_lt (x.quarters * den) pos
  have hle : x.gapBelow * den ≤ x.quarters * den := Nat.mul_le_mul_right den nonzero
  have habove : 0 < x.gapAbove * den := Nat.mul_pos (by simp [gapAbove]) pos'
  have hbelow : x.covers (x.quarters * den / num * num) den := by
    refine covers_of_inside ?_ ?_
    · rw [Nat.sub_mul]
      omega
    · rw [Nat.add_mul]
      omega
  rw [hbelow]
  cases x.covers ((x.quarters * den / num + 1) * num) den <;> simp

theorem onGrid?_of_shortestFrom {finer : Nat} {finest : Int} (reached : exponent - finer < finest)
    (le : finest ≤ exponent) (hit : ∃ digits, x.onGrid? finest = some digits) :
    x.onGrid? (x.shortestFrom exponent finer).exponent =
      some (x.shortestFrom exponent finer).digits := by
  induction finer generalizing exponent with
  | zero => omega
  | succ finer ih =>
    rw [shortestFrom]
    cases hgrid : x.onGrid? exponent with
    | some digits => exact hgrid
    | none =>
      have hne : finest ≠ exponent := by
        rintro rfl
        obtain ⟨digits, hdigits⟩ := hit
        rw [hdigits] at hgrid
        cases hgrid
      exact ih (by omega) (by omega)

end Grid

/-! ## Doubles -/

theorem ten_pow_le (e : Nat) : 10 ^ e ≤ 2 ^ (10 * e / 3 + 1) := by
  by_contra h
  have hcube : (2 ^ (10 * e / 3 + 1)) ^ 3 < (10 ^ e) ^ 3 :=
    Nat.pow_lt_pow_left (Nat.lt_of_not_le h) (by decide)
  have hten : (10 ^ e) ^ 3 ≤ 2 ^ (10 * e) := by
    calc (10 ^ e) ^ 3 = (10 ^ 3) ^ e := by rw [← Nat.pow_mul, ← Nat.pow_mul, Nat.mul_comm]
      _ ≤ (2 ^ 10) ^ e := Nat.pow_le_pow_left (by decide) e
      _ = 2 ^ (10 * e) := (Nat.pow_mul 2 10 e).symm
  rw [← Nat.pow_mul] at hcube
  have hmore : 2 ^ (10 * e) ≤ 2 ^ ((10 * e / 3 + 1) * 3) :=
    Nat.pow_le_pow_right (by decide) (by omega)
  omega

theorem le_ten_pow (e : Nat) : 2 ^ (3 * e) ≤ 10 ^ e := by
  rw [Nat.pow_mul]
  exact Nat.pow_le_pow_left (by decide) e

theorem gridStep_pos (f : Format) (exponent : Int) :
    0 < (gridStep f exponent).1 ∧ 0 < (gridStep f exponent).2 := by
  cases exponent with
  | ofNat e => exact ⟨Nat.mul_pos (Nat.pow_pos (by decide)) (Nat.two_pow_pos _), Nat.one_pos⟩
  | negSucc e => exact ⟨Nat.two_pow_pos _, Nat.pow_pos (by decide)⟩

variable {x : Double}

theorem log2_quarters_le (x : Double) : x.quarters.log2 ≤ x.scale + 54 := by
  by_cases hzero : x.quarters = 0
  · rw [hzero, Nat.log2_zero]
    exact Nat.zero_le _
  · refine Nat.le_of_lt_succ ((Nat.log2_lt hzero).mpr ?_)
    have hquarters : x.quarters = x.significand * 2 ^ (x.scale + 2) := by
      rw [quarters, magnitude, Nat.pow_add]
      ring
    have htotal : (x.scale + 54).succ = 53 + (x.scale + 2) := by omega
    rw [hquarters, htotal, Nat.pow_add 2 53]
    exact Nat.mul_lt_mul_of_pos_right x.significand_lt (Nat.two_pow_pos _)

theorem gridStep_finest_le (x : Double) : (gridStep binary64 (x.coarsest - 55)).1 ≤
    x.gapBelow * (gridStep binary64 (x.coarsest - 55)).2 := by
  have hgap : 2 ^ x.scale ≤ x.gapBelow := by
    rw [gapBelow]
    split <;> omega
  have hlog := log2_quarters_le x
  have hscale : x.scale ≤ 2045 := x.scale_le
  have hunit : binary64.unit = 1074 := rfl
  obtain ⟨finest, hfinest⟩ : ∃ e, x.coarsest - 55 = e := ⟨_, rfl⟩
  rw [hfinest]
  rw [coarsest] at hfinest
  cases finest with
  | ofNat e =>
    rw [Int.ofNat_eq_natCast] at hfinest
    have hsmall : 10 * e / 3 + 1 + (binary64.unit + 2) ≤ x.scale := by omega
    calc 10 ^ e * 2 ^ (binary64.unit + 2) ≤ 2 ^ (10 * e / 3 + 1) * 2 ^ (binary64.unit + 2) :=
          Nat.mul_le_mul_right _ (ten_pow_le e)
      _ = 2 ^ (10 * e / 3 + 1 + (binary64.unit + 2)) := (Nat.pow_add 2 _ _).symm
      _ ≤ 2 ^ x.scale := Nat.pow_le_pow_right (by decide) hsmall
      _ ≤ x.gapBelow * 1 := by rwa [Nat.mul_one]
  | negSucc e =>
    have hsmall : binary64.unit + 2 ≤ x.scale + 3 * (e + 1) := by omega
    calc 2 ^ (binary64.unit + 2) ≤ 2 ^ (x.scale + 3 * (e + 1)) :=
          Nat.pow_le_pow_right (by decide) hsmall
      _ = 2 ^ x.scale * 2 ^ (3 * (e + 1)) := Nat.pow_add 2 _ _
      _ ≤ x.gapBelow * 10 ^ (e + 1) := Nat.mul_le_mul hgap (le_ten_pow (e + 1))

theorem gapBelow_lt_quarters (h : x.isZero = false) : x.gapBelow < x.quarters := by
  have hpos : 0 < x.significand := by
    simp only [isZero, beq_eq_false_iff_ne] at h
    exact Nat.pos_of_ne_zero h
  have hunit : 2 ^ x.scale ≤ x.magnitude := Nat.le_mul_of_pos_left _ hpos
  have hscale := Nat.two_pow_pos x.scale
  have hgap := x.gapBelow_le
  rw [quarters]
  omega

theorem onGrid?_shortest (h : x.isZero = false) :
    x.onGrid? x.shortest.exponent = some x.shortest.digits := by
  have hlt := gapBelow_lt_quarters h
  obtain ⟨hpos, hpos'⟩ := gridStep_pos binary64 (x.coarsest - 55)
  have hfinest := exists_onGrid? hpos hpos' hlt.le (gridStep_finest_le x)
  have hprecision : binary64.precision + 3 = 56 := rfl
  rw [shortest, h, if_neg Bool.false_ne_true, hprecision]
  exact onGrid?_of_shortestFrom (by omega) (by omega) hfinest

theorem shortest_digits_pos (h : x.isZero = false) : 0 < x.shortest.digits := by
  obtain ⟨hlow, -, -⟩ := bounds_of_covers (covers_of_onGrid? (onGrid?_shortest h))
  have hlt := Nat.mul_lt_mul_of_pos_right (gapBelow_lt_quarters h)
    (gridStep_pos binary64 x.shortest.exponent).2
  by_contra hzero
  rw [← quarters_mul, Nat.eq_zero_of_not_pos hzero, Nat.zero_mul] at hlow
  omega

end RowQuery.Binary
