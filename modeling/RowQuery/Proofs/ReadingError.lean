import Mathlib
import RowQuery.Proofs.RoundingError

/-!
# How far a reading is off

A numeral is rounded once. A literal is read in steps that are each rounded, from the digits that
fit 64 bits: seven roundings at most lie between the two readings, so they differ by at most one
part in `2 ^ 50`, and two units.
-/
namespace RowQuery
-- Powers are those of the core library, also where an algebra library offers its own.
attribute [local instance (high)] instPowNat

namespace Decimal

def size (d : Decimal) : ℚ := d.coefficient * 10 ^ d.exponent

theorem size_eq (d : Decimal) : ((d.coefficient * 10 ^ d.exponent.toNat : Nat) /
    (10 ^ (-d.exponent).toNat : Nat) : ℚ) = d.size := by
  have hpower : (10 : ℚ) ^ d.exponent = 10 ^ d.exponent.toNat / 10 ^ (-d.exponent).toNat := by
    cases d.exponent with
    | ofNat e => simp
    | negSucc e => simp [zpow_negSucc]
  rw [size, hpower, ← mul_div_assoc]
  push_cast
  rfl

theorem close_of_nearest? {d : Decimal} {x : Double}
    (h : d.nearest? Binary.binary64 = some x) :
    Binary.Close 1 Binary.halfUnit x.size d.size := by
  rw [nearest?_eq] at h
  rw [← size_eq]
  exact Binary.close_of_nearest? h (Nat.pow_pos (by decide))

theorem largest_le_of_nearest? {d : Decimal} (h : d.nearest? Binary.binary64 = none) :
    (Binary.largest Binary.binary64 d.negative).size ≤ d.size := by
  rw [nearest?_eq] at h
  rw [← size_eq]
  exact Binary.largest_le_of_nearest? h (Nat.pow_pos (by decide))

end Decimal

namespace Json.Literal
open Binary
variable {l : Literal} {coefficient : Nat} {digits : List Char}

theorem gather_split (coefficient : Nat) (digits : List Char) : ∃ taken,
    digits = taken ++ (gather coefficient digits).2 ∧
      (gather coefficient digits).1 =
        10 ^ taken.length * coefficient + Decimal.ofDigits taken := by
  induction digits generalizing coefficient with
  | nil => exact ⟨[], rfl, by simp [gather, Decimal.ofDigits]⟩
  | cons d ds ih =>
    simp only [gather]
    split
    · obtain ⟨taken, hsplit, hvalue⟩ := ih (10 * coefficient + Decimal.digitValue d)
      refine ⟨d :: taken, congrArg (d :: ·) hsplit, ?_⟩
      rw [hvalue, Decimal.ofDigits_cons, List.length_cons, Nat.pow_succ]
      ring
    · exact ⟨[], rfl, by simp [Decimal.ofDigits]⟩

theorem gather_le (fits : coefficient ≤ maxCoefficient) (digits : List Char) :
    (gather coefficient digits).1 ≤ maxCoefficient := by
  induction digits generalizing coefficient with
  | nil => exact fits
  | cons d ds ih =>
    simp only [gather]
    split
    · next hnext => exact ih hnext
    · exact fits

theorem le_gather (digit : ∀ c ∈ digits, c.isDigit = true)
    (left : (gather coefficient digits).2 ≠ []) : 10 ^ 18 ≤ (gather coefficient digits).1 := by
  induction digits generalizing coefficient with
  | nil => exact absurd rfl left
  | cons d ds ih =>
    obtain ⟨hd, hds⟩ := List.forall_mem_cons.mp digit
    have hvalue := Decimal.digitValue_le hd
    simp only [gather] at left ⊢
    split at left
    · next hnext =>
      rw [if_pos hnext]
      exact ih hds left
    · next hnext =>
      rw [if_neg hnext]
      simp only [maxCoefficient] at hnext ⊢
      omega

theorem close_of_beginning {kept rest rest' : List Char} (hrest : ∀ c ∈ rest, c.isDigit = true)
    (hrest' : ∀ c ∈ rest', c.isDigit = true) (hlength : rest.length = rest'.length)
    (long : rest' = [] ∨ 10 ^ 18 ≤ Decimal.ofDigits kept) :
    Close 1 0 (Decimal.ofDigits (kept ++ rest)) (Decimal.ofDigits (kept ++ rest')) := by
  have hlt := Decimal.ofDigits_lt hrest
  have hlt' := Decimal.ofDigits_lt hrest'
  have hfew : rest' = [] ∨ 2 ^ (53 : Nat) * 10 ^ rest'.length ≤
      10 ^ rest'.length * Decimal.ofDigits kept := by
    refine long.imp_right fun hkept => ?_
    rw [Nat.mul_comm]
    exact Nat.mul_le_mul_left _ (Nat.le_trans (by decide) hkept)
  have hnear : 2 ^ (53 : Nat) * Decimal.ofDigits (kept ++ rest) ≤
        2 ^ (53 : Nat) * Decimal.ofDigits (kept ++ rest') + Decimal.ofDigits (kept ++ rest') ∧
      2 ^ (53 : Nat) * Decimal.ofDigits (kept ++ rest') ≤
        2 ^ (53 : Nat) * Decimal.ofDigits (kept ++ rest) + Decimal.ofDigits (kept ++ rest') := by
    rw [hlength] at hlt
    rw [Decimal.ofDigits_append, Decimal.ofDigits_append, hlength]
    rcases hfew with hnone | hfew
    · rw [hnone, List.length_nil, Nat.pow_zero] at hlt hlt' ⊢
      omega
    · omega
  exact .of_relative (by exact_mod_cast hnear.1) (by exact_mod_cast hnear.2) (by positivity)
    (by positivity)

theorem mul_ten_pow (digits : List Char) (n : Nat) :
    Decimal.ofDigits digits * 10 ^ n = Decimal.ofDigits (digits ++ List.replicate n '0') := by
  rw [Decimal.ofDigits_append, Decimal.ofDigits_zeros, List.length_replicate, Nat.mul_comm,
    Nat.add_zero]

theorem isDigit_zeros (n : Nat) : ∀ c ∈ List.replicate n '0', c.isDigit = true := by
  intro c hc
  rw [List.eq_of_mem_replicate hc]
  rfl

/-- The digits that are gathered, and as many zeros as there are others, are close to all digits.
Digits behind the point can be gathered after some before it are left over; they stand among the
others then, behind more than eighteen digits. -/
theorem close_of_gather (proper : l.Proper) :
    Close 1 0 ((l.gathered.1 * 10 ^ l.dropped : Nat) : ℚ) l.decimal.coefficient := by
  obtain ⟨first, hfirst, hwhole⟩ : ∃ first, l.whole = first ++ l.beforePoint.2 ∧
      l.beforePoint.1 = 10 ^ first.length * 0 + Decimal.ofDigits first := gather_split 0 l.whole
  obtain ⟨second, hsecond, hgathered⟩ : ∃ second, l.fraction = second ++ l.gathered.2 ∧
      l.gathered.1 = 10 ^ second.length * l.beforePoint.1 + Decimal.ofDigits second :=
    gather_split l.beforePoint.1 l.fraction
  have hlong : l.beforePoint.2 ≠ [] → 10 ^ 18 ≤ l.beforePoint.1 := le_gather proper.whole
  have hlong' : l.gathered.2 ≠ [] → 10 ^ 18 ≤ l.gathered.1 := le_gather proper.fraction
  rw [Nat.mul_zero, Nat.zero_add] at hwhole
  rw [hwhole, ← Decimal.ofDigits_append] at hgathered
  have hdigits := proper.whole
  have hdigits' := proper.fraction
  rw [hfirst, List.forall_mem_append] at hdigits
  rw [hsecond, List.forall_mem_append] at hdigits'
  rw [hgathered, mul_ten_pow, dropped, decimal, hfirst, hsecond]
  by_cases hall : l.beforePoint.2 = []
  · rw [hall, List.append_nil, ← List.append_assoc, List.length_nil, Nat.zero_add]
    refine close_of_beginning (isDigit_zeros _) hdigits'.2 List.length_replicate ?_
    rw [← hgathered]
    exact Decidable.or_iff_not_imp_left.mpr hlong'
  · rw [List.append_assoc, List.append_assoc]
    refine close_of_beginning (List.forall_mem_append.mpr ⟨hdigits'.1, isDigit_zeros _⟩)
      (List.forall_mem_append.mpr ⟨hdigits.2, List.forall_mem_append.mpr hdigits'⟩) ?_ ?_
    · simp only [List.length_append, List.length_replicate]
      omega
    · rw [← hwhole]
      exact .inr (hlong hall)

theorem close_of_shift (proper : l.Proper) : Close 1 0
    (l.gathered.1 * 10 ^ (l.dropped + l.decimal.exponent) : ℚ) l.decimal.size := by
  have hpower : (0 : ℚ) ≤ 10 ^ l.decimal.exponent := by positivity
  have hproduct : (l.gathered.1 * 10 ^ (l.dropped + l.decimal.exponent) : ℚ) =
      (l.gathered.1 * 10 ^ l.dropped : Nat) * 10 ^ l.decimal.exponent := by
    rw [zpow_add₀ (by norm_num), zpow_natCast]
    push_cast
    ring
  rw [hproduct, Decimal.size]
  exact (close_of_gather proper).mul (.refl hpower)

theorem close_of_powerOfTen? {e : Nat} {y : Double} (h : powerOfTen? e = some y) :
    Close 1 0 y.size (10 ^ e) := by
  have hclose := close_of_whole h
  rwa [Nat.cast_pow, Nat.cast_ofNat] at hclose

section Steps
variable {m k e : Nat} {s a : ℚ} {x y z : Double} {negative : Bool}

theorem close_of_product (h : x.mul? y = some z) (hx : Close m 0 x.size a)
    (hy : powerOfTen? e = some y) : Close (m + 2) halfUnit z.size (a * 10 ^ e) := by
  have hsteps := (close_of_mul? h).trans (hx.mul (close_of_powerOfTen? hy))
  exact hsteps.mono (by omega) (by rw [add_zero])

theorem one_le_size (h : powerOfTen? (e + 1) = some y) : 1 ≤ y.size := by
  have hclose := (close_of_powerOfTen? h).below
  have hten : (10 : ℚ) ≤ 10 ^ (e + 1) := le_self_pow₀ (by norm_num) (Nat.succ_ne_zero e)
  rw [pow_one, add_zero, ratio] at hclose
  linarith only [hclose, hten]

theorem close_of_quotient (h : x.div? y = some z) (hx : Close m s x.size a)
    (hy : powerOfTen? (e + 1) = some y) :
    Close (m + 2) (halfUnit + s) z.size (a / 10 ^ (e + 1)) := by
  have hone := one_le_size hy
  have hten : (1 : ℚ) ≤ 10 ^ (e + 1) := one_le_pow₀ (by norm_num)
  have hsteps := (close_of_div? h (by positivity)).trans
    (hx.div (close_of_powerOfTen? hy) hone hten)
  exact hsteps.mono (by omega) le_rfl

theorem units_le_ten_pow (fits : coefficient ≤ maxCoefficient) (h : 65 + k ≤ 3 * e) :
    coefficient * (2 * 2 ^ k) ≤ 10 ^ e := by
  calc coefficient * (2 * 2 ^ k) ≤ 2 ^ 64 * (2 * 2 ^ k) :=
        Nat.mul_le_mul_right _ (Nat.le_trans fits (by decide))
    _ = 2 ^ (65 + k) := by
        rw [Nat.pow_add, Nat.pow_succ 2 64, Nat.mul_assoc]
    _ ≤ 2 ^ (3 * e) := Nat.pow_le_pow_right (by decide) h
    _ = (2 ^ 3) ^ e := Nat.pow_mul 2 3 e
    _ ≤ 10 ^ e := Nat.pow_le_pow_left (by decide) e

/-- Two powers of `10 ^ 308` take a coefficient of 64 bits below half a unit. -/
theorem close_of_zero (fits : coefficient ≤ maxCoefficient) (far : 616 < e) :
    Close 1 halfUnit (size (.zero negative)) (coefficient / 10 ^ e) := by
  have hone := one_pos
  have hzero : size (.zero negative) = 0 := by
    rw [size, magnitude, zero, Nat.zero_mul, Nat.cast_zero, zero_div]
  have hbits : coefficient * (2 * 2 ^ binary64.unit) ≤ 10 ^ e :=
    units_le_ten_pow fits (by simp only [binary64]; omega)
  have hsmall : (coefficient * (2 * one) : ℚ) ≤ 10 ^ e := by
    rw [one]
    generalize 2 ^ binary64.unit = units at hbits ⊢
    exact_mod_cast hbits
  have hhalf := halfUnit_pos
  rw [hzero]
  refine .of_absolute (by positivity) ?_ le_rfl (by positivity) hhalf.le
  rw [zero_add, halfUnit, div_div, div_le_div_iff₀ (by positivity) (by positivity), one_mul]
  exact hsmall

end Steps

theorem scale?_steps {shift : Int} {x : Double} (h : scale? coefficient shift = some x) :
    ∃ c, nearest? binary64 false coefficient 1 = some c ∧
      (coefficient = 0 ∧ x = c ∨
        (∃ (e : Nat) (y : Double), shift = e ∧ powerOfTen? e = some y ∧ c.mul? y = some x) ∨
        (∃ (e : Nat) (y : Double), shift = -(e + 1 : Nat) ∧ powerOfTen? (e + 1) = some y ∧
          c.div? y = some x) ∨
        (∃ (e : Nat) (y z y' : Double), shift = -(307 + 1 + (e + 1) : Nat) ∧
          powerOfTen? (307 + 1) = some y ∧ c.div? y = some z ∧ powerOfTen? (e + 1) = some y' ∧
          z.div? y' = some x) ∨
        ∃ e : Nat, shift = -(e : Int) ∧ 616 < e ∧ x = .zero false) := by
  rw [scale?, ofInt?_natCast, Option.bind_eq_bind, Option.bind_eq_some_iff] at h
  obtain ⟨c, hc, hscaled⟩ := h
  refine ⟨c, hc, ?_⟩
  cases shift with
  | ofNat e =>
    dsimp only at hscaled
    split at hscaled
    · split at hscaled
      · next hzero => exact .inl ⟨hzero, (Option.some.inj hscaled).symm⟩
      · cases hscaled
    · obtain ⟨y, hy, hproduct⟩ := Option.bind_eq_some_iff.mp hscaled
      exact .inr (.inl ⟨e, y, rfl, hy, hproduct⟩)
  | negSucc e =>
    dsimp only at hscaled
    split at hscaled
    · obtain ⟨y, hy, hquotient⟩ := Option.bind_eq_some_iff.mp hscaled
      exact .inr (.inr (.inl ⟨e, y, rfl, hy, hquotient⟩))
    · split at hscaled
      · obtain ⟨y, hy, hscaled⟩ := Option.bind_eq_some_iff.mp hscaled
        obtain ⟨z, hfirst, hscaled⟩ := Option.bind_eq_some_iff.mp hscaled
        obtain ⟨y', hy', hsecond⟩ := Option.bind_eq_some_iff.mp hscaled
        obtain ⟨k, rfl⟩ : ∃ k, e = 307 + (k + 1) := ⟨e - 308, by omega⟩
        rw [show 307 + (k + 1) + 1 - 308 = k + 1 by omega] at hy'
        exact .inr (.inr (.inr (.inl ⟨k, y, z, y', by omega, hy, hfirst, hy', hsecond⟩)))
      · next hfar =>
        exact .inr (.inr (.inr (.inr ⟨e + 1, rfl, by omega, (Option.some.inj hscaled).symm⟩)))

theorem close_of_scale? {shift : Int} {x : Double} (fits : coefficient ≤ maxCoefficient)
    (h : scale? coefficient shift = some x) :
    Close 5 (halfUnit + halfUnit) x.size (coefficient * 10 ^ shift) := by
  have hhalf := halfUnit_pos.le
  obtain ⟨c, hc, hsteps⟩ := scale?_steps h
  have hclose := close_of_whole hc
  obtain ⟨rfl, rfl⟩ | ⟨e, y, rfl, hy, hproduct⟩ | ⟨e, y, rfl, hy, hquotient⟩ |
    ⟨e, y, z, y', rfl, hy, hfirst, hy', hsecond⟩ | ⟨e, rfl, hfar, rfl⟩ := hsteps
  · rw [Nat.cast_zero] at hclose ⊢
    rw [zero_mul]
    exact hclose.mono (by decide) (by positivity)
  · rw [zpow_natCast]
    exact (close_of_product hproduct hclose hy).mono (by decide) (by linarith)
  · rw [zpow_neg, zpow_natCast, ← div_eq_mul_inv]
    exact (close_of_quotient hquotient hclose hy).mono (by decide) (by linarith)
  · rw [zpow_neg, zpow_natCast, ← div_eq_mul_inv, pow_add, ← div_div]
    have hbetween := close_of_quotient hfirst hclose hy
    exact (close_of_quotient hsecond hbetween hy').mono (by decide) (by linarith)
  · rw [zpow_neg, zpow_natCast, ← div_eq_mul_inv]
    exact (close_of_zero fits hfar).mono (by decide) (by linarith)

theorem negative_of_scale? {shift : Int} {x : Double} (h : scale? coefficient shift = some x) :
    x.negative = false := by
  have hten {e : Nat} {y : Double} (hy : powerOfTen? e = some y) : y.negative = false := by
    rw [powerOfTen?] at hy
    exact negative_of_nearest? hy
  obtain ⟨c, hc, hsteps⟩ := scale?_steps h
  have hsign := negative_of_nearest? hc
  obtain ⟨-, rfl⟩ | ⟨e, y, -, hy, hproduct⟩ | ⟨e, y, -, hy, hquotient⟩ |
    ⟨e, y, z, y', -, hy, hfirst, hy', hsecond⟩ | ⟨e, -, -, rfl⟩ := hsteps
  · exact hsign
  · rw [negative_of_mul? hproduct, hsign, hten hy, bne_self_eq_false]
  · rw [negative_of_div? hquotient, hsign, hten hy, bne_self_eq_false]
  · rw [negative_of_div? hsecond, negative_of_div? hfirst, hsign, hten hy, hten hy',
      bne_self_eq_false, bne_self_eq_false]
  · rfl

theorem asInteger?_of_whole? {z : Integer} (h : l.whole? = some z) : l.asInteger? = some z := by
  rw [whole?] at h
  split at h
  · next hform =>
    obtain ⟨hfraction, hexponent, hall⟩ := hform
    obtain ⟨taken, hwhole, hvalue⟩ : ∃ taken, l.whole = taken ++ l.beforePoint.2 ∧
      l.beforePoint.1 = 10 ^ taken.length * 0 + Decimal.ofDigits taken := gather_split 0 l.whole
    rw [hall, List.append_nil] at hwhole
    rw [gathered, hfraction, gather, hvalue, Nat.mul_zero, Nat.zero_add, ← hwhole] at h
    rw [asInteger?, if_pos ⟨hfraction, hexponent⟩, decimal, hfraction, List.append_nil]
    exact h
  · cases h

theorem number?_cases {n : Number} (h : l.number? = some n) :
    (∃ z, l.asInteger? = some z ∧ n = .integer z) ∨
      ∃ x, scale? l.gathered.1 (l.dropped + l.decimal.exponent) = some x ∧
        n = .real (if l.negative then x.neg else x) := by
  rw [number?_eq] at h
  cases hwhole : l.whole? with
  | some z =>
    rw [hwhole, Option.map_some, Option.some_or] at h
    exact .inl ⟨z, asInteger?_of_whole? hwhole, (Option.some.inj h).symm⟩
  | none =>
    rw [hwhole, Option.map_none, Option.none_or] at h
    obtain ⟨x, hx, hn⟩ := Option.map_eq_some_iff.mp h
    exact .inr ⟨x, hx, hn.symm⟩

theorem toDouble?_of_asInteger? {z : Integer} (h : l.asInteger? = some z) :
    (Number.integer z).toDouble? = l.decimal.nearest? binary64 := by
  rw [asInteger?] at h
  split at h
  · next hinteger =>
    have hexponent : l.decimal.exponent = 0 := by
      rw [decimal, hinteger.1, hinteger.2]
      rfl
    have hsign : l.decimal.negative = l.negative := rfl
    obtain ⟨hcoefficient, hnegative⟩ := value_of_integer? h
    rw [Number.toDouble?, ofInt?, Decimal.nearest?_eq, hexponent, hsign, hcoefficient, hnegative,
      Int.neg_zero, Int.toNat_zero, Nat.pow_zero, Nat.mul_one]
  · cases h

theorem reading_cases {n : Number} {x : Double} (proper : l.Proper) (hread : l.number? = some n)
    (hx : n.toDouble? = some x) : l.decimal.nearest? binary64 = some x ∨
      x.negative = l.negative ∧ Close 6 (halfUnit + halfUnit) x.size l.decimal.size := by
  obtain ⟨z, hz, rfl⟩ | ⟨c, hc, rfl⟩ := number?_cases hread
  · exact .inl ((toDouble?_of_asInteger? hz).symm.trans hx)
  · obtain rfl := Option.some.inj hx
    refine .inr ⟨?_, ?_⟩
    · have hpositive := negative_of_scale? hc
      cases l.negative <;> simp [neg, hpositive]
    · have hsize : (if l.negative then c.neg else c).size = c.size := by
        split <;> rfl
      have hsteps := (close_of_scale? (gather_le (gather_le (Nat.zero_le _) _) _) hc).trans
        (close_of_shift proper)
      rw [hsize]
      exact hsteps.mono le_rfl (by rw [add_zero])

/-- The double nearest to what the literal stands for, or the largest one where it is beyond. -/
def closest (l : Literal) : Double :=
  (l.decimal.nearest? binary64).getD (largest binary64 l.negative)

section Readings
variable {n : Number} {x y : Double} (proper : l.Proper) (hread : l.number? = some n)
  (hx : n.toDouble? = some x)
include proper hread hx

theorem readings_near (hy : l.decimal.nearest? binary64 = some y) :
    x.negative = y.negative ∧ x.Near y := by
  have hhalf := halfUnit_pos.le
  obtain hsame | ⟨hsign, hclose⟩ := reading_cases proper hread hx
  · obtain rfl := Option.some.inj (hsame.symm.trans hy)
    exact ⟨rfl, by simp [Near]⟩
  · have hnegative : y.negative = l.negative := by
      rw [Decimal.nearest?_eq] at hy
      exact negative_of_nearest? hy
    have hsteps := hclose.trans (Decimal.close_of_nearest? hy).symm
    exact ⟨hsign.trans hnegative.symm, near_of_close (hsign.trans hnegative.symm)
      (hsteps.mono le_rfl (by linarith))⟩

/-- Beyond the largest double there is nothing to round to, and what is read in steps all the same
is near it. -/
theorem reading_near_largest (hnone : l.decimal.nearest? binary64 = none) :
    x.negative = l.negative ∧ x.Near (largest binary64 l.negative) := by
  have hhalf := halfUnit_pos.le
  obtain hsome | ⟨hsign, hclose⟩ := reading_cases proper hread hx
  · exact nomatch hsome.symm.trans hnone
  -- No double is larger than the largest, and what was read is close to what is beyond it.
  · obtain ⟨hx, -, hslack, -, hbelow⟩ := hclose.mono (n := 7) (t := 3 * halfUnit) (by decide)
      (by linarith)
    have hbeyond := (Decimal.largest_le_of_nearest? hnone).trans hbelow
    have hwithin : x.size ≤ ratio ^ 7 * ((largest binary64 l.negative).size + 3 * halfUnit) := by
      calc x.size ≤ (largest binary64 l.negative).size + 3 * halfUnit :=
            (x.size_le_largest _).trans (by linarith)
        _ ≤ _ := le_mul_of_one_le_left (add_nonneg (size_nonneg _) hslack) (one_le_ratio_pow 7)
    exact ⟨hsign, near_of_close hsign ⟨hx, size_nonneg _, hslack, hwithin, hbeyond⟩⟩

theorem near_closest : x.negative = l.closest.negative ∧ x.Near l.closest := by
  cases hy : l.decimal.nearest? binary64 with
  | some y =>
    rw [closest, hy, Option.getD_some]
    exact readings_near proper hread hx hy
  | none =>
    rw [closest, hy, Option.getD_none]
    exact reading_near_largest proper hread hx hy

end Readings

end Json.Literal
end RowQuery
