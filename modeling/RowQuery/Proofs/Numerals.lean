import Mathlib
import RowQuery.Proofs.ShortestDigits

/-!
# Numerals stand for their value

A numeral is rounded once, and by its value: the bounds that keep powers of ten small do not show,
and a point that is moved with the power of ten changes nothing. The shortest digits of a double
are a numeral that is rounded to the double.
-/
namespace RowQuery
-- Powers are those of the core library, also where an algebra library offers its own.
attribute [local instance (high)] instPowNat

namespace Binary
variable {f : Format} {num den : Nat}

theorem nearestUnits?_of_small (negative : Bool) (h : 2 * num < den) :
    nearestUnits? f negative num den = some (.zero negative) := by
  have hdiv : num / den = 0 := Nat.div_eq_of_lt (by omega)
  have hscale : scaleOf f num den = 0 := by
    have := f.precision_pos
    simp only [scaleOf, hdiv, Nat.log2_zero]
    omega
  refine nearestUnits?_eq_some_iff.mpr ⟨rfl, .inl ⟨hscale.symm, ?_⟩⟩
  rw [hscale, Nat.pow_zero, Nat.mul_one, roundHalfEven, hdiv, Nat.mod_eq_of_lt (by omega),
    if_neg (by omega)]
  rfl

theorem nearestUnits?_of_large (negative : Bool) (h : 2 ^ (f.top + f.precision) ≤ num) :
    nearestUnits? f negative num 1 = none := by
  have hpos := Nat.two_pow_pos (f.top + f.precision)
  have hlog : f.top + f.precision ≤ num.log2 := (Nat.le_log2 (by omega)).mpr h
  have hscale : f.top < scaleOf f num 1 := by
    simp only [scaleOf, Nat.div_one]
    omega
  simp only [nearestUnits?]
  split
  · rw [dif_neg (by omega)]
  · rw [dif_neg (by omega)]

end Binary

namespace Decimal
open Binary
variable {f : Format}

theorem ofDigits_eq (cs : List Char) : ofDigits cs = Nat.ofDigitChars 10 cs 0 := rfl

theorem ofDigits_append (cs ds : List Char) :
    ofDigits (cs ++ ds) = 10 ^ ds.length * ofDigits cs + ofDigits ds := by
  rw [ofDigits_eq, Nat.ofDigitChars_append, Nat.ofDigitChars_eq_ofDigitChars_zero]
  rfl

theorem digitValue_le {c : Char} (digit : c.isDigit = true) : digitValue c ≤ 9 := by
  have hrange : 48 ≤ c.toNat ∧ c.toNat ≤ 57 := Char.isDigit_iff_toNat.mp digit
  have hzero : '0'.toNat = 48 := rfl
  rw [digitValue, hzero]
  omega

theorem ofDigits_cons (d : Char) (ds : List Char) :
    ofDigits (d :: ds) = 10 ^ ds.length * digitValue d + ofDigits ds := by
  have hone : ofDigits [d] = digitValue d := by simp [ofDigits]
  rw [← hone]
  exact ofDigits_append [d] ds

theorem ofDigits_lt {digits : List Char} (digit : ∀ c ∈ digits, c.isDigit = true) :
    ofDigits digits < 10 ^ digits.length := by
  induction digits with
  | nil => decide
  | cons d ds ih =>
    obtain ⟨hd, hds⟩ := List.forall_mem_cons.mp digit
    have hrest := ih hds
    have hfirst := Nat.mul_le_mul_left (10 ^ ds.length) (digitValue_le hd)
    rw [ofDigits_cons, List.length_cons, Nat.pow_succ]
    omega

theorem ofDigits_zeros (n : Nat) : ofDigits (List.replicate n '0') = 0 := by
  rw [ofDigits_eq, Nat.ofDigitChars_replicate_zero, Nat.mul_zero]

theorem ofDigits_toDigits (n : Nat) : ofDigits (Nat.toDigits 10 n) = n :=
  Nat.ofDigitChars_ten_toDigits

/-- A numeral is rounded as the quotient it stands for, however far its power of ten goes. -/
theorem nearest?_eq (d : Decimal) : d.nearest? f = Binary.nearest? f d.negative
    (d.coefficient * 10 ^ d.exponent.toNat) (10 ^ (-d.exponent).toNat) := by
  obtain ⟨negative, coefficient, exponent⟩ := d
  by_cases hzero : coefficient = 0
  · subst hzero
    have hsmall : 2 * (0 * 10 ^ exponent.toNat * 2 ^ f.unit) < 10 ^ (-exponent).toNat := by
      rw [Nat.zero_mul, Nat.zero_mul]
      exact Nat.pow_pos (by decide)
    exact (nearestUnits?_of_small negative hsmall).symm
  -- The two bounds cut off only what rounding would find out of range, or zero.
  · simp only [nearest?, if_neg hzero]
    cases exponent with
    | ofNat e =>
      simp only
      rw [Int.ofNat_eq_natCast, Int.toNat_natCast, Int.toNat_neg_natCast, Nat.pow_zero]
      split
      · next hfar =>
        refine (nearestUnits?_of_large negative ?_).symm
        calc 2 ^ (f.top + f.precision) ≤ 2 ^ e := Nat.pow_le_pow_right (by decide) hfar.le
          _ ≤ 10 ^ e := Nat.pow_le_pow_left (by decide) e
          _ ≤ coefficient * 10 ^ e := Nat.le_mul_of_pos_left _ (Nat.pos_of_ne_zero hzero)
          _ ≤ coefficient * 10 ^ e * 2 ^ f.unit := Nat.le_mul_of_pos_right _ (Nat.two_pow_pos _)
      · rfl
    | negSucc e =>
      simp only
      split
      · next hfar =>
        refine (nearestUnits?_of_small negative ?_).symm
        have hlog : coefficient < 2 ^ (coefficient.log2 + 1) := Nat.lt_log2_self
        calc 2 * (coefficient * 10 ^ 0 * 2 ^ f.unit) = coefficient * 2 ^ (f.unit + 1) := by
              rw [Nat.pow_succ]
              ring
          _ < 2 ^ (coefficient.log2 + 1) * 2 ^ (f.unit + 1) :=
            Nat.mul_lt_mul_of_pos_right hlog (Nat.two_pow_pos _)
          _ = 2 ^ (coefficient.log2 + 1 + (f.unit + 1)) := (Nat.pow_add 2 _ _).symm
          _ ≤ 2 ^ (3 * (e + 1)) := Nat.pow_le_pow_right (by decide) (by omega)
          _ ≤ 10 ^ (e + 1) := le_ten_pow (e + 1)
      · rw [Int.toNat_negSucc, Nat.pow_zero, Nat.mul_one]
        rfl

theorem nearest?_shifted (negative : Bool) (coefficient zeros : Nat) (exponent : Int) :
    (⟨negative, coefficient * 10 ^ zeros, exponent⟩ : Decimal).nearest? f =
      (⟨negative, coefficient, exponent + zeros⟩ : Decimal).nearest? f := by
  have hten (e : Nat) : 0 < 10 ^ e := Nat.pow_pos (by decide)
  rw [nearest?_eq, nearest?_eq]
  refine nearest?_congr negative (hten _) (hten _) ?_
  have hpowers : zeros + exponent.toNat + (-(exponent + zeros)).toNat =
      (exponent + zeros).toNat + (-exponent).toNat := by omega
  rw [Nat.mul_assoc, Nat.mul_assoc, Nat.mul_assoc, ← Nat.pow_add, ← Nat.pow_add, ← Nat.pow_add,
    ← Nat.add_assoc, hpowers]

/-- The shortest digits of a double, read as a numeral, are the double. -/
theorem nearest?_shortest (x : Double) :
    (⟨x.negative, x.shortest.digits, x.shortest.exponent⟩ : Decimal).nearest? binary64 =
      some x := by
  by_cases hzero : x.isZero
  · have hsignificand : x.significand = 0 := by simpa [isZero] using hzero
    have hscale : x.scale = 0 := x.normal.resolve_right (by rw [hsignificand]; decide)
    obtain ⟨negative, significand, scale, _, _, _⟩ := x
    subst hsignificand hscale
    rfl
  · have hnonzero : x.isZero = false := by simpa using hzero
    have hcovers := covers_of_onGrid? (onGrid?_shortest hnonzero)
    obtain ⟨-, hden⟩ := gridStep_pos binary64 x.shortest.exponent
    have hten (e : Nat) : 0 < 10 ^ e := Nat.pow_pos (by decide)
    rw [nearest?_eq, ← nearestUnits?_of_covers hden hcovers, Binary.nearest?]
    refine nearestUnits?_congr x.negative (hten _) (Nat.mul_pos (by decide) hden) ?_
    cases x.shortest.exponent with
    | ofNat e =>
      simp only [gridStep]
      rw [Int.ofNat_eq_natCast, Int.toNat_natCast, Int.toNat_neg_natCast, Nat.pow_zero,
        Nat.pow_add 2]
      ring
    | negSucc e =>
      simp only [gridStep]
      rw [Int.toNat_negSucc, Int.neg_negSucc, Int.toNat_natCast, Nat.pow_add 2]
      ring

end Decimal
end RowQuery
