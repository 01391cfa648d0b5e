import Mathlib
import RowQuery.Json.Number

/-!
# Rounding to the nearest number

What a quotient rounds to depends on its value alone, and its sign is only carried along. A finite
number is what every quotient within half a gap of it rounds to: the size of the quotient settles
the scale, and what is left is rounding to a whole number. Just below a power of two the scale is
the next finer one, and the quotient is rounded up to that power.
-/
namespace RowQuery.Binary
-- Powers are those of the core library, also where an algebra library offers its own.
attribute [local instance (high)] instPowNat

variable {f : Format} {x : Binary f} {negative : Bool} {num den num' den' k m : Nat}

theorem roundHalfEven_scaled (pos : 0 < k) :
    roundHalfEven (num * k) (den * k) = roundHalfEven num den := by
  have hless : den * k < 2 * (num % den * k) ↔ den < 2 * (num % den) := by
    rw [← Nat.mul_assoc, Nat.mul_lt_mul_right pos]
  have heq : 2 * (num % den * k) = den * k ↔ 2 * (num % den) = den := by
    rw [← Nat.mul_assoc, Nat.mul_left_inj (Nat.ne_of_gt pos)]
  simp only [roundHalfEven, Nat.mul_div_mul_right num den pos, Nat.mul_mod_mul_right, hless, heq]

theorem roundHalfEven_eq (pos : 0 < den) (low : 2 * (m * den) ≤ 2 * num + den)
    (high : 2 * num ≤ 2 * (m * den) + den)
    (inside : m % 2 = 1 → 2 * (m * den) < 2 * num + den ∧ 2 * num < 2 * (m * den) + den) :
    roundHalfEven num den = m := by
  have hsplit : num = num / den * den + num % den := by rw [Nat.mul_comm, Nat.div_add_mod]
  have hrest : num % den < den := Nat.mod_lt num pos
  simp only [roundHalfEven]
  generalize num / den = whole at *
  generalize num % den = rest at *
  rcases Nat.lt_trichotomy whole m with hless | rfl | hmore
  · -- The quotient lies below the number, so it is the whole number before it.
    have hstep : m * den = whole * den + den + (m - whole - 1) * den := by
      rw [← Nat.succ_mul, ← Nat.add_mul]
      congr 1
      omega
    have hnext : m = whole + 1 := by
      by_contra hne
      have hfar : den ≤ (m - whole - 1) * den := Nat.le_mul_of_pos_left den (by omega)
      omega
    subst hnext
    rw [Nat.succ_mul] at low high inside
    split <;> omega
  · split <;> omega
  · have hfar : (m + 1) * den ≤ whole * den := Nat.mul_le_mul_right den hmore
    rw [Nat.succ_mul] at hfar
    omega

theorem roundHalfEven_near (pos : 0 < den) :
    2 * (roundHalfEven num den * den) ≤ 2 * num + den ∧
      2 * num ≤ 2 * (roundHalfEven num den * den) + den := by
  have hsplit : num = num / den * den + num % den := by rw [Nat.mul_comm, Nat.div_add_mod]
  have hrest : num % den < den := Nat.mod_lt num pos
  simp only [roundHalfEven]
  generalize num / den = whole at *
  generalize num % den = rest at *
  split
  · rw [Nat.add_mul, Nat.one_mul]
    omega
  · omega

theorem scaleOf_scaled (pos : 0 < k) : scaleOf f (num * k) (den * k) = scaleOf f num den := by
  rw [scaleOf, Nat.mul_div_mul_right num den pos, scaleOf]

theorem scaleOf_eq (pos : 0 < den) (high : num < den * 2 ^ (f.precision + k))
    (low : k ≠ 0 → den * 2 ^ (f.precision + k - 1) ≤ num) : scaleOf f num den = k := by
  have hprecision := f.precision_pos
  have hhigh : num / den < 2 ^ (f.precision + k) := Nat.div_lt_of_lt_mul high
  by_cases hk : k = 0
  · subst hk
    by_cases hzero : num / den = 0
    · simp only [scaleOf, hzero, Nat.log2_zero]
      omega
    · have hlog := (Nat.log2_lt hzero).mpr hhigh
      simp only [scaleOf]
      omega
  · have hlow : 2 ^ (f.precision + k - 1) ≤ num / den :=
      (Nat.le_div_iff_mul_le pos).mpr (by rw [Nat.mul_comm]; exact low hk)
    have hnonzero : num / den ≠ 0 := by
      have := Nat.two_pow_pos (f.precision + k - 1)
      omega
    have hlog := (Nat.log2_lt hnonzero).mpr hhigh
    have hlog' := (Nat.le_log2 hnonzero).mpr hlow
    simp only [scaleOf]
    omega

theorem nearestUnits?_eq_some_iff : nearestUnits? f negative num den = some x ↔
    x.negative = negative ∧
      (x.scale = scaleOf f num den ∧
          x.significand = roundHalfEven num (den * 2 ^ scaleOf f num den) ∨
        x.scale = scaleOf f num den + 1 ∧ x.significand = 2 ^ (f.precision - 1) ∧
          roundHalfEven num (den * 2 ^ scaleOf f num den) = 2 ^ f.precision) := by
  have hrounded := @rounded_le f num den
  have hhalf : 2 ^ (f.precision - 1) < 2 ^ f.precision :=
    Nat.pow_lt_pow_right (by decide) (by have := f.precision_pos; omega)
  obtain ⟨sign, significand, scale, hsignificand, hnormal, hscale⟩ := x
  simp only [nearestUnits?]
  constructor
  · intro h
    split at h
    · split at h
      · cases h
        exact ⟨rfl, .inl ⟨rfl, rfl⟩⟩
      · cases h
    · split at h
      · cases h
        exact ⟨rfl, .inr ⟨rfl, rfl, by omega⟩⟩
      · cases h
  · intro h
    obtain ⟨rfl, ⟨rfl, rfl⟩ | ⟨rfl, rfl, hrounds⟩⟩ := h
    · rw [dif_pos hsignificand, dif_pos hscale]
    · rw [dif_neg (by omega), dif_pos hscale]

theorem nearestUnits?_scaled (negative : Bool) (num den : Nat) (pos : 0 < k) :
    nearestUnits? f negative (num * k) (den * k) = nearestUnits? f negative num den := by
  refine Option.ext fun x => ?_
  rw [nearestUnits?_eq_some_iff, nearestUnits?_eq_some_iff, scaleOf_scaled pos, Nat.mul_right_comm,
    roundHalfEven_scaled pos]

theorem nearestUnits?_congr (negative : Bool) (pos : 0 < den) (pos' : 0 < den')
    (h : num * den' = num' * den) :
    nearestUnits? f negative num den = nearestUnits? f negative num' den' := by
  rw [← nearestUnits?_scaled negative num den pos', h, Nat.mul_comm den,
    nearestUnits?_scaled negative num' den' pos]

theorem nearest?_congr (negative : Bool) (pos : 0 < den) (pos' : 0 < den')
    (h : num * den' = num' * den) : nearest? f negative num den = nearest? f negative num' den' :=
  nearestUnits?_congr negative pos pos' (by
    rw [Nat.mul_right_comm, h, Nat.mul_right_comm])

theorem nearestUnits?_signed (negative : Bool) (num den : Nat) :
    nearestUnits? f negative num den =
      (nearestUnits? f false num den).map fun x => if negative then x.neg else x := by
  cases negative with
  | false => simp
  | true =>
    simp only [nearestUnits?]
    split
    · split <;> rfl
    · split <;> rfl

theorem nearest?_signed (negative : Bool) (num den : Nat) : nearest? f negative num den =
    (nearest? f false num den).map fun x => if negative then x.neg else x :=
  nearestUnits?_signed negative _ den

theorem quarters_mul (x : Binary f) (den : Nat) :
    x.quarters * den = 4 * (x.significand * (den * 2 ^ x.scale)) := by
  rw [quarters, magnitude]
  ring

theorem bounds_of_covers (h : x.covers num den) :
    4 * (x.significand * (den * 2 ^ x.scale)) ≤ num + x.gapBelow * den ∧
      num ≤ 4 * (x.significand * (den * 2 ^ x.scale)) + 2 * (den * 2 ^ x.scale) ∧
      (x.significand % 2 = 1 →
        4 * (x.significand * (den * 2 ^ x.scale)) < num + x.gapBelow * den ∧
        num < 4 * (x.significand * (den * 2 ^ x.scale)) + 2 * (den * 2 ^ x.scale)) := by
  have habove : x.gapAbove * den = 2 * (den * 2 ^ x.scale) := by
    rw [gapAbove]
    ring
  simp only [covers, Nat.sub_mul, Nat.add_mul, quarters_mul, habove] at h
  split at h
  · simp only [Bool.and_eq_true, decide_eq_true_eq] at h
    omega
  · simp only [Bool.and_eq_true, decide_eq_true_eq] at h
    omega

theorem gapBelow_le (x : Binary f) : x.gapBelow ≤ 2 * 2 ^ x.scale := by
  rw [gapBelow]
  split <;> omega

theorem two_pow_precision (f : Format) : 2 ^ f.precision = 2 * 2 ^ (f.precision - 1) := by
  rw [Nat.mul_comm, ← Nat.pow_succ, Nat.succ_eq_add_one, Nat.sub_add_cancel f.precision_pos]

theorem scaleOf_quarters (pos : 0 < den) (high : num < 4 * (2 ^ f.precision * (den * 2 ^ k)))
    (low : k ≠ 0 → 4 * (2 ^ (f.precision - 1) * (den * 2 ^ k)) ≤ num) :
    scaleOf f num (4 * den) = k := by
  refine scaleOf_eq (Nat.mul_pos (by decide) pos) ?_ fun hk => ?_
  · have hnext : 4 * den * 2 ^ (f.precision + k) = 4 * (2 ^ f.precision * (den * 2 ^ k)) := by
      rw [Nat.pow_add]
      ring
    rwa [hnext]
  · have hleast : 4 * den * 2 ^ (f.precision + k - 1) =
        4 * (2 ^ (f.precision - 1) * (den * 2 ^ k)) := by
      rw [Nat.sub_add_comm f.precision_pos, Nat.pow_add]
      ring
    rw [hleast]
    exact low hk

theorem roundHalfEven_quarters (pos : 0 < den)
    (low : 4 * (m * (den * 2 ^ k)) ≤ num + 2 * (den * 2 ^ k))
    (high : num ≤ 4 * (m * (den * 2 ^ k)) + 2 * (den * 2 ^ k))
    (inside : m % 2 = 1 → 4 * (m * (den * 2 ^ k)) < num + 2 * (den * 2 ^ k) ∧
      num < 4 * (m * (den * 2 ^ k)) + 2 * (den * 2 ^ k)) :
    roundHalfEven num (4 * den * 2 ^ k) = m := by
  have hunit : 0 < den * 2 ^ k := Nat.mul_pos pos (Nat.two_pow_pos k)
  have hproduct : m * (4 * (den * 2 ^ k)) = 4 * (m * (den * 2 ^ k)) := Nat.mul_left_comm _ _ _
  rw [Nat.mul_assoc]
  refine roundHalfEven_eq (by omega) ?_ ?_ fun hodd => ?_ <;> rw [hproduct]
  · omega
  · omega
  · have := inside hodd
    omega

theorem nearestUnits?_of_same_scale (pos : 0 < den) (h : x.covers num den)
    (binade : x.scale = 0 ∨ 4 * (2 ^ (f.precision - 1) * (den * 2 ^ x.scale)) ≤ num) :
    nearestUnits? f x.negative num (4 * den) = some x := by
  obtain ⟨hlow, hhigh, hinside⟩ := bounds_of_covers h
  have hunit : 0 < den * 2 ^ x.scale := Nat.mul_pos pos (Nat.two_pow_pos _)
  have hgap : x.gapBelow * den ≤ 2 * (den * 2 ^ x.scale) := by
    calc x.gapBelow * den ≤ 2 * 2 ^ x.scale * den := Nat.mul_le_mul_right den x.gapBelow_le
      _ = 2 * (den * 2 ^ x.scale) := by ring
  have hscale : scaleOf f num (4 * den) = x.scale := by
    refine scaleOf_quarters pos ?_ binade.resolve_left
    have hsignificand : (x.significand + 1) * (den * 2 ^ x.scale) ≤
        2 ^ f.precision * (den * 2 ^ x.scale) := Nat.mul_le_mul_right _ x.significand_lt
    rw [Nat.succ_mul] at hsignificand
    omega
  refine nearestUnits?_eq_some_iff.mpr ⟨rfl, .inl ⟨hscale.symm, ?_⟩⟩
  rw [hscale]
  refine (roundHalfEven_quarters pos (by omega) hhigh fun hodd => ?_).symm
  have := hinside hodd
  omega

theorem significand_of_covers_below (h : x.covers num den) (scaled : x.scale ≠ 0)
    (below : num < 4 * (2 ^ (f.precision - 1) * (den * 2 ^ x.scale))) :
    x.significand = 2 ^ (f.precision - 1) := by
  obtain ⟨hlow, -, -⟩ := bounds_of_covers h
  by_contra hne
  have hnormal := x.normal.resolve_left scaled
  have hmore : (2 ^ (f.precision - 1) + 1) * (den * 2 ^ x.scale) ≤
      x.significand * (den * 2 ^ x.scale) := Nat.mul_le_mul_right _ (by omega)
  have hgap : x.gapBelow = 2 * 2 ^ x.scale := if_neg fun hleast => hne hleast.2
  have hhalf : x.gapBelow * den = 2 * (den * 2 ^ x.scale) := by
    rw [hgap]
    ring
  rw [Nat.succ_mul] at hmore
  omega

theorem nearestUnits?_of_finer_scale (pos : 0 < den) (h : x.covers num den) (scaled : x.scale ≠ 0)
    (below : num < 4 * (2 ^ (f.precision - 1) * (den * 2 ^ x.scale))) :
    nearestUnits? f x.negative num (4 * den) = some x := by
  obtain ⟨hlow, -, -⟩ := bounds_of_covers h
  have hsignificand := significand_of_covers_below h scaled below
  have hgap : x.gapBelow * den = den * 2 ^ x.scale := by
    rw [gapBelow, if_pos ⟨scaled, hsignificand⟩, Nat.mul_comm]
  obtain ⟨finer, hfiner⟩ := Nat.exists_eq_succ_of_ne_zero scaled
  have hunit : den * 2 ^ x.scale = 2 * (den * 2 ^ finer) := by
    rw [hfiner, Nat.pow_succ]
    ring
  have hleast : 2 ^ (f.precision - 1) * (2 * (den * 2 ^ finer)) =
      2 * (2 ^ (f.precision - 1) * (den * 2 ^ finer)) := Nat.mul_left_comm _ _ _
  rw [hgap, hsignificand, hunit, hleast] at hlow
  rw [hunit, hleast] at below
  have hpos : 0 < den * 2 ^ finer := Nat.mul_pos pos (Nat.two_pow_pos _)
  have hone : den * 2 ^ finer ≤ 2 ^ (f.precision - 1) * (den * 2 ^ finer) :=
    Nat.le_mul_of_pos_left _ (Nat.two_pow_pos _)
  have hnext : 2 ^ f.precision * (den * 2 ^ finer) =
      2 * (2 ^ (f.precision - 1) * (den * 2 ^ finer)) := by
    rw [two_pow_precision, Nat.mul_assoc]
  have heven : 2 ^ f.precision % 2 = 0 := by
    rw [two_pow_precision, Nat.mul_mod_right]
  -- Below the least significand doubles lie twice as close, and the quotient is rounded up to it.
  have hscale : scaleOf f num (4 * den) = finer :=
    scaleOf_quarters pos (by omega) fun _ => by omega
  refine nearestUnits?_eq_some_iff.mpr ⟨rfl, .inr ⟨by rw [hscale, hfiner], hsignificand, ?_⟩⟩
  rw [hscale]
  exact roundHalfEven_quarters pos (by omega) (by omega) fun hodd => by omega

theorem nearestUnits?_of_covers (pos : 0 < den) (h : x.covers num den) :
    nearestUnits? f x.negative num (4 * den) = some x := by
  by_cases hbinade : x.scale = 0 ∨ 4 * (2 ^ (f.precision - 1) * (den * 2 ^ x.scale)) ≤ num
  · exact nearestUnits?_of_same_scale pos h hbinade
  · obtain ⟨hscaled, hbelow⟩ := not_or.mp hbinade
    exact nearestUnits?_of_finer_scale pos h hscaled (Nat.lt_of_not_le hbelow)

end RowQuery.Binary
