import Mathlib
import RowQuery.Json.Number

/-!
# Rounding stays in range

Rounding fails only beyond the largest number of a format. No integer of 64 bits is that large, so
every JSON number has a double nearest to it.
-/
namespace RowQuery
-- Powers are those of the core library, also where an algebra library offers its own.
attribute [local instance (high)] instPowNat

namespace Binary
variable {f : Format}

theorem exists_nearestUnits? (negative : Bool) {num den : Nat} (h : scaleOf f num den < f.top) :
    ∃ x, nearestUnits? f negative num den = some x := by
  simp only [nearestUnits?]
  split
  · rw [dif_pos (Nat.le_of_lt h)]
    exact ⟨_, rfl⟩
  · rw [dif_pos (Nat.succ_le_of_lt h)]
    exact ⟨_, rfl⟩

theorem scaleOf_lt {num bits : Nat} (pos : 0 < bits) (fits : bits ≤ f.top) (h : num < 2 ^ bits) :
    scaleOf f num 1 < f.top := by
  have := f.precision_pos
  by_cases hz : num = 0
  · simp only [scaleOf, hz, Nat.zero_div, Nat.log2_zero]
    omega
  · have hlog : num.log2 < bits := (Nat.log2_lt hz).mpr h
    simp only [scaleOf, Nat.div_one]
    omega

theorem exists_ofInt? {z : Int} {bits : Nat} (pos : 0 < bits) (fits : bits + f.unit ≤ f.top)
    (h : z.natAbs < 2 ^ bits) : ∃ x, ofInt? f z = some x := by
  refine exists_nearestUnits? _ (scaleOf_lt (Nat.add_pos_left pos f.unit) fits ?_)
  rw [Nat.pow_add]
  exact Nat.mul_lt_mul_of_pos_right h (Nat.two_pow_pos _)

end Binary

theorem Json.Number.exists_toDouble? (n : Json.Number) : ∃ x, n.toDouble? = some x := by
  cases n with
  | integer z =>
    have hz : z.value.natAbs < 2 ^ (65 : Nat) := by have := z.inRange; omega
    exact Binary.exists_ofInt? (by decide) (by decide) hz
  | real x => exact ⟨x, rfl⟩

end RowQuery
