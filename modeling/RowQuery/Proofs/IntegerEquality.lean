import Mathlib
import RowQuery.Proofs.Conjunction
import RowQuery.Proofs.ExactReading

/-!
# Equality of integers

Numbers at the top of a cell are compared as doubles, so of an integer only its first 53 binary
digits count. Integers with no more digits than that are told apart from all others; longer ones
match some of their neighbours, at most one part in `2 ^ 52` away.
-/
namespace RowQuery
-- Powers are those of the core library, also where an algebra library offers its own.
attribute [local instance (high)] instPowNat
open Json

namespace Json.Integer
open Binary
variable {a b z : Integer}

def excess (z : Integer) : Nat := z.value.natAbs.log2 + 1 - 53

/-- The integer with its first 53 binary digits, rounded, a tie going to the even one. -/
def rounded (z : Integer) : Int :=
  z.value.sign * (roundHalfEven z.value.natAbs (2 ^ z.excess) * 2 ^ z.excess : Nat)

theorem natAbs_rounded (z : Integer) :
    z.rounded.natAbs = roundHalfEven z.value.natAbs (2 ^ z.excess) * 2 ^ z.excess := by
  rw [rounded, Int.natAbs_mul, Int.natAbs_natCast, Int.natAbs_sign]
  split
  · next h =>
    rw [h]
    simp [roundHalfEven, excess]
  · rw [Nat.one_mul]

theorem sign_mul_natAbs_rounded (z : Integer) : z.value.sign * z.rounded.natAbs = z.rounded := by
  rw [natAbs_rounded, rounded]

theorem excess_eq_zero (small : z.value.natAbs < 2 ^ (53 : Nat)) : z.excess = 0 := by
  by_cases hz : z.value.natAbs = 0
  · simp [excess, hz]
  · have := (Nat.log2_lt hz).mpr small
    simp only [excess]
    omega

theorem rounded_of_small (small : z.value.natAbs < 2 ^ (53 : Nat)) : z.rounded = z.value := by
  rw [rounded, excess_eq_zero small, Nat.pow_zero, Nat.mul_one]
  have hself : roundHalfEven z.value.natAbs 1 = z.value.natAbs := by
    simpa using roundHalfEven_mul (m := z.value.natAbs) Nat.one_pos
  rw [hself, Int.sign_mul_natAbs]

theorem le_natAbs_rounded (large : 2 ^ (53 : Nat) ≤ z.value.natAbs) :
    2 ^ (53 : Nat) ≤ z.rounded.natAbs := by
  have hz : z.value.natAbs ≠ 0 := by omega
  have hlog : 53 ≤ z.value.natAbs.log2 := (Nat.le_log2 hz).mpr large
  have hexcess : z.excess ≤ z.value.natAbs.log2 := by
    simp only [excess]
    omega
  have hquotient : 2 ^ (z.value.natAbs.log2 - z.excess) ≤ z.value.natAbs / 2 ^ z.excess := by
    rw [Nat.le_div_iff_mul_le (Nat.two_pow_pos _), ← Nat.pow_add, Nat.sub_add_cancel hexcess]
    exact Nat.log2_self_le hz
  rw [natAbs_rounded]
  calc 2 ^ (53 : Nat) ≤ 2 ^ z.value.natAbs.log2 := Nat.pow_le_pow_right (by decide) hlog
    _ = 2 ^ (z.value.natAbs.log2 - z.excess) * 2 ^ z.excess := by
      rw [← Nat.pow_add, Nat.sub_add_cancel hexcess]
    _ ≤ roundHalfEven z.value.natAbs (2 ^ z.excess) * 2 ^ z.excess :=
      Nat.mul_le_mul_right _ (Nat.le_trans hquotient (div_le_roundHalfEven _ _))

theorem rounded_near (z : Integer) :
    2 ^ (53 : Nat) * (z.rounded - z.value).natAbs ≤ z.value.natAbs := by
  by_cases small : z.value.natAbs < 2 ^ (53 : Nat)
  · rw [rounded_of_small small]
    simp
  · have hz : z.value.natAbs ≠ 0 := by omega
    have hstep : 2 ^ (52 : Nat) * 2 ^ z.excess ≤ z.value.natAbs := by
      rw [← Nat.pow_add]
      refine Nat.le_trans (Nat.pow_le_pow_right (by decide) ?_) (Nat.log2_self_le hz)
      have := (Nat.le_log2 hz).mpr (Nat.le_of_not_lt small)
      simp only [excess]
      omega
    obtain ⟨hbelow, habove⟩ : _ ∧ 2 * z.value.natAbs ≤ _ :=
      roundHalfEven_near (Nat.two_pow_pos z.excess)
    have hmoved : (z.rounded - z.value).natAbs =
        ((roundHalfEven z.value.natAbs (2 ^ z.excess) * 2 ^ z.excess : Nat) -
          (z.value.natAbs : Int)).natAbs := by
      calc (z.rounded - z.value).natAbs = (z.value.sign * ((roundHalfEven z.value.natAbs
            (2 ^ z.excess) * 2 ^ z.excess : Nat) - (z.value.natAbs : Int))).natAbs := by
            rw [Int.mul_sub, Int.sign_mul_natAbs, rounded]
        _ = _ := by
          rw [Int.natAbs_mul, Int.natAbs_sign, if_neg (by omega), Nat.one_mul]
    rw [hmoved]
    omega

theorem magnitude_of_toDouble? {x : Double} (h : (Number.integer z).toDouble? = some x) :
    x.magnitude = z.rounded.natAbs * 2 ^ binary64.unit := by
  rw [Number.toDouble?, ofInt?, nearest?] at h
  -- A short integer is a double as it stands; a longer one is rounded at its excess of digits.
  by_cases small : z.value.natAbs < 2 ^ (53 : Nat)
  · have hsize : z.value.natAbs * 2 ^ binary64.unit < 2 ^ (53 + binary64.unit) := by
      rw [Nat.pow_add]
      exact Nat.mul_lt_mul_of_pos_right small (Nat.two_pow_pos _)
    obtain ⟨y, hy, -, hmagnitude⟩ := exists_exact (f := binary64) (decide (z.value < 0)) small
      (scaleOf_lt (by decide) (by decide) hsize)
    rw [Option.some.inj (h.symm.trans hy), hmagnitude, rounded_of_small small]
  · have hz : z.value.natAbs ≠ 0 := by omega
    have hlog := (Nat.le_log2 hz).mpr (Nat.le_of_not_lt small)
    have hscale : scaleOf binary64 (z.value.natAbs * 2 ^ binary64.unit) 1 =
        z.excess + binary64.unit := by
      have hsum : binary64.precision + (z.excess + binary64.unit) =
          z.value.natAbs.log2 + 1 + binary64.unit := by
        simp only [excess, binary64]
        omega
      refine scaleOf_eq Nat.one_pos ?_ fun _ => ?_
      · rw [Nat.one_mul, hsum, Nat.pow_add]
        exact Nat.mul_lt_mul_of_pos_right Nat.lt_log2_self (Nat.two_pow_pos _)
      · rw [Nat.one_mul, hsum, Nat.add_right_comm, Nat.add_sub_cancel, Nat.pow_add]
        exact Nat.mul_le_mul_right _ (Nat.log2_self_le hz)
    rw [magnitude_of_nearestUnits? h, hscale, natAbs_rounded, Nat.pow_add, Nat.one_mul,
      roundHalfEven_scaled (Nat.two_pow_pos _), Nat.mul_assoc]

theorem units_of_toDouble? {x : Double} (h : (Number.integer z).toDouble? = some x) :
    x.units = z.rounded * 2 ^ binary64.unit := by
  have hmagnitude := magnitude_of_toDouble? h
  have hsign : x.negative = decide (z.value < 0) := by
    rw [Number.toDouble?, ofInt?, nearest?] at h
    exact (nearestUnits?_eq_some_iff.mp h).1
  have hrounded := z.sign_mul_natAbs_rounded
  rw [units, hsign, hmagnitude]
  generalize binary64.unit = unit
  conv_rhs => rw [← hrounded]
  rcases Int.lt_trichotomy z.value 0 with hneg | hzero | hpos
  · rw [Int.sign_eq_neg_one_of_neg hneg, decide_eq_true hneg, if_pos rfl]
    push_cast
    ring
  · have hnothing : z.rounded = 0 := by
      rw [← hrounded, hzero, Int.sign_zero, Int.zero_mul]
    simp [hnothing]
  · rw [Int.sign_eq_one_of_pos hpos, decide_eq_false (by omega), if_neg (by decide)]
    push_cast
    ring

theorem typedEqual_iff : (Value.number (.integer a)).TypedEqual (.number (.integer b)) ↔
    a.rounded = b.rounded := by
  have hunit : (2 : Int) ^ binary64.unit ≠ 0 := by positivity
  obtain ⟨x, hx⟩ := (Number.integer a).exists_toDouble?
  obtain ⟨y, hy⟩ := (Number.integer b).exists_toDouble?
  have hsame : x.units = y.units ↔ a.rounded = b.rounded := by
    rw [units_of_toDouble? hx, units_of_toDouble? hy, Int.mul_eq_mul_right_iff hunit]
  constructor
  · rintro ⟨ha, hb, hunits⟩
    rw [Option.some.inj (ha.symm.trans hx), Option.some.inj (hb.symm.trans hy)] at hunits
    exact hsame.mp hunits
  · intro h
    exact .number hx hy (hsame.mpr h)

theorem eq_of_value {a b : Integer} (h : a.value = b.value) : a = b := by
  cases a
  cases b
  cases h
  rfl

theorem rounded_eq_iff (small : a.value.natAbs < 2 ^ (53 : Nat) ∨ b.value.natAbs < 2 ^ (53 : Nat)) :
    a.rounded = b.rounded ↔ a = b := by
  refine ⟨fun h => eq_of_value ?_, fun h => h ▸ rfl⟩
  -- A longer integer is not rounded to a short one.
  by_cases ha : a.value.natAbs < 2 ^ (53 : Nat)
  · by_cases hb : b.value.natAbs < 2 ^ (53 : Nat)
    · rw [← rounded_of_small ha, ← rounded_of_small hb, h]
    · have hlarge := le_natAbs_rounded (Nat.le_of_not_lt hb)
      rw [← h, rounded_of_small ha] at hlarge
      exact absurd ha (Nat.not_lt.mpr hlarge)
  · have hb := small.resolve_left ha
    have hlarge := le_natAbs_rounded (Nat.le_of_not_lt ha)
    rw [h, rounded_of_small hb] at hlarge
    exact absurd hb (Nat.not_lt.mpr hlarge)

theorem near_of_rounded_eq (h : a.rounded = b.rounded) :
    2 ^ (53 : Nat) * (a.value - b.value).natAbs ≤ a.value.natAbs + b.value.natAbs := by
  have ha := a.rounded_near
  have hb := b.rounded_near
  rw [h] at ha
  omega

end Json.Integer

namespace Dataset
open Json

/-- Integers are compared by their first 53 binary digits: a condition on equality keeps the rows
whose integer is rounded as the one of the condition is. That is the integer itself when one of the
two has no more digits; and integers that match are close. -/
theorem integers_compared_rounded {d : Dataset} {header : String} {row : Members} {a : Integer}
    (known : header ∈ d.headers) (hrow : row ∈ d.rows)
    (hcell : row.lookup header = some (.number (.integer a))) (b : Integer) :
    let kept (o : Operator) : Prop :=
      row ∈ (d.apply [⟨header, o, .number (.integer b)⟩]).1.rows
    (kept .equal ↔ a.rounded = b.rounded) ∧ (kept .notEqual ↔ a.rounded ≠ b.rounded) ∧
      (a = b → kept .equal ∧ ¬kept .notEqual) ∧
      (a.value.natAbs < 2 ^ (53 : Nat) ∨ b.value.natAbs < 2 ^ (53 : Nat) →
        (kept .equal ↔ a = b) ∧ (kept .notEqual ↔ a ≠ b)) ∧
      (kept .equal →
        2 ^ (53 : Nat) * (a.value - b.value).natAbs ≤ a.value.natAbs + b.value.natAbs) := by
  intro kept
  have hholds (o : Operator) : Condition.Holds row ⟨header, o, .number (.integer b)⟩ ↔
      o.Holds (some (.number (.integer a))) (.number (.integer b)) :=
    Condition.holds_iff_of_lookup hcell nofun
  have heffective (o : Operator) (ho : o.isNumeric = false) :
      Condition.Effective d.headers ⟨header, o, .number (.integer b)⟩ :=
    ⟨known, nofun, fun h => nomatch ho.symm.trans h⟩
  have hequal : kept .equal ↔ a.rounded = b.rounded := by
    simp only [kept, mem_apply_singleton, heffective .equal rfl, hrow, true_and, true_implies,
      hholds, Operator.Holds, Option.mem_some_iff, exists_eq_left', Integer.typedEqual_iff]
  have hnotEqual : kept .notEqual ↔ a.rounded ≠ b.rounded := by
    simp only [kept, mem_apply_singleton, heffective .notEqual rfl, hrow, true_and, true_implies,
      hholds, Operator.Holds, Option.mem_some_iff, exists_eq_left', Integer.typedEqual_iff, ne_eq]
  -- All that follows is read from the rounded integers.
  refine ⟨hequal, hnotEqual, fun h => ?_, fun small => ?_, fun h => ?_⟩
  · rw [hequal, hnotEqual, h]
    exact ⟨rfl, fun hne => hne rfl⟩
  · rw [hequal, hnotEqual, ne_eq, Integer.rounded_eq_iff small]
    exact ⟨Iff.rfl, Iff.rfl⟩
  · exact Integer.near_of_rounded_eq (hequal.mp h)

theorem integers_compared_rounded_largest :
    let largest : Integer := ⟨18446744073709551615, by decide⟩
    let other : Integer := ⟨18446744073709550592, by decide⟩
    let short : Integer := ⟨9007199254740991, by decide⟩
    let neighbour : Integer := ⟨9007199254740992, by decide⟩
    let row : Members := [("id", .number (.integer largest)), ("n", .number (.integer short))]
    let d : Dataset := ⟨["id", "n"], [row]⟩
    "id" ∈ d.headers ∧ "n" ∈ d.headers ∧ row ∈ d.rows ∧
      row.lookup "id" = some (.number (.integer largest)) ∧
      row.lookup "n" = some (.number (.integer short)) ∧ short.value.natAbs < 2 ^ (53 : Nat) ∧
      row ∈ (d.apply [⟨"id", .equal, .number (.integer other)⟩]).1.rows ∧
      row ∉ (d.apply [⟨"id", .notEqual, .number (.integer other)⟩]).1.rows ∧
      row ∉ (d.apply [⟨"n", .equal, .number (.integer neighbour)⟩]).1.rows ∧
      row ∈ (d.apply [⟨"n", .notEqual, .number (.integer neighbour)⟩]).1.rows := by
  intro largest other short neighbour row d
  have hid : "id" ∈ d.headers := List.mem_cons_self
  have hn : "n" ∈ d.headers := List.mem_cons_of_mem _ List.mem_cons_self
  have hrow : row ∈ d.rows := List.mem_cons_self
  have hsmall : short.value.natAbs < 2 ^ (53 : Nat) := by decide
  have hsame : largest.rounded = other.rounded := by decide
  have hne : short ≠ neighbour := by decide
  obtain ⟨hkept, hdropped, -⟩ :=
    integers_compared_rounded (a := largest) hid hrow rfl other
  obtain ⟨-, -, -, hexact, -⟩ := integers_compared_rounded (a := short) hn hrow rfl neighbour
  obtain ⟨hkept', hdropped'⟩ := hexact (.inl hsmall)
  exact ⟨hid, hn, hrow, rfl, rfl, hsmall, hkept.mpr hsame, fun h => hdropped.mp h hsame,
    fun h => hne (hkept'.mp h), hdropped'.mpr hne⟩

/-- Beyond 53 digits two different integers match. -/
theorem integers_not_told_apart :
    let a : Integer := ⟨9007199254740993, by decide⟩
    let b : Integer := ⟨9007199254740992, by decide⟩
    let d : Dataset := ⟨["id"], [[("id", .number (.integer a))]]⟩
    a ≠ b ∧ (d.apply [⟨"id", .equal, .number (.integer b)⟩]).1.rows = d.rows ∧
      (d.apply [⟨"id", .notEqual, .number (.integer b)⟩]).1.rows = [] := by
  intro a b d
  have hmatch : (Value.number (.integer a)).typedEqual (.number (.integer b)) = true := by
    decide +kernel
  have hcell : cell [("id", .number (.integer a))] "id" = some (.number (.integer a)) := rfl
  refine ⟨by decide, ?_, ?_⟩
  · simp [d, apply, narrow, Test.ofCondition?, Test.accepts, Test.holds, Value.isNull, hcell,
      hmatch]
  · simp [d, apply, narrow, Test.ofCondition?, Test.accepts, Test.holds, Value.isNull, hcell,
      hmatch]

end Dataset
end RowQuery
