import Mathlib
import RowQuery.Proofs.Conjunction

/-!
# Negated operators

A negated operator keeps the rows that its opposite drops. So the rows kept by the two, put together
in the order they had, are all rows, and a row without a cell is on the negated side. A condition
that is passed over drops nothing, whichever of the two operators it has.
-/
namespace RowQuery
open Json

/-- The third list is made of the items of the other two, of which each keeps its order. -/
inductive Interleaved {α : Type} : List α → List α → List α → Prop
  | nil : Interleaved [] [] []
  | left {x : α} {xs ys zs : List α} : Interleaved xs ys zs → Interleaved (x :: xs) ys (x :: zs)
  | right {y : α} {xs ys zs : List α} : Interleaved xs ys zs → Interleaved xs (y :: ys) (y :: zs)

theorem interleaved_filter {α : Type} (p : α → Bool) (xs : List α) :
    Interleaved (xs.filter p) (xs.filter fun x => !p x) xs := by
  induction xs with
  | nil => exact .nil
  | cons x xs ih =>
    cases hx : p x with
    | true => simpa [hx] using ih.left
    | false => simpa [hx] using ih.right

namespace Operator

inductive Negates : Operator → Operator → Prop
  | equal : Negates .notEqual .equal
  | contains : Negates .notContains .contains

variable {negative positive : Operator} {cell : Option Value} {value : Value}

theorem Negates.holds_iff (h : negative.Negates positive) :
    negative.Holds cell value ↔ ¬positive.Holds cell value := by
  cases h <;> exact Iff.rfl

theorem Negates.not_holds_none (h : negative.Negates positive) : ¬positive.Holds none value := by
  cases h <;> exact nofun

theorem Negates.not_numeric (h : negative.Negates positive) :
    negative.isNumeric = false ∧ positive.isNumeric = false := by
  cases h <;> exact ⟨rfl, rfl⟩

end Operator

namespace Dataset
variable {d : Dataset} {header : String} {row : Members}

def kept (d : Dataset) (header : String) (o : Operator) (value : Value) : List Members :=
  (d.apply [⟨header, o, value⟩]).1.rows

theorem kept_eq_filter {o : Operator} {value : Value}
    (effective : Condition.Effective d.headers ⟨header, o, value⟩) :
    d.kept header o value = d.rows.filter fun row => o.Holds (cell row header) value := by
  rw [kept, apply_eq]
  refine List.filter_congr fun row _ => ?_
  rw [decide_eq_decide, Selected, List.forall_mem_singleton]
  exact ⟨fun h => Condition.holds_iff.mp (h effective), fun h _ => Condition.holds_iff.mpr h⟩

theorem apply_of_not_effective {c : Condition} (h : ¬c.Effective d.headers) :
    (d.apply [c]).1 = d := by
  rw [apply_eq]
  have hall (row : Members) : Selected d.headers [c] row := by
    rw [Selected, List.forall_mem_singleton]
    exact fun heffective => absurd heffective h
  simp [hall]

theorem cell_eq_none_iff :
    cell row header = none ↔ row.lookup header = none ∨ row.lookup header = some .null := by
  rw [cell]
  cases row.lookup header with
  | none => simp
  | some v => cases v <;> simp [Option.filter, Value.isNull]

/-- Every row is kept by one of an operator and its negation, and by the negation when it has no
cell. Where the condition is passed over, both keep all rows. -/
theorem negations_complement (d : Dataset) (header : String) (value : Value)
    {negative positive : Operator} (opposite : negative.Negates positive) :
    (header ∈ d.headers → value.isNull = false →
      Interleaved (d.kept header positive value) (d.kept header negative value) d.rows ∧
        ∀ row ∈ d.rows,
          (row ∈ d.kept header positive value ↔ row ∉ d.kept header negative value) ∧
          (row.lookup header = none ∨ row.lookup header = some .null →
            row ∈ d.kept header negative value)) ∧
      (header ∉ d.headers ∨ value.isNull = true →
        (d.apply [⟨header, positive, value⟩]).1 = d ∧
          (d.apply [⟨header, negative, value⟩]).1 = d) := by
  obtain ⟨hnegative, hpositive⟩ := opposite.not_numeric
  constructor
  · intro known present
    have hvalue : value ≠ .null := Value.isNull_eq_false_iff.mp present
    have hkept : d.kept header positive value =
        d.rows.filter fun row => positive.Holds (cell row header) value :=
      kept_eq_filter ⟨known, hvalue, fun h => nomatch hpositive.symm.trans h⟩
    have hdropped : d.kept header negative value =
        d.rows.filter fun row => !decide (positive.Holds (cell row header) value) := by
      rw [kept_eq_filter ⟨known, hvalue, fun h => nomatch hnegative.symm.trans h⟩]
      refine List.filter_congr fun row _ => ?_
      rw [← decide_not, decide_eq_decide]
      exact opposite.holds_iff
    -- The negation keeps what the operator does not, row by row.
    rw [hkept, hdropped]
    refine ⟨interleaved_filter _ d.rows, fun row hrow => ⟨?_, fun hcell => ?_⟩⟩
    · simp [hrow]
    · have hnone : ¬positive.Holds (cell row header) value := by
        rw [cell_eq_none_iff.mpr hcell]
        exact opposite.not_holds_none
      simp [hrow, hnone]
  · intro passed
    have hpassed (o : Operator) : ¬Condition.Effective d.headers ⟨header, o, value⟩ := by
      rintro ⟨known, present, -⟩
      rcases passed with hunknown | hnull
      · exact hunknown known
      · exact nomatch hnull.symm.trans (Value.isNull_eq_false_iff.mpr present)
    exact ⟨apply_of_not_effective (hpassed positive), apply_of_not_effective (hpassed negative)⟩

theorem negations_complement_nested :
    let nested : Value := .list [.null]
    let d : Dataset :=
      ⟨["a"], [[("a", nested)], [("a", .null)], [], [("a", .string "x")], [("a", nested)]]⟩
    Operator.Negates .notEqual .equal ∧ "a" ∈ d.headers ∧ nested.isNull = false ∧
      d.kept "a" .equal nested = [[("a", nested)], [("a", nested)]] ∧
      Interleaved (d.kept "a" .equal nested) (d.kept "a" .notEqual nested) d.rows ∧
      [] ∈ d.rows ∧ [] ∈ d.kept "a" .notEqual nested ∧ "b" ∉ d.headers ∧
      (d.apply [⟨"b", .notContains, nested⟩]).1 = d ∧
      (d.apply [⟨"a", .contains, .null⟩]).1 = d := by
  intro nested d
  have known : "a" ∈ d.headers := List.mem_cons_self
  have hunknown : "b" ∉ d.headers := by decide
  have habsent : [] ∈ d.rows := by simp [d]
  obtain ⟨hmeets, -⟩ := negations_complement d "a" nested .equal
  obtain ⟨hinterleaved, hrows⟩ := hmeets known rfl
  obtain ⟨-, hpassed⟩ := negations_complement d "b" nested .contains
  obtain ⟨-, hnull⟩ := negations_complement d "a" .null .contains
  have hkept : d.kept "a" .equal nested = [[("a", nested)], [("a", nested)]] := by cbv
  exact ⟨.equal, known, rfl, hkept, hinterleaved, habsent, (hrows [] habsent).2 (.inl rfl),
    hunknown, (hpassed (.inl hunknown)).2, (hnull (.inr rfl)).1⟩

end Dataset
end RowQuery
