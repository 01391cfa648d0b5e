import Mathlib
import RowQuery.Proofs.Selection

/-!
# Filters as conjunctions

What a filter keeps depends on its conditions as a set: not on their order, not on how often one
stands in it, and not on whether they are applied at once or in parts. Narrowing leaves the headers
as they are, so each condition counts or is passed over with the same warning that it has alone.
-/
namespace RowQuery
open Json

namespace Dataset
variable {headers : List String} {fs gs : Filters} {row : Members}

theorem selected_append :
    Selected headers (fs ++ gs) row ↔ Selected headers fs row ∧ Selected headers gs row := by
  constructor
  · intro h
    exact ⟨fun c hc => h c (List.mem_append_left gs hc),
      fun c hc => h c (List.mem_append_right fs hc)⟩
  · intro h c hc
    rcases List.mem_append.mp hc with hf | hg
    · exact h.1 c hf
    · exact h.2 c hg

theorem Selected.of_subset (h : Selected headers fs row) (hsub : gs ⊆ fs) :
    Selected headers gs row := by
  intro c hc
  exact h c (hsub hc)

theorem apply_headers (d : Dataset) (fs : Filters) : (d.apply fs).1.headers = d.headers := by
  rw [apply_eq]

theorem apply_append (d : Dataset) (fs gs : Filters) :
    (d.apply (fs ++ gs)).1 = ((d.apply fs).1.apply gs).1 := by
  simp only [apply_eq, List.filter_filter]
  refine congrArg (Dataset.mk d.headers) (List.filter_congr fun row _ => ?_)
  rw [← Bool.decide_and, decide_eq_decide]
  exact selected_append.trans and_comm

theorem apply_of_subsets (d : Dataset) (h : fs ⊆ gs) (h' : gs ⊆ fs) :
    (d.apply fs).1 = (d.apply gs).1 := by
  simp only [apply_eq]
  refine congrArg (Dataset.mk d.headers) (List.filter_congr fun row _ => ?_)
  rw [decide_eq_decide]
  exact ⟨fun hrow => hrow.of_subset h', fun hrow => hrow.of_subset h⟩

theorem mem_apply_singleton {d : Dataset} {c : Condition} {row : Members} :
    row ∈ (d.apply [c]).1.rows ↔ row ∈ d.rows ∧ (c.Effective d.headers → c.Holds row) := by
  rw [apply_eq, List.mem_filter, decide_eq_true_iff, Selected, List.forall_mem_singleton]

theorem apply_rows_sublist (d : Dataset) (fs : Filters) : (d.apply fs).1.rows.Sublist d.rows := by
  rw [apply_eq]
  exact List.filter_sublist

theorem warnings_of_headers_eq {d e : Dataset} (h : d.headers = e.headers) (fs : Filters) :
    (d.apply fs).2 = (e.apply fs).2 := by
  rw [apply_eq, apply_eq, h]

theorem warnings_eq_flatMap (d : Dataset) (fs : Filters) :
    (d.apply fs).2 = fs.flatMap fun c => (d.apply [c]).2 := by
  rw [apply_eq]
  induction fs with
  | nil => rfl
  | cons c fs ih =>
    have hone : (d.apply [c]).2 = (c.warning? d.headers).toList := by
      rw [apply_eq]
      cases hw : c.warning? d.headers <;> simp [hw]
    rw [List.flatMap_cons, ← ih, hone]
    cases hw : c.warning? d.headers <;> simp [hw]

/-- A filter is an unordered and idempotent conjunction, with conditions that are passed over and
datasets that run empty on the way as with any other. -/
theorem apply_conjunction_laws (d : Dataset) (fs gs : Filters) :
    ((d.apply fs).1.apply gs).1 = (d.apply (fs ++ gs)).1 ∧
    (fs.Perm gs → (d.apply fs).1 = (d.apply gs).1) ∧
    (fs ⊆ gs → gs ⊆ fs → (d.apply fs).1 = (d.apply gs).1) ∧
    ((d.apply fs).1.apply fs).1 = (d.apply fs).1 ∧
    (d.apply (fs ++ gs)).1.rows.Sublist (d.apply fs).1.rows ∧
    (d.apply fs).2 = (fs.flatMap fun c => (d.apply [c]).2) ∧
    ((d.apply fs).1.apply gs).2 = (d.apply gs).2 := by
  have htwice : fs ++ fs ⊆ fs := fun c hc => by simpa using hc
  refine ⟨(apply_append d fs gs).symm, fun h => apply_of_subsets d h.subset h.symm.subset,
    apply_of_subsets d, ?_, ?_, warnings_eq_flatMap d fs,
    warnings_of_headers_eq (apply_headers d fs) gs⟩
  · rw [← apply_append]
    exact apply_of_subsets d htwice (List.subset_append_left fs fs)
  · rw [apply_append]
    exact apply_rows_sublist _ gs

theorem apply_conjunction_laws_passed_over :
    let d : Dataset := ⟨["a"], [[("a", .string "x")], [("a", .string "y")]]⟩
    let wanted : Condition := ⟨"a", .equal, .string "y"⟩
    let below : Condition := ⟨"a", .less, .string "much"⟩
    let other : Condition := ⟨"b", .notEqual, .null⟩
    let fs := [wanted, below, other]
    (d.apply fs).1.rows = [[("a", .string "y")]] ∧
      (d.apply fs).2 = [.unusableCondition "a < \"much\"", .unknownHeader "b"] ∧
      fs.Perm [other, below, wanted] ∧ (d.apply fs).1 = (d.apply [other, below, wanted]).1 ∧
      fs ⊆ [other, below, other, wanted] ∧ [other, below, other, wanted] ⊆ fs ∧
      (d.apply fs).1 = (d.apply [other, below, other, wanted]).1 := by
  intro d wanted below other fs
  have hperm : fs.Perm [other, below, wanted] := (List.reverse_perm fs).symm
  have hsub : fs ⊆ [other, below, other, wanted] := by simp [fs]
  have hsub' : [other, below, other, wanted] ⊆ fs := by simp [fs]
  obtain ⟨-, horder, -⟩ := apply_conjunction_laws d fs [other, below, wanted]
  obtain ⟨-, -, hrepeat, -⟩ := apply_conjunction_laws d fs [other, below, other, wanted]
  exact ⟨rfl, rfl, hperm, horder hperm, hsub, hsub', hrepeat hsub hsub'⟩

end Dataset
end RowQuery
