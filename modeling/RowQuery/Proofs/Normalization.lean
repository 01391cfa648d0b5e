import Mathlib
import RowQuery.Proofs.ReplyEntries
import RowQuery.Proofs.Selection

/-!
# Conditions as written and as kept

A reply is read in two steps: its entries spell conditions, and an ordering gets the number that its
value spells. The second step changes no meaning. A condition that it keeps makes the test it made
before, and one that it drops makes no test, so a dataset is narrowed alike by the conditions as
written and as kept. What is kept can always be used; only its header can be unknown.
-/
namespace RowQuery
open Json

namespace Filter

def written (entries : List Value) : Filters := entries.filterMap Condition.ofValue?

/-- Why an entry is dropped, if it is: it spells no condition, or one that makes no test. -/
def loss? (entry : Value) : Option Warning :=
  match Condition.ofValue? entry with
  | none => some (.malformedCondition entry.text)
  | some c =>
    if Test.ofCondition? c = none then
      some (.nonNumericValue c.header c.operator.symbol c.value.text)
    else none

theorem isNull_of_mem_written {entries : List Value} {c : Condition} (h : c ∈ written entries) :
    c.value.isNull = false := by
  obtain ⟨entry, -, hentry⟩ := List.mem_filterMap.mp h
  exact (ofValue?_eq_some_iff.mp hentry).value

theorem normalize_of_usable {c : Condition} (h : c.Usable) :
    ∃ kept, normalize c = .ok kept ∧ kept.header = c.header ∧
      Test.ofCondition? kept = Test.ofCondition? c := by
  obtain ⟨header, operator, value⟩ := c
  obtain ⟨hnull, hnumber⟩ := Condition.usable_iff.mp h
  cases hnumeric : operator.isNumeric with
  | false => exact ⟨_, by simp [normalize, hnumeric], rfl, rfl⟩
  | true =>
    obtain ⟨x, hx⟩ := Option.isSome_iff_exists.mp (hnumber hnumeric)
    refine ⟨⟨header, operator, .number (.real x)⟩, by simp [normalize, hnumeric, hx], rfl, ?_⟩
    have hback : (Value.number (.real x)).asNumber? = some x := rfl
    have hfound : (Value.number (.real x)).isNull = false := rfl
    cases operator <;> simp [Operator.isNumeric] at hnumeric <;>
      simp only [Test.ofCondition?, hfound, hback, hx, hnull]

theorem normalize_of_not_usable {c : Condition} (hnull : c.value.isNull = false)
    (h : ¬c.Usable) :
    normalize c = .error (.nonNumericValue c.header c.operator.symbol c.value.text) := by
  have hnumeric : c.operator.isNumeric = true := by
    by_contra hn
    exact h (Condition.usable_iff.mpr ⟨hnull, fun hc => absurd hc hn⟩)
  have hnumber : c.value.asNumber? = none := by
    rw [Option.eq_none_iff_forall_ne_some]
    intro x hx
    exact h (Condition.usable_iff.mpr ⟨hnull, fun _ => by rw [hx]; rfl⟩)
  simp [normalize, hnumeric, hnumber]

theorem ofCondition?_eq_none_iff {c : Condition} : Test.ofCondition? c = none ↔ ¬c.Usable := by
  rw [← Test.isSome_ofCondition?_iff, Option.not_isSome_iff_eq_none]

theorem kept_eq (entries : List Value) :
    kept entries = (written entries).filterMap fun c => (normalize c).toOption := by
  rw [kept, written, List.filterMap_filterMap]
  refine List.filterMap_congr fun entry _ => ?_
  cases h : Condition.ofValue? entry <;> simp [ofEntry, h, Except.toOption]

theorem dropped_eq (entries : List Value) : dropped entries = entries.filterMap loss? := by
  refine List.filterMap_congr fun entry _ => ?_
  cases h : Condition.ofValue? entry with
  | none => simp only [ofEntry, loss?, h]
  | some c =>
    simp only [ofEntry, loss?, h, ofCondition?_eq_none_iff]
    by_cases hc : c.Usable
    · obtain ⟨kept, hkept, -, -⟩ := normalize_of_usable hc
      simp [hkept, hc]
    · simp [normalize_of_not_usable (ofValue?_eq_some_iff.mp h).value hc, hc]

/-- Header and test of a condition: all that narrowing looks at. -/
def action (c : Condition) : String × Option Test := (c.header, Test.ofCondition? c)

theorem map_action_kept (entries : List Value) :
    (kept entries).map action = ((written entries).map action).filter (·.2.isSome) := by
  have hnull : ∀ c ∈ written entries, c.value.isNull = false := fun c => isNull_of_mem_written
  rw [kept_eq]
  generalize written entries = fs at hnull
  induction fs with
  | nil => rfl
  | cons c fs ih =>
    have hrest := ih fun d hd => hnull d (List.mem_cons_of_mem c hd)
    by_cases hc : c.Usable
    · obtain ⟨kept, hkept, hheader, htest⟩ := normalize_of_usable hc
      have hsome : (action c).2.isSome = true := Test.isSome_ofCondition?_iff.mpr hc
      have hsame : action kept = action c := Prod.ext hheader htest
      have hput : (normalize c).toOption = some kept := by rw [hkept]; rfl
      simp only [List.filterMap_cons, hput, List.map_cons, hsame, hrest, List.filter_cons, hsome,
        if_true]
    · have hnone : (action c).2.isSome = false := by
        rw [Bool.eq_false_iff]
        exact fun h => hc (Test.isSome_ofCondition?_iff.mp h)
      have hput : (normalize c).toOption = none := by
        rw [normalize_of_not_usable (hnull c List.mem_cons_self) hc]
        rfl
      simp only [List.filterMap_cons, hput, hrest, List.map_cons, List.filter_cons, hnone,
        Bool.false_eq_true, if_false]

end Filter

namespace Dataset
open RowQuery.Filter

theorem narrow_eq_of_action {c e : Condition} (h : action c = action e) (d : Dataset) :
    (d.narrow c).1 = (d.narrow e).1 := by
  obtain ⟨hheader, htest⟩ := Prod.mk.inj h
  simp only [narrow, hheader, htest]
  split
  · split <;> rfl
  · rfl

theorem narrow_of_no_test {c : Condition} (h : (action c).2.isSome = false) (d : Dataset) :
    (d.narrow c).1 = d := by
  have hnone : Test.ofCondition? c = none :=
    Option.isNone_iff_eq_none.mp (Option.isSome_eq_false_iff.mp h)
  simp only [narrow, hnone]
  split <;> rfl

theorem apply_cons_fst (d : Dataset) (c : Condition) (fs : Filters) :
    (d.apply (c :: fs)).1 = ((d.narrow c).1.apply fs).1 := rfl

/-- Conditions that make no test may be left out, and the others exchanged for such as do the
same. -/
theorem apply_eq_of_actions {fs gs : Filters}
    (h : fs.map action = (gs.map action).filter (·.2.isSome)) (d : Dataset) :
    (d.apply fs).1 = (d.apply gs).1 := by
  induction gs generalizing fs d with
  | nil =>
    obtain rfl : fs = [] := List.map_eq_nil_iff.mp h
    rfl
  | cons e gs ih =>
    cases htest : (action e).2.isSome with
    | true =>
      simp only [List.map_cons, List.filter_cons, htest, if_true] at h
      obtain ⟨c, rest, rfl, hc, hrest⟩ := List.map_eq_cons_iff.mp h
      rw [apply_cons_fst, apply_cons_fst, narrow_eq_of_action hc]
      exact ih hrest _
    | false =>
      simp only [List.map_cons, List.filter_cons, htest, Bool.false_eq_true, if_false] at h
      rw [apply_cons_fst, narrow_of_no_test htest]
      exact ih h d

end Dataset

namespace Filter

theorem usable_of_mem_kept {entries : List Value} {c : Condition} (h : c ∈ kept entries) :
    c.Usable := by
  have hmem : action c ∈ (kept entries).map action := List.mem_map_of_mem h
  rw [map_action_kept] at hmem
  exact Test.isSome_ofCondition?_iff.mp (List.mem_filter.mp hmem).2

theorem warnings_of_kept (d : Dataset) {filters : Filters} (h : ∀ c ∈ filters, c.Usable) :
    (d.apply filters).2 =
      (filters.filter (·.header ∉ d.headers)).map (.unknownHeader ·.header) := by
  rw [Dataset.apply_eq]
  induction filters with
  | nil => rfl
  | cons c filters ih =>
    have hrest := ih fun e he => h e (List.mem_cons_of_mem c he)
    have hc := h c List.mem_cons_self
    simp only at hrest
    by_cases hknown : c.header ∈ d.headers
    · simp [Condition.warning?, hknown, hc, hrest]
    · simp [Condition.warning?, hknown, hrest]

theorem no_test_iff_of_mem_written {entries : List Value} {c : Condition}
    (h : c ∈ written entries) :
    Test.ofCondition? c = none ↔ c.operator.isNumeric = true ∧ c.value.asNumber? = none := by
  rw [ofCondition?_eq_none_iff]
  simp [Condition.usable_iff, isNull_of_mem_written h]

/-- A dataset is narrowed alike by the filters of a reply and by the conditions as its entries spell
them. The conditions dropped for their value are those that make no test, so the filters of any
reply are passed over for an unknown header alone. -/
theorem ofReply_narrows_as_written (text : String) :
    (∀ members items, Value.read (Text.trim text) = .ok (.object members) →
      members.lookup "filters" = some (.list items) →
      ∃ filters, ofReply text = .ok (filters, items.filterMap loss?) ∧
        (∀ d : Dataset, (d.apply filters).1 = (d.apply (written items)).1) ∧
        filters.map (fun c => (c.header, Test.ofCondition? c)) =
          ((written items).map fun c => (c.header, Test.ofCondition? c)).filter (·.2.isSome) ∧
        ∀ c ∈ written items,
          Test.ofCondition? c = none ↔ c.operator.isNumeric = true ∧ c.value.asNumber? = none) ∧
    ∀ filters warnings, ofReply text = .ok (filters, warnings) → ∀ d : Dataset,
      (d.apply filters).2 =
        (filters.filter (·.header ∉ d.headers)).map (.unknownHeader ·.header) := by
  refine ⟨fun members items hread hitems => ⟨kept items, ?_, ?_, map_action_kept items,
    fun c => no_test_iff_of_mem_written⟩, ?_⟩
  · simp [ofReply, hread, entries, hitems, Except.mapError, bind, Except.bind, pure, Except.pure,
      dropped_eq]
  · exact Dataset.apply_eq_of_actions (map_action_kept items)
  · intro filters warnings h d
    obtain ⟨items, rfl, -⟩ := ofReply_eq_ok h
    exact warnings_of_kept d fun c => usable_of_mem_kept

set_option maxRecDepth 4000 in
theorem ofReply_narrows_as_written_mixed :
    let text := "\x7b\"filters\":[\x7b\"header\":\"a\",\"operator\":\"<\",\"value\":\" 1\"\x7d," ++
      "0,\x7b\"header\":\"a\",\"operator\":\">\",\"value\":\"x\"\x7d]\x7d"
    let written : Filters := [⟨"a", .less, .string " 1"⟩, ⟨"a", .greater, .string "x"⟩]
    ∃ filters, ofReply text = .ok (filters,
        [.malformedCondition "0", .nonNumericValue "a" ">" "\"x\""]) ∧
      (∀ d : Dataset, (d.apply filters).1 = (d.apply written).1) ∧
      ∀ d : Dataset, (d.apply filters).2 =
        (filters.filter (·.header ∉ d.headers)).map (.unknownHeader ·.header) := by
  intro text written
  let entry (operator value : String) : Value := .object
    [("header", .string "a"), ("operator", .string operator), ("value", .string value)]
  let items := [entry "<" " 1", .number (.integer ⟨0, by decide⟩), entry ">" "x"]
  have hread : Value.read (Text.trim text) = .ok (.object [("filters", .list items)]) := by cbv
  have hwritten : Filter.written items = written := rfl
  have hloss : items.filterMap loss? =
      [.malformedCondition "0", .nonNumericValue "a" ">" "\"x\""] := by decide +kernel
  obtain ⟨hagree, hwarn⟩ := ofReply_narrows_as_written text
  obtain ⟨filters, hreply, hnarrow, -, -⟩ := hagree _ items hread rfl
  rw [hloss] at hreply
  exact ⟨filters, hreply, hwritten ▸ hnarrow, hwarn filters _ hreply⟩

end Filter
end RowQuery
