import Mathlib
import RowQuery.Dataset.Selection
import RowQuery.Proofs.Rounding

/-!
# What a filter selects

A condition is effective for a dataset when its header is known and its value can be used by its
operator. A filter keeps the rows that satisfy every effective condition, in their order, and warns
once for each condition that is not effective. So narrowing a dataset by one condition after another
is one conjunction over the rows it had at first, and a condition counts or not whatever the others
are.
-/
namespace RowQuery
open Json

namespace Json.Value

/-- A cell equals the value of a condition when both are of one kind: numbers with one nearest
double, containers that are the same JSON value. Null equals nothing. -/
inductive TypedEqual : Value → Value → Prop
  | number {a b : Number} {x y : Double} :
      a.toDouble? = some x → b.toDouble? = some y → x.units = y.units →
      TypedEqual (.number a) (.number b)
  | string (s : String) : TypedEqual (.string s) (.string s)
  | bool (b : Bool) : TypedEqual (.bool b) (.bool b)
  | list {xs ys : List Value} :
      (Value.list xs).same (.list ys) = true → TypedEqual (.list xs) (.list ys)
  | object {ms ns : Members} :
      (Value.object ms).same (.object ns) = true → TypedEqual (.object ms) (.object ns)

theorem typedEqual_number {a b : Number} :
    (Value.number a).typedEqual (.number b) = true ↔ TypedEqual (.number a) (.number b) := by
  obtain ⟨x, hx⟩ := a.exists_toDouble?
  obtain ⟨y, hy⟩ := b.exists_toDouble?
  simp only [typedEqual, hx, hy, Binary.same_iff]
  constructor
  · exact .number hx hy
  · rintro ⟨ha, hb, hu⟩
    rw [Option.some.inj (hx.symm.trans ha), Option.some.inj (hy.symm.trans hb)]
    exact hu

theorem typedEqual_iff {v w : Value} : v.typedEqual w = true ↔ TypedEqual v w := by
  constructor
  · intro h
    cases v <;> cases w <;> first | cases h | skip
    case bool.bool a b => exact beq_iff_eq.mp h ▸ .bool a
    case number.number => exact typedEqual_number.mp h
    case string.string s t => exact beq_iff_eq.mp h ▸ .string s
    case list.list => exact .list h
    case object.object => exact .object h
  · intro h
    cases h with
    | number hx hy hu => exact typedEqual_number.mpr (.number hx hy hu)
    | string s => exact beq_self_eq_true s
    | bool b => exact beq_self_eq_true b
    | list h => exact h
    | object h => exact h

instance (v w : Value) : Decidable (TypedEqual v w) := decidable_of_iff _ typedEqual_iff

theorem isNull_eq_false_iff {v : Value} : v.isNull = false ↔ v ≠ .null := by
  cases v <;> simp [isNull]

theorem ne_null_of_asChars? {v : Value} {text : List Char} (h : v.asChars? = some text) :
    v ≠ .null := by
  rintro rfl
  cases h

theorem asChars?_eq_none_iff {v : Value} : v.asChars? = none ↔ v.isNull = true := by
  cases v <;> simp [asChars?, isNull]

theorem mentions_iff {v : Value} {needle : List Char} :
    v.mentions needle = true ↔ ∃ text ∈ v.asChars?, needle <:+: Text.lowercaseChars text := by
  cases h : v.asChars? with
  | none => simp [mentions, h]
  | some text => simp [mentions, h, Text.occursIn_iff]

end Json.Value

namespace Operator

def Ordered (r : Int → Int → Prop) (cell : Option Value) (value : Value) : Prop :=
  ∃ c ∈ cell, ∃ n ∈ c.asNumber?, ∃ bound ∈ value.asNumber?, r n.units bound.units

def Mentioned (cell : Option Value) (value : Value) : Prop :=
  ∃ c ∈ cell, ∃ text ∈ c.asChars?, ∃ part ∈ value.asChars?,
    Text.lowercaseChars part <:+: Text.lowercaseChars text

/-- What an operator asks of a cell; there may be none. -/
def Holds : Operator → Option Value → Value → Prop
  | .equal, cell, value => ∃ c ∈ cell, c.TypedEqual value
  | .notEqual, cell, value => ¬∃ c ∈ cell, c.TypedEqual value
  | .greater, cell, value => Ordered (· > ·) cell value
  | .less, cell, value => Ordered (· < ·) cell value
  | .atLeast, cell, value => Ordered (· ≥ ·) cell value
  | .atMost, cell, value => Ordered (· ≤ ·) cell value
  | .contains, cell, value => Mentioned cell value
  | .notContains, cell, value => ¬Mentioned cell value

instance (part text : List Char) : Decidable (part <:+: text) :=
  decidable_of_iff _ Text.occursIn_iff

instance (r : Int → Int → Prop) [DecidableRel r] (cell : Option Value) (value : Value) :
    Decidable (Ordered r cell value) :=
  inferInstanceAs (Decidable (∃ c ∈ cell, ∃ n ∈ c.asNumber?, ∃ bound ∈ value.asNumber?, _))

instance (cell : Option Value) (value : Value) : Decidable (Mentioned cell value) :=
  inferInstanceAs (Decidable (∃ c ∈ cell, ∃ text ∈ c.asChars?, ∃ part ∈ value.asChars?, _))

instance : (o : Operator) → (cell : Option Value) → (value : Value) →
    Decidable (o.Holds cell value)
  | .equal, cell, value => inferInstanceAs (Decidable (∃ c ∈ cell, c.TypedEqual value))
  | .notEqual, cell, value => inferInstanceAs (Decidable (¬∃ c ∈ cell, c.TypedEqual value))
  | .greater, cell, value => inferInstanceAs (Decidable (Ordered (· > ·) cell value))
  | .less, cell, value => inferInstanceAs (Decidable (Ordered (· < ·) cell value))
  | .atLeast, cell, value => inferInstanceAs (Decidable (Ordered (· ≥ ·) cell value))
  | .atMost, cell, value => inferInstanceAs (Decidable (Ordered (· ≤ ·) cell value))
  | .contains, cell, value => inferInstanceAs (Decidable (Mentioned cell value))
  | .notContains, cell, value => inferInstanceAs (Decidable (¬Mentioned cell value))

end Operator

namespace Condition

/-- The operator can use the value: it is not null, and a number where numbers are ordered. -/
def Usable (c : Condition) : Prop :=
  c.value ≠ .null ∧ (c.operator.isNumeric = true → c.value.asNumber?.isSome = true)

theorem usable_iff {c : Condition} : c.Usable ↔
    c.value.isNull = false ∧ (c.operator.isNumeric = true → c.value.asNumber?.isSome = true) := by
  rw [Usable, Value.isNull_eq_false_iff]

instance (c : Condition) : Decidable c.Usable := decidable_of_iff _ usable_iff.symm

def Effective (headers : List String) (c : Condition) : Prop := c.header ∈ headers ∧ c.Usable

instance (headers : List String) (c : Condition) : Decidable (c.Effective headers) :=
  inferInstanceAs (Decidable (_ ∧ _))

/-- The value that a row has under a header; a null is none, as is a value that is missing. -/
inductive IsCell (row : Members) (header : String) : Option Value → Prop
  | value {v : Value} : row.lookup header = some v → v ≠ .null → IsCell row header (some v)
  | null : row.lookup header = some .null → IsCell row header none
  | missing : row.lookup header = none → IsCell row header none

theorem isCell_iff {row : Members} {header : String} {cell : Option Value} :
    IsCell row header cell ↔ Dataset.cell row header = cell := by
  rw [Dataset.cell]
  constructor
  · rintro (⟨hfound, hvalue⟩ | hnull | hmissing)
    · rw [hfound, Option.filter_some, Value.isNull_eq_false_iff.mpr hvalue]
      rfl
    · rw [hnull]
      rfl
    · rw [hmissing]
      rfl
  · rintro rfl
    cases hfound : row.lookup header with
    | none => exact .missing hfound
    | some v =>
      by_cases hnull : v = .null
      · subst hnull
        exact .null hfound
      · rw [Option.filter_some, Value.isNull_eq_false_iff.mpr hnull]
        exact .value hfound hnull

def Holds (row : Members) (c : Condition) : Prop :=
  ∃ cell, IsCell row c.header cell ∧ c.operator.Holds cell c.value

theorem holds_iff {row : Members} {c : Condition} :
    c.Holds row ↔ c.operator.Holds (Dataset.cell row c.header) c.value := by
  simp only [Holds, isCell_iff, exists_eq_left']

theorem holds_iff_of_lookup {row : Members} {c : Condition} {v : Value}
    (hcell : row.lookup c.header = some v) (present : v ≠ .null) :
    c.Holds row ↔ c.operator.Holds (some v) c.value := by
  rw [holds_iff, isCell_iff.mp (.value hcell present)]

instance (row : Members) (c : Condition) : Decidable (c.Holds row) :=
  decidable_of_iff _ holds_iff.symm

def warning? (headers : List String) (c : Condition) : Option Warning :=
  if c.header ∉ headers then some (.unknownHeader c.header)
  else if ¬c.Usable then some (.unusableCondition c.display)
  else none

end Condition

namespace Test

theorem holds_iff {cell : Option Value} {p : Value → Bool} :
    holds cell p = true ↔ ∃ c ∈ cell, p c = true := by
  simp [holds, Option.any_eq_true]

theorem ordered_iff {cell : Option Value} {p : Double → Bool} :
    ordered cell p = true ↔ ∃ c ∈ cell, ∃ n ∈ c.asNumber?, p n = true := by
  cases cell <;> simp [ordered, Option.any_eq_true]

theorem isSome_ofCondition?_iff {c : Condition} : (ofCondition? c).isSome = true ↔ c.Usable := by
  obtain ⟨header, operator, value⟩ := c
  -- Null alone has no text, so only the orderings ask for more.
  cases hnull : value.isNull with
  | true => simp [ofCondition?, Condition.usable_iff, hnull]
  | false =>
    have htext : value.asChars? ≠ none := by simp [Value.asChars?_eq_none_iff, hnull]
    have hsome : value.asChars?.isSome = true := Option.isSome_iff_ne_none.mpr htext
    cases operator <;> simp [ofCondition?, Condition.usable_iff, Operator.isNumeric, hnull, hsome]

theorem ordered_iff_of_bound {cell : Option Value} {value : Value} {bound : Double}
    (hb : value.asNumber? = some bound) {p : Double → Bool} {r : Int → Int → Prop}
    (hp : ∀ n, p n = true ↔ r n.units bound.units) :
    ordered cell p = true ↔ Operator.Ordered r cell value := by
  simp [ordered_iff, Operator.Ordered, hb, hp]

theorem mentioned_iff_of_part {value : Value} {part : List Char}
    (hp : value.asChars? = some part) (cell : Option Value) :
    holds cell (·.mentions (Text.lowercaseChars part)) = true ↔ Operator.Mentioned cell value := by
  simp [holds_iff, Operator.Mentioned, Value.mentions_iff, hp]

theorem accepts_iff {c : Condition} {test : Test} (h : ofCondition? c = some test)
    (cell : Option Value) : test.accepts cell = true ↔ c.operator.Holds cell c.value := by
  obtain ⟨header, operator, value⟩ := c
  have hnull : value.isNull = false := by
    cases hv : value.isNull with
    | true => simp [ofCondition?, hv] at h
    | false => rfl
  simp only [ofCondition?, hnull, Bool.false_eq_true, if_false] at h
  cases operator with
  | equal =>
    cases h
    simp [accepts, Operator.Holds, holds_iff, Value.typedEqual_iff]
  | notEqual =>
    cases h
    simp [accepts, Operator.Holds, ← Bool.not_eq_true, holds_iff, Value.typedEqual_iff]
  | greater =>
    obtain ⟨bound, hb, rfl⟩ := Option.map_eq_some_iff.mp h
    exact ordered_iff_of_bound hb fun n => Binary.lt_iff
  | less =>
    obtain ⟨bound, hb, rfl⟩ := Option.map_eq_some_iff.mp h
    exact ordered_iff_of_bound hb fun n => Binary.lt_iff
  | atLeast =>
    obtain ⟨bound, hb, rfl⟩ := Option.map_eq_some_iff.mp h
    exact ordered_iff_of_bound hb fun n => Binary.le_iff
  | atMost =>
    obtain ⟨bound, hb, rfl⟩ := Option.map_eq_some_iff.mp h
    exact ordered_iff_of_bound hb fun n => Binary.le_iff
  | contains =>
    obtain ⟨part, hp, rfl⟩ := Option.map_eq_some_iff.mp h
    exact mentioned_iff_of_part hp cell
  | notContains =>
    obtain ⟨part, hp, rfl⟩ := Option.map_eq_some_iff.mp h
    have hiff := mentioned_iff_of_part hp cell
    simp only [accepts, Operator.Holds, ← hiff, Bool.not_eq_true, Bool.not_eq_eq_eq_not,
      Bool.not_true]

end Test

namespace Dataset

def Selected (headers : List String) (fs : Filters) (row : Members) : Prop :=
  ∀ c ∈ fs, c.Effective headers → c.Holds row

instance (headers : List String) (fs : Filters) (row : Members) :
    Decidable (Selected headers fs row) :=
  inferInstanceAs (Decidable (∀ c ∈ fs, c.Effective headers → c.Holds row))

theorem selected_cons {headers : List String} {c : Condition} {fs : Filters} {row : Members} :
    Selected headers (c :: fs) row ↔ Selected headers fs row ∧ Selected headers [c] row := by
  simp only [Selected, List.mem_cons, List.not_mem_nil, or_false, forall_eq_or_imp, forall_eq]
  exact and_comm

theorem narrow_eq (d : Dataset) (c : Condition) :
    d.narrow c = (⟨d.headers, d.rows.filter fun row => Selected d.headers [c] row⟩,
      (c.warning? d.headers).toList) := by
  by_cases hknown : c.header ∈ d.headers
  · cases htest : Test.ofCondition? c with
    | none =>
      have hbad : ¬c.Usable := fun hc => by
        rw [← Test.isSome_ofCondition?_iff, htest] at hc
        cases hc
      simp [narrow, htest, hknown, hbad, Selected, Condition.Effective, Condition.warning?,
        List.filter_true]
    | some test =>
      have hgood : c.Usable := Test.isSome_ofCondition?_iff.mp (htest ▸ rfl)
      simp [narrow, htest, hknown, hgood, Selected, Condition.Effective, Condition.warning?,
        Condition.holds_iff, ← Test.accepts_iff htest]
  · simp [narrow, hknown, Selected, Condition.Effective, Condition.warning?,
      List.filter_true]

theorem apply_eq (d : Dataset) (fs : Filters) :
    d.apply fs = (⟨d.headers, d.rows.filter fun row => Selected d.headers fs row⟩,
      fs.filterMap (Condition.warning? d.headers)) := by
  -- A row that an earlier condition drops is none for the later ones: both filters are one.
  induction fs generalizing d with
  | nil => simp [apply, Selected, List.filter_true]
  | cons c fs ih =>
    simp only [apply, narrow_eq, ih, List.filter_filter]
    refine Prod.ext ?_ ?_
    · refine congrArg (Dataset.mk d.headers) (List.filter_congr fun row _ => ?_)
      rw [← Bool.decide_and, decide_eq_decide]
      exact selected_cons.symm
    · cases hw : c.warning? d.headers <;> simp [hw]

/-- Narrowing step by step is one conjunction over the rows there were at first. The filters may be
any, also such as no reply gives. -/
theorem apply_keeps_conjunction (d : Dataset) (fs : Filters) :
    d.apply [] = (d, []) ∧
    (d.apply fs).1.headers = d.headers ∧
    (d.apply fs).1.rows =
      d.rows.filter (fun row => ∀ c ∈ fs, c.Effective d.headers → c.Holds row) ∧
    (d.apply fs).2 = fs.filterMap (Condition.warning? d.headers) := by
  rw [apply_eq d fs]
  exact ⟨rfl, rfl, rfl, rfl⟩

theorem apply_keeps_conjunction_present_null_absent :
    let equal : Condition := ⟨"a", .equal, .string "x"⟩
    let unequal : Condition := ⟨"a", .notEqual, .string "x"⟩
    let unknown : Condition := ⟨"z", .equal, .null⟩
    let unusable : Condition := ⟨"b", .less, .string "q"⟩
    let present : Members := [("a", .string "x"), ("b", .bool true)]
    let null : Members := [("b", .bool true), ("a", .null)]
    let absent : Members := [("b", .null)]
    let d : Dataset := ⟨["a", "b"], [present, null, absent]⟩
    equal.Effective d.headers ∧ unequal.Effective d.headers ∧ ¬unknown.Effective d.headers ∧
      ¬unusable.Effective d.headers ∧ equal.Holds present ∧ ¬equal.Holds null ∧
      ¬equal.Holds absent ∧
      (d.apply [unknown, equal, unusable]).1.rows = [present] ∧
      (d.apply [unknown, equal, unusable]).2 =
        [.unknownHeader "z", .unusableCondition "b < \"q\""] ∧
      (d.apply [unequal]).1.rows = [null, absent] ∧ (d.apply [unequal]).2 = [] := by
  intro equal unequal unknown unusable present null absent d
  obtain ⟨-, -, hrows, hwarnings⟩ := apply_keeps_conjunction d [unknown, equal, unusable]
  obtain ⟨-, -, hrows', hwarnings'⟩ := apply_keeps_conjunction d [unequal]
  refine ⟨by decide, by decide, by decide, by decide, by decide, by decide, by decide, ?_, ?_, ?_,
    ?_⟩
  · rw [hrows]
    rfl
  · rw [hwarnings]
    decide
  · rw [hrows']
    rfl
  · rw [hwarnings']
    decide

end Dataset
end RowQuery
