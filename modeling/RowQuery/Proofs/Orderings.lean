import Mathlib
import RowQuery.Proofs.Complements

/-!
# Orderings

An ordering compares the number of a cell with the number of the condition, both finite. So it is
one threshold on the rows that have a number, and on those alone: the rows above and those at most
at it share them out, and moving the threshold moves rows one way. A value that is no number drops
no row, a cell that is none always drops its own.
-/
namespace RowQuery
open Json

namespace Operator

/-- How an ordering compares the units of a cell with those of its bound. -/
inductive Orders : Operator → (Int → Int → Prop) → Prop
  | greater : Orders .greater (· > ·)
  | less : Orders .less (· < ·)
  | atLeast : Orders .atLeast (· ≥ ·)
  | atMost : Orders .atMost (· ≤ ·)

/-- Two orderings, one of which holds of every two numbers. -/
inductive Shares : Operator → Operator → Prop
  | greater : Shares .greater .atMost
  | less : Shares .less .atLeast

variable {o o' : Operator} {r : Int → Int → Prop}

theorem Orders.holds_iff (h : o.Orders r) (cell : Option Value) (value : Value) :
    o.Holds cell value ↔ Ordered r cell value := by
  cases h <;> exact Iff.rfl

theorem exists_orders (h : o.isNumeric = true) : ∃ r, ∃ _ : DecidableRel r, o.Orders r := by
  cases o with
  | greater => exact ⟨_, inferInstance, .greater⟩
  | less => exact ⟨_, inferInstance, .less⟩
  | atLeast => exact ⟨_, inferInstance, .atLeast⟩
  | atMost => exact ⟨_, inferInstance, .atMost⟩
  | _ => cases h

theorem Shares.opposite (h : o.Shares o') : ∃ r r', ∃ _ : DecidableRel r, ∃ _ : DecidableRel r',
    o.Orders r ∧ o'.Orders r' ∧ ∀ a b, r' a b ↔ ¬r a b := by
  cases h with
  | greater =>
    exact ⟨_, _, inferInstance, inferInstance, .greater, .atMost, fun _ _ => not_lt.symm⟩
  | less =>
    exact ⟨_, _, inferInstance, inferInstance, .less, .atLeast, fun _ _ => not_lt.symm⟩

end Operator

namespace Dataset
variable {d : Dataset} {header : String} {row : Members} {o o' : Operator} {t u : Value}
  {x y : Double}

def number? (row : Members) (header : String) : Option Double :=
  (row.lookup header).bind Value.asNumber?

def comparable (d : Dataset) (header : String) : List Members :=
  d.rows.filter fun row => (number? row header).isSome

theorem bind_cell (row : Members) (header : String) :
    (cell row header).bind Value.asNumber? = number? row header := by
  rw [cell, number?]
  cases row.lookup header with
  | none => rfl
  | some v => cases v <;> rfl

theorem ordered_cell_iff {r : Int → Int → Prop} (ht : t.asNumber? = some x) :
    Operator.Ordered r (cell row header) t ↔ ∃ n ∈ number? row header, r n.units x.units := by
  rw [← bind_cell]
  constructor
  · rintro ⟨c, hc, n, hn, bound, hbound, hr⟩
    obtain rfl : x = bound := Option.some.inj (ht.symm.trans hbound)
    exact ⟨n, Option.bind_eq_some_iff.mpr ⟨c, hc, hn⟩, hr⟩
  · rintro ⟨n, hnumber, hr⟩
    obtain ⟨c, hc, hn⟩ := Option.bind_eq_some_iff.mp hnumber
    exact ⟨c, hc, n, hn, x, ht, hr⟩

theorem kept_ordering {r : Int → Int → Prop} [DecidableRel r] (orders : o.Orders r)
    (known : header ∈ d.headers) (ht : t.asNumber? = some x) :
    d.kept header o t =
      d.rows.filter fun row => (number? row header).any fun n => r n.units x.units := by
  have hnull : t ≠ .null := by
    rintro rfl
    cases ht
  have effective : Condition.Effective d.headers ⟨header, o, t⟩ :=
    ⟨known, hnull, fun _ => Option.isSome_iff_exists.mpr ⟨x, ht⟩⟩
  rw [kept_eq_filter effective]
  refine List.filter_congr fun row _ => ?_
  rw [Bool.eq_iff_iff, decide_eq_true_iff, orders.holds_iff, ordered_cell_iff ht]
  simp [Option.any_eq_true]

theorem interleaved_comparable (d : Dataset) (header : String) (p q : Double → Bool)
    (opposite : ∀ n, q n = !p n) :
    Interleaved (d.rows.filter fun row => (number? row header).any p)
      (d.rows.filter fun row => (number? row header).any q) (d.comparable header) := by
  have hsplit := interleaved_filter (fun row => (number? row header).any p) (d.comparable header)
  rw [comparable, List.filter_filter, List.filter_filter] at hsplit
  rw [comparable]
  convert hsplit using 2
  · funext row
    cases number? row header <;> simp
  · funext row
    cases number? row header <;> simp [opposite]

theorem shares_rows (shares : o.Shares o') (known : header ∈ d.headers)
    (ht : t.asNumber? = some x) :
    Interleaved (d.kept header o t) (d.kept header o' t) (d.comparable header) ∧
      ∀ row ∈ d.kept header o t, row ∉ d.kept header o' t := by
  obtain ⟨r, r', _, _, horders, horders', hopposite⟩ := shares.opposite
  rw [kept_ordering horders known ht, kept_ordering horders' known ht]
  constructor
  · refine interleaved_comparable d header _ _ fun n => ?_
    rw [← decide_not, decide_eq_decide]
    exact hopposite _ _
  · intro row hrow hrow'
    obtain ⟨n, hn, hr⟩ := (Option.any_eq_true _ _).mp (List.mem_filter.mp hrow).2
    obtain ⟨n', hn', hr'⟩ := (Option.any_eq_true _ _).mp (List.mem_filter.mp hrow').2
    obtain rfl : n = n' := Option.some.inj (hn.symm.trans hn')
    exact (hopposite _ _).mp (of_decide_eq_true hr') (of_decide_eq_true hr)

theorem kept_sublist {r : Int → Int → Prop} [DecidableRel r] (orders : o.Orders r)
    (known : header ∈ d.headers) (ht : t.asNumber? = some x) (hu : u.asNumber? = some y)
    (h : ∀ n, r n y.units → r n x.units) :
    (d.kept header o u).Sublist (d.kept header o t) := by
  rw [kept_ordering orders known ht, kept_ordering orders known hu]
  refine List.monotone_filter_right d.rows fun row hrow => ?_
  obtain ⟨n, hn, hr⟩ := (Option.any_eq_true _ _).mp hrow
  exact (Option.any_eq_true _ _).mpr ⟨n, hn, decide_eq_true (h _ (of_decide_eq_true hr))⟩

theorem isSome_number_of_kept (numeric : o.isNumeric = true) (known : header ∈ d.headers)
    (ht : t.asNumber? = some x) (hrow : row ∈ d.kept header o t) :
    (number? row header).isSome = true := by
  obtain ⟨r, _, horders⟩ := Operator.exists_orders numeric
  rw [kept_ordering horders known ht] at hrow
  obtain ⟨n, hn, -⟩ := (Option.any_eq_true _ _).mp (List.mem_filter.mp hrow).2
  exact Option.isSome_iff_exists.mpr ⟨n, hn⟩

theorem apply_both_bounds (known : header ∈ d.headers) (ht : t.asNumber? = some x) :
    (d.apply [⟨header, .atLeast, t⟩, ⟨header, .atMost, t⟩]).1.rows =
      d.rows.filter fun row => (number? row header).any (·.same x) := by
  have hsplit := apply_append d [⟨header, .atLeast, t⟩] [⟨header, .atMost, t⟩]
  have hknown : header ∈ (d.apply [⟨header, .atLeast, t⟩]).1.headers := by
    rwa [apply_headers]
  have hfirst := kept_ordering .atLeast known ht
  have hsecond := kept_ordering .atMost hknown ht
  rw [kept] at hfirst hsecond
  rw [← List.singleton_append, hsplit, hsecond, hfirst, List.filter_filter]
  refine List.filter_congr fun row _ => ?_
  cases number? row header with
  | none => rfl
  | some n =>
    rw [Bool.eq_iff_iff]
    simp only [Option.any_some, Bool.and_eq_true, decide_eq_true_iff, Binary.same_iff]
    exact le_antisymm_iff.symm

/-- The orderings by a number. Those above it and those at most at it share out the rows that have a
number, in their order, and so do those below it and those at least at it; no other row is kept. A
value that is no number keeps all rows. Both closed orderings keep the number itself, and a greater
number keeps fewer rows above it and more rows below it. -/
theorem orderings_consistent (known : header ∈ d.headers) (ht : t.asNumber? = some x)
    (hu : u.asNumber? = some y) :
    (∀ o o', o.Shares o' →
      Interleaved (d.kept header o t) (d.kept header o' t) (d.comparable header) ∧
        ∀ row ∈ d.kept header o t, row ∉ d.kept header o' t) ∧
      (∀ o, o.isNumeric = true → ∀ row, number? row header = none → row ∉ d.kept header o t) ∧
      (∀ o, o.isNumeric = true → ∀ v, v.asNumber? = none → (d.apply [⟨header, o, v⟩]).1 = d) ∧
      (d.apply [⟨header, .atLeast, t⟩, ⟨header, .atMost, t⟩]).1.rows =
        d.rows.filter (fun row => (number? row header).any (·.same x)) ∧
      (x.le y = true → (d.kept header .greater u).Sublist (d.kept header .greater t) ∧
        (d.kept header .less t).Sublist (d.kept header .less u) ∧
        (d.kept header .atLeast u).Sublist (d.kept header .atLeast t) ∧
        (d.kept header .atMost t).Sublist (d.kept header .atMost u)) := by
  refine ⟨fun o o' shares => shares_rows shares known ht, fun o numeric row hnone hrow => ?_,
    fun o numeric v hv => ?_, apply_both_bounds known ht, fun hle => ?_⟩
  · have hsome := isSome_number_of_kept numeric known ht hrow
    rw [hnone] at hsome
    cases hsome
  · refine apply_of_not_effective fun effective => ?_
    have hsome := effective.2.2 numeric
    rw [hv] at hsome
    cases hsome
  · have hunits := Binary.le_iff.mp hle
    exact ⟨kept_sublist .greater known ht hu fun n h => lt_of_le_of_lt hunits h,
      kept_sublist .less known hu ht fun n h => lt_of_lt_of_le h hunits,
      kept_sublist .atLeast known ht hu fun n h => le_trans hunits h,
      kept_sublist .atMost known hu ht fun n h => le_trans h hunits⟩

theorem orderings_consistent_quoted_bound :
    let integer (z : Integer) : Members := [("a", .number (.integer z))]
    let one := integer ⟨1, by decide⟩
    let two := integer ⟨2, by decide⟩
    let same : Members := [("a", .string "1.50")]
    let text : Members := [("a", .string "x")]
    let d : Dataset := ⟨["a"], [one, text, two, same, [("a", .null)], []]⟩
    let t : Value := .string " 15e-1"
    let u : Value := .number (.integer ⟨2, by decide⟩)
    let x : Double := ⟨false, 6755399441055744, 1022, by decide, by decide, by decide⟩
    let y : Double := ⟨false, 4503599627370496, 1023, by decide, by decide, by decide⟩
    "a" ∈ d.headers ∧ t.asNumber? = some x ∧ u.asNumber? = some y ∧ x.le y = true ∧
      d.comparable "a" = [one, two, same] ∧
      Interleaved (d.kept "a" .greater t) (d.kept "a" .atMost t) [one, two, same] ∧
      number? text "a" = none ∧ text ∉ d.kept "a" .less t ∧
      (Value.string "x").asNumber? = none ∧ (d.apply [⟨"a", .less, .string "x"⟩]).1 = d ∧
      (d.apply [⟨"a", .atLeast, t⟩, ⟨"a", .atMost, t⟩]).1.rows = [same] ∧
      (d.kept "a" .greater u).Sublist (d.kept "a" .greater t) := by
  intro integer one two same text d t u x y
  have known : "a" ∈ d.headers := List.mem_cons_self
  have ht : t.asNumber? = some x := by decide +kernel
  have hu : u.asNumber? = some y := by decide +kernel
  have hle : x.le y = true := by decide +kernel
  have hvalue : (Value.string "x").asNumber? = none := by decide +kernel
  -- The numbers of the six rows.
  let z : Double := ⟨false, 4503599627370496, 1022, by decide, by decide, by decide⟩
  have hone : number? one "a" = some z := by decide +kernel
  have htext : number? text "a" = none := by decide +kernel
  have htwo : number? two "a" = some y := by decide +kernel
  have hsame : number? same "a" = some x := by decide +kernel
  have hnull : number? [("a", .null)] "a" = none := rfl
  have habsent : number? [] "a" = none := rfl
  have hzx : z.same x = false := by decide +kernel
  have hxx : x.same x = true := by decide +kernel
  have hyx : y.same x = false := by decide +kernel
  have hcomparable : d.comparable "a" = [one, two, same] := by
    simp [comparable, d, hone, htext, htwo, hsame, hnull, habsent]
  obtain ⟨hshares, hnone, hpassed, hboth, hmonotone⟩ := orderings_consistent known ht hu
  have hbetween := (hshares _ _ .greater).1
  rw [hcomparable] at hbetween
  have honly : (d.rows.filter fun row => (number? row "a").any (·.same x)) = [same] := by
    simp [d, hone, htext, htwo, hsame, hnull, habsent, hzx, hxx, hyx]
  exact ⟨known, ht, hu, hle, hcomparable, hbetween, htext, hnone .less rfl text htext, hvalue,
    hpassed .less rfl _ hvalue, hboth.trans honly, (hmonotone hle).1⟩

end Dataset
end RowQuery
