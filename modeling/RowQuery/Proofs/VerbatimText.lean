import Mathlib
import RowQuery.Proofs.Conjunction
import RowQuery.Proofs.LowerCase

/-!
# Texts found as they stand

Cell and value are put in lower case each by itself. The text of a value that stands in the text of
a cell, character by character, is found there unless a capital sigma of it changes: that takes a
sigma at an end of the value and a letter next to it in the cell, for a word that ends with the
value goes on in the cell, or one that begins with the value has begun before.
-/
namespace RowQuery
open Json

namespace Dataset

/-- A value whose text stands in the text of a cell as it is, is found in it, unless a capital sigma
at one of its ends changes its form. -/
theorem verbatim_text_found {d : Dataset} {header : String} {row : Members}
    {cellValue value : Value} {before part after : List Char} (known : header ∈ d.headers)
    (hrow : row ∈ d.rows) (hcell : row.lookup header = some cellValue)
    (hvalue : value.asChars? = some part)
    (occurs : cellValue.asChars? = some (before ++ part ++ after)) :
    let found : Prop := row ∈ (d.apply [⟨header, .contains, value⟩]).1.rows ∧
      row ∉ (d.apply [⟨header, .notContains, value⟩]).1.rows
    (¬Text.SigmaChanges before part after → found) ∧
      (Text.SigmaChanges before part after → Text.SigmaExposed before part after) ∧
      ('Σ' ∉ part → found) ∧
      (Text.startsCased before.reverse = false → Text.startsCased after = false → found) := by
  intro found
  have hnull : value ≠ .null := Value.ne_null_of_asChars? hvalue
  have hholds (o : Operator) :
      Condition.Holds row ⟨header, o, value⟩ ↔ o.Holds (some cellValue) value :=
    Condition.holds_iff_of_lookup hcell (Value.ne_null_of_asChars? occurs)
  have heffective (o : Operator) (ho : o.isNumeric = false) :
      Condition.Effective d.headers ⟨header, o, value⟩ :=
    ⟨known, hnull, fun h => nomatch ho.symm.trans h⟩
  have hmentioned : Operator.Mentioned (some cellValue) value ↔
      Text.lowercaseChars part <:+: Text.lowercaseChars (before ++ part ++ after) := by
    simp [Operator.Mentioned, hvalue, occurs]
  have hfound (h : ¬Text.SigmaChanges before part after) : found := by
    have hoccurs := hmentioned.mpr (Text.lowercaseChars_infix h)
    refine ⟨mem_apply_singleton.mpr ⟨hrow, fun _ => (hholds .contains).mpr hoccurs⟩,
      fun hkept => ?_⟩
    have hpasses := (mem_apply_singleton.mp hkept).2 (heffective .notContains rfl)
    exact (hholds .notContains).mp hpasses hoccurs
  refine ⟨hfound, Text.SigmaChanges.exposed, fun hnone => ?_, fun hbefore hafter => ?_⟩
  · exact hfound fun h => hnone h.exposed.mem
  · refine hfound fun h => ?_
    rcases h.exposed.beside_cased with hcased | hcased
    · exact absurd (hbefore.symm.trans hcased) Bool.false_ne_true
    · exact absurd (hafter.symm.trans hcased) Bool.false_ne_true

theorem verbatim_text_found_between :
    let text := "ΤΟΥ ΟΔΥΣΣΕΩΣ!"
    let row : Members := [("title", .string text)]
    let d : Dataset := ⟨["title"], [row]⟩
    let found (part : String) : Prop :=
      row ∈ (d.apply [⟨"title", .contains, .string part⟩]).1.rows ∧
      row ∉ (d.apply [⟨"title", .notContains, .string part⟩]).1.rows
    "title" ∈ d.headers ∧ row ∈ d.rows ∧ row.lookup "title" = some (.string text) ∧
      text.toList = "ΤΟΥ ".toList ++ "ΟΔΥΣΣΕΩΣ".toList ++ "!".toList ∧ found "ΟΔΥΣΣΕΩΣ" ∧
      text.toList = "ΤΟΥ ΟΔΥ".toList ++ "Σ".toList ++ "ΣΕΩΣ!".toList ∧ found "Σ" := by
  intro text row d found
  have hknown : "title" ∈ d.headers := List.mem_cons_self
  have hrow : row ∈ d.rows := List.mem_cons_self
  have hword : text.toList = "ΤΟΥ ".toList ++ "ΟΔΥΣΣΕΩΣ".toList ++ "!".toList := by decide
  have hletter : text.toList = "ΤΟΥ ΟΔΥ".toList ++ "Σ".toList ++ "ΣΕΩΣ!".toList := by decide
  have hunchanged : ¬Text.SigmaChanges "ΤΟΥ ΟΔΥ".toList "Σ".toList "ΣΕΩΣ!".toList := by
    rintro ⟨p, q, hsplit, hchange⟩
    have hlength : 1 = p.length + (q.length + 1) := by simpa using congrArg List.length hsplit
    obtain rfl : p = [] := List.eq_nil_of_length_eq_zero (by omega)
    obtain rfl : q = [] := List.eq_nil_of_length_eq_zero (by omega)
    exact hchange (by decide +kernel)
  have hpart : (Value.string "ΟΔΥΣΣΕΩΣ").asChars? = some "ΟΔΥΣΣΕΩΣ".toList := rfl
  have hpart' : (Value.string "Σ").asChars? = some "Σ".toList := rfl
  obtain ⟨-, -, -, hfound⟩ := verbatim_text_found hknown hrow rfl hpart (congrArg some hword)
  obtain ⟨hfound', -⟩ := verbatim_text_found hknown hrow rfl hpart' (congrArg some hletter)
  exact ⟨hknown, hrow, rfl, hword, hfound (by decide +kernel) (by decide +kernel), hletter,
    hfound' hunchanged⟩

/-- The name goes on behind the value, so the sigma at the end of the value is not that of the
name. -/
theorem verbatim_text_missed :
    let row : Members := [("name", .string "ΟΔΥΣΣΕΥΣ")]
    let d : Dataset := ⟨["name"], [row]⟩
    "ΟΔΥΣ".toList <:+: "ΟΔΥΣΣΕΥΣ".toList ∧
      (d.apply [⟨"name", .contains, .string "ΟΔΥΣ"⟩]).1.rows = [] ∧
      (d.apply [⟨"name", .notContains, .string "ΟΔΥΣ"⟩]).1.rows = [row] := by
  intro row d
  have hmissed : (Value.string "ΟΔΥΣΣΕΥΣ").mentions (Text.lowercaseChars ['Ο', 'Δ', 'Υ', 'Σ']) =
      false := by
    decide +kernel
  have hcell : cell [("name", .string "ΟΔΥΣΣΕΥΣ")] "name" = some (.string "ΟΔΥΣΣΕΥΣ") := rfl
  have hvalue : (Value.string "ΟΔΥΣ").asChars? = some ['Ο', 'Δ', 'Υ', 'Σ'] := by decide
  refine ⟨by decide, ?_, ?_⟩
  · simp [d, row, apply, narrow, Test.ofCondition?, hvalue, Value.isNull, Test.accepts, Test.holds,
      hcell, hmissed]
  · simp [d, row, apply, narrow, Test.ofCondition?, hvalue, Value.isNull, Test.accepts, Test.holds,
      hcell, hmissed]

end Dataset
end RowQuery
