import Mathlib
import RowQuery.Proofs.Complements
import RowQuery.Proofs.LowerCase

/-!
# Letters in either case

The lower-case form of a text is the same for both cases of an ASCII letter, and so is what the
letter is to its neighbours: in both cases it is cased, and in neither passed over. So a text in
which some of these letters change case keeps its lower-case form, the forms of its sigmas included,
and a search keeps the rows it kept, whichever of the letters change in the text sought or in the
cells.
-/
namespace RowQuery
open Json

namespace Text
variable {c c' : Char} {before before' xs ys : List Char}

inductive SameLetter : Char → Char → Prop
  | same (c : Char) : SameLetter c c
  | recased {c c' : Char} : c.isAlpha = true → c'.isAlpha = true → c.toLower = c'.toLower →
      SameLetter c c'

abbrev Recased : List Char → List Char → Prop := List.Forall₂ SameLetter

theorem eq_ofNat_of_isUpper (h : c.isUpper = true) : ∃ i : Fin 26, c = Char.ofNat (65 + i) := by
  have hbounds : 65 ≤ c.toNat ∧ c.toNat ≤ 90 := by
    simpa [Char.isUpper, UInt32.le_iff_toNat_le] using h
  refine ⟨⟨c.toNat - 65, by omega⟩, ?_⟩
  rw [show 65 + (c.toNat - 65) = c.toNat by omega, Char.ofNat_toNat]

theorem toNat_lt_of_isAlpha (h : c.isAlpha = true) : c.toNat < 128 := by
  have hbounds : 65 ≤ c.toNat ∧ c.toNat ≤ 90 ∨ 97 ≤ c.toNat ∧ c.toNat ≤ 122 := by
    simpa [Char.isAlpha, Char.isUpper, Char.isLower, UInt32.le_iff_toNat_le] using h
  omega

theorem eq_toLower_of_capitals {α : Type} {f : Char → α}
    (capitals : ∀ i : Fin 26, f (Char.ofNat (65 + i)).toLower = f (Char.ofNat (65 + i)))
    (c : Char) : f c.toLower = f c := by
  cases hupper : c.isUpper with
  | true =>
    obtain ⟨i, rfl⟩ := eq_ofNat_of_isUpper hupper
    exact capitals i
  | false =>
    have hlower : c.toLower = c := by simp_all [Char.isUpper, Char.toLower]
    rw [hlower]

theorem isCased_toLower (c : Char) : isCased c.toLower = isCased c :=
  eq_toLower_of_capitals (by decide +kernel) c

theorem isCaseIgnorable_toLower (c : Char) : isCaseIgnorable c.toLower = isCaseIgnorable c :=
  eq_toLower_of_capitals (by decide +kernel) c

theorem SameLetter.toLower_eq (h : SameLetter c c') : c.toLower = c'.toLower := by
  cases h with
  | same => rfl
  | recased _ _ h => exact h

theorem SameLetter.isCased_eq (h : SameLetter c c') : isCased c = isCased c' := by
  rw [← isCased_toLower c, h.toLower_eq, isCased_toLower]

theorem SameLetter.isCaseIgnorable_eq (h : SameLetter c c') :
    isCaseIgnorable c = isCaseIgnorable c' := by
  rw [← isCaseIgnorable_toLower c, h.toLower_eq, isCaseIgnorable_toLower]

theorem startsCased_recased (h : Recased xs ys) : startsCased xs = startsCased ys := by
  induction h with
  | nil => rfl
  | @cons x y xs ys hxy _ ih =>
    cases hx : isCaseIgnorable x with
    | true =>
      have hy : isCaseIgnorable y = true := hxy.isCaseIgnorable_eq ▸ hx
      simpa [startsCased, hx, hy] using ih
    | false =>
      have hy : isCaseIgnorable y = false := hxy.isCaseIgnorable_eq ▸ hx
      simpa [startsCased, hx, hy] using hxy.isCased_eq

theorem lowercaseIn_of_isAlpha (h : c.isAlpha = true) (before after : List Char) :
    lowercaseIn before c after = [c.toLower] := by
  have hsmall : c.toNat < 128 := toNat_lt_of_isAlpha h
  have hsigma : c ≠ 'Σ' := by
    rintro rfl
    exact absurd hsmall (by decide)
  rw [lowercaseIn, if_neg hsigma, lowercaseChar, if_pos hsmall]

/-- A character among others is lower-cased alike when it or they change case. -/
theorem lowercaseIn_recased (hc : SameLetter c c') (hbefore : Recased before before')
    (hafter : Recased xs ys) : lowercaseIn before c xs = lowercaseIn before' c' ys := by
  cases hc with
  | same =>
    rw [lowercaseIn, lowercaseIn, lowercaseSigma, lowercaseSigma, startsCased_recased hbefore,
      startsCased_recased hafter]
  | recased hletter hletter' hlower =>
    rw [lowercaseIn_of_isAlpha hletter, lowercaseIn_of_isAlpha hletter', hlower]

theorem lowercaseAmid_recased (hbefore : Recased before before') (h : Recased xs ys) :
    lowercaseAmid before xs [] = lowercaseAmid before' ys [] := by
  induction h generalizing before before' with
  | nil => rfl
  | cons hxy hrest ih =>
    rw [lowercaseAmid, lowercaseAmid, List.append_nil, List.append_nil,
      lowercaseIn_recased hxy hbefore hrest, ih (hbefore.cons hxy)]

theorem lowercaseChars_recased (h : Recased xs ys) : lowercaseChars xs = lowercaseChars ys := by
  rw [lowercaseChars_eq, lowercaseChars_eq, lowercaseAmid_recased .nil h]

end Text

/-- The rows kept are those at the positions, and no others. -/
structure KeptAt (positions : List Nat) (rows kept : List Members) : Prop where
  increasing : positions.Pairwise (· < ·)
  standing : List.Forall₂ (fun p row => rows[p]? = some row) positions kept
  complete : ∀ p row, rows[p]? = some row → row ∈ kept → p ∈ positions

theorem keptAt_filter (p : Members → Bool) (rows : List Members) :
    KeptAt (rows.findIdxs p) rows (rows.filter p) where
  increasing := List.pairwise_findIdxs
  standing := by
    refine List.forall₂_iff_get.mpr ⟨?_, fun i hi hi' => ?_⟩
    · rw [List.length_findIdxs, List.countP_eq_length_filter]
    · rw [List.get_eq_getElem, List.get_eq_getElem,
        List.getElem_filter_eq_getElem_getElem_findIdxs hi']
      exact List.getElem?_eq_getElem _
  complete i row hrow hkept := by
    obtain ⟨hi, rfl⟩ := List.getElem?_eq_some_iff.mp hrow
    exact (List.mem_findIdxs_iff_pos_getElem hi).mpr (List.mem_filter.mp hkept).2

theorem findIdxs_congr {p q : Members → Bool} {rows rows' : List Members} {start : Nat}
    (h : List.Forall₂ (fun row row' => p row = q row') rows rows') :
    rows.findIdxs p start = rows'.findIdxs q start := by
  induction h generalizing start with
  | nil => rfl
  | cons hrow _ ih => rw [List.findIdxs_cons, List.findIdxs_cons, hrow, ih]

/-- The two cells are the same, or texts that differ in the case of ASCII letters. -/
inductive CellRecased : Option Value → Option Value → Prop
  | same (cell : Option Value) : CellRecased cell cell
  | text {s t : String} : Text.Recased s.toList t.toList →
      CellRecased (some (.string s)) (some (.string t))

namespace Dataset
variable {d d' : Dataset} {header : String} {row row' : Members} {v w : Option Value}
  {s t : String}

theorem mentioned_string_iff : Operator.Mentioned v (.string s) ↔
    ∃ c ∈ v, ∃ text ∈ c.asChars?,
      Text.lowercaseChars s.toList <:+: Text.lowercaseChars text := by
  simp [Operator.Mentioned, Value.asChars?]

theorem mentioned_recased (hcell : CellRecased v w) (hvalue : Text.Recased s.toList t.toList) :
    Operator.Mentioned v (.string s) ↔ Operator.Mentioned w (.string t) := by
  rw [mentioned_string_iff, mentioned_string_iff, Text.lowercaseChars_recased hvalue]
  cases hcell with
  | same => exact Iff.rfl
  | text h => simp [Value.asChars?, Text.lowercaseChars_recased h]

theorem cellRecased_cell (h : CellRecased (row.lookup header) (row'.lookup header)) :
    CellRecased (cell row header) (cell row' header) := by
  rw [cell, cell]
  generalize row.lookup header = v at h
  generalize row'.lookup header = w at h
  cases h with
  | same => exact .same _
  | text h => exact .text h

inductive Searches : Operator → Prop
  | contains : Searches .contains
  | notContains : Searches .notContains

theorem Searches.effective_iff {o : Operator} (h : Searches o) (headers : List String) :
    Condition.Effective headers ⟨header, o, .string s⟩ ↔ header ∈ headers := by
  have hnumeric : o.isNumeric = false := by cases h <;> rfl
  refine ⟨And.left, fun hknown => ⟨hknown, nofun, fun hordered => ?_⟩⟩
  exact absurd (hnumeric.symm.trans hordered) Bool.false_ne_true

theorem Searches.holds_recased {o : Operator} (h : Searches o) (hcell : CellRecased v w)
    (hvalue : Text.Recased s.toList t.toList) :
    o.Holds v (.string s) ↔ o.Holds w (.string t) := by
  cases h with
  | contains => exact mentioned_recased hcell hvalue
  | notContains => exact not_congr (mentioned_recased hcell hvalue)

/-- A search keeps the same rows when letters of the text that is sought change case, and letters
of the texts that are searched. The cells of other columns may be any. -/
theorem letter_case_ignored {d d' : Dataset} {header s t : String} {o : Operator}
    (search : Searches o) (headers : d.headers = d'.headers)
    (value : Text.Recased s.toList t.toList)
    (cells : List.Forall₂ (fun row row' => CellRecased (row.lookup header) (row'.lookup header))
      d.rows d'.rows) :
    ∃ positions, KeptAt positions d.rows (d.kept header o (.string s)) ∧
      KeptAt positions d'.rows (d'.kept header o (.string t)) := by
  have hselected {row row' : Members}
      (h : CellRecased (row.lookup header) (row'.lookup header)) :
      Selected d.headers [⟨header, o, .string s⟩] row ↔
        Selected d'.headers [⟨header, o, .string t⟩] row' := by
    rw [Selected, Selected, List.forall_mem_singleton, List.forall_mem_singleton,
      search.effective_iff, search.effective_iff, headers, Condition.holds_iff,
      Condition.holds_iff]
    exact imp_congr_right fun _ => search.holds_recased (cellRecased_cell h) value
  have hpositions : d.rows.findIdxs (Selected d.headers [⟨header, o, .string s⟩] ·) =
      d'.rows.findIdxs (Selected d'.headers [⟨header, o, .string t⟩] ·) :=
    findIdxs_congr (cells.imp fun _ _ h => decide_eq_decide.mpr (hselected h))
  rw [kept, kept, apply_eq, apply_eq]
  refine ⟨_, keptAt_filter _ d.rows, ?_⟩
  rw [hpositions]
  exact keptAt_filter _ d'.rows

theorem letter_case_ignored_beside_sigma :
    let d : Dataset := ⟨["t"], [[("t", .string "ΑΣa İ")], [("t", .bool true)], []]⟩
    let d' : Dataset := ⟨["t"], [[("t", .string "ΑΣA İ")], [("t", .bool true)], []]⟩
    Searches .notContains ∧ d.headers = d'.headers ∧ Text.Recased "Σa".toList "ΣA".toList ∧
      List.Forall₂ (fun row row' => CellRecased (row.lookup "t") (row'.lookup "t"))
        d.rows d'.rows ∧
      Operator.Mentioned (some (.string "ΑΣa İ")) (.string "Σa") ∧
      ∃ positions, KeptAt positions d.rows (d.kept "t" .notContains (.string "Σa")) ∧
        KeptAt positions d'.rows (d'.kept "t" .notContains (.string "ΣA")) := by
  intro d d'
  have hletter : Text.SameLetter 'a' 'A' := .recased rfl rfl rfl
  have hvalue : Text.Recased "Σa".toList "ΣA".toList := .cons (.same _) (.cons hletter .nil)
  have htext : Text.Recased "ΑΣa İ".toList "ΑΣA İ".toList :=
    .cons (.same _) (.cons (.same _) (.cons hletter (.cons (.same _) (.cons (.same _) .nil))))
  have hcells : List.Forall₂ (fun row row' => CellRecased (row.lookup "t") (row'.lookup "t"))
      d.rows d'.rows := .cons (.text htext) (.cons (.same _) (.cons (.same _) .nil))
  exact ⟨.notContains, rfl, hvalue, hcells, by decide +kernel,
    letter_case_ignored .notContains rfl hvalue hcells⟩

end Dataset
end RowQuery
