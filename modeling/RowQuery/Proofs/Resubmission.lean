import Mathlib
import RowQuery.Proofs.Padding
import RowQuery.Proofs.Selection

/-!
# Missing cells, null cells, and records sent again

What a row satisfies and how it is written out depend on its cells alone, and a null is no cell. So
padding and selecting change places: the records written out are the padded records that the filter
keeps. Records that are padded have their own headers again in the same order, and selecting twice
keeps what selecting once does.
-/
namespace RowQuery
open Json

namespace Dataset
variable {headers : List String} {rows rows' : List Members} {row row' : Members} {fs : Filters}

/-- The rows differ in no cell: where one has none, the other has none or a null. -/
def SameCells (row row' : Members) : Prop :=
  ∀ name, (row.lookup name).getD .null = (row'.lookup name).getD .null

theorem cell_eq (row : Members) (name : String) :
    cell row name = (some ((row.lookup name).getD .null)).filter fun v => !v.isNull := by
  cases h : row.lookup name with
  | none => rw [cell, h]; rfl
  | some v => rw [cell, h]; rfl

theorem SameCells.cell_eq (h : SameCells row row') (name : String) :
    cell row name = cell row' name := by
  rw [Dataset.cell_eq, h name, ← Dataset.cell_eq]

theorem cell_padded (row : Members) {name : String} (h : name ∈ headers) :
    cell (padded headers row) name = cell row name := by
  rw [cell, lookup_padded row h, cell]
  cases row.lookup name with
  | none => rfl
  | some v => rfl

theorem SameCells.padded_eq (h : SameCells row row') (headers : List String) :
    padded headers row = padded headers row' := by
  refine List.map_congr_left fun name _ => ?_
  rw [h name]

theorem padded_padded (headers : List String) (row : Members) :
    padded headers (padded headers row) = padded headers row := by
  refine List.map_congr_left fun name hname => ?_
  rw [lookup_padded row hname]
  rfl

theorem selected_padded_iff :
    Selected headers fs (padded headers row) ↔ Selected headers fs row := by
  refine forall_congr' fun c => imp_congr_right fun _ => ?_
  constructor
  · intro h heffective
    have hholds := h heffective
    rwa [Condition.holds_iff, cell_padded row heffective.1, ← Condition.holds_iff] at hholds
  · intro h heffective
    rw [Condition.holds_iff, cell_padded row heffective.1, ← Condition.holds_iff]
    exact h heffective

theorem Proper.apply {d : Dataset} (h : d.Proper) (fs : Filters) : (d.apply fs).1.Proper := by
  rw [apply_eq]
  exact h.of_sublist rfl List.filter_sublist

theorem Proper.toRecords_apply {d : Dataset} (h : d.Proper) (fs : Filters) :
    (d.apply fs).1.toRecords = d.toRecords.filter fun row => Selected d.headers fs row := by
  rw [(h.apply fs).toRecords_eq, h.toRecords_eq, apply_eq, List.filter_map]
  refine congrArg _ (List.filter_congr fun row _ => ?_)
  rw [Function.comp, decide_eq_decide]
  exact selected_padded_iff.symm

theorem headersOf_of_names (distinct : headers.Nodup) (some : rows ≠ [])
    (names : ∀ row ∈ rows, row.names = headers) : headersOf rows = headers := by
  cases rows with
  | nil => exact absurd rfl some
  | cons row rows =>
    have hsub : rows.flatMap Members.names ⊆ row.names := by
      intro name hname
      obtain ⟨other, hother, hmem⟩ := List.mem_flatMap.mp hname
      rw [names other (List.mem_cons_of_mem row hother)] at hmem
      rwa [names row List.mem_cons_self]
    rw [headersOf, List.flatMap_cons, eraseDups_append_of_subset hsub, names row List.mem_cons_self,
      eraseDups_of_nodup distinct]

theorem select_filled (distinct : headers.Nodup) (filled : ∀ row ∈ rows, padded headers row = row) :
    ∃ d, ofRecords (rows.map .object) = .ok d ∧ (rows ≠ [] → d.headers = headers) ∧
      ∀ fs, (d.apply fs).1.toRecords = rows.filter fun row => Selected headers fs row := by
  have names : ∀ row ∈ rows, row.names = headers := fun row hrow => by
    rw [← filled row hrow, names_padded]
  refine ⟨_, ofRecords_map_object rows, fun some => headersOf_of_names distinct some names,
    fun fs => ?_⟩
  by_cases hnone : rows = []
  · subst hnone
    rw [apply_eq]
    rfl
  · rw [headersOf_of_names distinct hnone names]
    have hproper : Proper ⟨headers, rows⟩ := by
      refine ⟨distinct, fun row hrow => ?_, fun row hrow => ?_⟩
      · rw [names row hrow]
        exact distinct
      · rw [names row hrow]
        exact List.Subset.refl headers
    have hrows : toRecords ⟨headers, rows⟩ = rows := by
      rw [hproper.toRecords_eq]
      exact (List.map_congr_left filled).trans (List.map_id rows)
    rw [hproper.toRecords_apply, hrows]

theorem Proper.filled {d : Dataset} (h : d.Proper) :
    ∀ row ∈ d.toRecords, padded d.headers row = row := by
  intro row hrow
  rw [h.toRecords_eq] at hrow
  obtain ⟨source, -, rfl⟩ := List.mem_map.mp hrow
  exact padded_padded d.headers source

theorem toRecords_of_sameCells {d d' : Dataset} (h : d.Proper) (h' : d'.Proper)
    (headers : d'.headers = d.headers) (cells : List.Forall₂ SameCells d.rows d'.rows) :
    d'.toRecords = d.toRecords := by
  rw [h.toRecords_eq, h'.toRecords_eq, headers]
  generalize d.rows = rows at cells
  generalize d'.rows = rows' at cells
  induction cells with
  | nil => rfl
  | cons hrow _ ih => rw [List.map_cons, List.map_cons, ih, hrow.padded_eq]

/-- Records may be padded first and selected from afterwards; records that differ only in what
stands for no cell are answered alike; and an answer that is sent again is its own answer. The
records are maps, as everything that was read is (`Value.memberNames_nodup_of_read`). -/
theorem resubmission_laws {rows : List Members} (once : ∀ row ∈ rows, row.names.Nodup)
    (fs : Filters) : ∃ d, ofRecords (rows.map .object) = .ok d ∧
      let out := (d.apply fs).1.toRecords
      (∃ d', ofRecords (d.toRecords.map .object) = .ok d' ∧ d'.headers = d.headers ∧
        (d'.apply fs).1.toRecords = out) ∧
      (∀ rows' d', (∀ row ∈ rows', row.names.Nodup) → ofRecords (rows'.map .object) = .ok d' →
        d'.headers = d.headers → List.Forall₂ SameCells rows rows' →
        (d'.apply fs).1.toRecords = out) ∧
      ∃ d', ofRecords (out.map .object) = .ok d' ∧ (out ≠ [] → d'.headers = d.headers) ∧
        (d'.apply fs).1.toRecords = out := by
  have hproper {rows : List Members} (once : ∀ row ∈ rows, row.names.Nodup) :
      Proper ⟨headersOf rows, rows⟩ := by
    refine proper_ofRecords (ofRecords_map_object rows) fun r hr => ?_
    obtain ⟨row, hrow, rfl⟩ := List.mem_map.mp hr
    exact once row hrow
  have distinct : (headersOf rows).Nodup := (hproper once).headers_nodup
  have hfilled := (hproper once).filled
  refine ⟨_, ofRecords_map_object rows, ?_, fun rows' d' once' hd' hheaders hcells => ?_, ?_⟩
  · obtain ⟨d', hd', hheaders, hselect⟩ := select_filled distinct hfilled
    refine ⟨d', hd', ?_, ?_⟩
    · cases rows with
      | nil => exact congrArg Dataset.headers (Except.ok.inj (hd'.symm.trans rfl))
      | cons row rows => exact hheaders (List.cons_ne_nil _ _)
    · rw [hselect, (hproper once).toRecords_apply]
  · obtain rfl := Except.ok.inj ((ofRecords_map_object rows').symm.trans hd')
    have hsame := toRecords_of_sameCells (hproper once) (hproper once') hheaders hcells
    rw [(hproper once').toRecords_apply, (hproper once).toRecords_apply, hsame, hheaders]
  · rw [(hproper once).toRecords_apply]
    -- What was written out is filled, so the second pass changes none of it.
    have hkept : ∀ row ∈ (toRecords ⟨headersOf rows, rows⟩).filter
        fun row => Selected (headersOf rows) fs row, padded (headersOf rows) row = row :=
      fun row hrow => hfilled row (List.mem_of_mem_filter hrow)
    obtain ⟨d', hd', hheaders, hselect⟩ := select_filled distinct hkept
    refine ⟨d', hd', hheaders, ?_⟩
    rw [hselect, List.filter_filter]
    exact List.filter_congr fun row _ => Bool.and_self _

theorem resubmission_laws_null_for_missing :
    let rows : List Members := [[("a", .string "x")], [("b", .bool true), ("a", .null)]]
    let rows' : List Members := [[("a", .string "x"), ("b", .null)], [("b", .bool true)]]
    let fs : Filters := [⟨"a", .notEqual, .string "x"⟩]
    let out : List Members := [[("a", .null), ("b", .bool true)]]
    (∀ row ∈ rows, row.names.Nodup) ∧ (∀ row ∈ rows', row.names.Nodup) ∧
      List.Forall₂ SameCells rows rows' ∧
      ∃ d d' d'', ofRecords (rows.map .object) = .ok d ∧ ofRecords (rows'.map .object) = .ok d' ∧
        ofRecords (out.map .object) = .ok d'' ∧ d'.headers = d.headers ∧ d''.headers = d.headers ∧
        (d.apply fs).1.toRecords = out ∧ (d'.apply fs).1.toRecords = out ∧
        (d''.apply fs).1.toRecords = out := by
  intro rows rows' fs out
  have once : ∀ row ∈ rows, row.names.Nodup := by decide
  have once' : ∀ row ∈ rows', row.names.Nodup := by decide
  have hcells : List.Forall₂ SameCells rows rows' := by
    refine .cons (fun name => ?_) (.cons (fun name => ?_) .nil)
    · by_cases h : name = "b" <;> simp [Members.lookup_cons_eq, h]
    · by_cases h : name = "a" <;> simp [Members.lookup_cons_eq, h]
  obtain ⟨d, hd, -, hsame, d'', hd'', hheaders, hagain⟩ := resubmission_laws once fs
  obtain rfl := Except.ok.inj ((ofRecords_map_object rows).symm.trans hd)
  have hout : (apply ⟨headersOf rows, rows⟩ fs).1.toRecords = out := rfl
  rw [hout] at hsame hd'' hheaders hagain
  exact ⟨once, once', hcells, _, _, d'', hd, ofRecords_map_object rows', hd'', rfl,
    hheaders (List.cons_ne_nil _ _), hout,
    hsame rows' _ once' (ofRecords_map_object rows') rfl hcells, hagain⟩

end Dataset
end RowQuery
