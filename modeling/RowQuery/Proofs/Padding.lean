import Mathlib
import RowQuery.Dataset.Basic
import RowQuery.Proofs.DistinctNames
import RowQuery.Proofs.FirstSeen
import RowQuery.Proofs.Members

/-!
# Padded records

A dataset made of records has their rows in order and their names in the order of first occurrence,
so its headers are distinct and every name of a row is among them. Under these conditions a row
written out is the row padded: each header once, with the row's own value or null, although the
cells are taken out of the row one after another and the others move.
-/
namespace RowQuery
open Json

namespace Dataset

/-- Headers are distinct, so are the names of a row, and those are among the headers. -/
structure Proper (d : Dataset) : Prop where
  headers_nodup : d.headers.Nodup
  names_nodup : ∀ row ∈ d.rows, row.names.Nodup
  covered : ∀ row ∈ d.rows, row.names ⊆ d.headers

/-- A row with a cell for every header: its own value, or null where it has none. -/
def padded (headers : List String) (row : Members) : Members :=
  headers.map fun h => (h, (row.lookup h).getD .null)

@[simp] theorem names_padded (headers : List String) (row : Members) :
    (padded headers row).names = headers := by
  simp [padded, Members.names, Function.comp_def]

theorem lookup_padded {headers : List String} {h : String} (row : Members) (hh : h ∈ headers) :
    (padded headers row).lookup h = some ((row.lookup h).getD .null) := by
  induction headers with
  | nil => cases hh
  | cons g gs ih =>
    simp only [padded, List.map_cons, Members.lookup_cons_eq]
    by_cases hg : h = g
    · simp [hg]
    · rw [if_neg hg]
      exact ih ((List.mem_cons.mp hh).resolve_left hg)

def fillBy (removal : Members.Removal) (done row : Members) : List String → Members
  | [] => done
  | h :: hs =>
    let (value, rest) := removal.take h row
    fillBy removal (done.insert h (value.getD .null)) rest hs

theorem fill_eq_fillBy (done row : Members) (headers : List String) :
    fill done row headers = fillBy .swapping done row headers := by
  induction headers generalizing done row with
  | nil => rfl
  | cons h hs ih => exact ih _ _

theorem fillBy_eq_append (removal : Members.Removal) {done row : Members} {headers : List String}
    (once : row.names.Nodup) (distinct : headers.Nodup) (fresh : ∀ h ∈ headers, h ∉ done.names) :
    fillBy removal done row headers = done ++ padded headers row := by
  induction headers generalizing done row with
  | nil => simp [fillBy, padded]
  | cons h hs ih =>
    obtain ⟨hnot, rest⟩ := List.nodup_cons.mp distinct
    have hdone : h ∉ done.names := fresh h List.mem_cons_self
    have hfresh : ∀ g ∈ hs, g ∉ (done.insert h ((row.lookup h).getD .null)).names := by
      intro g hg
      rw [Members.names_insert_of_not_mem _ hdone, List.mem_append, List.mem_singleton]
      rintro (hm | rfl)
      · exact fresh g (List.mem_cons_of_mem h hg) hm
      · exact hnot hg
    have hsame : padded hs (removal.take h row).2 = padded hs row := by
      refine List.map_congr_left fun g hg => ?_
      have hne : g ≠ h := fun he => hnot (he ▸ hg)
      rw [removal.take_snd_lookup once hne]
    simp only [fillBy, removal.take_fst]
    rw [ih (removal.take_snd_nodup once h) rest hfresh, hsame,
      Members.insert_of_not_mem _ hdone, List.append_assoc]
    rfl

theorem fillBy_eq_padded (removal : Members.Removal) {headers : List String} {row : Members}
    (distinct : headers.Nodup) (once : row.names.Nodup) :
    fillBy removal [] row headers = padded headers row :=
  fillBy_eq_append removal once distinct fun _ _ => List.not_mem_nil

theorem toRecord_eq_padded {headers : List String} {row : Members} (distinct : headers.Nodup)
    (once : row.names.Nodup) : toRecord headers row = padded headers row :=
  (fill_eq_fillBy [] row headers).trans (fillBy_eq_padded .swapping distinct once)

theorem Proper.toRecords_eq {d : Dataset} (h : d.Proper) :
    d.toRecords = d.rows.map (padded d.headers) :=
  List.map_congr_left fun row hrow => toRecord_eq_padded h.headers_nodup (h.names_nodup row hrow)

theorem Proper.of_sublist {d e : Dataset} (h : d.Proper) (headers : e.headers = d.headers)
    (rows : e.rows.Sublist d.rows) : e.Proper where
  headers_nodup := headers ▸ h.headers_nodup
  names_nodup row hrow := h.names_nodup row (rows.subset hrow)
  covered row hrow := headers ▸ h.covered row (rows.subset hrow)

theorem rowsOf_eq_ok {position : Nat} {done rows : List Members} {records : List Value}
    (h : rowsOf position done records = .ok rows) :
    ∃ rest, rows = done.reverse ++ rest ∧ records = rest.map .object := by
  induction records generalizing position done with
  | nil =>
    cases h
    exact ⟨[], by simp, rfl⟩
  | cons r records ih =>
    cases r with
    | object row =>
      obtain ⟨rest, hrows, hrecords⟩ := ih h
      exact ⟨row :: rest, by simpa using hrows, by rw [hrecords]; rfl⟩
    | _ => cases h

theorem rowsOf_map_object (position : Nat) (done rows : List Members) :
    rowsOf position done (rows.map .object) = .ok (done.reverse ++ rows) := by
  induction rows generalizing position done with
  | nil => simp [rowsOf]
  | cons row rows ih => simp [rowsOf, ih]

theorem ofRecords_map_object (rows : List Members) :
    ofRecords (rows.map .object) = .ok ⟨headersOf rows, rows⟩ := by
  simp [ofRecords, rowsOf_map_object, bind, Except.bind, pure, Except.pure]

theorem flatMap_memberNames (rows : List Members) :
    (rows.map Value.object).flatMap Value.memberNames = rows.flatMap Members.names := by
  simp [List.flatMap_map, Value.memberNames]

theorem ofRecords_eq_ok {records : List Value} {d : Dataset} (h : ofRecords records = .ok d) :
    records = d.rows.map .object ∧ FirstSeen (records.flatMap Value.memberNames) d.headers := by
  cases hrows : rowsOf 0 [] records with
  | error e => simp [ofRecords, hrows, bind, Except.bind] at h
  | ok rows =>
    obtain ⟨rest, hrest, hrecords⟩ := rowsOf_eq_ok hrows
    simp only [ofRecords, hrows, bind, Except.bind, pure, Except.pure, Except.ok.injEq] at h
    have hd : d.rows = rest := by rw [← h]; simpa using hrest
    refine ⟨by rw [hd, hrecords], ?_⟩
    rw [hrecords, flatMap_memberNames, ← hd, ← h]
    exact firstSeen_eraseDups _

theorem proper_ofRecords {records : List Value} {d : Dataset} (h : ofRecords records = .ok d)
    (once : ∀ r ∈ records, r.memberNames.Nodup) : d.Proper := by
  obtain ⟨hrecords, hfirst⟩ := ofRecords_eq_ok h
  have hmem : ∀ row ∈ d.rows, Value.object row ∈ records := fun row hrow => by
    rw [hrecords]; exact List.mem_map_of_mem hrow
  refine ⟨hfirst.nodup, fun row hrow => once _ (hmem row hrow), fun row hrow name hname => ?_⟩
  exact (hfirst.mem_iff name).mpr (List.mem_flatMap.mpr ⟨_, hmem row hrow, hname⟩)

end Dataset
end RowQuery
