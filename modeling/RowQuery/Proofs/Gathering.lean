import Mathlib
import RowQuery.Proofs.Answers
import RowQuery.Proofs.Conjunction
import RowQuery.Proofs.Resubmission

/-!
# Datasets from their making to their writing out

Records can be read in one pass that notes each name it has not seen. The set of names seen stays in
step with the headers, so the pass ends with the dataset of the records, or with the first record
that is no object. From there on a dataset is proper: a filter keeps it so, and a proper dataset is
written out alike by every way to take cells out of a row.
-/
namespace RowQuery
open Json

namespace Dataset

/-- What a pass over records has gathered so far; `seen` is the set of the headers. -/
structure Gathered where
  headers : List String
  seen : Std.HashSet String
  rows : List Members

namespace Gathered

def note (g : Gathered) (name : String) : Gathered :=
  if g.seen.contains name then g
  else { g with headers := g.headers ++ [name], seen := g.seen.insert name }

def add (g : Gathered) (row : Members) : Gathered :=
  let g := row.names.foldl note g
  { g with rows := g.rows ++ [row] }

def addAll (g : Gathered) (position : Nat) : List Value → Except NotAnObject Gathered
  | [] => .ok g
  | .object row :: records => (g.add row).addAll (position + 1) records
  | _ :: _ => .error ⟨position⟩

def dataset (g : Gathered) : Dataset := ⟨g.headers, g.rows⟩

end Gathered

def gather (records : List Value) : Except NotAnObject Dataset :=
  (Gathered.addAll ⟨[], ∅, []⟩ 0 records).map Gathered.dataset

namespace Gathered

structure Noted (g : Gathered) (names : List String) : Prop where
  headers : g.headers = names.eraseDups
  seen : ∀ name, g.seen.contains name = true ↔ name ∈ names

variable {g : Gathered} {names : List String}

theorem Noted.note (h : g.Noted names) (name : String) : (g.note name).Noted (names ++ [name]) := by
  rw [Gathered.note]
  by_cases hseen : g.seen.contains name = true
  · have hmem := (h.seen name).mp hseen
    rw [if_pos hseen]
    refine ⟨by rw [h.headers, eraseDups_append_singleton, if_pos hmem], fun other => ?_⟩
    rw [h.seen, List.mem_append, List.mem_singleton]
    exact ⟨.inl, fun hother => hother.elim id fun he => he ▸ hmem⟩
  · have hnew := mt (h.seen name).mpr hseen
    rw [if_neg hseen]
    refine ⟨?_, fun other => ?_⟩
    · rw [eraseDups_append_singleton, if_neg hnew, ← h.headers]
    · simp only [Std.HashSet.contains_insert, Bool.or_eq_true, beq_iff_eq, h.seen, List.mem_append,
        List.mem_singleton]
      exact or_comm.trans (or_congr_right eq_comm)

theorem rows_note (g : Gathered) (name : String) : (g.note name).rows = g.rows := by
  rw [Gathered.note]
  split <;> rfl

theorem Noted.foldl_note (h : g.Noted names) (more : List String) :
    (more.foldl Gathered.note g).Noted (names ++ more) ∧
      (more.foldl Gathered.note g).rows = g.rows := by
  induction more generalizing g names with
  | nil => exact ⟨by simpa using h, rfl⟩
  | cons name more ih =>
    obtain ⟨hnoted, hrows⟩ := ih (h.note name)
    rw [List.append_assoc] at hnoted
    exact ⟨hnoted, hrows.trans (rows_note g name)⟩

theorem Noted.add (h : g.Noted names) (row : Members) :
    (g.add row).Noted (names ++ row.names) ∧ (g.add row).rows = g.rows ++ [row] := by
  obtain ⟨⟨headers, seen⟩, hrows⟩ := h.foldl_note row.names
  exact ⟨⟨headers, seen⟩, congrArg (· ++ [row]) hrows⟩

theorem Noted.addAll (h : g.Noted (g.rows.flatMap Members.names)) (position : Nat)
    (records : List Value) : (g.addAll position records).map dataset =
      (rowsOf position g.rows.reverse records).map fun rows => ⟨headersOf rows, rows⟩ := by
  -- The set and the headers stay in step with the names of the rows so far.
  induction records generalizing g position with
  | nil =>
    simp only [Gathered.addAll, rowsOf, Except.map, dataset, h.headers, List.reverse_reverse]
    rfl
  | cons r records ih =>
    cases r with
    | object row =>
      obtain ⟨hnoted, hrows⟩ := h.add row
      have hnames : g.rows.flatMap Members.names ++ Members.names row =
          (g.add row).rows.flatMap Members.names := by simp [hrows]
      rw [Gathered.addAll, rowsOf, ih (hnames ▸ hnoted), hrows, List.reverse_append]
      rfl
    | _ => rfl

end Gathered

theorem gather_eq_ofRecords (records : List Value) : gather records = ofRecords records := by
  have hempty : Gathered.Noted ⟨[], ∅, []⟩ [] := ⟨rfl, fun name => by simp⟩
  rw [gather, hempty.addAll, ofRecords]
  cases h : rowsOf 0 [] records <;> simp [h, Except.map, bind, Except.bind, pure, Except.pure]

theorem exists_ofRecords_iff {records : List Value} :
    (∃ d, ofRecords records = .ok d) ↔ ∀ r ∈ records, ∃ row, r = .object row := by
  constructor
  · rintro ⟨d, hd⟩ r hr
    rw [(ofRecords_eq_ok hd).1] at hr
    obtain ⟨row, -, rfl⟩ := List.mem_map.mp hr
    exact ⟨row, rfl⟩
  · refine fun h => exists_ofRecords fun i => ?_
    rintro ⟨r, hr, hnone⟩
    obtain ⟨row, rfl⟩ := h r (List.mem_of_getElem? hr)
    cases hnone

theorem ofRecords_eq_error_iff {records : List Value} {i : Nat} :
    ofRecords records = .error ⟨i⟩ ↔ IsLeast {i | Misfit records i} i := by
  refine ⟨fun h => ofRecords_eq_error h, fun h => ?_⟩
  cases hd : ofRecords records with
  | ok d => exact absurd h.1 (not_misfit_of_ok hd i)
  | error e => rw [← (ofRecords_eq_error hd).unique h]

/-- Records make a dataset if all are objects, and else the first that is none is named; a pass that
remembers the names seen comes to the same. The dataset has the records as its rows, and their names
in the order of first occurrence. Where headers and the names of each row are distinct and the
headers cover the rows, filters keep it so, and each row is written out with all headers in order
and its own values, in whatever order a row is left when a cell is taken out. -/
theorem proper_throughout :
    (∀ records : List Value,
      gather records = ofRecords records ∧
      ((∃ d, ofRecords records = .ok d) ↔ ∀ r ∈ records, ∃ row, r = .object row) ∧
      (∀ i, ofRecords records = .error ⟨i⟩ ↔ IsLeast {i | Misfit records i} i) ∧
      ∀ d, ofRecords records = .ok d →
        d.rows.map .object = records ∧
        FirstSeen (d.rows.flatMap Members.names) d.headers ∧
        ((∀ row ∈ d.rows, row.names.Nodup) → d.Proper)) ∧
    ∀ d : Dataset, d.Proper →
      (∀ fs, (d.apply fs).1.Proper ∧ (d.apply fs).1.headers = d.headers) ∧
      (d.toRecords = d.rows.map fun row => d.headers.map fun h => (h, (row.lookup h).getD .null)) ∧
      ∀ removal, d.rows.map (fillBy removal [] · d.headers) = d.toRecords := by
  refine ⟨fun records => ⟨gather_eq_ofRecords records, exists_ofRecords_iff,
    fun _ => ofRecords_eq_error_iff, fun d hd => ?_⟩,
    fun d hd => ⟨fun fs => ?_, ?_, fun removal => ?_⟩⟩
  · obtain ⟨hrecords, hfirst⟩ := ofRecords_eq_ok hd
    have hseen := hfirst
    rw [hrecords, flatMap_memberNames] at hseen
    refine ⟨hrecords.symm, hseen, fun once => proper_ofRecords hd fun r hr => ?_⟩
    rw [hrecords] at hr
    obtain ⟨row, hrow, rfl⟩ := List.mem_map.mp hr
    exact once row hrow
  · exact ⟨hd.apply fs, apply_headers d fs⟩
  · exact hd.toRecords_eq
  · rw [hd.toRecords_eq]
    exact List.map_congr_left fun row hrow =>
      fillBy_eq_padded removal hd.headers_nodup (hd.names_nodup row hrow)

theorem proper_throughout_members_moved :
    let row : Members := [("b", .string "r"), ("a", .bool true), ("c", .string "q")]
    let rows : List Members := [[("b", .string "x")], row]
    let d : Dataset := ⟨["b", "a", "c"], rows⟩
    let out : List Members := [[("b", .string "x"), ("a", .null), ("c", .null)], row]
    (∀ row ∈ rows, row.names.Nodup) ∧ ofRecords (rows.map .object) = .ok d ∧
      gather (rows.map .object) = .ok d ∧ d.Proper ∧
      (row.takeOut "b").2.names = ["c", "a"] ∧
      Members.names (Members.Removal.shifting.take "b" row).2 = ["a", "c"] ∧
      d.toRecords = out ∧ d.rows.map (fillBy .shifting [] · d.headers) = out ∧
      ofRecords [.object row, .null, .bool true] = .error ⟨1⟩ := by
  intro row rows d out
  have once : ∀ row ∈ rows, row.names.Nodup := by decide
  have hmade : ofRecords (rows.map .object) = .ok d := rfl
  obtain ⟨hrecords, hproper⟩ := proper_throughout
  obtain ⟨hgather, -, -, hdataset⟩ := hrecords (rows.map .object)
  have hd : d.Proper := (hdataset d hmade).2.2 once
  obtain ⟨-, hout, hremoval⟩ := hproper d hd
  have hwritten : d.toRecords = out := hout
  exact ⟨once, hmade, hgather.trans hmade, hd, rfl, rfl, hwritten,
    (hremoval .shifting).trans hwritten, rfl⟩

end Dataset
end RowQuery
