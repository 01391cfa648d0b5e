import Mathlib
import RowQuery.Proofs.Padding
import RowQuery.Proofs.Selection
import RowQuery.Query

/-!
# Where the rows of an answer come from

Whatever a model replies, an answer is made of the records that were sent, in their order: some of
them are left out, and those kept are padded to the names of all records. Padding is what ties the
two: it is said here by names and look-ups alone, not by how a row is written out.
-/
namespace RowQuery
open Json

/-- The row has the headers in their order, each with the record's own value, or null where the
record has none. -/
structure PaddedTo (headers : List String) (record : Value) (row : Members) : Prop where
  isObject : ∃ members, record = .object members
  names : row.names = headers
  cell : ∀ h ∈ headers, row.lookup h = some (((record.members?.getD []).lookup h).getD .null)

theorem paddedTo_padded (headers : List String) (members : Members) :
    PaddedTo headers (.object members) (Dataset.padded headers members) where
  isObject := ⟨members, rfl⟩
  names := Dataset.names_padded headers members
  cell _ hh := Dataset.lookup_padded members hh

namespace Query

theorem toRecords_select (d : Dataset) (filters : Filters) :
    ∃ kept, kept.Sublist d.rows ∧ (select d filters).1 = Dataset.toRecords ⟨d.headers, kept⟩ := by
  rw [select, Dataset.apply_eq]
  exact ⟨_, List.filter_sublist, rfl⟩

theorem run_eq_ok {s : Generation.Settings} {query : String} {records : List Value}
    {replies : List Chat.Reply} {out : List Members}
    (h : (run s query records replies).result = .ok out) :
    ∃ d kept, Dataset.ofRecords records = .ok d ∧ kept.Sublist d.rows ∧
      out = Dataset.toRecords ⟨d.headers, kept⟩ := by
  rw [run] at h
  split at h
  · cases h
  · next d hd =>
    split at h
    · next hempty =>
      exact ⟨d, [], hd, List.nil_sublist _, (Except.ok.inj h).symm⟩
    · rw [answerOf] at h
      split at h
      · cases h
      · next filters hfilters =>
        split at h
        · exact ⟨d, d.rows, hd, .refl _, (Except.ok.inj h).symm⟩
        · obtain ⟨kept, hkept, hrows⟩ := toRecords_select d filters
          exact ⟨d, kept, hd, hkept, (Except.ok.inj h).symm.trans hrows⟩

/-- A model can only leave records out: whatever it replies, the rows of an answer are records at
increasing positions, padded to the names of all records. A record is a map, as everything that was
read is (`Value.memberNames_nodup_of_read`). -/
theorem run_selects_records (s : Generation.Settings) (query : String) {records : List Value}
    (replies : List Chat.Reply) (once : ∀ r ∈ records, r.memberNames.Nodup) {out : List Members}
    (answered : (run s query records replies).result = .ok out) :
    ∃ (headers : List String) (positions : List (Fin records.length)),
      FirstSeen (records.flatMap Value.memberNames) headers ∧
      positions.Pairwise (· < ·) ∧
      List.Forall₂ (fun p row => PaddedTo headers records[p] row) positions out := by
  obtain ⟨d, kept, hd, hkept, rfl⟩ := run_eq_ok answered
  obtain ⟨hrecords, hfirst⟩ := Dataset.ofRecords_eq_ok hd
  have hproper : Dataset.Proper ⟨d.headers, kept⟩ :=
    (Dataset.proper_ofRecords hd once).of_sublist rfl hkept
  have hsub : (kept.map Value.object).Sublist records := hrecords ▸ hkept.map Value.object
  obtain ⟨positions, hpositions, hincreasing⟩ := List.sublist_eq_map_getElem hsub
  refine ⟨d.headers, positions, hfirst, hincreasing, ?_⟩
  rw [hproper.toRecords_eq]
  have hpadded : List.Forall₂ (PaddedTo d.headers) (kept.map Value.object)
      (kept.map (Dataset.padded d.headers)) := by
    rw [List.forall₂_map_left_iff, List.forall₂_map_right_iff, List.forall₂_same]
    exact fun row _ => paddedTo_padded d.headers row
  rw [hpositions, List.forall₂_map_left_iff] at hpadded
  exact hpadded

theorem run_selects_records_after_correction :
    let records : List Value :=
      [.object [("a", .string "x")], .object [("b", .null), ("a", .string "y")]]
    let replies : List Chat.Reply := [.ok (some "?"), .ok (some
      "\x7b\"filters\":[\x7b\"header\":\"a\",\"operator\":\"===\",\"value\":\"y\"\x7d]\x7d")]
    let out : List Members := [[("a", .string "y"), ("b", .null)]]
    (run ⟨3, .fail, false⟩ "q" records replies).result = .ok out ∧
    ∃ (headers : List String) (positions : List (Fin records.length)),
      FirstSeen (records.flatMap Value.memberNames) headers ∧
      positions.Pairwise (· < ·) ∧
      List.Forall₂ (fun p row => PaddedTo headers records[p] row) positions out := by
  intro records replies out
  have hbad : Filter.ofReply "?" = .error (.invalidJson .expectedValue) := by cbv
  have hgood : Filter.ofReply
      "\x7b\"filters\":[\x7b\"header\":\"a\",\"operator\":\"===\",\"value\":\"y\"\x7d]\x7d" =
      .ok ([⟨"a", .equal, .string "y"⟩], []) := by cbv
  have hrecords : Dataset.ofRecords records = .ok ⟨["a", "b"],
      [[("a", .string "x")], [("b", .null), ("a", .string "y")]]⟩ := rfl
  have hfilters : (Generation.run ⟨3, .fail, false⟩ "q" ["a", "b"] replies).result =
      .ok [⟨"a", .equal, .string "y"⟩] := by
    simp [replies, Generation.run, Generation.Settings.attempts, Generation.converse,
      Generation.nextReply, Generation.Turn.ofReply, Generation.Run.after, hbad, hgood]
  have hout : (run ⟨3, .fail, false⟩ "q" records replies).result = .ok out := by
    simp only [run, hrecords, answerOf, hfilters]
    rfl
  exact ⟨hout, run_selects_records ⟨3, .fail, false⟩ "q" replies (by decide) hout⟩

end Query
end RowQuery
