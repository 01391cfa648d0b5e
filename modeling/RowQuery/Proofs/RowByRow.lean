import Mathlib
import RowQuery.Proofs.Conjunction
import RowQuery.Proofs.Resubmission

/-!
# Rows judged one by one

All that a row learns of the others is which names there are. One row can bring a condition into
force for all of them, by having its header; but beyond the set of names neither the other rows
count, nor how many they are, nor the order in which names are first seen.
-/
namespace RowQuery
open Json

namespace Dataset
variable {headers headers' : List String} {rows rows' : List Members} {row row' : Members}
  {fs : Filters}

def SameNames (rows rows' : List Members) : Prop :=
  ∀ name, (∃ row ∈ rows, name ∈ row.names) ↔ ∃ row ∈ rows', name ∈ row.names

def survivors (fs : Filters) (rows : List Members) : Except NotAnObject (List Members) := do
  let d ← ofRecords (rows.map .object)
  return (d.apply fs).1.rows

/-- One verdict on rows, which looks at nothing but their cells, leaves the outcomes of both
lists. -/
def JudgedAlike (rows out rows' out' : List Members) : Prop :=
  ∃ verdict : Members → Bool, (∀ row row', SameCells row row' → verdict row = verdict row') ∧
    out = rows.filter verdict ∧ out' = rows'.filter verdict

theorem survivors_eq (fs : Filters) (rows : List Members) :
    survivors fs rows = .ok (rows.filter fun row => Selected (headersOf rows) fs row) := by
  rw [survivors, ofRecords_map_object]
  exact congrArg (fun out => Except.ok (Prod.fst out).rows) (apply_eq ⟨headersOf rows, rows⟩ fs)

theorem mem_headersOf {name : String} :
    name ∈ headersOf rows ↔ ∃ row ∈ rows, name ∈ row.names := by
  rw [headersOf, (firstSeen_eraseDups _).mem_iff, List.mem_flatMap]

theorem selected_congr (h : ∀ name, name ∈ headers ↔ name ∈ headers') (cells : SameCells row row') :
    Selected headers fs row ↔ Selected headers' fs row' := by
  refine forall_congr' fun c => imp_congr_right fun _ => ?_
  rw [Condition.Effective, Condition.Effective, h c.header, Condition.holds_iff,
    Condition.holds_iff, cells.cell_eq c.header]

theorem selected_headersOf (h : SameNames rows rows') (cells : SameCells row row') :
    Selected (headersOf rows) fs row ↔ Selected (headersOf rows') fs row' := by
  refine selected_congr (fun name => ?_) cells
  rw [mem_headersOf, mem_headersOf, h name]

theorem SameNames.of_perm (h : rows'.Perm rows) : SameNames rows rows' := by
  intro name
  simp only [h.mem_iff]

theorem SameNames.append {more : List Members}
    (known : ∀ row ∈ more, ∀ name ∈ row.names, ∃ other ∈ rows, name ∈ other.names) :
    SameNames rows (rows ++ more) := by
  intro name
  constructor
  · rintro ⟨row, hrow, hname⟩
    exact ⟨row, List.mem_append_left more hrow, hname⟩
  · rintro ⟨row, hrow, hname⟩
    rcases List.mem_append.mp hrow with hold | hnew
    · exact ⟨row, hold, hname⟩
    · exact known row hnew name hname

theorem survivors_of_sameNames (h : SameNames rows rows') (fs : Filters) :
    survivors fs rows' = .ok (rows'.filter fun row => Selected (headersOf rows) fs row) := by
  rw [survivors_eq]
  refine congrArg Except.ok (List.filter_congr fun row _ => ?_)
  rw [decide_eq_decide]
  exact (selected_headersOf h fun _ => rfl).symm

theorem judgedAlike_of_sameNames (h : SameNames rows rows') (fs : Filters) :
    ∃ out out', survivors fs rows = .ok out ∧ survivors fs rows' = .ok out' ∧
      JudgedAlike rows out rows' out' := by
  refine ⟨_, _, survivors_eq fs rows, survivors_of_sameNames h fs, _, fun row row' cells => ?_,
    rfl, rfl⟩
  rw [decide_eq_decide]
  exact selected_congr (fun _ => Iff.rfl) cells

namespace JudgedAlike
variable {out out' : List Members}

theorem mem_iff (h : JudgedAlike rows out rows' out') (hrow : row ∈ rows) (hrow' : row' ∈ rows')
    (cells : SameCells row row') : row ∈ out ↔ row' ∈ out' := by
  obtain ⟨verdict, hcells, rfl, rfl⟩ := h
  rw [List.mem_filter, List.mem_filter, hcells row row' cells]
  exact and_congr_left fun _ => iff_of_true hrow hrow'

theorem perm (h : JudgedAlike rows out rows' out') (reordered : rows'.Perm rows) :
    out'.Perm out := by
  obtain ⟨verdict, -, rfl, rfl⟩ := h
  exact reordered.filter verdict

theorem sublist (h : JudgedAlike rows out rows' out') (fewer : rows'.Sublist rows) :
    out'.Sublist out := by
  obtain ⟨verdict, -, rfl, rfl⟩ := h
  exact fewer.filter verdict

end JudgedAlike

/-- Two lists of records with the same names are judged alike, row by row. So rows that change
places take their verdicts with them, rows that are left out leave the others theirs, and rows that
bring no new name are judged behind those there were. -/
theorem rows_judged_alone (fs : Filters) (rows : List Members) :
    ∃ out, survivors fs rows = .ok out ∧
      (∀ rows', SameNames rows rows' → ∃ out', survivors fs rows' = .ok out' ∧
        ∀ row ∈ rows, ∀ row' ∈ rows', SameCells row row' → (row ∈ out ↔ row' ∈ out')) ∧
      (∀ rows', rows'.Perm rows → ∃ out', survivors fs rows' = .ok out' ∧
        JudgedAlike rows out rows' out' ∧ out'.Perm out) ∧
      (∀ rows', rows'.Sublist rows → SameNames rows rows' → ∃ out', survivors fs rows' = .ok out' ∧
        JudgedAlike rows out rows' out' ∧ out'.Sublist out) ∧
      ∀ more, (∀ row ∈ more, ∀ name ∈ row.names, ∃ other ∈ rows, name ∈ other.names) →
        survivors fs (rows ++ more) =
          .ok (out ++ more.filter fun row => Selected (headersOf rows) fs row) := by
  have halike {rows'} (h : SameNames rows rows') :
      ∃ out', survivors fs rows' = .ok out' ∧
        JudgedAlike rows (rows.filter fun row => Selected (headersOf rows) fs row) rows' out' := by
    obtain ⟨out, out', hout, hout', hjudged⟩ := judgedAlike_of_sameNames h fs
    obtain rfl := Except.ok.inj ((survivors_eq fs rows).symm.trans hout)
    exact ⟨out', hout', hjudged⟩
  -- The four laws are what one verdict on both lists leaves of each change.
  refine ⟨_, survivors_eq fs rows, fun rows' h => ?_, fun rows' h => ?_, fun rows' h names => ?_,
    fun more known => ?_⟩
  · obtain ⟨out', hout', hjudged⟩ := halike h
    exact ⟨out', hout', fun row hrow row' hrow' => hjudged.mem_iff hrow hrow'⟩
  · obtain ⟨out', hout', hjudged⟩ := halike (.of_perm h)
    exact ⟨out', hout', hjudged, hjudged.perm h⟩
  · obtain ⟨out', hout', hjudged⟩ := halike names
    exact ⟨out', hout', hjudged, hjudged.sublist h⟩
  · rw [survivors_of_sameNames (.append known), List.filter_append]

/-- Two lists in which one record stands with its members in either order, the other record before
or behind it, and a row that the first list lacks. -/
theorem rows_judged_alone_members_reordered :
    let x : Members := [("a", .string "x")]
    let y : Members := [("b", .bool true), ("a", .string "y")]
    let y' : Members := [("a", .string "y"), ("b", .bool true)]
    let z : Members := [("b", .null)]
    let fs : Filters := [⟨"b", .notEqual, .bool true⟩]
    SameNames [x, y] [y', z, x] ∧ SameCells y y' ∧ [y, x].Perm [x, y] ∧ [y].Sublist [x, y] ∧
      survivors fs [x, y] = .ok [x] ∧ survivors fs [y', z, x] = .ok [z, x] ∧
      (y ∈ [x] ↔ y' ∈ [z, x]) ∧ JudgedAlike [x, y] [x] [y, x] [x] ∧
      JudgedAlike [x, y] [x] [y] [] ∧ survivors fs ([x, y] ++ [z]) = .ok ([x] ++ [z]) := by
  intro x y y' z fs
  have hnames : SameNames [x, y] [y', z, x] := by
    intro name
    rw [← mem_headersOf, ← mem_headersOf]
    exact Iff.rfl
  have hcells : SameCells y y' := by
    intro name
    by_cases hb : name = "b" <;> by_cases ha : name = "a" <;>
      simp [y, y', Members.lookup_cons_eq, ha, hb]
  have hperm : [y, x].Perm [x, y] := .swap x y []
  have hfewer : [y].Sublist [x, y] := List.sublist_cons_self x [y]
  have hsame : SameNames [x, y] [y] := by
    intro name
    rw [← mem_headersOf, ← mem_headersOf]
    exact (show ["a", "b"].Perm ["b", "a"] from .swap "b" "a" []).mem_iff
  have hknown : ∀ row ∈ [z], ∀ name ∈ row.names, ∃ other ∈ [x, y], name ∈ other.names := by
    simp [x, y, z, Members.names]
  obtain ⟨out, hout, hboth, hreordered, hleft, hmore⟩ := rows_judged_alone fs [x, y]
  obtain rfl : [x] = out := Except.ok.inj hout
  obtain ⟨_, hout', hmem⟩ := hboth _ hnames
  obtain rfl : [z, x] = _ := Except.ok.inj hout'
  obtain ⟨_, hout', hswapped, -⟩ := hreordered _ hperm
  obtain rfl : [x] = _ := Except.ok.inj hout'
  obtain ⟨_, hout', hlone, -⟩ := hleft _ hfewer hsame
  obtain rfl : [] = _ := Except.ok.inj hout'
  exact ⟨hnames, hcells, hperm, hfewer, rfl, rfl, hmem y (by simp) y' (by simp) hcells, hswapped,
    hlone, hmore [z] hknown⟩

end Dataset
end RowQuery
