import Mathlib
import RowQuery.Prompt
import RowQuery.Proofs.ReadingBack

/-!
# The frame of a prompt

A quoted header has no line feed, whatever characters the header has: every control is escaped. So
the headers of a table fill one line of a prompt and leave the lines above and below as they are.
That line is read back as the headers, hence the prompts of two tables differ when their headers do.
-/
namespace RowQuery
open Json

namespace Json

theorem notMem_escapeChar (c : Char) : '\n' ∉ escapeChar c := by
  by_cases hlow : c.toNat < 0x20
  · obtain ⟨n, hn⟩ : ∃ n, c.toNat = n := ⟨_, rfl⟩
    have hc : c = Char.ofNat n := by rw [← hn, Char.ofNat_toNat]
    rw [hn] at hlow
    subst hc
    clear hn
    interval_cases n <;> decide
  · have hne : c ≠ '\n' := fun h => hlow (by rw [h]; decide)
    rw [escapeChar.eq_def]
    split
    case h_8 =>
      rw [if_neg hlow, List.mem_singleton]
      exact hne.symm
    all_goals decide

theorem notMem_quote (s : String) : '\n' ∉ quote s := by
  intro h
  rw [quote, List.mem_cons, List.mem_append, List.mem_flatMap] at h
  rcases h with hopen | ⟨c, -, hc⟩ | hclose
  · exact absurd hopen (by decide)
  · exact notMem_escapeChar c hc
  · exact absurd hclose (by decide)

theorem notMem_commaSeparated {parts : List (List Char)} (h : ∀ part ∈ parts, '\n' ∉ part) :
    '\n' ∉ commaSeparated parts := by
  induction parts with
  | nil => exact List.not_mem_nil
  | cons part parts ih =>
    obtain ⟨hpart, hparts⟩ := List.forall_mem_cons.mp h
    cases parts with
    | nil =>
      rw [commaSeparated, List.intercalate_singleton]
      exact hpart
    | cons next parts =>
      rw [commaSeparated, List.intercalate_cons_cons, List.mem_append, List.mem_append]
      rintro ((hm | hm) | hm)
      · exact hpart hm
      · exact absurd hm (by decide)
      · exact ih hparts hm

end Json

namespace Prompt

def lines (s : String) : List String := (s.toList.splitOn '\n').map String.ofList

theorem splitOn_append_line (start : List Char) : ∃ above line, ∀ text : List Char, '\n' ∉ text →
    (start ++ text).splitOn '\n' = above ++ [line ++ text] := by
  induction start with
  | nil => exact ⟨[], [], fun text htext => List.splitOn_eq_singleton htext⟩
  | cons c start ih =>
    obtain ⟨above, line, h⟩ := ih
    by_cases hc : c = '\n'
    · refine ⟨[] :: above, line, fun text htext => ?_⟩
      rw [List.cons_append, List.splitOn_cons_eq_if_modifyHead, h text htext, hc]
      rfl
    · cases above with
      | nil =>
        refine ⟨[], c :: line, fun text htext => ?_⟩
        rw [List.cons_append, List.splitOn_cons_eq_if_modifyHead, h text htext]
        simp [hc]
      | cons first above =>
        refine ⟨(c :: first) :: above, line, fun text htext => ?_⟩
        rw [List.cons_append, List.splitOn_cons_eq_if_modifyHead, h text htext]
        simp [hc]

theorem notMem_headerList (headers : List String) : '\n' ∉ (headerList headers).chars := by
  rw [headerList, Value.chars, Value.itemChars_eq, List.mem_cons, List.mem_append]
  rintro (hm | hm | hm)
  · exact absurd hm (by decide)
  · refine notMem_commaSeparated (fun part hpart => ?_) hm
    simp only [List.reverse_nil, List.nil_append, List.map_map, List.mem_map] at hpart
    obtain ⟨header, -, rfl⟩ := hpart
    exact notMem_quote header
  · exact absurd hm (by decide)

theorem read_headerList (headers : List String) :
    Value.read (headerList headers).text = .ok (.list (headers.map .string)) := by
  refine Value.NumberFree.read_text (.list fun v hv => ?_)
  obtain ⟨header, -, rfl⟩ := List.mem_map.mp hv
  exact .string header

theorem begins_append {c : Char} {s : String} (h : ∃ cs, s.toList = c :: cs) (t : String) :
    ∃ cs, (s ++ t).toList = c :: cs := by
  obtain ⟨cs, hcs⟩ := h
  exact ⟨cs ++ t.toList, by rw [String.toList_append, hcs, List.cons_append]⟩

theorem afterHeaders_begins : ∃ below, afterHeaders.toList = '\n' :: below := by
  refine begins_append (begins_append (begins_append (begins_append (begins_append ?_ _) _) _) _) _
  exact ⟨_, String.toList_ofList⟩

theorem system_injective : Function.Injective system := by
  intro headers headers' h
  have htext : (headerList headers).text = (headerList headers').text := by
    have hchars := congrArg String.toList h
    rw [system, system, String.toList_append, String.toList_append, String.toList_append,
      String.toList_append] at hchars
    exact String.toList_inj.mp (List.append_cancel_left (List.append_cancel_right hchars))
  have hread := (read_headerList headers).symm.trans (htext ▸ read_headerList headers')
  have hstring : Function.Injective Value.string := fun _ _ => Value.string.inj
  exact hstring.list_map (Value.list.inj (Except.ok.inj hread))

/-- Headers cannot break the frame of a prompt: all its lines but one are the same for any headers,
and in that one stands, behind a fixed start, a list that is read back as the headers. So no two
tables with other headers have the same prompt. -/
theorem system_framed :
    (∃ above start below, ∀ headers,
      lines (system headers) = above ++ (start ++ (headerList headers).text) :: below ∧
      Value.read (headerList headers).text = .ok (.list (headers.map .string))) ∧
    Function.Injective system := by
  obtain ⟨above, start, hbefore⟩ := splitOn_append_line beforeHeaders.toList
  obtain ⟨below, hafter⟩ := afterHeaders_begins
  refine ⟨⟨above.map String.ofList, String.ofList start, (below.splitOn '\n').map String.ofList,
    fun headers => ⟨?_, read_headerList headers⟩⟩, system_injective⟩
  have hline := hbefore _ (notMem_headerList headers)
  rw [lines, system, String.toList_append, String.toList_append, hafter, Value.text,
    String.toList_ofList, List.splitOn_append_cons_self, hline, ← String.ofList_append]
  simp

end Prompt
end RowQuery
