import Mathlib
import RowQuery.Proofs.Conversation
import RowQuery.Proofs.Padding
import RowQuery.Query.Flight

/-!
# What an answer rests on

A query is answered in one of three ways. Records that are not all objects are refused with the
first that is none, an empty list is returned as it is, and neither takes a reply. Any other list is
answered from a conversation over its headers: its requests, its calls and the replies it leaves are
those of the conversation.
-/
namespace RowQuery
open Json

namespace Dataset

/-- The record at the position is no object. -/
def Misfit (records : List Value) (i : Nat) : Prop :=
  ∃ r, records[i]? = some r ∧ r.members? = none

theorem misfit_cons_succ {r : Value} {records : List Value} {i : Nat} :
    Misfit (r :: records) (i + 1) ↔ Misfit records i := by
  simp [Misfit]

theorem rowsOf_eq_error {position : Nat} {done : List Members} {records : List Value}
    {e : NotAnObject} (h : rowsOf position done records = .error e) :
    ∃ i, e.position = position + i ∧ IsLeast {i | Misfit records i} i := by
  induction records generalizing position done with
  | nil => cases h
  | cons r records ih =>
    cases r with
    | object row =>
      obtain ⟨i, hposition, hi⟩ := ih h
      refine ⟨i + 1, by omega, misfit_cons_succ.mpr hi.1, fun j hj => ?_⟩
      cases j with
      | zero =>
        obtain ⟨v, hv, hnone⟩ := hj
        cases hv
        cases hnone
      | succ j => exact Nat.succ_le_succ (hi.2 (misfit_cons_succ.mp hj))
    | _ =>
      cases h
      exact ⟨0, rfl, ⟨_, rfl, rfl⟩, fun j _ => Nat.zero_le j⟩

theorem ofRecords_eq_error {records : List Value} {e : NotAnObject}
    (h : ofRecords records = .error e) : IsLeast {i | Misfit records i} e.position := by
  cases hrows : rowsOf 0 [] records with
  | ok rows => simp [ofRecords, hrows, bind, Except.bind, pure, Except.pure] at h
  | error e' =>
    simp only [ofRecords, hrows, bind, Except.bind, Except.error.injEq] at h
    obtain ⟨i, hposition, hi⟩ := rowsOf_eq_error hrows
    rw [← h, hposition, Nat.zero_add]
    exact hi

theorem not_misfit_of_ok {records : List Value} {d : Dataset} (h : ofRecords records = .ok d)
    (i : Nat) : ¬Misfit records i := by
  rintro ⟨r, hr, hnone⟩
  rw [(ofRecords_eq_ok h).1] at hr
  obtain ⟨row, -, rfl⟩ := List.mem_map.mp (List.mem_of_getElem? hr)
  cases hnone

theorem exists_ofRecords {records : List Value} (h : ∀ i, ¬Misfit records i) :
    ∃ d, ofRecords records = .ok d := by
  cases hd : ofRecords records with
  | ok d => exact ⟨d, rfl⟩
  | error e => exact absurd (ofRecords_eq_error hd).1 (h e.position)

theorem exists_least_misfit {records : List Value} (h : ∃ i, Misfit records i) :
    ∃ i, IsLeast {i | Misfit records i} i := by
  cases hd : ofRecords records with
  | ok d =>
    obtain ⟨i, hi⟩ := h
    exact absurd hi (not_misfit_of_ok hd i)
  | error e => exact ⟨e.position, ofRecords_eq_error hd⟩

theorem isEmpty_rows_iff {records : List Value} {d : Dataset} (h : ofRecords records = .ok d) :
    d.rows.isEmpty = true ↔ records = [] := by
  rw [(ofRecords_eq_ok h).1, List.isEmpty_iff, List.map_eq_nil_iff]

end Dataset

namespace Query
open Generation
variable {s : Settings} {query : String} {records : List Value} {d : Dataset}

@[simp] theorem answerOf_requests (d : Dataset) (r : Run) :
    (answerOf d r).requests = r.requests := by
  simp only [answerOf]
  split
  · rfl
  · split <;> rfl

@[simp] theorem answerOf_unused (d : Dataset) (r : Run) : (answerOf d r).unused = r.unused := by
  simp only [answerOf]
  split
  · rfl
  · split <;> rfl

theorem answerOf_result (d : Dataset) (r : Run) : (answerOf d r).result =
    match r.result with
    | .ok filters => .ok (d.apply filters).1.toRecords
    | .error e => .error (.generation e) := by
  simp only [answerOf]
  cases r.result with
  | error e => rfl
  | ok filters => cases filters <;> rfl

theorem run_of_invalid {e : NotAnObject} (h : Dataset.ofRecords records = .error e)
    (replies : List Chat.Reply) :
    run s query records replies = ⟨.error (.invalidData e), [], [], replies⟩ := by
  simp only [run, h]

theorem run_of_empty (h : Dataset.ofRecords records = .ok d) (hrows : d.rows.isEmpty = true)
    (replies : List Chat.Reply) : run s query records replies = ⟨.ok [], [], [], replies⟩ := by
  simp only [run, h, hrows, if_true]

theorem run_of_rows (h : Dataset.ofRecords records = .ok d) (hrows : d.rows.isEmpty = false)
    (replies : List Chat.Reply) :
    run s query records replies = answerOf d (Generation.run s query d.headers replies) := by
  simp only [run, h, hrows, Bool.false_eq_true, if_false]

theorem run_cases (s : Settings) (query : String) (records : List Value)
    (replies : List Chat.Reply) :
    (∃ e, Dataset.ofRecords records = .error e ∧
      run s query records replies = ⟨.error (.invalidData e), [], [], replies⟩) ∨
    (records = [] ∧ run s query records replies = ⟨.ok [], [], [], replies⟩) ∨
    ∃ d, Dataset.ofRecords records = .ok d ∧ records ≠ [] ∧
      run s query records replies = answerOf d (Generation.run s query d.headers replies) := by
  cases h : Dataset.ofRecords records with
  | error e => exact .inl ⟨e, rfl, run_of_invalid h replies⟩
  | ok d =>
    cases hrows : d.rows.isEmpty with
    | true =>
      have hnone : records = [] := (Dataset.isEmpty_rows_iff h).mp hrows
      exact .inr (.inl ⟨hnone, run_of_empty h hrows replies⟩)
    | false =>
      have hsome : records ≠ [] := fun hnil => by
        rw [(Dataset.isEmpty_rows_iff h).mpr hnil] at hrows
        cases hrows
      exact .inr (.inr ⟨d, rfl, hsome, run_of_rows h hrows replies⟩)

theorem run_unused (s : Settings) (query : String) (records : List Value)
    (replies : List Chat.Reply) : (run s query records replies).unused =
      replies.drop (run s query records replies).requests.length := by
  rcases run_cases s query records replies with ⟨e, -, h⟩ | ⟨-, h⟩ | ⟨d, -, -, h⟩
  · rw [h]
    rfl
  · rw [h]
    rfl
  · rw [h, answerOf_unused, answerOf_requests]
    exact (outcome_run s query d.headers replies).unused_eq

/-- A message comes from the records asked about, from the question or from a reply, or is the
standing correction. -/
inductive Own (ask : Ask) (replies : List Chat.Reply) : Chat.Message → Prop
  | instructions {d : Dataset} : Dataset.ofRecords ask.records = .ok d →
      Own ask replies ⟨.system, Prompt.system d.headers⟩
  | question : Own ask replies ⟨.user, ask.query⟩
  | echo {text : String} : .ok (some text) ∈ replies → Own ask replies ⟨.assistant, text⟩
  | correction : Own ask replies ⟨.user, Prompt.correction⟩

theorem own_of_mem_requests {ask : Ask} {replies : List Chat.Reply} {q : Chat.Request}
    (hq : q ∈ (run s ask.query ask.records replies).requests) {m : Chat.Message}
    (hm : m ∈ q.messages) : Own ask replies m := by
  rcases run_cases s ask.query ask.records replies with ⟨e, -, h⟩ | ⟨-, h⟩ | ⟨d, hd, -, h⟩
  · rw [h] at hq
    cases hq
  · rw [h] at hq
    cases hq
  · rw [h, answerOf_requests] at hq
    obtain ⟨j, hj⟩ := List.getElem?_of_mem hq
    rw [run_request hj] at hm
    simp only [request, conversation, opening, List.mem_append, List.mem_cons, List.not_mem_nil,
      or_false, List.mem_flatMap, correctionTurns] at hm
    rcases hm with (rfl | rfl) | ⟨text, htext, rfl | rfl⟩
    · exact .instructions hd
    · exact .question
    · exact .echo (List.mem_of_mem_take (mem_rejectedTexts htext))
    · exact .correction

end Query
end RowQuery
