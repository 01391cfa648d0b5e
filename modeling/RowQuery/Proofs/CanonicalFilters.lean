import Mathlib
import RowQuery.Proofs.ReplyEntries

/-!
# Canonical filters

What replies give is canonical: headers are not empty, values are not null, and what orders numbers
holds a number as a double. Canonical filters are the fixed points of reading: written down and read
as a reply they come back as they are, with no warning. So reading twice is reading once.
-/
namespace RowQuery
open Json

/-- The form of the conditions that replies give. -/
structure Condition.Canonical (c : Condition) : Prop where
  header : c.header ≠ ""
  value : c.value.isNull = false
  number : c.operator.isNumeric = true → ∃ x : Double, c.value = .number (.real x)

theorem Condition.Canonical.spelledBy {c : Condition} (h : c.Canonical) :
    c.SpelledBy c.toValue where
  members := ⟨_, rfl, rfl, by rw [← Operator.tag_eq_symbol]; rfl, rfl⟩
  header := h.header
  value := h.value

namespace Filter
variable {filters : Filters} {warnings : List Warning}

def document (filters : Filters) : Value := .object [("filters", filters.toValue)]

theorem lists_document (filters : Filters) :
    Lists (document filters) (filters.map Condition.toValue) :=
  ⟨_, rfl, .inl rfl⟩

theorem ofEntry_toValue {c : Condition} (h : c.Canonical) : ofEntry c.toValue = .ok c := by
  rw [← gives_iff]
  have hspelled := h.spelledBy
  cases hnumeric : c.operator.isNumeric with
  | false => exact .plain hspelled hnumeric
  | true =>
    obtain ⟨x, hx⟩ := h.number hnumeric
    have hvalue : c.value.asNumber? = some x := by
      rw [hx]
      rfl
    have hsame : (⟨c.header, c.operator, .number (.real x)⟩ : Condition) = c := by rw [← hx]
    have hgives := Gives.number hspelled hnumeric hvalue
    rwa [hsame] at hgives

theorem canonical_of_gives {entry : Value} {c : Condition} (h : Gives entry (.ok c)) :
    c.Canonical := by
  cases h with
  | plain hspelled hplain =>
    exact ⟨hspelled.header, hspelled.value,
      fun h => absurd (hplain.symm.trans h) Bool.false_ne_true⟩
  | number hspelled _ _ => exact ⟨hspelled.header, rfl, fun _ => ⟨_, rfl⟩⟩

theorem canonical_of_mem_kept {items : List Value} {c : Condition} (h : c ∈ kept items) :
    c.Canonical := by
  obtain ⟨entry, -, hentry⟩ := List.mem_filterMap.mp h
  cases houtcome : ofEntry entry with
  | error w =>
    rw [houtcome] at hentry
    cases hentry
  | ok c' =>
    rw [houtcome] at hentry
    cases hentry
    exact canonical_of_gives (gives_iff.mpr houtcome)

theorem canonical_of_ofDocument {v : Value} (h : ofDocument v = .ok (filters, warnings)) :
    ∀ c ∈ filters, c.Canonical := by
  obtain ⟨items, rfl, -⟩ := ofDocument_eq_ok h
  exact fun c hc => canonical_of_mem_kept hc

theorem kept_toValue (h : ∀ c ∈ filters, c.Canonical) :
    kept (filters.map Condition.toValue) = filters := by
  induction filters with
  | nil => rfl
  | cons c filters ih =>
    obtain ⟨hc, hrest⟩ := List.forall_mem_cons.mp h
    have hfirst : (ofEntry c.toValue).toOption = some c := by
      rw [ofEntry_toValue hc]
      rfl
    have hkept := ih hrest
    rw [kept] at hkept ⊢
    simp only [List.map_cons, List.filterMap_cons, hfirst, hkept]

theorem dropped_toValue (h : ∀ c ∈ filters, c.Canonical) :
    dropped (filters.map Condition.toValue) = [] := by
  rw [dropped, List.filterMap_eq_nil_iff]
  intro entry hentry
  obtain ⟨c, hc, rfl⟩ := List.mem_map.mp hentry
  rw [ofEntry_toValue (h c hc)]

theorem ofDocument_document (h : ∀ c ∈ filters, c.Canonical) :
    ofDocument (document filters) = .ok (filters, []) := by
  rw [ofDocument_of_lists (lists_document filters), kept_toValue h, dropped_toValue h]

theorem canonical_iff_fixed :
    (∀ c ∈ filters, c.Canonical) ↔ ofDocument (document filters) = .ok (filters, []) :=
  ⟨ofDocument_document, canonical_of_ofDocument⟩

/-- Reading a reply is reading its document, what it gives is canonical, and the canonical filters
are those that documents give and those that are read back from themselves. -/
theorem canonical_filters_fixed (text : String) (filters : Filters) :
    ofReply text = ((Value.read (Text.trim text)).mapError .invalidJson).bind ofDocument ∧
      (∀ warnings, ofReply text = .ok (filters, warnings) →
        (∀ c ∈ filters, c.Canonical) ∧ ofDocument (document filters) = .ok (filters, [])) ∧
      ((∀ c ∈ filters, c.Canonical) ↔ ofDocument (document filters) = .ok (filters, [])) ∧
      ((∀ c ∈ filters, c.Canonical) ↔ ∃ v warnings, ofDocument v = .ok (filters, warnings)) ∧
      ∀ v warnings, ofDocument v = .ok (filters, warnings) →
        ofDocument (document filters) = .ok (filters, []) := by
  -- What is given once is canonical, and canonical filters read themselves back.
  have htwice (v : Value) (warnings : List Warning) (h : ofDocument v = .ok (filters, warnings)) :
      ofDocument (document filters) = .ok (filters, []) :=
    ofDocument_document (canonical_of_ofDocument h)
  refine ⟨rfl, fun warnings h => ?_, canonical_iff_fixed, ⟨fun h => ?_, ?_⟩, htwice⟩
  · obtain ⟨items, rfl, -⟩ := ofReply_eq_ok h
    have hcanonical : ∀ c ∈ kept items, c.Canonical := fun c hc => canonical_of_mem_kept hc
    exact ⟨hcanonical, ofDocument_document hcanonical⟩
  · exact ⟨_, _, ofDocument_document h⟩
  · rintro ⟨v, warnings, h⟩
    exact canonical_of_ofDocument h

set_option maxRecDepth 4000 in
theorem canonical_filters_fixed_quoted_number :
    let text := "\x7b\"filters\":[\x7b\"header\":\"a\",\"operator\":\"<\",\"value\":\" 1\"\x7d" ++
      ",0]\x7d"
    let one : Double := ⟨false, 4503599627370496, 1022, by decide, by decide, by decide⟩
    let filters : Filters := [⟨"a", .less, .number (.real one)⟩]
    ofReply text = .ok (filters, [.malformedCondition "0"]) ∧ (∀ c ∈ filters, c.Canonical) ∧
      ofDocument (document filters) = .ok (filters, []) := by
  intro text one filters
  let entry : Value := .object
    [("header", .string "a"), ("operator", .string "<"), ("value", .string " 1")]
  let items := [entry, .number (.integer ⟨0, by decide⟩)]
  have hread : Value.read (Text.trim text) = .ok (.object [("filters", .list items)]) := by cbv
  have hnumber : (Value.string " 1").asNumber? = some one := by decide +kernel
  have hspelled : (⟨"a", .less, .string " 1"⟩ : Condition).SpelledBy entry :=
    ⟨⟨_, rfl, rfl, rfl, rfl⟩, by decide, rfl⟩
  have hfirst := gives_iff.mp (Gives.number hspelled rfl hnumber)
  have hsecond : ofEntry (.number (.integer ⟨0, by decide⟩)) =
      .error (.malformedCondition "0") := by
    rfl
  have hreply : ofReply text = .ok (filters, [.malformedCondition "0"]) := by
    rw [ofReply_of_read hread, ofDocument_of_lists ⟨_, rfl, .inl rfl⟩, kept, dropped]
    simp only [items, List.filterMap_cons, hfirst, hsecond]
    rfl
  obtain ⟨-, hcanonical, -⟩ := canonical_filters_fixed text filters
  exact ⟨hreply, hcanonical _ hreply⟩

end Filter
end RowQuery
