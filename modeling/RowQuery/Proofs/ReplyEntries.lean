import Mathlib
import RowQuery.Filter.Reply

/-!
# What a reply gives, entry by entry

A reply fails as a whole or not at all: when its text is no document, the document no object, or the
object's filters no list. Of a list every entry gives one condition or one warning, and which it is
depends on the entry alone. So no entry moves, changes or removes what another one gives.
-/
namespace RowQuery
open Json

namespace Condition

/-- The entry is an object with a header, an operator and a value, all of them usable. -/
structure SpelledBy (entry : Value) (c : Condition) : Prop where
  members : ∃ members, entry = .object members ∧
    members.lookup "header" = some (.string c.header) ∧
    members.lookup "operator" = some (.string c.operator.symbol) ∧
    members.lookup "value" = some c.value
  header : c.header ≠ ""
  value : c.value.isNull = false

end Condition

namespace Filter

inductive Malformed : Value → Prop
  | form {entry : Value} : (∀ members, entry ≠ .object members) → Malformed entry
  | header {members : Members} :
      (∀ s, members.lookup "header" = some (.string s) → s = "") → Malformed (.object members)
  | operator {members : Members} :
      (∀ o : Operator, members.lookup "operator" ≠ some (.string o.symbol)) →
      Malformed (.object members)
  | value {members : Members} :
      (∀ v, members.lookup "value" = some v → v.isNull = true) → Malformed (.object members)

/-- What an entry gives: its condition, as it is or with the number that its value spells, or a
warning. -/
inductive Gives (entry : Value) : Except Warning Condition → Prop
  | plain {c : Condition} : c.SpelledBy entry → c.operator.isNumeric = false → Gives entry (.ok c)
  | number {c : Condition} {x : Double} : c.SpelledBy entry → c.operator.isNumeric = true →
      c.value.asNumber? = some x → Gives entry (.ok ⟨c.header, c.operator, .number (.real x)⟩)
  | notNumber {c : Condition} : c.SpelledBy entry → c.operator.isNumeric = true →
      c.value.asNumber? = none →
      Gives entry (.error (.nonNumericValue c.header c.operator.symbol c.value.text))
  | malformed : Malformed entry → Gives entry (.error (.malformedCondition entry.text))

theorem ofValue?_eq_some_iff {entry : Value} {c : Condition} :
    Condition.ofValue? entry = some c ↔ c.SpelledBy entry := by
  constructor
  · intro h
    simp only [Condition.ofValue?, bind, pure, Option.bind_eq_some_iff] at h
    obtain ⟨members, hentry, headerValue, hheader, header, hstring, h⟩ := h
    split at h
    · cases h
    · next hnonempty =>
      simp only [Option.bind_eq_some_iff] at h
      obtain ⟨operatorValue, hoperator, symbol, hsymbol, operator, hknown, value, hvalue, h⟩ := h
      split at h
      · cases h
      · next hnull =>
        cases h
        rw [Value.string?_eq_some_iff] at hstring hsymbol
        rw [hstring] at hheader
        rw [hsymbol, ← Operator.symbol_of_ofSymbol? hknown] at hoperator
        exact ⟨⟨members, Value.members?_eq_some_iff.mp hentry, hheader, hoperator, hvalue⟩,
          hnonempty, Bool.eq_false_iff.mpr hnull⟩
  · rintro ⟨⟨members, rfl, hheader, hoperator, hvalue⟩, hnonempty, hnull⟩
    simp [Condition.ofValue?, Value.members?, hheader, Value.string?, hnonempty, hoperator,
      Operator.ofSymbol?_symbol, hvalue, hnull]

theorem ofValue?_eq_none_iff {entry : Value} :
    Condition.ofValue? entry = none ↔ Malformed entry := by
  constructor
  · intro hnone
    by_contra hproper
    obtain ⟨members, rfl⟩ : ∃ members, entry = .object members := by
      by_contra h
      exact hproper (.form fun members he => h ⟨members, he⟩)
    obtain ⟨header, hheader, hnonempty⟩ :
        ∃ s, members.lookup "header" = some (.string s) ∧ s ≠ "" := by
      by_contra h
      exact hproper (.header fun s hs => by_contra fun hne => h ⟨s, hs, hne⟩)
    obtain ⟨operator, hoperator⟩ :
        ∃ o : Operator, members.lookup "operator" = some (.string o.symbol) := by
      by_contra h
      exact hproper (.operator fun o ho => h ⟨o, ho⟩)
    obtain ⟨value, hvalue, hnull⟩ :
        ∃ v, members.lookup "value" = some v ∧ v.isNull = false := by
      by_contra h
      exact hproper (.value fun v hv => by_contra fun hne => h ⟨v, hv, Bool.eq_false_iff.mpr hne⟩)
    have hspelled : (⟨header, operator, value⟩ : Condition).SpelledBy (.object members) :=
      ⟨⟨members, rfl, hheader, hoperator, hvalue⟩, hnonempty, hnull⟩
    rw [ofValue?_eq_some_iff.mpr hspelled] at hnone
    cases hnone
  · intro hmalformed
    rw [Option.eq_none_iff_forall_ne_some]
    intro c hc
    obtain ⟨⟨members, rfl, hheader, hoperator, hvalue⟩, hnonempty, hnull⟩ :=
      ofValue?_eq_some_iff.mp hc
    cases hmalformed with
    | form h => exact h members rfl
    | header h => exact hnonempty (h _ hheader)
    | operator h => exact h _ hoperator
    | value h => exact absurd (hnull.symm.trans (h _ hvalue)) Bool.false_ne_true

theorem gives_iff {entry : Value} {outcome : Except Warning Condition} :
    Gives entry outcome ↔ ofEntry entry = outcome := by
  constructor
  · intro h
    cases h with
    | plain hspelled hplain =>
      simp [ofEntry, ofValue?_eq_some_iff.mpr hspelled, normalize, hplain]
    | number hspelled hnumeric hx =>
      simp [ofEntry, ofValue?_eq_some_iff.mpr hspelled, normalize, hnumeric, hx]
    | notNumber hspelled hnumeric hx =>
      simp [ofEntry, ofValue?_eq_some_iff.mpr hspelled, normalize, hnumeric, hx]
    | malformed hmalformed => simp [ofEntry, ofValue?_eq_none_iff.mpr hmalformed]
  · rintro rfl
    cases hspelled : Condition.ofValue? entry with
    | none =>
      simp only [ofEntry, hspelled]
      exact .malformed (ofValue?_eq_none_iff.mp hspelled)
    | some c =>
      have hc := ofValue?_eq_some_iff.mp hspelled
      simp only [ofEntry, hspelled, normalize]
      split
      · next hnumeric =>
        cases hx : c.value.asNumber? with
        | some x => exact .number hc hnumeric hx
        | none => exact .notNumber hc hnumeric hx
      · next hplain => exact .plain hc (Bool.eq_false_iff.mpr hplain)

theorem rightUnique_gives : Relator.RightUnique Gives := fun _ _ _ h h' =>
  (gives_iff.mp h).symm.trans (gives_iff.mp h')

def ofDocument (document : Value) : Except ReplyError (Filters × List Warning) := do
  let items ← entries document
  return (kept items, dropped items)

theorem ofReply_of_read {text : String} {document : Value}
    (h : Value.read (Text.trim text) = .ok document) : ofReply text = ofDocument document := by
  rw [ofReply, h]
  rfl

theorem ofReply_of_break {text : String} {b : Break}
    (h : Value.read (Text.trim text) = .error b) : ofReply text = .error (.invalidJson b) := by
  rw [ofReply, h]
  rfl

/-- The document is an object, and these are the entries of its filters; it has none when it names
no filters. -/
def Lists (document : Value) (items : List Value) : Prop :=
  ∃ members, document = .object members ∧ (members.lookup "filters" = some (.list items) ∨
    members.lookup "filters" = none ∧ items = [])

theorem ofDocument_of_lists {document : Value} {items : List Value} (h : Lists document items) :
    ofDocument document = .ok (kept items, dropped items) := by
  obtain ⟨members, rfl, hitems | ⟨hnone, rfl⟩⟩ := h
  · simp only [ofDocument, entries, hitems]
    rfl
  · simp only [ofDocument, entries, hnone]
    rfl

theorem ofDocument_cases (document : Value) :
    (∃ items, Lists document items) ∨
      (∀ members, document ≠ .object members) ∧ ofDocument document = .error .notAnObject ∨
      ∃ members v, document = .object members ∧ members.lookup "filters" = some v ∧
        (∀ items, v ≠ .list items) ∧ ofDocument document = .error .filtersNotList := by
  cases document with
  | object members =>
    cases hfilters : members.lookup "filters" with
    | none => exact .inl ⟨[], members, rfl, .inr ⟨hfilters, rfl⟩⟩
    | some v =>
      cases v with
      | list items => exact .inl ⟨items, members, rfl, .inl hfilters⟩
      | _ =>
        refine .inr (.inr ⟨members, _, rfl, hfilters, nofun, ?_⟩)
        simp only [ofDocument, entries, hfilters]
        rfl
  | _ => exact .inr (.inl ⟨nofun, rfl⟩)

theorem Lists.not_of_error {document : Value} {items : List Value} {e : ReplyError}
    (h : Lists document items) : ofDocument document ≠ .error e := by
  rw [ofDocument_of_lists h]
  exact nofun

theorem ofDocument_eq_ok {document : Value} {filters : Filters} {warnings : List Warning}
    (h : ofDocument document = .ok (filters, warnings)) :
    ∃ items, filters = kept items ∧ warnings = dropped items := by
  rcases ofDocument_cases document with ⟨items, hlists⟩ | ⟨-, herror⟩ | ⟨_, _, _, _, _, herror⟩
  · rw [ofDocument_of_lists hlists] at h
    cases h
    exact ⟨items, rfl, rfl⟩
  · exact nomatch herror.symm.trans h
  · exact nomatch herror.symm.trans h

theorem ofReply_eq_ok {text : String} {filters : Filters} {warnings : List Warning}
    (h : ofReply text = .ok (filters, warnings)) :
    ∃ items, filters = kept items ∧ warnings = dropped items := by
  cases hread : Value.read (Text.trim text) with
  | error b => exact nomatch (ofReply_of_break hread).symm.trans h
  | ok document =>
    rw [ofReply_of_read hread] at h
    exact ofDocument_eq_ok h

theorem ofDocument_eq_notAnObject_iff {document : Value} :
    ofDocument document = .error .notAnObject ↔ ∀ members, document ≠ .object members := by
  rcases ofDocument_cases document with
    ⟨items, hlists⟩ | ⟨hform, herror⟩ | ⟨members, v, rfl, -, -, herror⟩
  · obtain ⟨members, rfl, -⟩ := id hlists
    exact ⟨fun h => absurd h hlists.not_of_error, fun h => absurd rfl (h members)⟩
  · exact ⟨fun _ => hform, fun _ => herror⟩
  · exact ⟨fun h => (nomatch herror.symm.trans h), fun h => absurd rfl (h members)⟩

theorem ofDocument_eq_filtersNotList_iff {document : Value} :
    ofDocument document = .error .filtersNotList ↔
      ∃ members v, document = .object members ∧ members.lookup "filters" = some v ∧
        ∀ items, v ≠ .list items := by
  rcases ofDocument_cases document with
    ⟨items, hlists⟩ | ⟨hform, herror⟩ | ⟨members, v, rfl, hfilters, hkind, herror⟩
  · refine ⟨fun h => absurd h hlists.not_of_error, ?_⟩
    rintro ⟨members, v, rfl, hfilters, hkind⟩
    obtain ⟨_, ⟨rfl⟩, hitems | ⟨hnone, -⟩⟩ := hlists
    · exact absurd (Option.some.inj (hfilters.symm.trans hitems)) (hkind items)
    · exact nomatch hnone.symm.trans hfilters
  · refine ⟨fun h => (nomatch herror.symm.trans h), ?_⟩
    rintro ⟨members, v, rfl, -⟩
    exact absurd rfl (hform members)
  · exact ⟨fun _ => ⟨members, v, rfl, hfilters, hkind⟩, fun _ => herror⟩

def lost? : Except Warning Condition → Option Warning
  | .ok _ => none
  | .error w => some w

theorem length_outcomes (outcomes : List (Except Warning Condition)) :
    (outcomes.filterMap Except.toOption).length + (outcomes.filterMap lost?).length =
      outcomes.length := by
  induction outcomes with
  | nil => rfl
  | cons outcome outcomes ih =>
    cases outcome with
    | ok c => simp only [List.filterMap_cons, Except.toOption, lost?, List.length_cons]; omega
    | error w => simp only [List.filterMap_cons, Except.toOption, lost?, List.length_cons]; omega

theorem forall₂_gives (items : List Value) : List.Forall₂ Gives items (items.map ofEntry) := by
  rw [List.forall₂_map_right_iff]
  exact List.forall₂_same.mpr fun _ _ => gives_iff.mpr rfl

/-- A reply fails as a whole when what is left of its text between blanks is no document, when the
document is no object, and when its filters are no list. Else every entry of the list gives its own
condition or warning, in its place. -/
theorem reply_read_entry_by_entry (text : String) :
    ∃ core : String, Text.Stripped text.toList core.toList ∧
      (∀ b, ofReply text = .error (.invalidJson b) ↔ Value.read core = .error b) ∧
      (ofReply text = .error .notAnObject ↔
        ∃ document, Value.read core = .ok document ∧ ∀ members, document ≠ .object members) ∧
      (ofReply text = .error .filtersNotList ↔
        ∃ members v, Value.read core = .ok (.object members) ∧
          members.lookup "filters" = some v ∧ ∀ items, v ≠ .list items) ∧
      ∀ document items, Value.read core = .ok document → Lists document items →
        ∃ outcomes, List.Forall₂ Gives items outcomes ∧
          ofReply text = .ok (outcomes.filterMap Except.toOption, outcomes.filterMap lost?) ∧
          (outcomes.filterMap Except.toOption).length + (outcomes.filterMap lost?).length =
            items.length := by
  have hcore := Text.stripped_trimChars text.toList
  refine ⟨Text.trim text, by rwa [Text.trim, String.toList_ofList], ?_⟩
  cases hread : Value.read (Text.trim text) with
  | error b =>
    have hreply := ofReply_of_break hread
    simp [hreply]
  | ok document =>
    have hreply := ofReply_of_read hread
    have hdocument (b : Break) : ofDocument document ≠ .error (.invalidJson b) := by
      rcases ofDocument_cases document with
        ⟨items, hlists⟩ | ⟨-, herror⟩ | ⟨members, v, -, -, -, herror⟩
      · exact hlists.not_of_error
      · simp [herror]
      · simp [herror]
    refine ⟨by simp [hreply, hdocument], ?_, ?_, ?_⟩
    · rw [hreply, ofDocument_eq_notAnObject_iff]
      simp
    · rw [hreply, ofDocument_eq_filtersNotList_iff]
      simp
    · rintro _ items ⟨rfl⟩ hlists
      refine ⟨items.map ofEntry, forall₂_gives items, ?_, ?_⟩
      · rw [hreply, ofDocument_of_lists hlists, kept, dropped, List.filterMap_map,
          List.filterMap_map]
        rfl
      · rw [length_outcomes, List.length_map]

set_option maxRecDepth 4000 in
theorem reply_read_entry_by_entry_mixed :
    let text := "\u00A0\x7b\"filters\":[\x7b\"header\":\"a\",\"operator\":\"<\"," ++
      "\"value\":\" 1\"\x7d,0,\x7b\"header\":\"a\",\"operator\":\"===\",\"value\":\"x\"\x7d]\x7d\n"
    let entry (operator value : String) : Value := .object
      [("header", .string "a"), ("operator", .string operator), ("value", .string value)]
    let items := [entry "<" " 1", .number (.integer ⟨0, by decide⟩), entry "===" "x"]
    let document : Value := .object [("filters", .list items)]
    Value.read (Text.trim text) = .ok document ∧ Lists document items ∧
      ∃ bound, (Value.string " 1").asNumber? = some bound ∧
        ofReply text = .ok ([⟨"a", .less, .number (.real bound)⟩, ⟨"a", .equal, .string "x"⟩],
          [.malformedCondition "0"]) := by
  intro text entry items document
  have hread : Value.read (Text.trim text) = .ok document := by cbv
  have hlists : Lists document items := ⟨_, rfl, .inl rfl⟩
  obtain ⟨core, hcore, -, -, -, hentries⟩ := reply_read_entry_by_entry text
  have htrim : Text.trim text = core := by
    rw [Text.trim, hcore.trimChars_eq, String.ofList_toList]
  obtain ⟨bound, hbound⟩ : ∃ x, (Value.string " 1").asNumber? = some x :=
    Option.isSome_iff_exists.mp (by decide +kernel)
  have hfirst : Gives (entry "<" " 1") (.ok ⟨"a", .less, .number (.real bound)⟩) :=
    .number (c := ⟨"a", .less, .string " 1"⟩) ⟨⟨_, rfl, rfl, rfl, rfl⟩, by decide, rfl⟩ rfl hbound
  have hsecond : Gives (.number (.integer ⟨0, by decide⟩)) (.error (.malformedCondition "0")) :=
    .malformed (.form fun members hentry => by cases hentry)
  have hthird : Gives (entry "===" "x") (.ok ⟨"a", .equal, .string "x"⟩) :=
    .plain ⟨⟨_, rfl, rfl, rfl, rfl⟩, by decide, rfl⟩ rfl
  obtain ⟨outcomes, hgives, hreply, -⟩ := hentries document items (htrim ▸ hread) hlists
  obtain rfl := List.right_unique_forall₂' rightUnique_gives hgives
    (.cons hfirst (.cons hsecond (.cons hthird .nil)))
  exact ⟨hread, hlists, bound, hbound, hreply⟩

end Filter
end RowQuery
