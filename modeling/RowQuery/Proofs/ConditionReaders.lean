import Mathlib
import RowQuery.Proofs.Converting
import RowQuery.Proofs.DistinctNames
import RowQuery.Proofs.ReadingBack
import RowQuery.Proofs.ReplyEntries

/-!
# The readers of a condition

A condition is read from a text, from a value in its record form, and from a value in the stricter
form that a reply has. The three agree wherever the stricter form is: on an object that names its
operator by a text, gives it a header, and compares with something. What they leave to each other
is the list form, an operator in an object of its own, and names that come twice in a text.
-/
namespace RowQuery.Json

theorem Converter.into_eq_ok_iff {α σ : Type} {c : Converter α} {set : α → σ → σ} {v : Value}
    {s s' : σ} : c.into set v s = .ok s' ↔ ∃ a, c v = .ok a ∧ s' = set a s := by
  cases h : c v <;> simp [into, h, Except.map, eq_comm]

theorem Converter.get_into {α σ : Type} {c : Converter α} {set : α → σ → σ} {get : σ → α}
    {v : Value} {s s' : σ} (h : c.into set v s = .ok s') (lawful : ∀ a s, get (set a s) = a) :
    c v = .ok (get s') := by
  obtain ⟨a, ha, rfl⟩ := into_eq_ok_iff.mp h
  rw [ha, lawful]

theorem Converter.get_into_other {α β σ : Type} {c : Converter β} {set : β → σ → σ} {get : σ → α}
    {v : Value} {s s' : σ} (h : c.into set v s = .ok s') (lawful : ∀ b s, get (set b s) = get s) :
    get s' = get s := by
  obtain ⟨b, -, rfl⟩ := into_eq_ok_iff.mp h
  exact lawful b s

theorem Converter.string_eq_ok_iff {v : Value} {s : String} :
    Converter.string v = .ok s ↔ v = .string s := by
  cases v <;> simp [Converter.string, wrongType]

theorem Field.read_required_iff_into {α σ : Type} {name : String} {d : Decoder α} {c : Converter α}
    {set : α → σ → σ} {room : Nat} {t : Tree} {v : Value}
    (h : ∀ a, d room t = .ok a ↔ c v = .ok a) (s s' : σ) :
    (Field.required name d set).read room t s = .ok s' ↔ c.into set v s = .ok s' := by
  simp only [Field.read_required_iff, Converter.into_eq_ok_iff, h]

end RowQuery.Json

namespace RowQuery
open Json

namespace Operator

theorem lookup_tags (os : List Operator) (s : String) :
    (os.map fun o => (o.tag, o)).lookup s = os.find? fun o => o.symbol == s := by
  induction os with
  | nil => rfl
  | cons o os ih =>
    rw [List.map_cons, List.lookup_cons, List.find?_cons, ih, tag_eq_symbol, BEq.comm]

theorem converter_string_iff {s : String} {o : Operator} :
    converter (.string s) = .ok o ↔ ofSymbol? s = some o := by
  rw [converter, Converter.variant, Converter.lookupVariant, lookup_tags, ← ofSymbol?]
  cases ofSymbol? s <;> simp

theorem decoder_string_iff {room : Nat} {q : Quoted} {s : String} (hq : q.text = .ok s)
    {o : Operator} : decoder room (.string q) = .ok o ↔ ofSymbol? s = some o := by
  rw [decoder, Decoder.variant, hq]
  simp only [Decoder.ofBreak, Except.mapError, bind, Except.bind, Decoder.lookupVariant]
  rw [lookup_tags, ← ofSymbol?]
  cases ofSymbol? s <;> simp [Decoder.fail]

theorem decoder_text_iff {text s : String} (h : Value.read text = .ok (.string s)) {o : Operator} :
    decoder.ofBytes text.toUTF8 = .ok o ↔ ofSymbol? s = some o := by
  obtain ⟨htree, htrailing⟩ := Value.read_eq_ok_iff.mp h
  obtain ⟨q, ht, hq⟩ := Tree.valueWithin_eq_string_iff.mp htree
  rw [Decoder.ofBytes_eq_ok_iff, and_iff_left htrailing, ht, decoder_string_iff hq]

end Operator

namespace Condition
variable {c : Condition} {members : Members}

abbrev parts : List (Record.Part Condition) := form.fields.zip reads

theorem forall_parts
    {p : Json.Field Condition → (Value → Condition → Except Fault Condition) → Prop}
    (header : p (.required "header" Decoder.string fun header c => { c with header })
      (Converter.string.into fun header c => { c with header }))
    (operator : p (.required "operator" Operator.decoder fun operator c => { c with operator })
      (Operator.converter.into fun operator c => { c with operator }))
    (value : p (.required "value" Decoder.any fun value c => { c with value })
      (Converter.any.into fun value c => { c with value })) (field convert)
    (h : (field, convert) ∈ parts) : p field convert := by
  have hall : ∀ part ∈ parts, p part.1 part.2 :=
    List.forall_mem_cons.mpr ⟨header, List.forall_mem_cons.mpr
      ⟨operator, List.forall_mem_cons.mpr ⟨value, List.forall_mem_nil _⟩⟩⟩
  exact hall _ h

theorem gets_header : Record.Gets parts "header" Converter.string Condition.header where
  known := ⟨_, List.mem_cons_self, rfl⟩
  own := forall_parts (fun _ _ _ _ h => Converter.get_into h fun _ _ => rfl)
    (fun h => absurd h (by decide)) (fun h => absurd h (by decide))
  others := forall_parts (fun h => absurd rfl h)
    (fun _ _ _ _ h => Converter.get_into_other h fun _ _ => rfl)
    (fun _ _ _ _ h => Converter.get_into_other h fun _ _ => rfl)

theorem gets_operator : Record.Gets parts "operator" Operator.converter Condition.operator where
  known := ⟨_, List.mem_cons_of_mem _ List.mem_cons_self, rfl⟩
  own := forall_parts (fun h => absurd h (by decide))
    (fun _ _ _ _ h => Converter.get_into h fun _ _ => rfl) (fun h => absurd h (by decide))
  others := forall_parts (fun _ _ _ _ h => Converter.get_into_other h fun _ _ => rfl)
    (fun h => absurd rfl h) (fun _ _ _ _ h => Converter.get_into_other h fun _ _ => rfl)

theorem gets_value : Record.Gets parts "value" Converter.any Condition.value where
  known := ⟨_, List.mem_cons_of_mem _ (List.mem_cons_of_mem _ List.mem_cons_self), rfl⟩
  own := forall_parts (fun h => absurd h (by decide)) (fun h => absurd h (by decide))
    (fun _ _ _ _ h => Converter.get_into h fun _ _ => rfl)
  others := forall_parts (fun _ _ _ _ h => Converter.get_into_other h fun _ _ => rfl)
    (fun _ _ _ _ h => Converter.get_into_other h fun _ _ => rfl) (fun h => absurd rfl h)

/-- The members of the three names, wherever they stand, are those of the condition. -/
structure HeldBy (members : Members) (c : Condition) : Prop where
  header : members.lookup "header" = some (.string c.header)
  operator : ∃ v, members.lookup "operator" = some v ∧ Operator.converter v = .ok c.operator
  value : members.lookup "value" = some c.value

theorem HeldBy.unique {c' : Condition} (h : HeldBy members c) (h' : HeldBy members c') :
    c = c' := by
  obtain ⟨header, ⟨v, hv, operator⟩, value⟩ := h
  obtain ⟨header', ⟨v', hv', operator'⟩, value'⟩ := h'
  obtain rfl : v = v' := Option.some.inj (hv.symm.trans hv')
  cases c
  cases c'
  cases header.symm.trans header'
  cases operator.symm.trans operator'
  cases value.symm.trans value'
  rfl

theorem heldBy_of_convertMembers {seen : List String}
    (h : Record.convertMembers parts [] blank members = .ok (seen, c))
    (header : "header" ∈ seen) (operator : "operator" ∈ seen) (value : "value" ∈ seen) :
    HeldBy members c where
  header := by
    obtain ⟨v, hv, hstring⟩ := gets_header.lookup_of_convertMembers List.not_mem_nil h header
    rwa [Converter.string_eq_ok_iff.mp hstring] at hv
  operator := gets_operator.lookup_of_convertMembers List.not_mem_nil h operator
  value := by
    obtain ⟨v, hv, hany⟩ := gets_value.lookup_of_convertMembers List.not_mem_nil h value
    cases hany
    exact hv

theorem HeldBy.readable (h : HeldBy members c) {m : String × Value}
    (hm : members.lookup m.1 = some m.2) : ∀ field convert, (field, convert) ∈ parts →
      field.name = m.1 → ∀ c, ∃ c', convert m.2 c = .ok c' := by
  refine forall_parts (fun hname s => ?_) (fun hname s => ?_) (fun _ s => ?_)
  · rw [← hname] at hm
    have hstring : Value.string c.header = m.2 := Option.some.inj (h.header.symm.trans hm)
    exact ⟨_, Converter.into_eq_ok_iff.mpr ⟨c.header, hstring ▸ rfl, rfl⟩⟩
  · rw [← hname] at hm
    obtain ⟨v, hv, hread⟩ := h.operator
    have hown : v = m.2 := Option.some.inj (hv.symm.trans hm)
    exact ⟨_, Converter.into_eq_ok_iff.mpr ⟨c.operator, hown ▸ hread, rfl⟩⟩
  · exact ⟨_, Converter.into_eq_ok_iff.mpr ⟨m.2, rfl, rfl⟩⟩

theorem required_iff {seen : List String} :
    (∀ field ∈ form.fields, field.isOptional = false → field.name ∈ seen) ↔
      "header" ∈ seen ∧ "operator" ∈ seen ∧ "value" ∈ seen := by
  simp [form, Record.strict, Field.required, Field.ofDecoder]

theorem converter_object_iff (once : members.names.Nodup) :
    converter (.object members) = .ok c ↔ HeldBy members c := by
  rw [converter, Record.convert_object_eq_ok_iff]
  simp only [required_iff]
  constructor
  · rintro ⟨seen, h, header, operator, value⟩
    exact heldBy_of_convertMembers h header operator value
  · intro held
    obtain ⟨seen, c', h, -, hseen⟩ := Record.exists_convertMembers once
      (fun _ h => absurd h List.not_mem_nil)
      (fun m hm => held.readable ((Members.lookup_eq_some_iff once).mpr hm)) blank
    have hall : "header" ∈ seen ∧ "operator" ∈ seen ∧ "value" ∈ seen := by
      obtain ⟨v, hoperator, -⟩ := held.operator
      exact ⟨hseen _ List.mem_cons_self (Members.mem_names_of_lookup held.header),
        hseen _ (List.mem_cons_of_mem _ List.mem_cons_self)
          (Members.mem_names_of_lookup hoperator),
        hseen _ (List.mem_cons_of_mem _ (List.mem_cons_of_mem _ List.mem_cons_self))
          (Members.mem_names_of_lookup held.value)⟩
    -- What was read is held too, and only one condition is.
    have hheld := heldBy_of_convertMembers h hall.1 hall.2.1 hall.2.2
    exact ⟨seen, hheld.unique held ▸ h, hall⟩

theorem ofValue?_eq_some_iff_converter {v : Value} (once : v.memberNames.Nodup) :
    ofValue? v = some c ↔
      (∃ members s, v = .object members ∧ members.lookup "operator" = some (.string s)) ∧
        converter v = .ok c ∧ c.header ≠ "" ∧ c.value.isNull = false := by
  rw [Filter.ofValue?_eq_some_iff]
  constructor
  · rintro ⟨⟨members, rfl, hheader, hoperator, hvalue⟩, hnonempty, hnull⟩
    have hread : Operator.converter (.string c.operator.symbol) = .ok c.operator :=
      Operator.converter_string_iff.mpr (Operator.ofSymbol?_symbol c.operator)
    exact ⟨⟨members, _, rfl, hoperator⟩,
      (converter_object_iff once).mpr ⟨hheader, ⟨_, hoperator, hread⟩, hvalue⟩, hnonempty, hnull⟩
  · rintro ⟨⟨members, s, rfl, hstring⟩, hread, hnonempty, hnull⟩
    obtain ⟨hheader, ⟨v, hoperator, hv⟩, hvalue⟩ := (converter_object_iff once).mp hread
    obtain rfl : .string s = v := Option.some.inj (hstring.symm.trans hoperator)
    rw [← Operator.symbol_of_ofSymbol? (Operator.converter_string_iff.mp hv)] at hstring
    exact ⟨⟨members, rfl, hheader, hstring, hvalue⟩, hnonempty, hnull⟩

theorem readAlike {room : Nat} {m : Quoted × Tree} {e : String × Value}
    (hname : m.1.text = .ok e.1) (hvalue : m.2.valueWithin room = .ok e.2)
    (hoperator : e.1 = "operator" → ∃ s, e.2 = .string s) :
    Record.ReadAlike form reads room m e where
  name := hname
  passes := Tree.skip_of_valueWithin hvalue
  field := by
    refine forall_parts (fun _ => Field.read_required_iff_into fun a => ?_)
      (fun h => Field.read_required_iff_into fun a => ?_)
      (fun _ => Field.read_required_iff_into fun a => ?_)
    · rw [Decoder.string_eq_ok_iff, Converter.string_eq_ok_iff, hvalue, Except.ok.injEq]
    · obtain ⟨s, hs⟩ := hoperator h.symm
      rw [hs] at hvalue
      obtain ⟨q, ht, hq⟩ := Tree.valueWithin_eq_string_iff.mp hvalue
      rw [ht, hs, Operator.decoder_string_iff hq, Operator.converter_string_iff]
    · rw [Decoder.any, Decoder.ofBreak_eq_ok_iff, hvalue, Converter.any, Except.ok.injEq,
        Except.ok.injEq]

theorem decoder_iff_converter {text : String} {s : String}
    (hread : Value.read text = .ok (.object members))
    (once : (Document.ofBytes text.toUTF8.data.toList).names.Nodup)
    (hoperator : members.lookup "operator" = some (.string s)) :
    decoder.ofBytes text.toUTF8 = .ok c ↔ converter (.object members) = .ok c := by
  have hdistinct : members.names.Nodup := (Value.distinct_read hread).memberNames_nodup
  obtain ⟨htree, htrailing⟩ := Value.read_eq_ok_iff.mp hread
  obtain ⟨room, parts, hroom, hobject, hmembers⟩ := Tree.valueWithin_eq_object_iff.mp htree
  rw [Document.names, hobject] at once
  obtain ⟨added, hadded, hforall⟩ := Tree.forall₂_of_membersWithin hmembers once
    fun _ _ _ _ hname => absurd hname List.not_mem_nil
  obtain rfl : members = added := hadded
  have halike : List.Forall₂ (Record.ReadAlike form reads room) parts members := by
    refine List.forall₂_iff_zip.mpr ⟨hforall.length_eq, fun {m e} hmem => ?_⟩
    obtain ⟨hname, hvalue⟩ := List.forall₂_zip hforall hmem
    refine readAlike hname hvalue fun hown => ⟨s, ?_⟩
    have hlookup := (Members.lookup_eq_some_iff hdistinct).mpr (List.of_mem_zip hmem).2
    rw [hown, hoperator] at hlookup
    exact (Option.some.inj hlookup).symm
  rw [Decoder.ofBytes_eq_ok_iff, and_iff_left htrailing, hobject, hroom]
  exact Record.decode_iff_convert rfl rfl halike

theorem converter_toValue (c : Condition) : converter c.toValue = .ok c := by
  have once : ["header", "operator", "value"].Nodup := by decide
  have hoperator : Operator.converter (.string c.operator.tag) = .ok c.operator := by
    rw [Operator.converter_string_iff, Operator.tag_eq_symbol, Operator.ofSymbol?_symbol]
  rw [toValue]
  refine (converter_object_iff ?_).mpr ⟨rfl, ⟨_, rfl, hoperator⟩, rfl⟩
  exact once

/-- The stricter reader takes from the value of a text what the record reader takes from the text,
as far as the operator is a text, the header is not empty, and the value is not null. Operators
have the same names for both, and a condition that was written is read back. -/
theorem readers_agree {text : String} {v : Value} (read : Value.read text = .ok v)
    (once : (Document.ofBytes text.toUTF8.data.toList).names.Nodup) :
    (∀ c, ofValue? v = some c ↔
      (∃ members s, v = .object members ∧ members.lookup "operator" = some (.string s)) ∧
        decoder.ofBytes text.toUTF8 = .ok c ∧ c.header ≠ "" ∧ c.value.isNull = false) ∧
      (∀ s, Value.read (Value.string s).text = .ok (.string s) ∧
        ∀ o, (Operator.converter (.string s) = .ok o ↔ Operator.ofSymbol? s = some o) ∧
          ∀ quoted, Value.read quoted = .ok (.string s) →
            (Operator.decoder.ofBytes quoted.toUTF8 = .ok o ↔ Operator.ofSymbol? s = some o)) ∧
      ∀ c : Condition, converter c.toValue = .ok c := by
  refine ⟨fun c => ?_, fun s => ⟨(Value.NumberFree.string s).read_text, fun o =>
    ⟨Operator.converter_string_iff, fun _ hread => Operator.decoder_text_iff hread⟩⟩,
    converter_toValue⟩
  rw [ofValue?_eq_some_iff_converter (Value.distinct_read read).memberNames_nodup]
  refine and_congr_right fun hform => and_congr_left' ?_
  obtain ⟨members, s, rfl, hoperator⟩ := hform
  exact (decoder_iff_converter read once hoperator).symm

set_option maxRecDepth 4000 in
theorem readers_agree_unordered :
    let text := "\x7b\"note\":[\x7b\"a\":1,\"a\":null\x7d],\"value\":[\"x\"]," ++
      "\"operator\":\"!contains\",\"header\":\"a\"\x7d"
    let c : Condition := ⟨"a", .notContains, .list [.string "x"]⟩
    (∃ v, Value.read text = .ok v ∧ ofValue? v = some c) ∧
      (Document.ofBytes text.toUTF8.data.toList).names.Nodup ∧
      decoder.ofBytes text.toUTF8 = .ok c ∧
      Operator.decoder.ofBytes "\">\\u003d\"".toUTF8 = .ok .atLeast := by
  intro text c
  let v : Value := .object [("note", .list [.object [("a", .null)]]),
    ("value", .list [.string "x"]), ("operator", .string "!contains"), ("header", .string "a")]
  have hread : Value.read text = .ok v := by cbv
  have hnames : (Document.ofBytes text.toUTF8.data.toList).names =
      [some "note", some "value", some "operator", some "header"] := by cbv
  have once : (Document.ofBytes text.toUTF8.data.toList).names.Nodup := by
    rw [hnames]
    decide
  have hc : ofValue? v = some c := by cbv
  have hsymbol : Value.read "\">\\u003d\"" = .ok (.string ">=") := by cbv
  obtain ⟨hagree, hoperators, -⟩ := readers_agree hread once
  exact ⟨⟨v, hread, hc⟩, once, ((hagree c).mp hc).2.1,
    (((hoperators ">=").2 .atLeast).2 _ hsymbol).mpr (by decide)⟩

end Condition
end RowQuery
