import Mathlib
import RowQuery.Http.QueryBody
import RowQuery.Proofs.Decoding

/-!
# The form of a posted query

A body is a query in object form, where each of the two names stands once, or in list form, with the
two values in order. Other members of an object are skipped: their names have to be texts and they
have to end. `Written` says so of the tree of the text, without the fields read so far that the
decoder carries along.
-/
namespace RowQuery.Http.QueryBody
open Json

variable {room : Nat} {b b' : QueryBody} {seen : List String}

def named (name : String) (members : List (Quoted × Tree)) : List Tree :=
  (members.filter fun m => m.1.text.toOption = some name).map Prod.snd

def Passable (members : List (Quoted × Tree)) : Prop :=
  ∀ m ∈ members, ∃ name, m.1.text = .ok name ∧
    (name = "query" ∨ name = "data" ∨ m.2.skip = .ok ())

structure ObjectForm (room : Nat) (members : List (Quoted × Tree)) (b : QueryBody) : Prop where
  query : ∃ t, named "query" members = [t] ∧ t.valueWithin room = .ok (.string b.query)
  data : ∃ t, named "data" members = [t] ∧ t.valueWithin room = .ok (.list b.data)
  others : Passable members

/-- The text of a document is a query, in one of the two forms. -/
inductive Written : Document → QueryBody → Prop
  | object {members : List (Quoted × Tree)} {b : QueryBody} :
      ObjectForm (maxDepth - 1) members b → Written ⟨.object members .closed, false⟩ b
  | list {query data : Tree} {b : QueryBody} :
      query.valueWithin (maxDepth - 1) = .ok (.string b.query) →
      data.valueWithin (maxDepth - 1) = .ok (.list b.data) →
      Written ⟨.list [query, data] .closed, false⟩ b

section Settles
variable {α : Type} {name other : String} {read : Tree → α → Prop} {seen' : List String}
  {old new : α} {m : Quoted × Tree} {members : List (Quoted × Tree)}

def Settles (name : String) (read : Tree → α → Prop) (seen : List String) (old new : α)
    (members : List (Quoted × Tree)) : Prop :=
  if name ∈ seen then named name members = [] ∧ new = old
  else ∃ t, named name members = [t] ∧ read t new

theorem settles_nil : Settles name read seen old new [] ↔ name ∈ seen ∧ new = old := by
  by_cases hseen : name ∈ seen <;> simp [Settles, named, hseen]

theorem settles_cons_self (hname : m.1.text = .ok name) :
    Settles name read seen old new (m :: members) ↔
      name ∉ seen ∧ ∃ a, read m.2 a ∧ Settles name read (name :: seen) a new members := by
  have hnamed : named name (m :: members) = m.2 :: named name members := by
    simp [named, hname, Except.toOption]
  by_cases hseen : name ∈ seen
  · simp [Settles, hnamed, hseen]
  · simp only [Settles, hnamed, if_neg hseen, List.mem_cons_self, if_true]
    constructor
    · intro h
      obtain ⟨t, ht, hread⟩ := h
      obtain ⟨rfl, hlast⟩ := List.cons.inj ht
      exact ⟨hseen, new, hread, hlast, rfl⟩
    · intro h
      obtain ⟨-, a, hread, hlast, rfl⟩ := h
      exact ⟨m.2, by rw [hlast], hread⟩

theorem settles_cons_ne (hname : m.1.text = .ok other) (hne : other ≠ name)
    (hseen : name ∈ seen' ↔ name ∈ seen) :
    Settles name read seen old new (m :: members) ↔ Settles name read seen' old new members := by
  have hnamed : named name (m :: members) = named name members := by
    simp [named, hname, Except.toOption, hne]
  simp only [Settles, hnamed, hseen]

end Settles

structure Completes (room : Nat) (seen : List String) (b : QueryBody)
    (members : List (Quoted × Tree)) (b' : QueryBody) : Prop where
  query : Settles "query" (fun t s => t.valueWithin room = .ok (.string s)) seen b.query b'.query
    members
  data : Settles "data" (fun t vs => t.valueWithin room = .ok (.list vs)) seen b.data b'.data
    members
  others : Passable members

variable {m : Quoted × Tree} {members : List (Quoted × Tree)}

theorem completes_start : Completes room [] ⟨"", []⟩ members b ↔ ObjectForm room members b :=
  ⟨fun h => ⟨h.query, h.data, h.others⟩, fun h => ⟨h.query, h.data, h.others⟩⟩

theorem completes_nil : Completes room seen b [] b' ↔ "query" ∈ seen ∧ "data" ∈ seen ∧ b' = b := by
  constructor
  · intro h
    obtain ⟨hquery, hsame⟩ := settles_nil.mp h.query
    obtain ⟨hdata, hsame'⟩ := settles_nil.mp h.data
    refine ⟨hquery, hdata, ?_⟩
    cases b
    cases b'
    cases hsame
    cases hsame'
    rfl
  · intro h
    obtain ⟨hquery, hdata, rfl⟩ := h
    exact ⟨settles_nil.mpr ⟨hquery, rfl⟩, settles_nil.mpr ⟨hdata, rfl⟩, by simp [Passable]⟩

theorem passable_cons : Passable (m :: members) ↔ (∃ name, m.1.text = .ok name ∧
    (name = "query" ∨ name = "data" ∨ m.2.skip = .ok ())) ∧ Passable members :=
  List.forall_mem_cons

theorem completes_cons_query (hname : m.1.text = .ok "query") :
    Completes room seen b (m :: members) b' ↔ "query" ∉ seen ∧
      ∃ s, m.2.valueWithin room = .ok (.string s) ∧
        Completes room ("query" :: seen) { b with query := s } members b' := by
  have hother : "data" ∈ "query" :: seen ↔ "data" ∈ seen := by simp
  have hne : "query" ≠ "data" := by decide
  constructor
  · intro h
    obtain ⟨hseen, s, hread, hquery⟩ := (settles_cons_self hname).mp h.query
    exact ⟨hseen, s, hread, hquery, (settles_cons_ne hname hne hother).mp h.data,
      (passable_cons.mp h.others).2⟩
  · intro h
    obtain ⟨hseen, s, hread, hrest⟩ := h
    exact ⟨(settles_cons_self hname).mpr ⟨hseen, s, hread, hrest.query⟩,
      (settles_cons_ne hname hne hother).mpr hrest.data,
      passable_cons.mpr ⟨⟨_, hname, .inl rfl⟩, hrest.others⟩⟩

theorem completes_cons_data (hname : m.1.text = .ok "data") :
    Completes room seen b (m :: members) b' ↔ "data" ∉ seen ∧
      ∃ vs, m.2.valueWithin room = .ok (.list vs) ∧
        Completes room ("data" :: seen) { b with data := vs } members b' := by
  have hother : "query" ∈ "data" :: seen ↔ "query" ∈ seen := by simp
  have hne : "data" ≠ "query" := by decide
  constructor
  · intro h
    obtain ⟨hseen, vs, hread, hdata⟩ := (settles_cons_self hname).mp h.data
    exact ⟨hseen, vs, hread, (settles_cons_ne hname hne hother).mp h.query, hdata,
      (passable_cons.mp h.others).2⟩
  · intro h
    obtain ⟨hseen, vs, hread, hrest⟩ := h
    exact ⟨(settles_cons_ne hname hne hother).mpr hrest.query,
      (settles_cons_self hname).mpr ⟨hseen, vs, hread, hrest.data⟩,
      passable_cons.mpr ⟨⟨_, hname, .inr (.inl rfl)⟩, hrest.others⟩⟩

theorem completes_cons_other {name : String} (hname : m.1.text = .ok name)
    (hquery : name ≠ "query") (hdata : name ≠ "data") :
    Completes room seen b (m :: members) b' ↔
      m.2.skip = .ok () ∧ Completes room seen b members b' := by
  constructor
  · intro h
    obtain ⟨⟨name', hname', hcase⟩, hrest⟩ := passable_cons.mp h.others
    obtain rfl : name = name' := Except.ok.inj (hname.symm.trans hname')
    have hskip : m.2.skip = .ok () := (hcase.resolve_left hquery).resolve_left hdata
    exact ⟨hskip, (settles_cons_ne hname hquery Iff.rfl).mp h.query,
      (settles_cons_ne hname hdata Iff.rfl).mp h.data, hrest⟩
  · intro h
    obtain ⟨hskip, hrest⟩ := h
    exact ⟨(settles_cons_ne hname hquery Iff.rfl).mpr hrest.query,
      (settles_cons_ne hname hdata Iff.rfl).mpr hrest.data,
      passable_cons.mpr ⟨⟨name, hname, .inr (.inr hskip)⟩, hrest.others⟩⟩

theorem completes_cons : Completes room seen b (m :: members) b' ↔ ∃ now b₁,
    form.readMember room seen b m = .ok (now, b₁) ∧ Completes room now b₁ members b' := by
  cases hname : m.1.text with
  | error broken =>
    constructor
    · intro h
      obtain ⟨⟨name, htext, -⟩, -⟩ := passable_cons.mp h.others
      rw [hname] at htext
      cases htext
    · intro h
      obtain ⟨now, b₁, hfirst, -⟩ := h
      exact absurd hfirst (Record.readMember_of_break hname)
  | ok name =>
    -- One member: under either name it is read, under any other it is passed over.
    by_cases hquery : name = "query"
    · subst hquery
      have hfind : form.fields.find? (·.name == "query") =
        some (.required "query" Decoder.string fun query b => { b with query }) := rfl
      simp only [completes_cons_query hname, Record.readMember_of_field hname hfind,
        Field.read_required_iff, Decoder.string_eq_ok_iff]
      constructor
      · intro h
        obtain ⟨hseen, s, hread, hrest⟩ := h
        exact ⟨_, _, ⟨hseen, rfl, s, hread, rfl⟩, hrest⟩
      · intro h
        obtain ⟨now, b₁, ⟨hseen, rfl, s, hread, rfl⟩, hrest⟩ := h
        exact ⟨hseen, s, hread, hrest⟩
    · by_cases hdata : name = "data"
      · subst hdata
        have hfind : form.fields.find? (·.name == "data") =
          some (.required "data" (Decoder.list Decoder.any) fun data b => { b with data }) := rfl
        simp only [completes_cons_data hname, Record.readMember_of_field hname hfind,
          Field.read_required_iff, Decoder.list_any_eq_ok_iff]
        constructor
        · intro h
          obtain ⟨hseen, vs, hread, hrest⟩ := h
          exact ⟨_, _, ⟨hseen, rfl, vs, hread, rfl⟩, hrest⟩
        · intro h
          obtain ⟨now, b₁, ⟨hseen, rfl, vs, hread, rfl⟩, hrest⟩ := h
          exact ⟨hseen, vs, hread, hrest⟩
      · have hfind : form.fields.find? (·.name == name) = none := by
          simp [form, Record.strict, Field.required, Field.ofDecoder, Ne.symm hquery, Ne.symm hdata]
        have hother : form.other = Record.skipOther := rfl
        simp only [completes_cons_other hname hquery hdata, Record.readMember_of_other hname hfind,
          hother, Record.skipOther_eq_ok_iff]
        constructor
        · intro h
          obtain ⟨hskip, hrest⟩ := h
          exact ⟨_, _, ⟨rfl, hskip, rfl⟩, hrest⟩
        · intro h
          obtain ⟨now, b₁, ⟨rfl, hskip, rfl⟩, hrest⟩ := h
          exact ⟨hskip, hrest⟩

theorem readMembers_eq_ok_iff :
    (∃ seen', form.readMembers room seen b members = .ok (seen', b') ∧ "query" ∈ seen' ∧
      "data" ∈ seen') ↔ Completes room seen b members b' := by
  induction members generalizing seen b with
  | nil =>
    rw [completes_nil]
    constructor
    · intro h
      obtain ⟨seen', hread, hquery, hdata⟩ := h
      cases hread
      exact ⟨hquery, hdata, rfl⟩
    · intro h
      obtain ⟨hquery, hdata, rfl⟩ := h
      exact ⟨seen, rfl, hquery, hdata⟩
  | cons m members ih =>
    simp only [completes_cons, ← ih, Record.readMembers_cons_eq_ok_iff]
    constructor
    · intro h
      obtain ⟨seen', ⟨now, b₁, hfirst, hrest⟩, hboth⟩ := h
      exact ⟨now, b₁, hfirst, seen', hrest, hboth⟩
    · intro h
      obtain ⟨now, b₁, hfirst, seen', hrest, hboth⟩ := h
      exact ⟨seen', ⟨now, b₁, hfirst, hrest⟩, hboth⟩

theorem missing_eq_none_iff :
    (form.fields.find? fun field => !field.isOptional && !seen.contains field.name) = none ↔
      "query" ∈ seen ∧ "data" ∈ seen := by
  simp [form, Record.strict, Field.required, Field.ofDecoder]

theorem decode_object_iff {ending : Ending} :
    form.decode ⟨"", []⟩ (room + 1) (.object members ending) = .ok b ↔
      ending = .closed ∧ ObjectForm room members b := by
  rw [← completes_start, ← readMembers_eq_ok_iff]
  simp only [Record.decode, Decoder.enter, bind, Except.bind, ← missing_eq_none_iff]
  cases hread : form.readMembers room [] ⟨"", []⟩ members with
  | error e => simp
  | ok next =>
    obtain ⟨seen, read⟩ := next
    cases ending with
    | cut broken => simp [Ending.check, Decoder.ofBreak, Except.mapError]
    | closed =>
      simp only [Ending.check, Decoder.ofBreak, Except.mapError, true_and, Except.ok.injEq,
        Prod.mk.injEq]
      cases hmissing : form.fields.find? fun field =>
          !field.isOptional && !seen.contains field.name with
      | some field =>
        constructor
        · intro h
          cases h
        · intro h
          obtain ⟨_, ⟨rfl, -⟩, hnone⟩ := h
          rw [hmissing] at hnone
          cases hnone
      | none =>
        constructor
        · intro h
          cases h
          exact ⟨seen, ⟨rfl, rfl⟩, hmissing⟩
        · intro h
          obtain ⟨_, ⟨-, rfl⟩, -⟩ := h
          rfl

theorem decode_list_iff {ts : List Tree} {ending : Ending} :
    form.decode ⟨"", []⟩ (room + 1) (.list ts ending) = .ok b ↔
      ending = .closed ∧ ∃ query data, ts = [query, data] ∧
        query.valueWithin room = .ok (.string b.query) ∧
        data.valueWithin room = .ok (.list b.data) := by
  have hdecode : form.decode ⟨"", []⟩ (room + 1) (.list ts ending) =
      form.readElements room 0 ⟨"", []⟩ ending
        [.required "query" Decoder.string fun query b => { b with query },
          .required "data" (Decoder.list Decoder.any) fun data b => { b with data }] ts := rfl
  rw [hdecode]
  simp only [Record.readElements_cons_eq_ok_iff (Field.isDefaulted_required _ _ _),
    Record.readElements_nil_eq_ok_iff, Field.read_required_iff, Decoder.string_eq_ok_iff,
    Decoder.list_any_eq_ok_iff]
  constructor
  · intro h
    obtain ⟨query, _, _, rfl, ⟨s, hquery, rfl⟩, data, _, _, rfl, ⟨vs, hdata, rfl⟩, rfl, rfl, rfl⟩ :=
      h
    exact ⟨rfl, query, data, rfl, hquery, hdata⟩
  · intro h
    obtain ⟨rfl, query, data, rfl, hquery, hdata⟩ := h
    exact ⟨query, _, _, rfl, ⟨_, hquery, rfl⟩, data, _, _, rfl, ⟨_, hdata, rfl⟩, rfl, rfl, rfl⟩

theorem decode_eq_ok_iff {t : Tree} : decoder maxDepth t = .ok b ↔ Written ⟨t, false⟩ b := by
  cases t with
  | object members ending =>
    refine decode_object_iff.trans ⟨fun h => ?_, fun h => ?_⟩
    · obtain ⟨rfl, hform⟩ := h
      exact .object hform
    · cases h with
      | object hform => exact ⟨rfl, hform⟩
  | list ts ending =>
    refine decode_list_iff.trans ⟨fun h => ?_, fun h => ?_⟩
    · obtain ⟨rfl, query, data, rfl, hquery, hdata⟩ := h
      exact .list hquery hdata
    · cases h with
      | list hquery hdata => exact ⟨rfl, _, _, rfl, hquery, hdata⟩
  | _ =>
    refine iff_of_false ?_ nofun
    simp only [decoder, Record.decode]
    exact Decoder.wrongType_ne_ok _ _ _

theorem ofBytes_eq_ok_iff {bytes : ByteArray} :
    decoder.ofBytes bytes = .ok b ↔ Written (Document.ofBytes bytes.data.toList) b := by
  rw [Decoder.ofBytes]
  cases Document.ofBytes bytes.data.toList with
  | mk t trailing =>
    cases trailing with
    | false =>
      rw [← decode_eq_ok_iff]
      cases decoder maxDepth t <;> simp [bind, Except.bind]
    | true =>
      refine iff_of_false ?_ nofun
      cases decoder maxDepth t <;> simp [bind, Except.bind]

end RowQuery.Http.QueryBody
