import Mathlib
import RowQuery.Json.Converter
import RowQuery.Proofs.Decoding
import RowQuery.Proofs.Members

/-!
# Reading from a text and from its value

A record is read from an object member by member. Each of its fields ends up with what is read
under its name, so the members count only as a map; and where no name comes twice, reading the text
and reading its value go the same way, step by step.
-/
namespace RowQuery.Json

theorem Quoted.ending_of_octets {ending : Option Break} {done bytes : List UInt8}
    {pieces : List Piece} (h : octets ending done pieces = .ok bytes) : ending = none := by
  fun_induction octets ending done pieces with
  | case1 => assumption
  | _ => simp_all

theorem Quoted.ending_of_text {q : Quoted} {s : String} (h : q.text = .ok s) : q.ending = none := by
  rw [text] at h
  cases hbytes : octets q.ending [] q.pieces with
  | error b =>
    rw [hbytes] at h
    cases h
  | ok bytes => exact ending_of_octets hbytes

namespace Tree
variable {room : Nat}

theorem skip_of_valueWithin {t : Tree} {v : Value} (h : t.valueWithin room = .ok v) :
    t.skip = .ok () := by
  cases t with
  | string q =>
    cases hq : q.text with
    | error b => simp [valueWithin, hq, Except.map] at h
    | ok s => rw [skip, Quoted.ending_of_text hq]
  | list ts ending =>
    obtain ⟨_, _, _, _, rfl, _⟩ := valueWithin_list_iff.mp h
    rfl
  | object ms ending =>
    obtain ⟨_, _, _, _, rfl, _⟩ := valueWithin_object_iff.mp h
    rfl
  | broken b => cases h
  | _ => rfl

theorem valueWithin_eq_object_iff {t : Tree} {values : Members} :
    t.valueWithin room = .ok (.object values) ↔ ∃ inner members, room = inner + 1 ∧
      t = .object members .closed ∧ membersWithin inner [] members = .ok values := by
  cases t with
  | string q => cases h : q.text <;> simp [valueWithin, Except.map, h]
  | number l => cases h : l.read <;> simp [valueWithin, Except.map, h]
  | list ts ending => simp [valueWithin_list_iff]
  | object ms ending =>
    rw [valueWithin_object_iff]
    constructor
    · rintro ⟨inner, values, hroom, hmembers, rfl, ⟨⟩⟩
      exact ⟨inner, ms, hroom, rfl, hmembers⟩
    · rintro ⟨inner, ms, hroom, ⟨⟩, hmembers⟩
      exact ⟨inner, values, hroom, hmembers, rfl, rfl⟩
  | _ => simp [valueWithin]

theorem forall₂_of_membersWithin {members : List (Quoted × Tree)} {done values : Members}
    (h : membersWithin room done members = .ok values)
    (once : (members.map fun m => m.1.text.toOption).Nodup)
    (fresh : ∀ m ∈ members, ∀ name, m.1.text = .ok name → name ∉ done.names) :
    ∃ added, values = done ++ added ∧
      List.Forall₂ (fun m e => m.1.text = .ok e.1 ∧ m.2.valueWithin room = .ok e.2)
        members added := by
  induction members generalizing done with
  | nil =>
    cases h
    exact ⟨[], (List.append_nil _).symm, .nil⟩
  | cons m members ih =>
    obtain ⟨q, t⟩ := m
    obtain ⟨hother, once⟩ := List.nodup_cons.mp once
    obtain ⟨hfirst, hrest⟩ := List.forall_mem_cons.mp fresh
    rw [membersWithin, memberWithin] at h
    cases hq : q.text with
    | error b => simp [hq] at h
    | ok name =>
      cases hv : t.valueWithin room with
      | error b => simp [hq, hv] at h
      | ok v =>
        simp only [hq, hv, Members.insert_of_not_mem v (hfirst name hq)] at h
        -- The names to come are not among those done, so every insertion is at the end.
        have hfresh : ∀ m ∈ members, ∀ other, m.1.text = .ok other →
            other ∉ Members.names (done ++ [(name, v)]) := by
          intro m hm other hname hmem
          rw [Members.names, List.map_append, List.mem_append] at hmem
          rcases hmem with hmem | hmem
          · exact hrest m hm other hname hmem
          · obtain rfl : other = name := List.mem_singleton.mp hmem
            exact hother (List.mem_map.mpr ⟨m, hm, congrArg _ (hname.trans hq.symm)⟩)
        obtain ⟨added, rfl, hadded⟩ := ih h once hfresh
        exact ⟨(name, v) :: added, by simp, .cons ⟨hq, hv⟩ hadded⟩

end Tree

def Document.names (d : Document) : List (Option String) :=
  match d.tree with
  | .object members _ => members.map fun m => m.1.text.toOption
  | _ => []

theorem Value.read_eq_ok_iff {text : String} {v : Value} :
    Value.read text = .ok v ↔
      (Document.ofBytes text.toUTF8.data.toList).tree.valueWithin maxDepth = .ok v ∧
        (Document.ofBytes text.toUTF8.data.toList).trailing = false := by
  rw [read, ofBytes, Document.value, Tree.value]
  cases Document.ofBytes text.toUTF8.data.toList with
  | mk tree trailing =>
    cases tree.valueWithin maxDepth <;> cases trailing <;>
      simp [bind, Except.bind]

theorem Decoder.ofBytes_eq_ok_iff {α : Type} {d : Decoder α} {bytes : ByteArray} {a : α} :
    d.ofBytes bytes = .ok a ↔ d maxDepth (Document.ofBytes bytes.data.toList).tree = .ok a ∧
      (Document.ofBytes bytes.data.toList).trailing = false := by
  rw [ofBytes]
  cases Document.ofBytes bytes.data.toList with
  | mk tree trailing =>
    simp only
    cases d maxDepth tree <;> cases trailing <;> simp [bind, Except.bind]

namespace Record

variable {α σ : Type} {parts : List (Part σ)} {part : Part σ} {seen seen' : List String} {s s' : σ}
  {m : String × Value} {ms : Members} {name : String}

theorem convertMember_of_part (hfind : parts.find? (·.1.name == m.1) = some part) :
    convertMember parts seen s m = .ok (seen', s') ↔
      m.1 ∉ seen ∧ seen' = m.1 :: seen ∧ part.2 m.2 s = .ok s' := by
  simp only [convertMember, hfind]
  by_cases hseen : m.1 ∈ seen
  · simp [hseen]
  · cases hread : part.2 m.2 s <;> simp [hseen, Except.map, eq_comm]

theorem convertMember_of_other (hfind : parts.find? (·.1.name == m.1) = none) :
    convertMember parts seen s m = .ok (seen', s') ↔ seen' = seen ∧ s' = s := by
  simp [convertMember, hfind, eq_comm]

theorem convertMembers_cons_eq_ok_iff :
    convertMembers parts seen s (m :: ms) = .ok (seen', s') ↔
      ∃ now s₁, convertMember parts seen s m = .ok (now, s₁) ∧
        convertMembers parts now s₁ ms = .ok (seen', s') := by
  rw [convertMembers]
  cases convertMember parts seen s m with
  | error e => simp
  | ok next =>
    constructor
    · exact fun h => ⟨next.1, next.2, rfl, h⟩
    · rintro ⟨now, s₁, ⟨⟩, h⟩
      exact h

/-- One place of a record is what is read from the field of the name, and no other field touches
it. -/
structure Gets (parts : List (Part σ)) (name : String) (read : Converter α) (get : σ → α) :
    Prop where
  known : ∃ part ∈ parts, part.1.name = name
  own : ∀ field convert, (field, convert) ∈ parts → field.name = name →
    ∀ v s s', convert v s = .ok s' → read v = .ok (get s')
  others : ∀ field convert, (field, convert) ∈ parts → field.name ≠ name →
    ∀ v s s', convert v s = .ok s' → get s' = get s

variable {read : Converter α} {get : σ → α}

theorem Gets.convertMembers_of_seen (h : Gets parts name read get) (hseen : name ∈ seen)
    (hread : convertMembers parts seen s ms = .ok (seen', s')) : get s' = get s := by
  induction ms generalizing seen s with
  | nil =>
    cases hread
    rfl
  | cons m ms ih =>
    obtain ⟨now, s₁, hfirst, hrest⟩ := convertMembers_cons_eq_ok_iff.mp hread
    cases hfind : parts.find? (·.1.name == m.1) with
    | none =>
      obtain ⟨rfl, rfl⟩ := (convertMember_of_other hfind).mp hfirst
      exact ih hseen hrest
    | some part =>
      obtain ⟨hnew, rfl, hvalue⟩ := (convertMember_of_part hfind).mp hfirst
      have hname : part.1.name = m.1 := by simpa using List.find?_some hfind
      have hother : part.1.name ≠ name := fun h => hnew (hname ▸ h ▸ hseen)
      rw [ih (List.mem_cons_of_mem _ hseen) hrest]
      exact h.others _ _ (List.mem_of_find?_eq_some hfind) hother _ _ _ hvalue

theorem Gets.lookup_of_convertMembers (h : Gets parts name read get) (hnew : name ∉ seen)
    (hread : convertMembers parts seen s ms = .ok (seen', s')) (hseen : name ∈ seen') :
    ∃ v, ms.lookup name = some v ∧ read v = .ok (get s') := by
  induction ms generalizing seen s with
  | nil =>
    cases hread
    exact absurd hseen hnew
  | cons m ms ih =>
    obtain ⟨now, s₁, hfirst, hrest⟩ := convertMembers_cons_eq_ok_iff.mp hread
    rw [Members.lookup_cons_eq]
    cases hfind : parts.find? (·.1.name == m.1) with
    | none =>
      obtain ⟨rfl, rfl⟩ := (convertMember_of_other hfind).mp hfirst
      have hother : name ≠ m.1 := by
        rintro rfl
        obtain ⟨part, hpart, hname⟩ := h.known
        exact List.find?_eq_none.mp hfind part hpart (beq_iff_eq.mpr hname)
      rw [if_neg hother]
      exact ih hnew hrest
    | some part =>
      obtain ⟨-, rfl, hvalue⟩ := (convertMember_of_part hfind).mp hfirst
      have hname : part.1.name = m.1 := by simpa using List.find?_some hfind
      by_cases hown : name = m.1
      · rw [if_pos hown, h.convertMembers_of_seen (hown ▸ List.mem_cons_self) hrest]
        exact ⟨m.2, rfl, h.own _ _ (List.mem_of_find?_eq_some hfind) (hname.trans hown.symm) _ _ _
          hvalue⟩
      · rw [if_neg hown]
        exact ih (fun hmem => (List.mem_cons.mp hmem).elim hown hnew) hrest

theorem exists_convertMembers (once : ms.names.Nodup) (fresh : ∀ name ∈ seen, name ∉ ms.names)
    (readable : ∀ m ∈ ms, ∀ field convert, (field, convert) ∈ parts → field.name = m.1 →
      ∀ s, ∃ s', convert m.2 s = .ok s')
    (s : σ) : ∃ seen' s', convertMembers parts seen s ms = .ok (seen', s') ∧ seen ⊆ seen' ∧
      ∀ part ∈ parts, part.1.name ∈ ms.names → part.1.name ∈ seen' := by
  induction ms generalizing seen s with
  | nil => exact ⟨seen, s, rfl, List.Subset.refl seen, fun _ _ h => absurd h List.not_mem_nil⟩
  | cons m ms ih =>
    obtain ⟨hnew, once⟩ := List.nodup_cons.mp once
    obtain ⟨hm, hms⟩ := List.forall_mem_cons.mp readable
    have fresh' : ∀ name ∈ seen, name ∉ Members.names ms := fun name hname hmem =>
      fresh name hname (List.mem_cons_of_mem _ hmem)
    cases hfind : parts.find? (·.1.name == m.1) with
    | none =>
      obtain ⟨seen', s', hread, hsub, hknown⟩ := ih once fresh' hms s
      refine ⟨seen', s', convertMembers_cons_eq_ok_iff.mpr
        ⟨seen, s, (convertMember_of_other hfind).mpr ⟨rfl, rfl⟩, hread⟩, hsub,
        fun part hpart hmem => ?_⟩
      rcases List.mem_cons.mp hmem with hname | hmem
      · exact absurd (beq_iff_eq.mpr hname) (List.find?_eq_none.mp hfind part hpart)
      · exact hknown part hpart hmem
    | some part =>
      have hname : part.1.name = m.1 := by simpa using List.find?_some hfind
      obtain ⟨s₁, hvalue⟩ := hm _ _ (List.mem_of_find?_eq_some hfind) hname s
      -- A field is read once, for its name has not come yet.
      have hunseen : m.1 ∉ seen := fun h => fresh m.1 h List.mem_cons_self
      have hfirst := (convertMember_of_part hfind).mpr ⟨hunseen, rfl, hvalue⟩
      obtain ⟨seen', s', hread, hsub, hknown⟩ :=
        ih once (List.forall_mem_cons.mpr ⟨hnew, fresh'⟩) hms s₁
      refine ⟨seen', s', convertMembers_cons_eq_ok_iff.mpr ⟨_, _, hfirst, hread⟩,
        fun name h => hsub (List.mem_cons_of_mem _ h), fun part hpart hmem => ?_⟩
      rcases List.mem_cons.mp hmem with hname | hmem
      · exact hsub (hname ▸ List.mem_cons_self)
      · exact hknown part hpart hmem

section Texts
variable {r : Record σ} {reads : List (Value → σ → Except Fault σ)} {room : Nat}

theorem find?_fields (every : reads.length = r.fields.length) (name : String) :
    r.fields.find? (·.name == name) =
      ((r.fields.zip reads).find? (·.1.name == name)).map Prod.fst := by
  have hfields : r.fields = (r.fields.zip reads).map Prod.fst :=
    (List.map_fst_zip (Nat.le_of_eq every.symm)).symm
  conv_lhs => rw [hfields]
  rw [List.find?_map]
  rfl

/-- A member of a text and one of a value that a record reads alike. -/
structure ReadAlike (r : Record σ) (reads : List (Value → σ → Except Fault σ)) (room : Nat)
    (m : Quoted × Tree) (e : String × Value) : Prop where
  name : m.1.text = .ok e.1
  passes : m.2.skip = .ok ()
  field : ∀ field convert, (field, convert) ∈ r.fields.zip reads → field.name = e.1 →
    ∀ s s', field.read room m.2 s = .ok s' ↔ convert e.2 s = .ok s'

theorem readMember_iff_convertMember (every : reads.length = r.fields.length)
    (skips : r.other = skipOther) {m : Quoted × Tree} {e : String × Value}
    (h : ReadAlike r reads room m e) :
    r.readMember room seen s m = .ok (seen', s') ↔
      convertMember (r.fields.zip reads) seen s e = .ok (seen', s') := by
  have hfields := find?_fields every e.1
  cases hfind : (r.fields.zip reads).find? (·.1.name == e.1) with
  | none =>
    rw [hfind] at hfields
    rw [readMember_of_other h.name hfields, convertMember_of_other hfind, skips,
      skipOther_eq_ok_iff]
    exact and_congr_right fun _ => and_iff_right h.passes
  | some part =>
    rw [hfind] at hfields
    have hname : part.1.name = e.1 := by simpa using List.find?_some hfind
    rw [readMember_of_field h.name hfields, convertMember_of_part hfind,
      h.field _ _ (List.mem_of_find?_eq_some hfind) hname]

theorem readMembers_iff_convertMembers (every : reads.length = r.fields.length)
    (skips : r.other = skipOther) {members : List (Quoted × Tree)} {values : Members}
    (h : List.Forall₂ (ReadAlike r reads room) members values) :
    r.readMembers room seen s members = .ok (seen', s') ↔
      convertMembers (r.fields.zip reads) seen s values = .ok (seen', s') := by
  induction h generalizing seen s with
  | nil => rw [readMembers, convertMembers]; simp
  | cons hfirst _ ih =>
    simp only [readMembers_cons_eq_ok_iff, convertMembers_cons_eq_ok_iff,
      readMember_iff_convertMember every skips hfirst, ih]

theorem complete_iff :
    (r.fields.find? fun field => !field.isOptional && !seen.contains field.name) = none ↔
      ∀ field ∈ r.fields, field.isOptional = false → field.name ∈ seen := by
  simp

theorem decode_object_eq_ok_iff {members : List (Quoted × Tree)} {start : σ} :
    r.decode start (room + 1) (.object members .closed) = .ok s ↔
      ∃ seen, r.readMembers room [] start members = .ok (seen, s) ∧
        ∀ field ∈ r.fields, field.isOptional = false → field.name ∈ seen := by
  simp only [← complete_iff, decode, Decoder.enter, bind, Except.bind]
  cases hread : r.readMembers room [] start members with
  | error e => simp
  | ok next =>
    obtain ⟨seen, read⟩ := next
    simp only [Ending.check, Decoder.ofBreak, Except.mapError]
    constructor
    · intro h
      split at h
      · cases h
      · next hnone =>
        cases h
        exact ⟨seen, rfl, hnone⟩
    · rintro ⟨_, ⟨⟩, hnone⟩
      rw [hnone]

theorem convert_object_eq_ok_iff {start : σ} :
    r.convert reads start (.object ms) = .ok s ↔
      ∃ seen, convertMembers (r.fields.zip reads) [] start ms = .ok (seen, s) ∧
        ∀ field ∈ r.fields, field.isOptional = false → field.name ∈ seen := by
  simp only [← complete_iff, convert]
  cases hread : convertMembers (r.fields.zip reads) [] start ms with
  | error e => simp
  | ok next =>
    obtain ⟨seen, read⟩ := next
    simp only
    constructor
    · intro h
      split at h
      · cases h
      · next hnone =>
        cases h
        exact ⟨seen, rfl, hnone⟩
    · rintro ⟨_, ⟨⟩, hnone⟩
      rw [hnone]

theorem decode_iff_convert (every : reads.length = r.fields.length) (skips : r.other = skipOther)
    {members : List (Quoted × Tree)} {values : Members} {start : σ}
    (h : List.Forall₂ (ReadAlike r reads room) members values) :
    r.decode start (room + 1) (.object members .closed) = .ok s ↔
      r.convert reads start (.object values) = .ok s := by
  simp only [decode_object_eq_ok_iff, convert_object_eq_ok_iff,
    readMembers_iff_convertMembers every skips h]

end Texts

end Record
end RowQuery.Json
