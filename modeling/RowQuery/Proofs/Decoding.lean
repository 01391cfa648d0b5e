import Mathlib
import RowQuery.Json.Decoder

/-!
# When a decoder succeeds

A decoder has a value exactly where the tree has one of its form. For a record, one step says what
a member or an element does to what was read before it.
-/
namespace RowQuery.Json

namespace Tree
variable {room : Nat} {t : Tree}

theorem valueWithin_list_iff {ts : List Tree} {ending : Ending} {v : Value} :
    (list ts ending).valueWithin room = .ok v ↔ ∃ inner values, room = inner + 1 ∧
      itemsWithin inner [] ts = .ok values ∧ ending = .closed ∧ v = .list values := by
  cases room with
  | zero => simp [valueWithin]
  | succ room =>
    cases hi : itemsWithin room [] ts <;> cases ending <;>
      simp [valueWithin, hi, bind, Except.bind, pure, Except.pure, Ending.check, eq_comm]

theorem valueWithin_object_iff {ms : List (Quoted × Tree)} {ending : Ending} {v : Value} :
    (object ms ending).valueWithin room = .ok v ↔ ∃ inner values, room = inner + 1 ∧
      membersWithin inner [] ms = .ok values ∧ ending = .closed ∧ v = .object values := by
  cases room with
  | zero => simp [valueWithin]
  | succ room =>
    cases hm : membersWithin room [] ms <;> cases ending <;>
      simp [valueWithin, hm, bind, Except.bind, pure, Except.pure, Ending.check, eq_comm]

theorem valueWithin_eq_string_iff {s : String} :
    t.valueWithin room = .ok (.string s) ↔ ∃ q, t = .string q ∧ q.text = .ok s := by
  cases t with
  | string q => cases h : q.text <;> simp [valueWithin, Except.map, h]
  | number l => cases h : l.read <;> simp [valueWithin, Except.map, h]
  | list ts ending => simp [valueWithin_list_iff]
  | object ms ending => simp [valueWithin_object_iff]
  | _ => simp [valueWithin]

theorem valueWithin_eq_number_iff {n : Number} :
    t.valueWithin room = .ok (.number n) ↔ ∃ l, t = .number l ∧ l.number? = some n := by
  cases t with
  | number l => cases h : l.number? <;> simp [valueWithin, Literal.read, Except.map, h]
  | string q => cases h : q.text <;> simp [valueWithin, Except.map, h]
  | list ts ending => simp [valueWithin_list_iff]
  | object ms ending => simp [valueWithin_object_iff]
  | _ => simp [valueWithin]

theorem valueWithin_eq_list_iff {values : List Value} :
    t.valueWithin room = .ok (.list values) ↔ ∃ inner ts, room = inner + 1 ∧
      t = .list ts .closed ∧ itemsWithin inner [] ts = .ok values := by
  cases t with
  | string q => cases h : q.text <;> simp [valueWithin, Except.map, h]
  | number l => cases h : l.read <;> simp [valueWithin, Except.map, h]
  | list ts ending =>
    rw [valueWithin_list_iff]
    constructor
    · rintro ⟨inner, values, hroom, hitems, rfl, ⟨⟩⟩
      exact ⟨inner, ts, hroom, rfl, hitems⟩
    · rintro ⟨inner, ts, hroom, ⟨⟩, hitems⟩
      exact ⟨inner, values, hroom, hitems, rfl, rfl⟩
  | object ms ending => simp [valueWithin_object_iff]
  | _ => simp [valueWithin]

end Tree

namespace Decoder
variable {α : Type}

theorem wrongType_ne_ok (expected : String) (t : Tree) (a : α) : wrongType expected t ≠ .ok a := by
  rw [wrongType]
  split <;> exact nofun

theorem ofBreak_eq_ok_iff {r : Except Break α} {a : α} : ofBreak r = .ok a ↔ r = .ok a := by
  cases r <;> simp [ofBreak, Except.mapError]

theorem string_eq_ok_iff {room : Nat} {t : Tree} {s : String} :
    string room t = .ok s ↔ t.valueWithin room = .ok (.string s) := by
  rw [Tree.valueWithin_eq_string_iff]
  cases t <;> simp [string, ofBreak_eq_ok_iff, wrongType_ne_ok]

theorem items_any_eq_ok_iff {room : Nat} {done values : List Value} {ts : List Tree} :
    items any room done ts = .ok values ↔ Tree.itemsWithin room done ts = .ok values := by
  induction ts generalizing done with
  | nil => simp [items, Tree.itemsWithin]
  | cons t ts ih =>
    rw [items, Tree.itemsWithin, any]
    cases t.valueWithin room with
    | error b => simp [ofBreak, Except.mapError, at_]
    | ok v => exact ih

theorem list_any_eq_ok_iff {room : Nat} {t : Tree} {values : List Value} :
    list any room t = .ok values ↔ t.valueWithin room = .ok (.list values) := by
  rw [Tree.valueWithin_eq_list_iff]
  cases t with
  | list ts ending =>
    cases room with
    | zero => simp [list, enter, fail]
    | succ room =>
      have hitems := @items_any_eq_ok_iff room [] values ts
      cases hi : items any room [] ts <;> cases ending <;>
        simp_all [list, enter, bind, Except.bind, pure, Except.pure, Ending.check, ofBreak,
          Except.mapError]
  | _ => simp [list, wrongType_ne_ok]

theorem items_eq_ok_iff {d : Decoder α} {room : Nat} {done as : List α} {ts : List Tree} :
    items d room done ts = .ok as ↔ ∃ added, as = done.reverse ++ added ∧
      List.Forall₂ (fun t a => d room t = .ok a) ts added := by
  induction ts generalizing done with
  | nil => simp [items, eq_comm]
  | cons t ts ih =>
    rw [items]
    cases hfirst : d room t with
    | error e => simp [at_, Except.mapError, List.forall₂_cons_left_iff, hfirst]
    | ok a =>
      simp only [at_, Except.mapError, ih, List.reverse_cons, List.append_assoc,
        List.singleton_append, List.forall₂_cons_left_iff, hfirst]
      constructor
      · rintro ⟨added, rfl, hadded⟩
        exact ⟨_, rfl, a, added, rfl, hadded, rfl⟩
      · rintro ⟨_, rfl, _, added, ⟨⟩, hadded, rfl⟩
        exact ⟨added, rfl, hadded⟩

theorem list_eq_ok_iff {d : Decoder α} {room : Nat} {t : Tree} {as : List α} :
    list d (room + 1) t = .ok as ↔
      ∃ ts, t = .list ts .closed ∧ List.Forall₂ (fun t a => d room t = .ok a) ts as := by
  cases t with
  | list ts ending =>
    have hitems := @items_eq_ok_iff _ d room [] as ts
    cases hi : items d room [] ts <;> cases ending <;>
      simp_all [list, enter, bind, Except.bind, pure, Except.pure, Ending.check, ofBreak,
        Except.mapError]
  | _ => simp [list, wrongType_ne_ok]

end Decoder

namespace Field
variable {α σ : Type}

@[simp] theorem isDefaulted_required (name : String) (d : Decoder α) (set : α → σ → σ) :
    (required name d set).isDefaulted = false := rfl

theorem read_ofDecoder_iff {name : String} {isOptional isDefaulted : Bool} {d : Decoder α}
    {set : α → σ → σ} {room : Nat} {t : Tree} {s s' : σ} :
    (ofDecoder name isOptional isDefaulted d set).read room t s = .ok s' ↔
      ∃ a, d room t = .ok a ∧ s' = set a s := by
  cases h : d room t <;> simp [ofDecoder, h, Except.map, eq_comm]

theorem read_required_iff {name : String} {d : Decoder α} {set : α → σ → σ} {room : Nat} {t : Tree}
    {s s' : σ} : (required name d set).read room t s = .ok s' ↔
      ∃ a, d room t = .ok a ∧ s' = set a s :=
  read_ofDecoder_iff

end Field

namespace Record
variable {σ : Type} {r : Record σ} {room : Nat} {seen seen' : List String} {s s' : σ}
  {m : Quoted × Tree} {name : String}

theorem readMember_of_break {b : Break} (hname : m.1.text = .error b) :
    r.readMember room seen s m ≠ .ok (seen', s') := by
  simp [readMember, hname, Decoder.ofBreak, Except.mapError, bind, Except.bind]

theorem readMember_of_field {field : Field σ} (hname : m.1.text = .ok name)
    (hfind : r.fields.find? (·.name == name) = some field) :
    r.readMember room seen s m = .ok (seen', s') ↔
      name ∉ seen ∧ seen' = name :: seen ∧ field.read room m.2 s = .ok s' := by
  simp only [readMember, hname, Decoder.ofBreak, Except.mapError, bind, Except.bind, hfind]
  by_cases hseen : name ∈ seen
  · simp [hseen, Decoder.fail]
  · cases hread : field.read room m.2 s <;>
      simp [hseen, Decoder.at_, Except.mapError, pure, Except.pure, eq_comm]

theorem readMember_of_other (hname : m.1.text = .ok name)
    (hfind : r.fields.find? (·.name == name) = none) :
    r.readMember room seen s m = .ok (seen', s') ↔
      seen' = seen ∧ r.other room name m.2 s = .ok s' := by
  simp only [readMember, hname, Decoder.ofBreak, Except.mapError, bind, Except.bind, hfind]
  cases hread : r.other room name m.2 s <;>
    simp [Decoder.at_, Except.mapError, pure, Except.pure, eq_comm]

theorem readMembers_cons_eq_ok_iff {ms : List (Quoted × Tree)} :
    r.readMembers room seen s (m :: ms) = .ok (seen', s') ↔
      ∃ now s₁, r.readMember room seen s m = .ok (now, s₁) ∧
        r.readMembers room now s₁ ms = .ok (seen', s') := by
  rw [readMembers]
  cases r.readMember room seen s m with
  | error e => simp
  | ok next =>
    constructor
    · exact fun h => ⟨next.1, next.2, rfl, h⟩
    · rintro ⟨now, s₁, ⟨⟩, h⟩
      exact h

theorem skipOther_eq_ok_iff {t : Tree} :
    skipOther room name t s = .ok s' ↔ t.skip = .ok () ∧ s' = s := by
  rw [skipOther]
  cases t.skip with
  | ok _ => simp [eq_comm]
  | error b => simp [Decoder.fail]

theorem readElements_nil_eq_ok_iff {position : Nat} {ending : Ending} {ts : List Tree} :
    r.readElements room position s ending [] ts = .ok s' ↔
      ts = [] ∧ ending = .closed ∧ s' = s := by
  have hend : listEnd ts ending = .ok () ↔ ts = [] ∧ ending = .closed := by
    rw [listEnd.eq_def]
    split <;> simp_all
  rw [readElements]
  cases h : listEnd ts ending with
  | ok _ =>
    rw [h] at hend
    simp [hend.mp rfl, Decoder.ofBreak, Except.mapError, bind, Except.bind, pure, Except.pure,
      eq_comm]
  | error b =>
    rw [h] at hend
    simp only [Decoder.ofBreak, Except.mapError, bind, Except.bind]
    exact iff_of_false nofun fun hs => nomatch hend.mpr ⟨hs.1, hs.2.1⟩

theorem readElements_missing_eq_ok_iff {position : Nat} {ending : Ending} {field : Field σ}
    {fields : List (Field σ)} :
    r.readElements room position s ending (field :: fields) [] = .ok s' ↔
      field.isDefaulted = true ∧ ending = .closed ∧
        r.readElements room (position + 1) s ending fields [] = .ok s' := by
  rw [readElements]
  cases ending <;> cases field.isDefaulted <;>
    simp [Ending.check, Decoder.ofBreak, Decoder.fail, Except.mapError, bind, Except.bind]

theorem readElements_present_eq_ok_iff {position : Nat} {ending : Ending} {field : Field σ}
    {fields : List (Field σ)} {t : Tree} {ts : List Tree} :
    r.readElements room position s ending (field :: fields) (t :: ts) = .ok s' ↔
      ∃ s₁, field.read room t s = .ok s₁ ∧
        r.readElements room (position + 1) s₁ ending fields ts = .ok s' := by
  rw [readElements]
  cases hread : field.read room t s with
  | error e => simp [Decoder.at_, Except.mapError]
  | ok s₁ => simp [Decoder.at_, Except.mapError]

theorem readElements_cons_eq_ok_iff {position : Nat} {ending : Ending} {field : Field σ}
    (hrequired : field.isDefaulted = false) {fields : List (Field σ)} {ts : List Tree} :
    r.readElements room position s ending (field :: fields) ts = .ok s' ↔
      ∃ t rest s₁, ts = t :: rest ∧ field.read room t s = .ok s₁ ∧
        r.readElements room (position + 1) s₁ ending fields rest = .ok s' := by
  cases ts with
  | nil => simp [readElements_missing_eq_ok_iff, hrequired]
  | cons t ts => simp [readElements_present_eq_ok_iff]

end Record

end RowQuery.Json
