import Mathlib
import RowQuery.Proofs.Converting
import RowQuery.Proofs.QueryForm

/-!
# The two forms of a record

A record is read from an object or from a list, and from nothing else. What none of its fields sets
is left as it was. A record of one field is either form of at most one value: the one under its
name, beside members that are skipped, or the one element of a list.
-/
namespace RowQuery.Json

def Field.Keeps {σ β : Type} (field : Field σ) (look : σ → β) : Prop :=
  ∀ room t s s', field.read room t s = .ok s' → look s' = look s

theorem Field.keeps_ofDecoder {α σ β : Type} {name : String} {isOptional isDefaulted : Bool}
    {d : Decoder α} {set : α → σ → σ} {look : σ → β} (h : ∀ a s, look (set a s) = look s) :
    (ofDecoder name isOptional isDefaulted d set).Keeps look := by
  intro room t s s' hread
  obtain ⟨a, -, rfl⟩ := read_ofDecoder_iff.mp hread
  exact h a s

namespace Record
open Http.QueryBody (named)

variable {σ β : Type} {r : Record σ} {room : Nat} {seen seen' : List String} {start s s' : σ}
  {m : Quoted × Tree} {members : List (Quoted × Tree)} {t : Tree}

theorem decode_object_cut {b : Break} : r.decode start room (.object members (.cut b)) ≠ .ok s := by
  cases room with
  | zero => simp [decode, Decoder.enter, Decoder.fail]
  | succ room =>
    simp only [decode, Decoder.enter, bind, Except.bind]
    cases r.readMembers room [] start members <;>
      simp [Ending.check, Decoder.ofBreak, Except.mapError]

theorem decode_list_eq_ok_iff {ts : List Tree} {ending : Ending} :
    r.decode start (room + 1) (.list ts ending) = .ok s ↔
      r.hasListForm = true ∧ r.readElements room 0 start ending r.fields ts = .ok s := by
  rw [decode.eq_def]
  cases r.hasListForm <;> simp [Decoder.enter, Decoder.wrongType_ne_ok]

theorem decode_eq_ok_iff : r.decode start room t = .ok s ↔ ∃ inner, room = inner + 1 ∧
    ((∃ members seen, t = .object members .closed ∧
        r.readMembers inner [] start members = .ok (seen, s) ∧
        ∀ field ∈ r.fields, field.isOptional = false → field.name ∈ seen) ∨
      ∃ ts ending, t = .list ts ending ∧ r.hasListForm = true ∧
        r.readElements inner 0 start ending r.fields ts = .ok s) := by
  cases t with
  | object members ending =>
    cases ending with
    | cut b => simp [decode_object_cut]
    | closed =>
      cases room with
      | zero => simp [decode, Decoder.enter, Decoder.fail]
      | succ room => simp [decode_object_eq_ok_iff]
  | list ts ending =>
    cases room with
    | zero => cases h : r.hasListForm <;> simp [decode, h, Decoder.enter, Decoder.fail,
        Decoder.wrongType_ne_ok]
    | succ room => simp [decode_list_eq_ok_iff]
  | _ => simp [decode, Decoder.wrongType_ne_ok]

/-- No field of the record and no other member sets what is looked at. -/
structure Keeps (r : Record σ) (look : σ → β) : Prop where
  fields : ∀ field ∈ r.fields, field.Keeps look
  other : ∀ room name t s s', r.other room name t s = .ok s' → look s' = look s

namespace Keeps
variable {look : σ → β}

theorem readMember (h : r.Keeps look) (hread : r.readMember room seen s m = .ok (seen', s')) :
    look s' = look s := by
  cases hname : m.1.text with
  | error b => exact absurd hread (readMember_of_break hname)
  | ok name =>
    cases hfind : r.fields.find? (·.name == name) with
    | none => exact h.other _ _ _ _ _ ((readMember_of_other hname hfind).mp hread).2
    | some field =>
      exact h.fields field (List.mem_of_find?_eq_some hfind) _ _ _ _
        ((readMember_of_field hname hfind).mp hread).2.2

theorem readMembers (h : r.Keeps look)
    (hread : r.readMembers room seen s members = .ok (seen', s')) : look s' = look s := by
  induction members generalizing seen s with
  | nil =>
    cases hread
    rfl
  | cons m members ih =>
    obtain ⟨now, s₁, hfirst, hrest⟩ := readMembers_cons_eq_ok_iff.mp hread
    rw [ih hrest, h.readMember hfirst]

theorem readElements {position : Nat} {ending : Ending} {fields : List (Field σ)} {ts : List Tree}
    (h : ∀ field ∈ fields, field.Keeps look)
    (hread : r.readElements room position s ending fields ts = .ok s') : look s' = look s := by
  induction fields generalizing position s ts with
  | nil => rw [(readElements_nil_eq_ok_iff.mp hread).2.2]
  | cons field fields ih =>
    obtain ⟨hfield, hfields⟩ := List.forall_mem_cons.mp h
    cases ts with
    | nil => exact ih hfields (readElements_missing_eq_ok_iff.mp hread).2.2
    | cons t ts =>
      obtain ⟨s₁, hfirst, hrest⟩ := readElements_present_eq_ok_iff.mp hread
      rw [ih hfields hrest, hfield _ _ _ _ hfirst]

theorem decode (h : r.Keeps look) (hread : r.decode start room t = .ok s) :
    look s = look start := by
  obtain ⟨inner, -, ⟨members, seen, -, hmembers, -⟩ | ⟨ts, ending, -, -, helements⟩⟩ :=
    decode_eq_ok_iff.mp hread
  · exact h.readMembers hmembers
  · exact readElements h.fields helements

end Keeps

theorem keeps_strict {name : String} {fields : List (Field σ)} {look : σ → β}
    (h : ∀ field ∈ fields, field.Keeps look) :
    (strict name fields).Keeps look where
  fields := h
  other room name t s s' hskip := by
    have hsame : skipOther room name t s = .ok s' := hskip
    rw [(skipOther_eq_ok_iff.mp hsame).2]

section Known

def knows (r : Record σ) (m : Quoted × Tree) : Bool :=
  r.fields.any fun field => m.1.text.toOption == some field.name

theorem knows_eq_isSome {name : String} (hname : m.1.text = .ok name) :
    r.knows m = (r.fields.find? (·.name == name)).isSome := by
  rw [List.isSome_find?, knows, hname]
  exact congrArg r.fields.any (funext fun field => BEq.comm)

def Passable (r : Record σ) (members : List (Quoted × Tree)) : Prop :=
  ∀ m ∈ members, (∃ name, m.1.text = .ok name) ∧ (r.knows m = false → m.2.skip = .ok ())

theorem readMembers_iff_known (skips : r.other = skipOther) :
    r.readMembers room seen start members = .ok (seen', s) ↔ r.Passable members ∧
      r.readMembers room seen start (members.filter r.knows) = .ok (seen', s) := by
  induction members generalizing seen start with
  | nil => simp [Passable]
  | cons m members ih =>
    rw [Passable, List.forall_mem_cons, ← Passable, readMembers_cons_eq_ok_iff]
    cases hname : m.1.text with
    | error b => simp [readMember_of_break hname]
    | ok name =>
      have hknows := r.knows_eq_isSome hname
      cases hfind : r.fields.find? (·.name == name) with
      | none =>
        rw [hfind, Option.isSome_none] at hknows
        simp [readMember_of_other hname hfind, skips, skipOther_eq_ok_iff, hknows, ih, and_assoc]
      | some field =>
        rw [hfind, Option.isSome_some] at hknows
        simp only [ih, List.filter_cons_of_pos hknows, readMembers_cons_eq_ok_iff, hknows]
        constructor
        · rintro ⟨now, s₁, hfirst, hpassable, hrest⟩
          exact ⟨⟨⟨⟨name, rfl⟩, nofun⟩, hpassable⟩, now, s₁, hfirst, hrest⟩
        · rintro ⟨⟨-, hpassable⟩, now, s₁, hfirst, hrest⟩
          exact ⟨now, s₁, hfirst, hpassable, hrest⟩

theorem decode_object_iff_known (skips : r.other = skipOther) :
    r.decode start (room + 1) (.object members .closed) = .ok s ↔ r.Passable members ∧
      r.decode start (room + 1) (.object (members.filter r.knows) .closed) = .ok s := by
  rw [decode_object_eq_ok_iff, decode_object_eq_ok_iff, ← exists_and_left]
  refine exists_congr fun seen => ?_
  rw [readMembers_iff_known skips, and_assoc]

theorem knows_single_iff {name : String} {field : Field σ} :
    (strict name [field]).knows m = true ↔ m.1.text = .ok field.name := by
  cases hname : m.1.text <;> simp [knows, strict, hname, Except.toOption]

theorem passable_single_iff {name : String} {field : Field σ} :
    (strict name [field]).Passable members ↔ ∀ m ∈ members, ∃ other, m.1.text = .ok other ∧
      (other ≠ field.name → m.2.skip = .ok ()) := by
  refine forall₂_congr fun m _ => ?_
  rw [← Bool.not_eq_true, knows_single_iff]
  cases m.1.text <;> simp

end Known

/-- At most one value under a name: in an object, beside members that are passed over, or in a
list. -/
inductive Holds (name : String) : Tree → Option Tree → Prop
  | object {members : List (Quoted × Tree)} {o : Option Tree} :
      (∀ m ∈ members, ∃ other, m.1.text = .ok other ∧ (other ≠ name → m.2.skip = .ok ())) →
      named name members = o.toList → Holds name (.object members .closed) o
  | list {ts : List Tree} {o : Option Tree} : ts = o.toList → Holds name (.list ts .closed) o

section Single
variable {name : String} {field : Field σ} {o : Option Tree}

theorem holds_object_iff : Holds name (.object members .closed) o ↔
    (∀ m ∈ members, ∃ other, m.1.text = .ok other ∧ (other ≠ name → m.2.skip = .ok ())) ∧
      named name members = o.toList := by
  constructor
  · rintro (⟨hpass, hnamed⟩ | _)
    exact ⟨hpass, hnamed⟩
  · exact fun h => .object h.1 h.2

theorem holds_list_iff {ts : List Tree} {ending : Ending} :
    Holds name (.list ts ending) o ↔ ts = o.toList ∧ ending = .closed := by
  constructor
  · rintro (_ | hts)
    exact ⟨hts, rfl⟩
  · rintro ⟨hts, rfl⟩
    exact .list hts

theorem readMembers_own_iff (own : ∀ m ∈ members, m.1.text = .ok field.name) :
    (strict name [field]).readMembers room [] start members = .ok (seen, s) ↔
      (members = [] ∧ seen = [] ∧ s = start) ∨ ∃ m, members = [m] ∧ seen = [field.name] ∧
        field.read room m.2 start = .ok s := by
  have hfind : (strict name [field]).fields.find? (·.name == field.name) = some field := by
    simp [strict]
  rcases members with _ | ⟨m, _ | ⟨m', rest⟩⟩
  · simp [readMembers, eq_comm]
  · have hname := own m List.mem_cons_self
    simp only [readMembers_cons_eq_ok_iff, readMember_of_field hname hfind]
    constructor
    · rintro ⟨_, _, ⟨-, rfl, hread⟩, ⟨⟩⟩
      exact .inr ⟨m, rfl, rfl, hread⟩
    · rintro (⟨⟨⟩, -⟩ | ⟨_, ⟨⟩, rfl, hread⟩)
      exact ⟨_, _, ⟨List.not_mem_nil, rfl, hread⟩, rfl⟩
  · have hname := own m List.mem_cons_self
    have hname' := own m' (List.mem_cons_of_mem _ List.mem_cons_self)
    refine iff_of_false ?_ (by simp)
    simp only [readMembers_cons_eq_ok_iff, readMember_of_field hname hfind,
      readMember_of_field hname' hfind]
    rintro ⟨_, _, ⟨-, rfl, -⟩, _, _, ⟨hnew, -⟩, -⟩
    exact hnew List.mem_cons_self

theorem named_eq_map_filter : named field.name members =
    (members.filter (strict name [field]).knows).map Prod.snd := by
  refine congrArg (List.map Prod.snd) (List.filter_congr fun m _ => ?_)
  rw [Bool.eq_iff_iff, decide_eq_true_iff, knows_single_iff]
  cases m.1.text <;> simp [Except.toOption]

theorem readMembers_single_iff :
    (strict name [field]).readMembers room [] start members = .ok (seen, s) ↔
      (strict name [field]).Passable members ∧
        ((named field.name members = [] ∧ seen = [] ∧ s = start) ∨
          ∃ t, named field.name members = [t] ∧ seen = [field.name] ∧
            field.read room t start = .ok s) := by
  have skips : (strict name [field]).other = skipOther := rfl
  have hown : ∀ m ∈ members.filter (strict name [field]).knows, m.1.text = .ok field.name :=
    fun m hm => knows_single_iff.mp (List.mem_filter.mp hm).2
  rw [readMembers_iff_known skips, readMembers_own_iff hown, @named_eq_map_filter _ _ name,
    List.map_eq_nil_iff]
  refine and_congr_right' (or_congr_right ⟨?_, ?_⟩)
  · rintro ⟨m, hone, hseen, hread⟩
    exact ⟨m.2, by rw [hone]; rfl, hseen, hread⟩
  · rintro ⟨t, hone, hseen, hread⟩
    obtain ⟨m, hm, rfl⟩ := List.map_eq_singleton_iff.mp hone
    exact ⟨m, hm, hseen, hread⟩

theorem decode_single_object_iff (same : field.isOptional = field.isDefaulted) :
    (strict name [field]).decode start (room + 1) (.object members .closed) = .ok s ↔
      (Holds field.name (.object members .closed) none ∧ field.isDefaulted = true ∧ s = start) ∨
        ∃ t, Holds field.name (.object members .closed) (some t) ∧
          field.read room t start = .ok s := by
  have hcomplete : ∀ seen : List String, (∀ f ∈ (strict name [field]).fields,
      f.isOptional = false → f.name ∈ seen) ↔
        (field.isDefaulted = false → field.name ∈ seen) := fun seen => by
    rw [← same]
    exact List.forall_mem_singleton
  simp only [decode_object_eq_ok_iff, readMembers_single_iff, passable_single_iff, hcomplete,
    holds_object_iff]
  constructor
  · rintro ⟨seen, ⟨hpass, ⟨hnone, rfl, rfl⟩ | ⟨t, hone, rfl, hread⟩⟩, hseen⟩
    · exact .inl ⟨⟨hpass, hnone⟩, eq_true_of_ne_false fun h => List.not_mem_nil (hseen h), rfl⟩
    · exact .inr ⟨t, ⟨hpass, hone⟩, hread⟩
  · rintro (⟨⟨hpass, hnone⟩, hdefault, rfl⟩ | ⟨t, ⟨hpass, hone⟩, hread⟩)
    · exact ⟨[], ⟨hpass, .inl ⟨hnone, rfl, rfl⟩⟩, by simp [hdefault]⟩
    · exact ⟨_, ⟨hpass, .inr ⟨t, hone, rfl, hread⟩⟩, fun _ => List.mem_singleton_self _⟩

theorem decode_single_list_iff {ts : List Tree} {ending : Ending} :
    (strict name [field]).decode start (room + 1) (.list ts ending) = .ok s ↔
      (Holds field.name (.list ts ending) none ∧ field.isDefaulted = true ∧ s = start) ∨
        ∃ t, Holds field.name (.list ts ending) (some t) ∧ field.read room t start = .ok s := by
  have hfields : (strict name [field]).fields = [field] := rfl
  have hform : (strict name [field]).hasListForm = true := rfl
  simp only [decode_list_eq_ok_iff, hfields, hform, holds_list_iff, Option.toList_none,
    Option.toList_some, true_and]
  cases ts with
  | nil =>
    rw [readElements_missing_eq_ok_iff, readElements_nil_eq_ok_iff]
    constructor
    · rintro ⟨hdefault, hending, -, -, rfl⟩
      exact .inl ⟨⟨rfl, hending⟩, hdefault, rfl⟩
    · rintro (⟨⟨-, hending⟩, hdefault, rfl⟩ | ⟨t, ⟨⟨⟩, -⟩, -⟩)
      exact ⟨hdefault, hending, rfl, hending, rfl⟩
  | cons t ts =>
    simp only [readElements_present_eq_ok_iff, readElements_nil_eq_ok_iff]
    constructor
    · rintro ⟨s₁, hread, rfl, hending, rfl⟩
      exact .inr ⟨t, ⟨rfl, hending⟩, hread⟩
    · rintro (⟨⟨⟨⟩, -⟩, -⟩ | ⟨t, ⟨⟨⟩, hending⟩, hread⟩)
      exact ⟨s, hread, rfl, hending, rfl⟩

/-- A record of one field is the value that it holds, or what it starts from when it holds none. -/
theorem decode_single_iff (same : field.isOptional = field.isDefaulted) :
    (strict name [field]).decode start (room + 1) t = .ok s ↔
      (Holds field.name t none ∧ field.isDefaulted = true ∧ s = start) ∨
        ∃ t', Holds field.name t (some t') ∧ field.read room t' start = .ok s := by
  cases t with
  | object members ending =>
    cases ending with
    | closed => exact decode_single_object_iff same
    | cut b =>
      refine iff_of_false decode_object_cut ?_
      rintro (⟨⟨⟩, -⟩ | ⟨_, ⟨⟩, -⟩)
  | list ts ending => exact decode_single_list_iff
  | _ =>
    refine iff_of_false ?_ ?_
    · exact fun h => by simp [decode_eq_ok_iff] at h
    · rintro (⟨⟨⟩, -⟩ | ⟨_, ⟨⟩, -⟩)

end Single

end Record
end RowQuery.Json
