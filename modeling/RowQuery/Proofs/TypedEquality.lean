import Mathlib
import RowQuery.Proofs.Conjunction
import RowQuery.Proofs.DistinctNames
import RowQuery.Proofs.Members

/-!
# Typed equality

Equality of JSON values glues three equalities together: numbers are compared as numbers of one
kind, texts exactly, containers part by part, and objects as maps from names to values. Of two
numbers that stand alone only the nearest doubles count. On values that are not null all this is one
equivalence, which keeps the kinds of values apart and does not see the order of members at any
depth.
-/
namespace RowQuery.Json

/-- What two numbers have in common when they are the same: their kind, and the integer or the units
of the double. -/
def Number.key : Number → Bool × Int
  | .integer z => (true, z.value)
  | .real x => (false, x.units)

theorem Number.same_iff {a b : Number} : a.same b = true ↔ a.key = b.key := by
  cases a <;> cases b <;> simp [same, key, Binary.same_iff]

theorem Members.mem_names_iff {ms : Members} {name : String} :
    name ∈ ms.names ↔ ∃ v, ms.lookup name = some v := by
  refine ⟨fun h => ?_, fun ⟨_, hv⟩ => mem_names_of_lookup hv⟩
  obtain ⟨m, hm, rfl⟩ := List.mem_map.mp h
  refine Option.ne_none_iff_exists'.mp fun hnone => ?_
  exact bne_iff_ne.mp (List.lookup_eq_none_iff.mp hnone m hm) rfl

theorem Number.units_eq_of_key {a b : Number} {x y : Double} (h : a.key = b.key)
    (hx : a.toDouble? = some x) (hy : b.toDouble? = some y) : x.units = y.units := by
  cases a with
  | integer a =>
    cases b with
    | integer b =>
      have hvalue : a.value = b.value := congrArg Prod.snd h
      rw [toDouble?, hvalue] at hx
      rw [Option.some.inj (hx.symm.trans hy)]
    | real y => cases congrArg Prod.fst h
  | real x =>
    cases b with
    | integer b => cases congrArg Prod.fst h
    | real y =>
      cases hx
      cases hy
      exact congrArg Prod.snd h

namespace Value

theorem sameItems_iff {xs ys : List Value} :
    sameItems xs ys = true ↔ List.Forall₂ (fun x y => x.same y = true) xs ys := by
  induction xs generalizing ys with
  | nil => cases ys <;> simp [sameItems]
  | cons x xs ih => cases ys <;> simp [sameItems, ih]

theorem sameMember_iff {m : String × Value} {ns : Members} :
    sameMember m ns = true ↔ ∃ w, ns.lookup m.1 = some w ∧ m.2.same w = true := by
  obtain ⟨name, v⟩ := m
  rw [sameMember]
  cases ns.lookup name <;> simp

theorem sameMembers_iff {ms ns : Members} :
    sameMembers ms ns = true ↔ ∀ m ∈ ms, ∃ w, ns.lookup m.1 = some w ∧ m.2.same w = true := by
  induction ms with
  | nil => simp [sameMembers]
  | cons m ms ih => rw [sameMembers, Bool.and_eq_true, sameMember_iff, ih, List.forall_mem_cons]

theorem same_list_iff {xs ys : List Value} :
    (list xs).same (.list ys) = true ↔ xs.length = ys.length ∧
      ∀ i (hx : i < xs.length) (hy : i < ys.length), xs[i].same ys[i] = true := by
  rw [same, sameItems_iff, List.forall₂_iff_get]
  rfl

theorem same_object_iff {ms ns : Members} (once : ms.names.Nodup) (once' : ns.names.Nodup) :
    (object ms).same (.object ns) = true ↔ (∀ name, name ∈ ms.names ↔ name ∈ ns.names) ∧
      ∀ name v w, ms.lookup name = some v → ns.lookup name = some w → v.same w = true := by
  rw [same, Bool.and_eq_true, beq_iff_eq, sameMembers_iff]
  constructor
  · rintro ⟨hlength, hmembers⟩
    have hsub : ms.names ⊆ ns.names := by
      intro name hname
      obtain ⟨m, hm, rfl⟩ := List.mem_map.mp hname
      obtain ⟨w, hw, -⟩ := hmembers m hm
      exact Members.mem_names_of_lookup hw
    have hnames : ms.names.Perm ns.names :=
      (List.subperm_of_subset once hsub).perm_of_length_le (by simp [Members.names, hlength])
    refine ⟨fun name => hnames.mem_iff, fun name v w hv hw => ?_⟩
    obtain ⟨w', hw', hsame⟩ := hmembers _ ((Members.lookup_eq_some_iff once).mp hv)
    obtain rfl : w' = w := Option.some.inj (hw'.symm.trans hw)
    exact hsame
  · rintro ⟨hnames, hvalues⟩
    have hperm : ms.names.Perm ns.names := (List.perm_ext_iff_of_nodup once once').mpr hnames
    refine ⟨by simpa [Members.names] using hperm.length_eq, fun m hm => ?_⟩
    have hv := (Members.lookup_eq_some_iff once).mpr hm
    obtain ⟨w, hw⟩ := Members.mem_names_iff.mp ((hnames m.1).mp (Members.mem_names_of_lookup hv))
    exact ⟨w, hw, hvalues _ _ _ hv hw⟩

/-- What makes two values the same, on the outside. -/
inductive SameForm : Value → Value → Prop
  | null : SameForm .null .null
  | bool (b : Bool) : SameForm (.bool b) (.bool b)
  | number {a b : Number} : a.key = b.key → SameForm (.number a) (.number b)
  | string (s : String) : SameForm (.string s) (.string s)
  | list {xs ys : List Value} :
      (list xs).same (.list ys) = true → SameForm (.list xs) (.list ys)
  | object {ms ns : Members} :
      (object ms).same (.object ns) = true → SameForm (.object ms) (.object ns)

theorem same_iff {v w : Value} : v.same w = true ↔ SameForm v w := by
  constructor
  · intro h
    cases v <;> cases w <;> first | (simp [same] at h; done) | skip
    case null.null => exact .null
    case bool.bool a b => exact beq_iff_eq.mp (by rwa [same] at h) ▸ .bool a
    case number.number => exact .number (Number.same_iff.mp (by rwa [same] at h))
    case string.string s t => exact beq_iff_eq.mp (by rwa [same] at h) ▸ .string s
    case list.list => exact .list h
    case object.object => exact .object h
  · intro h
    cases h with
    | null => rw [same]
    | bool b => rw [same, beq_self_eq_true]
    | number h => rw [same, Number.same_iff.mpr h]
    | string s => rw [same, beq_self_eq_true]
    | list h => exact h
    | object h => exact h

theorem Distinct.lookup {ms : Members} (h : Distinct (.object ms)) {name : String} {v : Value}
    (hv : ms.lookup name = some v) : v.Distinct := by
  cases h with
  | object once inner => exact inner _ ((Members.lookup_eq_some_iff once).mp hv)

theorem Distinct.same_self {v : Value} (h : v.Distinct) : v.same v = true := by
  induction h with
  | null => exact same_iff.mpr .null
  | bool b => exact same_iff.mpr (.bool b)
  | number n => exact same_iff.mpr (.number rfl)
  | string s => exact same_iff.mpr (.string s)
  | list _ ih => exact same_list_iff.mpr ⟨rfl, fun i _ _ => ih _ (List.getElem_mem _)⟩
  | object once _ ih =>
    refine (same_object_iff once once).mpr ⟨fun _ => Iff.rfl, fun name v w hv hw => ?_⟩
    obtain rfl : v = w := Option.some.inj (hv.symm.trans hw)
    exact ih _ ((Members.lookup_eq_some_iff once).mp hv)

theorem Distinct.same_symm {v w : Value} (h : v.Distinct) (h' : w.Distinct)
    (heq : v.same w = true) : w.same v = true := by
  induction h generalizing w with
  | null => cases same_iff.mp heq; exact heq
  | bool b => cases same_iff.mp heq; exact heq
  | string s => cases same_iff.mp heq; exact heq
  | number n =>
    cases same_iff.mp heq with
    | number hkey => exact same_iff.mpr (.number hkey.symm)
  | list _ ih =>
    cases same_iff.mp heq with
    | list hitems =>
      cases h' with
      | list inner =>
        obtain ⟨hlength, hsame⟩ := same_list_iff.mp hitems
        exact same_list_iff.mpr ⟨hlength.symm, fun i hy hx =>
          ih _ (List.getElem_mem hx) (inner _ (List.getElem_mem hy)) (hsame i hx hy)⟩
  | object once _ ih =>
    cases same_iff.mp heq with
    | object hmembers =>
      cases h' with
      | object once' inner =>
        obtain ⟨hnames, hvalues⟩ := (same_object_iff once once').mp hmembers
        refine (same_object_iff once' once).mpr
          ⟨fun name => (hnames name).symm, fun name w v hw hv => ?_⟩
        exact ih _ ((Members.lookup_eq_some_iff once).mp hv)
          (inner _ ((Members.lookup_eq_some_iff once').mp hw)) (hvalues name v w hv hw)

theorem Distinct.same_trans {u v w : Value} (hu : u.Distinct) (hv : v.Distinct) (hw : w.Distinct)
    (huv : u.same v = true) (hvw : v.same w = true) : u.same w = true := by
  induction hu generalizing v w with
  | null => cases same_iff.mp huv; exact hvw
  | bool b => cases same_iff.mp huv; exact hvw
  | string s => cases same_iff.mp huv; exact hvw
  | number n =>
    cases same_iff.mp huv with
    | number hkey =>
      cases same_iff.mp hvw with
      | number hkey' => exact same_iff.mpr (.number (hkey.trans hkey'))
  | list _ ih =>
    cases same_iff.mp huv with
    | list hitems =>
      cases same_iff.mp hvw with
      | list hitems' =>
        cases hv with
        | list inner =>
          cases hw with
          | list inner' =>
            obtain ⟨hlength, hsame⟩ := same_list_iff.mp hitems
            obtain ⟨hlength', hsame'⟩ := same_list_iff.mp hitems'
            refine same_list_iff.mpr ⟨hlength.trans hlength', fun i hx hz => ?_⟩
            have hy := hlength ▸ hx
            exact ih _ (List.getElem_mem hx) (inner _ (List.getElem_mem hy))
              (inner' _ (List.getElem_mem hz)) (hsame i hx hy) (hsame' i hy hz)
  | object once _ ih =>
    cases same_iff.mp huv with
    | object hmembers =>
      cases same_iff.mp hvw with
      | object hmembers' =>
        cases hv with
        | object once' inner =>
          cases hw with
          | object once'' inner' =>
            obtain ⟨hnames, hvalues⟩ := (same_object_iff once once').mp hmembers
            obtain ⟨hnames', hvalues'⟩ := (same_object_iff once' once'').mp hmembers'
            refine (same_object_iff once once'').mpr
              ⟨fun name => (hnames name).trans (hnames' name), fun name u w hu hw => ?_⟩
            -- The value between has a member of the name, for it has the names of the first.
            obtain ⟨v, hv⟩ :=
              Members.mem_names_iff.mp ((hnames name).mp (Members.mem_names_of_lookup hu))
            exact ih _ ((Members.lookup_eq_some_iff once).mp hu)
              (inner _ ((Members.lookup_eq_some_iff once').mp hv))
              (inner' _ ((Members.lookup_eq_some_iff once'').mp hw)) (hvalues name u v hu hv)
              (hvalues' name v w hv hw)

/-- The values differ in the order of members, at any depth, and in nothing else. -/
inductive Reordered : Value → Value → Prop
  | refl (v : Value) : Reordered v v
  | members {ms ns : Members} : ms.Perm ns → Reordered (.object ms) (.object ns)
  | item {v w : Value} (before after : List Value) :
      Reordered v w → Reordered (.list (before ++ v :: after)) (.list (before ++ w :: after))
  | value {v w : Value} (name : String) (before after : Members) : Reordered v w →
      Reordered (.object (before ++ (name, v) :: after)) (.object (before ++ (name, w) :: after))
  | trans {u v w : Value} : Reordered u v → Reordered v w → Reordered u w

theorem Reordered.distinct {v w : Value} (h : Reordered v w) (hv : v.Distinct) : w.Distinct := by
  induction h with
  | refl v => exact hv
  | members hperm =>
    cases hv with
    | object once inner =>
      exact .object ((hperm.map Prod.fst).nodup_iff.mp once)
        fun m hm => inner m (hperm.mem_iff.mpr hm)
  | item before after _ ih =>
    cases hv with
    | list inner =>
      simp only [List.forall_mem_append, List.forall_mem_cons] at inner
      refine .list ?_
      simp only [List.forall_mem_append, List.forall_mem_cons]
      exact ⟨inner.1, ih inner.2.1, inner.2.2⟩
  | value name before after _ ih =>
    cases hv with
    | object once inner =>
      simp only [List.forall_mem_append, List.forall_mem_cons] at inner
      refine .object (by simpa [Members.names] using once) ?_
      simp only [List.forall_mem_append, List.forall_mem_cons]
      exact ⟨inner.1, ih inner.2.1, inner.2.2⟩
  | trans _ _ ih ih' => exact ih' (ih hv)

theorem Reordered.same {v w : Value} (h : Reordered v w) (hv : v.Distinct) : v.same w = true := by
  induction h with
  | refl v => exact hv.same_self
  | members hperm =>
    cases hv with
    | object once inner =>
      refine (same_object_iff once ((hperm.map Prod.fst).nodup_iff.mp once)).mpr
        ⟨fun name => (hperm.map Prod.fst).mem_iff, fun name v w hv hw => ?_⟩
      rw [← Members.lookup_perm once hperm] at hw
      obtain rfl : v = w := Option.some.inj (hv.symm.trans hw)
      exact (inner _ ((Members.lookup_eq_some_iff once).mp hv)).same_self
  | item before after _ ih =>
    cases hv with
    | list inner =>
      simp only [List.forall_mem_append, List.forall_mem_cons] at inner
      obtain ⟨hbefore, hv, hafter⟩ := inner
      rw [Value.same, sameItems_iff]
      exact List.rel_append (List.forall₂_same.mpr fun v hv => (hbefore v hv).same_self)
        (.cons (ih hv) (List.forall₂_same.mpr fun v hv => (hafter v hv).same_self))
  | @value v w name before after h ih =>
    cases h.value name before after |>.distinct hv with
    | object once' _ =>
      cases hv with
      | object once inner =>
        have hkept (m : String × Value) (hm : m ∈ before ++ (name, w) :: after)
            (hsame : m.2.same m.2 = true) :
            ∃ u, List.lookup m.1 (before ++ (name, w) :: after) = some u ∧ m.2.same u = true :=
          ⟨m.2, (Members.lookup_eq_some_iff once').mpr hm, hsame⟩
        simp only [List.forall_mem_append, List.forall_mem_cons] at inner
        obtain ⟨hbefore, hv, hafter⟩ := inner
        rw [Value.same, Bool.and_eq_true, beq_iff_eq, sameMembers_iff]
        simp only [List.forall_mem_append, List.forall_mem_cons]
        refine ⟨by simp, fun m hm => ?_, ⟨w, ?_, ih hv⟩, fun m hm => ?_⟩
        · exact hkept m (List.mem_append_left _ hm) (hbefore m hm).same_self
        · exact (Members.lookup_eq_some_iff once').mpr (List.mem_append_right _ List.mem_cons_self)
        · exact hkept m (List.mem_append_right _ (List.mem_cons_of_mem _ hm))
            (hafter m hm).same_self
  -- A value between is a map as well, so the two steps can be joined.
  | trans h h' ih ih' =>
    have hmiddle := h.distinct hv
    exact hv.same_trans hmiddle (h'.distinct hmiddle) (ih hv) (ih' hmiddle)

inductive Kind
  | null
  | bool
  | number
  | string
  | list
  | object
deriving DecidableEq

def kind : Value → Kind
  | .null => .null
  | .bool _ => .bool
  | .number _ => .number
  | .string _ => .string
  | .list _ => .list
  | .object _ => .object

theorem TypedEqual.kind_eq {v w : Value} (h : TypedEqual v w) :
    v.kind = w.kind ∧ v.kind ≠ .null := by
  cases h <;> exact ⟨rfl, nofun⟩

theorem typedEqual_of_same {v w : Value} (h : v.same w = true) (present : v.isNull = false) :
    TypedEqual v w := by
  cases same_iff.mp h with
  | null => cases present
  | bool b => exact .bool b
  | string s => exact .string s
  | list h => exact .list h
  | object h => exact .object h
  | @number a b hkey =>
    obtain ⟨x, hx⟩ := a.exists_toDouble?
    obtain ⟨y, hy⟩ := b.exists_toDouble?
    exact .number hx hy (Number.units_eq_of_key hkey hx hy)

theorem TypedEqual.symm {v w : Value} (hv : v.Distinct) (hw : w.Distinct) (h : TypedEqual v w) :
    TypedEqual w v := by
  cases h with
  | number ha hb hunits => exact .number hb ha hunits.symm
  | string s => exact .string s
  | bool b => exact .bool b
  | list h => exact .list (hv.same_symm hw h)
  | object h => exact .object (hv.same_symm hw h)

theorem TypedEqual.trans {u v w : Value} (hu : u.Distinct) (hv : v.Distinct) (hw : w.Distinct)
    (h : TypedEqual u v) (h' : TypedEqual v w) : TypedEqual u w := by
  cases h with
  | string s => exact h'
  | bool b => exact h'
  | number ha hb hunits =>
    cases h' with
    | number hb' hc hunits' =>
      rw [Option.some.inj (hb'.symm.trans hb)] at hunits'
      exact .number ha hc (hunits.trans hunits')
  | list h =>
    cases h' with
    | list h' => exact .list (hu.same_trans hv hw h h')
  | object h =>
    cases h' with
    | object h' => exact .object (hu.same_trans hv hw h h')

/-- The values that a cell can be compared with: maps all through, and not null. -/
abbrev Present : Type := {v : Value // v.Distinct ∧ v.isNull = false}

theorem typedEqual_equivalence :
    Equivalence fun x y : Present => x.1.typedEqual y.1 = true where
  refl x := typedEqual_iff.mpr (typedEqual_of_same x.2.1.same_self x.2.2)
  symm {x y} h := typedEqual_iff.mpr ((typedEqual_iff.mp h).symm x.2.1 y.2.1)
  trans {x y z} h h' :=
    typedEqual_iff.mpr ((typedEqual_iff.mp h).trans x.2.1 y.2.1 z.2.1 (typedEqual_iff.mp h'))

end Value
end RowQuery.Json

namespace RowQuery.Dataset
open Json

theorem mem_apply_equal_self {d : Dataset} {header : String} {row : Members} {v : Value}
    (hrow : row ∈ d.rows) (distinct : (Value.object row).Distinct)
    (hcell : row.lookup header = some v) (present : v.isNull = false) :
    row ∈ (d.apply [⟨header, .equal, v⟩]).1.rows := by
  refine mem_apply_singleton.mpr ⟨hrow, fun _ => ?_⟩
  have hequal : Operator.Holds .equal (some v) v :=
    ⟨v, rfl, Value.typedEqual_of_same (distinct.lookup hcell).same_self present⟩
  exact (Condition.holds_iff_of_lookup hcell (Value.isNull_eq_false_iff.mp present)).mpr hequal

/-- Values that are read are maps all through. On those that are not null, typed equality is an
equivalence that holds between values of one kind only and whatever the order of members, and a row
has to have the value of its own cell. -/
theorem typed_equality_laws :
    (∀ text v, Value.read text = .ok v → v.Distinct) ∧
      (Equivalence fun x y : Value.Present => x.1.typedEqual y.1 = true) ∧
      (∀ v w : Value, v.typedEqual w = true → v.kind = w.kind ∧ v.kind ≠ .null) ∧
      (∀ (x : Value.Present) (w : Value), Value.Reordered x.1 w →
        w.Distinct ∧ x.1.typedEqual w = true) ∧
      ∀ (d : Dataset) (header : String) (row : Members) (v : Value), row ∈ d.rows →
        (Value.object row).Distinct → row.lookup header = some v → v.isNull = false →
        row ∈ (d.apply [⟨header, .equal, v⟩]).1.rows := by
  refine ⟨fun text v => Value.distinct_read, Value.typedEqual_equivalence, fun v w h => ?_,
    fun x w h => ⟨h.distinct x.2.1, ?_⟩, fun d header row v => mem_apply_equal_self⟩
  · exact (Value.typedEqual_iff.mp h).kind_eq
  · exact Value.typedEqual_iff.mpr (Value.typedEqual_of_same (h.same x.2.1) x.2.2)

theorem typed_equality_laws_members_reordered :
    let inner : Members := [("p", .null), ("q", .bool true)]
    let v : Value := .list [.object inner, .null]
    let w : Value := .list [.object inner.reverse, .null]
    let row : Members := [("b", .null), ("a", v)]
    let d : Dataset := ⟨["b", "a"], [row]⟩
    Value.read "[\x7b\"p\":null,\"q\":true\x7d,null]" = .ok v ∧ v.Distinct ∧ v.isNull = false ∧
      Value.Reordered v w ∧ v.typedEqual w = true ∧ w.typedEqual v = true ∧
      v.kind = w.kind ∧ row ∈ d.rows ∧ (Value.object row).Distinct ∧ row.lookup "a" = some v ∧
      row ∈ (d.apply [⟨"a", .equal, v⟩]).1.rows := by
  intro inner v w row d
  have hread : Value.read "[\x7b\"p\":null,\"q\":true\x7d,null]" = .ok v := by cbv
  have hreordered : Value.Reordered v w :=
    .item [] [.null] (.members (List.reverse_perm inner).symm)
  have hrow : row ∈ d.rows := List.mem_cons_self
  obtain ⟨hdistinct, hequivalence, hkinds, hsame, hself⟩ := typed_equality_laws
  have hv := hdistinct _ _ hread
  obtain ⟨hw, hequal⟩ := hsame ⟨v, hv, rfl⟩ w hreordered
  have hequal' : w.typedEqual v = true :=
    hequivalence.symm (x := ⟨v, hv, rfl⟩) (y := ⟨w, hw, rfl⟩) hequal
  have hmap : (Value.object row).Distinct := by
    refine .object (by decide) fun m hm => ?_
    rcases List.mem_pair.mp hm with rfl | rfl
    · exact .null
    · exact hv
  exact ⟨hread, hv, rfl, hreordered, hequal, hequal', (hkinds v w hequal).1, hrow, hmap, rfl,
    hself d "a" row v hrow hmap rfl rfl⟩

end RowQuery.Dataset
