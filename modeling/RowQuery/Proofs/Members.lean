import Mathlib
import RowQuery.Json.Value

/-!
# Members as a map

Members whose names are distinct are a map from names to values: a look-up finds exactly the
members, in whatever order they stand. Taking a member out reorders the others, but leaves what is
looked up under any other name as it is.
-/
namespace RowQuery.Json.Members

theorem lookup_cons_eq (name : String) (m : String × Value) (ms : Members) :
    List.lookup name (m :: ms) = if name = m.1 then some m.2 else ms.lookup name := by
  rw [List.lookup_cons]
  split
  · next h => rw [if_pos (beq_iff_eq.mp h)]
  · next h => rw [if_neg (beq_eq_false_iff_ne.mp h)]

theorem lookup_eq_some_iff {ms : Members} (once : ms.names.Nodup) {name : String} {value : Value} :
    ms.lookup name = some value ↔ (name, value) ∈ ms := by
  induction ms with
  | nil => simp
  | cons m ms ih =>
    obtain ⟨fresh, rest⟩ := List.nodup_cons.mp once
    rw [lookup_cons_eq, List.mem_cons]
    by_cases hm : name = m.1
    · subst hm
      have hnot : (m.1, value) ∉ ms := fun h => fresh (List.mem_map.mpr ⟨_, h, rfl⟩)
      simp [hnot, Prod.ext_iff, eq_comm]
    · have hnot : (name, value) ≠ m := fun h => hm (congrArg Prod.fst h)
      simp [hm, ih rest, hnot]

theorem lookup_eq_none_of_notMem {ms : Members} {name : String} (h : name ∉ ms.names) :
    ms.lookup name = none :=
  List.lookup_eq_none_iff.mpr fun m hm =>
    bne_iff_ne.mpr fun he => h (List.mem_map.mpr ⟨m, hm, he.symm⟩)

theorem mem_names_of_lookup {ms : Members} {name : String} {value : Value}
    (h : ms.lookup name = some value) : name ∈ ms.names := by
  by_contra hnot
  rw [lookup_eq_none_of_notMem hnot] at h
  cases h

theorem lookup_replaced (ms : Members) (name : String) (value : Value) (other : String) :
    (ms.map fun m => if m.1 = name then (name, value) else m).lookup other =
      if other = name then (if name ∈ ms.names then some value else none) else ms.lookup other := by
  induction ms with
  | nil => simp [names]
  | cons m ms ih =>
    have hmem : name ∈ names (m :: ms) ↔ name = m.1 ∨ name ∈ names ms := List.mem_cons
    rw [List.map_cons, lookup_cons_eq, lookup_cons_eq, ih]
    by_cases hm : m.1 = name
    · by_cases ho : other = name <;> simp [hmem, hm, ho]
    · by_cases ho : other = name
      · subst ho
        simp [hmem, hm, Ne.symm hm]
      · simp [hm, ho]

theorem lookup_insert (ms : Members) (name : String) (value : Value) (other : String) :
    (ms.insert name value).lookup other = if other = name then some value else ms.lookup other := by
  by_cases hm : name ∈ ms.names
  · have hany : ms.any (·.1 == name) = true := by
      obtain ⟨m, hmem, rfl⟩ := List.mem_map.mp hm
      exact List.any_eq_true.mpr ⟨m, hmem, beq_self_eq_true _⟩
    simp only [insert, if_pos hany, beq_iff_eq, lookup_replaced, if_pos hm]
  · rw [insert_of_not_mem value hm, List.lookup_append]
    by_cases ho : other = name
    · subst ho
      simp [lookup_eq_none_of_notMem hm]
    · simp [ho, lookup_cons_eq]

theorem lookup_perm {ms ns : Members} (once : ms.names.Nodup) (h : ms.Perm ns) (name : String) :
    ms.lookup name = ns.lookup name := by
  have once' : ns.names.Nodup := (h.map Prod.fst).nodup_iff.mp once
  refine Option.ext fun value => ?_
  rw [lookup_eq_some_iff once, lookup_eq_some_iff once', h.mem_iff]

theorem lookup_filter_ne {name other : String} (h : other ≠ name) (ms : Members) :
    (ms.filter (·.1 != name)).lookup other = ms.lookup other := by
  induction ms with
  | nil => rfl
  | cons m ms ih =>
    rw [lookup_cons_eq, List.filter_cons]
    by_cases hm : m.1 = name
    · simp [hm, h, ih]
    · simp [hm, lookup_cons_eq, ih]

theorem names_filter_nodup {ms : Members} (once : ms.names.Nodup) (p : String × Value → Bool) :
    (names (ms.filter p)).Nodup :=
  once.sublist (List.filter_sublist.map _)

theorem last_append_perm (ms : Members) : (ms.getLast?.toList ++ ms.dropLast).Perm ms := by
  rcases List.eq_nil_or_concat ms with rfl | ⟨init, last, rfl⟩
  · exact .refl _
  · simpa using (List.perm_append_singleton last init).symm

theorem takeOut_fst (name : String) (ms : Members) : (ms.takeOut name).1 = ms.lookup name := by
  induction ms with
  | nil => rfl
  | cons m ms ih =>
    rw [lookup_cons_eq, takeOut]
    by_cases hm : m.1 = name
    · simp [hm]
    · simp [hm, Ne.symm hm, ih]

theorem takeOut_snd_perm {ms : Members} (once : ms.names.Nodup) (name : String) :
    (ms.takeOut name).2.Perm (ms.filter (·.1 != name)) := by
  induction ms with
  | nil => exact .refl _
  | cons m ms ih =>
    obtain ⟨fresh, rest⟩ := List.nodup_cons.mp once
    by_cases hm : m.1 = name
    · subst hm
      have hall : ms.filter (·.1 != m.1) = ms := by
        refine List.filter_eq_self.mpr fun n hn => ?_
        exact bne_iff_ne.mpr fun he => fresh (List.mem_map.mpr ⟨n, hn, he⟩)
      simpa [takeOut, hall] using last_append_perm ms
    · simpa [takeOut, hm] using (ih rest).cons m

/-- A way to take a member out of a map: it gives what is looked up under the name, and leaves the
other members in any order. -/
structure Removal where
  take : String → Members → Option Value × Members
  take_fst : ∀ name ms, (take name ms).1 = ms.lookup name
  take_snd_perm : ∀ (name : String) (ms : Members), ms.names.Nodup →
    (take name ms).2.Perm (ms.filter (·.1 != name))

namespace Removal

def swapping : Removal := ⟨takeOut, takeOut_fst, fun name _ once => takeOut_snd_perm once name⟩

def shifting : Removal :=
  ⟨fun name ms => (ms.lookup name, ms.filter (·.1 != name)), fun _ _ => rfl, fun _ _ _ => .refl _⟩

theorem take_snd_nodup (removal : Removal) {ms : Members} (once : ms.names.Nodup) (name : String) :
    (names (removal.take name ms).2).Nodup :=
  ((removal.take_snd_perm name ms once).map Prod.fst).nodup_iff.mpr (names_filter_nodup once _)

theorem take_snd_lookup (removal : Removal) {ms : Members} (once : ms.names.Nodup)
    {name other : String} (h : other ≠ name) :
    (removal.take name ms).2.lookup other = ms.lookup other := by
  rw [lookup_perm (removal.take_snd_nodup once name) (removal.take_snd_perm name ms once),
    lookup_filter_ne h]

end Removal

end RowQuery.Json.Members
