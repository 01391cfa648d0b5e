import Mathlib

/-!
# First occurrences

The items of a list, each once, in the order in which they first come. One more item at the end
of the list changes nothing when it was there before, and else comes last.
-/
namespace RowQuery

variable {α : Type} [DecidableEq α]

/-- `ys` has the items of `xs`, each once and ordered by its first place in `xs`. -/
structure FirstSeen (xs ys : List α) : Prop where
  nodup : ys.Nodup
  mem_iff : ∀ a, a ∈ ys ↔ a ∈ xs
  ordered : ys.Pairwise fun a b => xs.idxOf a < xs.idxOf b

theorem eraseDups_append_singleton (xs : List α) (a : α) :
    (xs ++ [a]).eraseDups = if a ∈ xs then xs.eraseDups else xs.eraseDups ++ [a] := by
  rw [List.eraseDups_append]
  split
  · next h => simp [List.removeAll, h]
  · next h => simp [List.removeAll, h, List.eraseDups_cons]

theorem eraseDups_of_nodup {xs : List α} (h : xs.Nodup) : xs.eraseDups = xs := by
  induction xs using List.reverseRecOn with
  | nil => rfl
  | append_singleton xs a ih =>
    have hsplit := List.nodup_append.mp h
    have hnew : a ∉ xs := fun ha => hsplit.2.2 a ha a (List.mem_singleton_self a) rfl
    rw [eraseDups_append_singleton, if_neg hnew, ih hsplit.1]

theorem eraseDups_append_of_subset {xs ys : List α} (h : ys ⊆ xs) :
    (xs ++ ys).eraseDups = xs.eraseDups := by
  have hnone : ys.removeAll xs = [] := by
    rw [List.removeAll, List.filter_eq_nil_iff]
    intro a ha
    simpa using h ha
  rw [List.eraseDups_append, hnone, List.eraseDups_nil, List.append_nil]

namespace FirstSeen
variable {xs ys : List α} {a : α}

theorem ordered_append (h : FirstSeen xs ys) (a : α) :
    ys.Pairwise fun b c => (xs ++ [a]).idxOf b < (xs ++ [a]).idxOf c := by
  refine h.ordered.imp_of_mem fun {b c} hb hc hlt => ?_
  rw [List.idxOf_append_of_mem ((h.mem_iff b).mp hb),
    List.idxOf_append_of_mem ((h.mem_iff c).mp hc)]
  exact hlt

theorem append_seen (h : FirstSeen xs ys) (ha : a ∈ xs) : FirstSeen (xs ++ [a]) ys := by
  refine ⟨h.nodup, fun b => ?_, h.ordered_append a⟩
  rw [h.mem_iff, List.mem_append, List.mem_singleton]
  exact ⟨.inl, fun hb => hb.elim id fun he => he ▸ ha⟩

theorem append_new (h : FirstSeen xs ys) (ha : a ∉ xs) : FirstSeen (xs ++ [a]) (ys ++ [a]) := by
  refine ⟨?_, fun b => by simp [h.mem_iff], ?_⟩
  · rw [List.nodup_append_comm, List.singleton_append, List.nodup_cons]
    exact ⟨fun hm => ha ((h.mem_iff a).mp hm), h.nodup⟩
  · refine List.pairwise_append.mpr ⟨h.ordered_append a, List.pairwise_singleton _ _, ?_⟩
    intro b hb c hc
    have hbx := (h.mem_iff b).mp hb
    have hlt := List.idxOf_lt_length_of_mem hbx
    rw [List.mem_singleton.mp hc, List.idxOf_append_of_mem hbx, List.idxOf_append_of_notMem ha]
    omega

end FirstSeen

theorem firstSeen_eraseDups (xs : List α) : FirstSeen xs xs.eraseDups := by
  induction xs using List.reverseRecOn with
  | nil => exact ⟨List.nodup_nil, fun a => Iff.rfl, .nil⟩
  | append_singleton xs a ih =>
    rw [eraseDups_append_singleton]
    split
    · next h => exact ih.append_seen h
    · next h => exact ih.append_new h

end RowQuery
