import Mathlib
import RowQuery.Json.Reader

/-!
# Distinct names

No object inside a value that was read has a name twice: a member whose name comes again gives its
value to the first place of the name. So every record that reaches a dataset is a map.
-/
namespace RowQuery.Json

/-- In every object of the value each name stands once. -/
inductive Value.Distinct : Value → Prop
  | null : Distinct .null
  | bool (b : Bool) : Distinct (.bool b)
  | number (n : Number) : Distinct (.number n)
  | string (s : String) : Distinct (.string s)
  | list {items : List Value} : (∀ v ∈ items, Distinct v) → Distinct (.list items)
  | object {members : Members} :
      members.names.Nodup → (∀ m ∈ members, Distinct m.2) → Distinct (.object members)

/-- The names of a record; a value of another form has none. -/
def Value.memberNames : Value → List String
  | .object members => Members.names members
  | _ => []

theorem Value.Distinct.memberNames_nodup {v : Value} (h : v.Distinct) : v.memberNames.Nodup := by
  cases h with
  | object once _ => exact once
  | _ => exact List.nodup_nil

theorem Members.mem_insert {ms : Members} {name : String} {value : Value} {m : String × Value}
    (h : m ∈ ms.insert name value) : m ∈ ms ∨ m.2 = value := by
  rw [insert] at h
  split at h
  · obtain ⟨n, hn, rfl⟩ := List.mem_map.mp h
    split
    · exact .inr rfl
    · exact .inl hn
  · rcases List.mem_append.mp h with hm | hm
    · exact .inl hm
    · exact .inr (List.mem_singleton.mp hm ▸ rfl)

namespace Tree

mutual

theorem distinct_valueWithin (room : Nat) : (t : Tree) → {v : Value} →
    t.valueWithin room = .ok v → v.Distinct
  | .null, v, h => by cases h; exact .null
  | .bool b, v, h => by cases h; exact .bool b
  | .number l, v, h => by
    rw [valueWithin] at h
    cases hn : l.read with
    | error b => rw [hn] at h; cases h
    | ok n => rw [hn] at h; cases h; exact .number n
  | .string q, v, h => by
    rw [valueWithin] at h
    cases hs : q.text with
    | error b => rw [hs] at h; cases h
    | ok s => rw [hs] at h; cases h; exact .string s
  | .list items ending, v, h => by
    cases room with
    | zero => cases h
    | succ room =>
      rw [valueWithin] at h
      cases hi : itemsWithin room [] items with
      | error b => rw [hi] at h; cases h
      | ok values =>
        rw [hi] at h
        cases ending with
        | cut b => cases h
        | closed =>
          cases h
          exact .list (distinct_itemsWithin room items (fun _ hv => absurd hv List.not_mem_nil) hi)
  | .object members ending, v, h => by
    cases room with
    | zero => cases h
    | succ room =>
      rw [valueWithin] at h
      cases hm : membersWithin room [] members with
      | error b => rw [hm] at h; cases h
      | ok values =>
        rw [hm] at h
        cases ending with
        | cut b => cases h
        | closed =>
          cases h
          have hnil : (Members.names []).Nodup := List.nodup_nil
          obtain ⟨once, inner⟩ := distinct_membersWithin room members hnil
            (fun _ hv => absurd hv List.not_mem_nil) hm
          exact .object once inner
  | .broken b, v, h => by cases h

theorem distinct_itemsWithin (room : Nat) : (ts : List Tree) → {done values : List Value} →
    (∀ v ∈ done, v.Distinct) → itemsWithin room done ts = .ok values → ∀ v ∈ values, v.Distinct
  | [], done, values, hdone, h => by
    cases h
    exact fun v hv => hdone v (List.mem_reverse.mp hv)
  | t :: ts, done, values, hdone, h => by
    rw [itemsWithin] at h
    cases hv : valueWithin room t with
    | error b => rw [hv] at h; cases h
    | ok v =>
      rw [hv] at h
      exact distinct_itemsWithin room ts
        (List.forall_mem_cons.mpr ⟨distinct_valueWithin room t hv, hdone⟩) h

theorem distinct_membersWithin (room : Nat) : (ms : List (Quoted × Tree)) →
    {done values : Members} → done.names.Nodup → (∀ m ∈ done, m.2.Distinct) →
    membersWithin room done ms = .ok values → values.names.Nodup ∧ ∀ m ∈ values, m.2.Distinct
  | [], done, values, once, inner, h => by
    cases h
    exact ⟨once, inner⟩
  | m :: ms, done, values, once, inner, h => by
    rw [membersWithin] at h
    cases hm : memberWithin room m with
    | error b => rw [hm] at h; cases h
    | ok entry =>
      obtain ⟨name, v⟩ := entry
      rw [hm] at h
      refine distinct_membersWithin room ms (Members.nodup_names_insert name v once) ?_ h
      intro n hn
      rcases Members.mem_insert hn with hold | hnew
      · exact inner n hold
      · exact hnew ▸ distinct_memberWithin room m hm

theorem distinct_memberWithin (room : Nat) : (m : Quoted × Tree) → {entry : String × Value} →
    memberWithin room m = .ok entry → entry.2.Distinct
  | (q, t), entry, h => by
    rw [memberWithin] at h
    cases hq : q.text with
    | error b => rw [hq] at h; cases h
    | ok name =>
      rw [hq] at h
      cases hv : valueWithin room t with
      | error b => rw [hv] at h; cases h
      | ok v =>
        rw [hv] at h
        cases h
        exact distinct_valueWithin room t hv

end

end Tree

theorem Value.distinct_read {text : String} {v : Value} (h : Value.read text = .ok v) :
    v.Distinct := by
  rw [Value.read, Value.ofBytes, Document.value] at h
  cases hv : (Document.ofBytes text.toUTF8.data.toList).tree.value with
  | error b => rw [hv] at h; cases h
  | ok w =>
    rw [hv] at h
    have hw := Tree.distinct_valueWithin _ _ hv
    simp only [bind, Except.bind] at h
    split at h
    · cases h
    · exact Except.ok.inj h ▸ hw

theorem Value.memberNames_nodup_of_read {text : String} {records : List Value}
    (h : Value.read text = .ok (.list records)) : ∀ r ∈ records, r.memberNames.Nodup := by
  cases Value.distinct_read h with
  | list hitems => exact fun r hr => (hitems r hr).memberNames_nodup

end RowQuery.Json
