import RowQuery.Json.Number

/-!
# JSON values

An object keeps its members in the order in which their names first came. Equality of values
compares numbers as numbers of one kind, strings exactly, lists item by item, and objects by name,
whatever the order of their members.
-/
namespace RowQuery.Json

inductive Value
  | null
  | bool (b : Bool)
  | number (n : Number)
  | string (s : String)
  | list (items : List Value)
  | object (members : List (String × Value))

abbrev Members := List (String × Value)

namespace Members

def names (ms : Members) : List String := ms.map Prod.fst

/-- Puts a value in the place of the name, or behind all members when the name is new. -/
def insert (ms : Members) (name : String) (value : Value) : Members :=
  if ms.any (·.1 == name) then ms.map fun m => if m.1 == name then (name, value) else m
  else ms ++ [(name, value)]

/-- Takes out the member of the name; the last member moves to its place. -/
def takeOut (name : String) : Members → Option Value × Members
  | [] => (none, [])
  | m :: ms =>
    if m.1 == name then (some m.2, ms.getLast?.toList ++ ms.dropLast)
    else
      let (value, rest) := takeOut name ms
      (value, m :: rest)

theorem names_insert_of_mem {ms : Members} {name : String} (value : Value)
    (h : name ∈ ms.names) : (ms.insert name value).names = ms.names := by
  obtain ⟨m, hm, rfl⟩ := List.mem_map.mp h
  have hany : ms.any (·.1 == m.1) = true := List.any_eq_true.mpr ⟨m, hm, by simp⟩
  simp only [insert, hany, if_true, names, List.map_map]
  refine List.map_congr_left fun x _ => ?_
  simp only [Function.comp]
  split <;> simp_all

theorem insert_of_not_mem {ms : Members} {name : String} (value : Value) (h : name ∉ ms.names) :
    ms.insert name value = ms ++ [(name, value)] := by
  have hany : ms.any (·.1 == name) = false := by
    refine List.any_eq_false.mpr fun m hm he => ?_
    exact h (List.mem_map.mpr ⟨m, hm, beq_iff_eq.mp he⟩)
  simp [insert, hany]

theorem names_insert_of_not_mem {ms : Members} {name : String} (value : Value)
    (h : name ∉ ms.names) : (ms.insert name value).names = ms.names ++ [name] := by
  simp [insert_of_not_mem value h, names]

theorem nodup_names_insert {ms : Members} (name : String) (value : Value)
    (h : ms.names.Nodup) : (ms.insert name value).names.Nodup := by
  by_cases hm : name ∈ ms.names
  · rw [names_insert_of_mem value hm]; exact h
  · rw [names_insert_of_not_mem value hm, List.nodup_append]
    exact ⟨h, by simp, fun a ha b hb => by rintro rfl; simp_all⟩

end Members

namespace Value

def isNull : Value → Bool
  | .null => true
  | _ => false

def string? : Value → Option String
  | .string s => some s
  | _ => none

def members? : Value → Option Members
  | .object ms => some ms
  | _ => none

theorem string?_eq_some_iff {v : Value} {s : String} : v.string? = some s ↔ v = .string s := by
  cases v <;> simp [string?]

theorem members?_eq_some_iff {v : Value} {ms : Members} :
    v.members? = some ms ↔ v = .object ms := by
  cases v <;> simp [members?]

mutual

def same : Value → Value → Bool
  | .null, .null => true
  | .bool a, .bool b => a == b
  | .number a, .number b => a.same b
  | .string a, .string b => a == b
  | .list xs, .list ys => sameItems xs ys
  | .object ms, .object ns => ms.length == ns.length && sameMembers ms ns
  | _, _ => false

def sameItems : List Value → List Value → Bool
  | [], [] => true
  | x :: xs, y :: ys => x.same y && sameItems xs ys
  | _, _ => false

def sameMembers : List (String × Value) → List (String × Value) → Bool
  | [], _ => true
  | m :: ms, ns => sameMember m ns && sameMembers ms ns

def sameMember : String × Value → List (String × Value) → Bool
  | (name, value), ns =>
    match ns.lookup name with
    | some other => value.same other
    | none => false

end

end Value
end RowQuery.Json
