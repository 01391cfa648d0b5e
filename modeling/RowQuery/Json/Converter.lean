import RowQuery.Json.Decoder

/-!
# Reading a value as a given form

A value that is at hand is read as a form without its text. Strings and numbers are taken as they
are and nothing is too deep, so only the form can be at fault.
-/
namespace RowQuery.Json

abbrev Converter (α : Type) := Value → Except Fault α

def Value.found : Value → Found
  | .null => .null
  | .bool b => .bool b
  | .number n => .number n
  | .string s => .string s
  | .list _ => .list
  | .object _ => .object

namespace Converter
variable {α σ : Type}

def wrongType (expected : String) (v : Value) : Except Fault α :=
  .error (.wrongType v.found expected)

def any : Converter Value := .ok

def string : Converter String
  | .string s => .ok s
  | v => wrongType "a string" v

def lookupVariant (known : List (String × α)) (name : String) : Except Fault α :=
  match known.lookup name with
  | some a => .ok a
  | none => .error (.unknownVariant name (known.map Prod.fst))

def variant (known : List (String × α)) : Converter α
  | .string s => lookupVariant known s
  | .object [(name, v)] =>
    match lookupVariant known name with
    | .ok a => if v.isNull then .ok a else wrongType "unit" v
    | .error e => .error e
  | .object _ => .error (.wrongValue .object "map with a single key")
  | v => wrongType "string or map" v

def into (c : Converter α) (set : α → σ → σ) (v : Value) (s : σ) : Except Fault σ :=
  (c v).map (set · s)

end Converter

namespace Record
open Converter
variable {σ : Type}

abbrev Part (σ : Type) := Field σ × (Value → σ → Except Fault σ)

def convertMember (parts : List (Part σ)) (seen : List String) (s : σ) (m : String × Value) :
    Except Fault (List String × σ) :=
  match parts.find? (·.1.name == m.1) with
  | none => .ok (seen, s)
  | some part =>
    if seen.contains m.1 then .error (.duplicateField m.1)
    else (part.2 m.2 s).map fun s => (m.1 :: seen, s)

def convertMembers (parts : List (Part σ)) (seen : List String) (s : σ) :
    Members → Except Fault (List String × σ)
  | [] => .ok (seen, s)
  | m :: ms =>
    match convertMember parts seen s m with
    | .ok (seen, s) => convertMembers parts seen s ms
    | .error e => .error e

def convertElements (r : Record σ) (position : Nat) (s : σ) :
    List (Part σ) → List Value → Except Fault σ
  | [], [] => .ok s
  | [], vs => .error (.wrongLength (position + vs.length) "fewer elements in array")
  | part :: parts, [] =>
    if part.1.isDefaulted then convertElements r (position + 1) s parts []
    else .error (.wrongLength position r.lengthText)
  | part :: parts, v :: vs =>
    match part.2 v s with
    | .ok s => convertElements r (position + 1) s parts vs
    | .error e => .error e

/-- Reads a record whose members of other names are skipped, given how its fields are read. -/
def convert (r : Record σ) (reads : List (Value → σ → Except Fault σ)) (start : σ) : Converter σ :=
  fun v =>
    let parts := r.fields.zip reads
    match v, r.hasListForm with
    | .object members, _ =>
      match convertMembers parts [] start members with
      | .error e => .error e
      | .ok (seen, s) =>
        match r.fields.find? fun field => !field.isOptional && !seen.contains field.name with
        | some field => .error (.missingField field.name)
        | none => .ok s
    | .list vs, true => r.convertElements 0 start parts vs
    | v, _ => wrongType s!"struct {r.name}" v

end Record
end RowQuery.Json
