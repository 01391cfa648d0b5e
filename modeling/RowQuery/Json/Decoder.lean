import RowQuery.Json.Fault
import RowQuery.Json.Reader

/-!
# Reading JSON as a given form

A decoder walks a tree from left to right and stops at the first fault, be it one of the text or
one of form, so a text that breaks off behind a value of the wrong form is reported for the form.
Records are read from an object, by name, or from a list, by position. Members of other names are
skipped: their syntax has to be right as far as it goes, but nothing in them is decoded.
-/
namespace RowQuery.Json
-- Powers are those of the core library, also where an algebra library offers its own.
attribute [local instance (high)] instPowNat

structure Failure where
  path : List String
  fault : Fault

abbrev Decoder (α : Type) := Nat → Tree → Except Failure α

namespace Tree

def found : Tree → Except Break Found
  | .null => .ok .null
  | .bool b => .ok (.bool b)
  | .number l => l.read.map .number
  | .string q => q.text.map .string
  | .list _ _ => .ok .list
  | .object _ _ => .ok .object
  | .broken b => .error b

/-- The break, if any, that a reader meets who passes over the tree. -/
def skip : Tree → Except Break Unit
  | .string q =>
    match q.ending with
    | none => .ok ()
    | some b => .error b
  | .list _ ending | .object _ ending => ending.check
  | .broken b => .error b
  | _ => .ok ()

end Tree

namespace Decoder
variable {α σ : Type}

def fail (fault : Fault) : Except Failure α := .error ⟨[], fault⟩

def ofBreak (r : Except Break α) : Except Failure α := r.mapError fun b => ⟨[], .broken b⟩

def at_ (step : String) (r : Except Failure α) : Except Failure α :=
  r.mapError fun e => { e with path := step :: e.path }

def wrongType (expected : String) (t : Tree) : Except Failure α :=
  match t.found with
  | .ok found => fail (.wrongType found expected)
  | .error b => fail (.broken b)

def enter (room : Nat) (k : Nat → Except Failure α) : Except Failure α :=
  match room with
  | 0 => fail (.broken .tooDeep)
  | room + 1 => k room

def any : Decoder Value := fun room t => ofBreak (t.valueWithin room)

def string : Decoder String
  | _, .string q => ofBreak q.text
  | _, t => wrongType "a string" t

def bool : Decoder Bool
  | _, .bool b => .ok b
  | _, t => wrongType "a boolean" t

def natural (bits : Nat) : Decoder Nat
  | _, .number l => do
    let expected := s!"u{bits}"
    match ← ofBreak l.read with
    | .integer z =>
      if 0 ≤ z.value ∧ z.value < 2 ^ bits then .ok z.value.toNat
      else fail (.wrongValue (.number (.integer z)) expected)
    | .real x => fail (.wrongType (.number (.real x)) expected)
  | _, t => wrongType s!"u{bits}" t

/-- `null` stands for an absent value, and what begins as `null` has to be it. -/
def optional (d : Decoder α) : Decoder (Option α)
  | _, .null => .ok none
  | _, .broken (.expectedWord .null) => fail (.broken (.expectedWord .null))
  | _, .broken (.unfinishedWord .null) => fail (.broken (.unfinishedWord .null))
  | room, t => (d room t).map some

def items (d : Decoder α) (room : Nat) (done : List α) : List Tree → Except Failure (List α)
  | [] => .ok done.reverse
  | t :: ts =>
    match at_ s!"[{done.length}]" (d room t) with
    | .ok a => items d room (a :: done) ts
    | .error e => .error e

def list (d : Decoder α) : Decoder (List α)
  | room, .list ts ending => enter room fun room => do
    let as ← items d room [] ts
    ofBreak ending.check
    return as
  | _, t => wrongType "a sequence" t

def variantName : List (Quoted × Tree) → Ending → Except Failure (String × Tree)
  | (q, t) :: _, _ => do
    let name ← ofBreak q.text
    return (name, t)
  | [], .closed => fail (.broken .expectedValue)
  | [], .cut b => fail (.broken b)

def lookupVariant (known : List (String × α)) (name : String) : Except Failure α :=
  match known.lookup name with
  | some a => .ok a
  | none => fail (.unknownVariant name (known.map Prod.fst))

/-- One of the named variants: its name, or an object of one member with the name and `null`. -/
def variant (known : List (String × α)) : Decoder α
  | _, .string q => do lookupVariant known (← ofBreak q.text)
  | room, .object members ending => enter room fun _ => do
    let (name, t) ← variantName members ending
    let a ← lookupVariant known name
    match t with
    | .null =>
      match members, ending with
      | [_], .closed => .ok a
      | [_], .cut .unfinishedObject => fail (.broken .unfinishedObject)
      | _, _ => fail (.broken .expectedValue)
    | t => wrongType "unit" t
  | _, .broken b =>
    match b with
    | .expectedWord _ | .unfinishedWord _ | .badNumber | .unfinishedNumber =>
      fail (.broken .expectedValue)
    | b => fail (.broken b)
  | _, _ => fail (.broken .expectedValue)

end Decoder

/-- A field of a record under construction. An optional one may be missing from an object, a
defaulted one also from a list. -/
structure Field (σ : Type) where
  name : String
  isOptional : Bool
  isDefaulted : Bool
  read : Nat → Tree → σ → Except Failure σ

namespace Field
variable {α σ : Type}

def ofDecoder (name : String) (isOptional isDefaulted : Bool) (d : Decoder α) (set : α → σ → σ) :
    Field σ :=
  ⟨name, isOptional, isDefaulted, fun room t s => (d room t).map (set · s)⟩

def required (name : String) (d : Decoder α) (set : α → σ → σ) : Field σ :=
  ofDecoder name false false d set

def maybe (name : String) (d : Decoder α) (set : Option α → σ → σ) : Field σ :=
  ofDecoder name true false d.optional set

def defaulted (name : String) (d : Decoder α) (set : α → σ → σ) : Field σ :=
  ofDecoder name true true d set

end Field

/-- A record form: how it is called, its fields in order, and what is done with other members. -/
structure Record (σ : Type) where
  name : String
  fields : List (Field σ)
  other : Nat → String → Tree → σ → Except Failure σ
  hasListForm : Bool

namespace Record
open Decoder
variable {σ : Type}

def skipOther : Nat → String → Tree → σ → Except Failure σ
  | _, _, t, s =>
    match t.skip with
    | .ok _ => .ok s
    | .error b => fail (.skipped b)

def strict (name : String) (fields : List (Field σ)) : Record σ := ⟨name, fields, skipOther, true⟩

def readMember (r : Record σ) (room : Nat) (seen : List String) (s : σ) (m : Quoted × Tree) :
    Except Failure (List String × σ) := do
  let name ← ofBreak m.1.text
  match r.fields.find? (·.name == name) with
  | none => return (seen, ← at_ name (r.other room name m.2 s))
  | some field =>
    if seen.contains name then fail (.duplicateField name)
    else return (name :: seen, ← at_ name (field.read room m.2 s))

def readMembers (r : Record σ) (room : Nat) (seen : List String) (s : σ) :
    List (Quoted × Tree) → Except Failure (List String × σ)
  | [] => .ok (seen, s)
  | m :: ms =>
    match r.readMember room seen s m with
    | .ok (seen, s) => readMembers r room seen s ms
    | .error e => .error e

def listEnd : List Tree → Ending → Except Break Unit
  | [], .closed => .ok ()
  | [], .cut .unfinishedList => .error .unfinishedList
  | [], .cut .listTrailingComma => .error .listTrailingComma
  | _, _ => .error .trailingCharacters

def lengthText (r : Record σ) : String :=
  let n := r.fields.length
  s!"struct {r.name} with {n} element" ++ (if n = 1 then "" else "s")

def readElements (r : Record σ) (room position : Nat) (s : σ) (ending : Ending) :
    List (Field σ) → List Tree → Except Failure σ
  | [], ts => do
    ofBreak (listEnd ts ending)
    return s
  | field :: fields, [] => do
    ofBreak ending.check
    if field.isDefaulted then readElements r room (position + 1) s ending fields []
    else fail (.wrongLength position r.lengthText)
  | field :: fields, t :: ts =>
    match at_ s!"[{position}]" (field.read room t s) with
    | .ok s => readElements r room (position + 1) s ending fields ts
    | .error e => .error e

/-- Reads a record, starting from one in which no field is set. -/
def decode (r : Record σ) (start : σ) : Decoder σ := fun room t =>
  match t, r.hasListForm with
  | .object members ending, _ => enter room fun room => do
    let (seen, s) ← r.readMembers room [] start members
    ofBreak ending.check
    match r.fields.find? fun field => !field.isOptional && !seen.contains field.name with
    | some field => fail (.missingField field.name)
    | none => .ok s
  | .list ts ending, true => enter room fun room => r.readElements room 0 start ending r.fields ts
  | t, _ => wrongType s!"struct {r.name}" t

end Record

def Decoder.ofBytes {α : Type} (d : Decoder α) (bytes : ByteArray) : Except Failure α := do
  let document := Document.ofBytes bytes.data.toList
  let a ← d maxDepth document.tree
  if document.trailing then .error ⟨[], .broken .trailingCharacters⟩ else .ok a

end RowQuery.Json
