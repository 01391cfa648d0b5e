/-!
# Text from any octets

Octets are read as UTF-8. The longest start of a character that is not carried on, and every octet
that starts none, is read as U+FFFD, so each octet string gives a text.
-/
namespace RowQuery.Text.Octets

/-- A character of which `left` octets are missing, the next between `low` and `high`. -/
structure Partial where
  bits : Nat
  left : Nat
  low : Nat
  high : Nat

inductive Start
  | whole (c : Char)
  | lead (p : Partial)
  | nothing

/-- What an octet starts. The second octet is bounded so that no character has two forms, none is a
surrogate and none lies beyond U+10FFFF. -/
def start (b : Nat) : Start :=
  if b < 0x80 then .whole (Char.ofNat b)
  else if b < 0xC2 then .nothing
  else if b < 0xE0 then .lead ⟨b - 0xC0, 1, 0x80, 0xBF⟩
  else if b < 0xF0 then
    .lead ⟨b - 0xE0, 2, if b = 0xE0 then 0xA0 else 0x80, if b = 0xED then 0x9F else 0xBF⟩
  else if b < 0xF5 then
    .lead ⟨b - 0xF0, 3, if b = 0xF0 then 0x90 else 0x80, if b = 0xF4 then 0x8F else 0xBF⟩
  else .nothing

def replacement : Char := Char.ofNat 0xFFFD

def begin (done : List Char) (b : Nat) : List Char × Option Partial :=
  match start b with
  | .whole c => (c :: done, none)
  | .lead p => (done, some p)
  | .nothing => (replacement :: done, none)

def step (done : List Char) (pending : Option Partial) (b : Nat) : List Char × Option Partial :=
  match pending with
  | none => begin done b
  | some p =>
    if p.low ≤ b ∧ b ≤ p.high then
      let bits := 64 * p.bits + (b - 0x80)
      if p.left = 1 then (Char.ofNat bits :: done, none)
      else (done, some ⟨bits, p.left - 1, 0x80, 0xBF⟩)
    else begin (replacement :: done) b

def read (done : List Char) (pending : Option Partial) : List UInt8 → List Char
  | [] => (if pending.isSome then replacement :: done else done).reverse
  | b :: bs =>
    let (done, pending) := step done pending b.toNat
    read done pending bs

def chars (octets : List UInt8) : List Char := read [] none octets

end RowQuery.Text.Octets
