import Mathlib
import RowQuery.Proofs.Numerals

/-!
# Written numbers, read exactly

A literal stands for an integer or for a numeral, and `denoted?` reads it so: no other rounding
takes place than that to the nearest double. Every number is written as the text of a literal that
has the number as its exact reading, and the literal is one a scanner takes in whole.
-/
namespace RowQuery.Json
-- Powers are those of the core library, also where an algebra library offers its own.
attribute [local instance (high)] instPowNat

theorem Number.isDigit_toDigits (n : Nat) : ∀ c ∈ Nat.toDigits 10 n, c.isDigit = true :=
  fun _ => Nat.isDigit_of_mem_toDigits (by decide) (by decide)

namespace Literal

/-- The numeral that the literal is. -/
def decimal (l : Literal) : Decimal where
  negative := l.negative
  coefficient := Decimal.ofDigits (l.whole ++ l.fraction)
  exponent := l.exponent.getD 0 - l.fraction.length

/-- The integer of 64 bits that an integer literal is. -/
def asInteger? (l : Literal) : Option Integer :=
  if l.fraction = [] ∧ l.exponent = none then integer? l.negative l.decimal.coefficient else none

/-- The number a literal stands for, rounded once if at all: the integer, or else the double nearest
to the numeral. -/
def denoted? (l : Literal) : Option Number :=
  (l.asInteger?.map .integer).or ((l.decimal.nearest? Binary.binary64).map .real)

def exponentText : Option Int → List Char
  | none => []
  | some e => 'e' :: (if e < 0 then '-' else '+') :: Nat.toDigits 10 e.natAbs

def text (l : Literal) : List Char :=
  (if l.negative then ['-'] else []) ++ (l.whole ++
    ((if l.fraction = [] then [] else '.' :: l.fraction) ++ exponentText l.exponent))

/-- The digits are digits, and no zero stands before others. -/
structure Proper (l : Literal) : Prop where
  whole : ∀ c ∈ l.whole, c.isDigit = true
  fraction : ∀ c ∈ l.fraction, c.isDigit = true
  nonempty : l.whole ≠ []
  lead : l.whole.head? = some '0' → l.whole.length = 1

inductive SpellsPower : Option Int → List Char → Prop
  | none : SpellsPower none []
  | some {letter : Char} {sign digits : List Char} (hletter : letter = 'e' ∨ letter = 'E')
      (hsign : sign = [] ∨ sign = ['+'] ∨ sign = ['-']) (nonempty : digits ≠ [])
      (digit : ∀ c ∈ digits, c.isDigit = true) :
      SpellsPower
        (some (if sign = ['-'] then -(Decimal.ofDigits digits : Int) else Decimal.ofDigits digits))
        (letter :: (sign ++ digits))

/-- The text is a number as JSON writes it, and these are its digits. -/
structure SpelledBy (l : Literal) (cs : List Char) : Prop where
  proper : l.Proper
  parts : ∃ power, SpellsPower l.exponent power ∧ cs = (if l.negative then ['-'] else []) ++
    (l.whole ++ ((if l.fraction = [] then [] else '.' :: l.fraction) ++ power))

theorem spellsPower_exponentText (e : Option Int) : SpellsPower e (exponentText e) := by
  cases e with
  | none => exact .none
  | some e =>
    have hdigit := Number.isDigit_toDigits e.natAbs
    by_cases hneg : e < 0
    · have hspells := SpellsPower.some (.inl rfl) (.inr (.inr rfl)) Nat.toDigits_ne_nil hdigit
      have hvalue : -((Decimal.ofDigits (Nat.toDigits 10 e.natAbs) : Nat) : Int) = e := by
        rw [Decimal.ofDigits_toDigits]
        omega
      rw [if_pos rfl, hvalue] at hspells
      rw [exponentText, if_pos hneg]
      exact hspells
    · have hspells := SpellsPower.some (.inl rfl) (.inr (.inl rfl)) Nat.toDigits_ne_nil hdigit
      have hvalue : ((Decimal.ofDigits (Nat.toDigits 10 e.natAbs) : Nat) : Int) = e := by
        rw [Decimal.ofDigits_toDigits]
        omega
      rw [if_neg (by decide), hvalue] at hspells
      rw [exponentText, if_neg hneg]
      exact hspells

theorem Proper.spelledBy_text {l : Literal} (proper : l.Proper) : l.SpelledBy l.text :=
  ⟨proper, _, spellsPower_exponentText l.exponent, rfl⟩

end Literal

namespace Number

def pointed (negative : Bool) (digits : List Char) : Int → Literal
  | .ofNat 0 => ⟨negative, ['0'], digits, none⟩
  | .ofNat n =>
    ⟨negative, digits.take n ++ List.replicate (n - digits.length) '0',
      if digits.drop n = [] then ['0'] else digits.drop n, none⟩
  | .negSucc n => ⟨negative, ['0'], List.replicate (n + 1) '0' ++ digits, none⟩

def realLiteral (x : Double) : Literal :=
  let digits := Nat.toDigits 10 x.shortest.digits
  let power : Int := x.shortest.exponent + digits.length - 1
  if -5 ≤ power ∧ power ≤ 15 then pointed x.negative digits (power + 1)
  else ⟨x.negative, digits.take 1, digits.drop 1, some power⟩

def literal : Number → Literal
  | .integer z => ⟨z.value < 0, Nat.toDigits 10 z.value.natAbs, [], none⟩
  | .real x => realLiteral x

theorem text_pointed (negative : Bool) {digits : List Char} (nonempty : digits ≠ []) (point : Int) :
    (pointed negative digits point).text =
      if negative then '-' :: positional digits point else positional digits point := by
  cases point with
  | ofNat n =>
    cases n with
    | zero =>
      simp only [pointed, positional, Literal.text, Literal.exponentText, if_neg nonempty]
      cases negative <;> simp
    | succ n =>
      simp only [pointed, positional, Literal.text, Literal.exponentText]
      by_cases hrest : digits.drop (n + 1) = []
      · simp only [if_pos hrest]
        cases negative <;> simp
      · simp only [if_neg hrest]
        cases negative <;> simp
  | negSucc n =>
    simp only [pointed, positional, Literal.text, Literal.exponentText]
    cases negative <;> simp

theorem text_literal (n : Number) : n.literal.text = n.text := by
  cases n with
  | integer z =>
    by_cases hz : z.value < 0 <;>
      simp [literal, text, integerText, Literal.text, Literal.exponentText, hz]
  | real x =>
    simp only [literal, realLiteral, text, realText]
    split
    · exact text_pointed _ Nat.toDigits_ne_nil _
    · cases x.negative <;> simp [scientific, Literal.text, Literal.exponentText]

theorem nearest?_pointed (negative : Bool) (digits : List Char) (point : Int) :
    (pointed negative digits point).decimal.nearest? Binary.binary64 =
      (⟨negative, Decimal.ofDigits digits, point - digits.length⟩ : Decimal).nearest?
        Binary.binary64 := by
  cases point with
  | ofNat n =>
    cases n with
    | zero => rfl
    | succ n =>
      simp only [pointed, Literal.decimal, Option.getD_none]
      -- Digits that end before the point are filled up with zeros, which the power makes up for.
      by_cases hrest : digits.drop (n + 1) = []
      · have hlength : digits.length ≤ n + 1 := List.drop_eq_nil_iff.mp hrest
        have hcoefficient : Decimal.ofDigits (digits.take (n + 1) ++
            List.replicate (n + 1 - digits.length) '0' ++ ['0']) =
            Decimal.ofDigits digits * 10 ^ (n + 1 - digits.length + 1) := by
          rw [List.append_assoc, ← List.replicate_succ', List.take_of_length_le hlength,
            Decimal.ofDigits_append, Decimal.ofDigits_zeros, List.length_replicate, Nat.add_zero,
            Nat.mul_comm]
        have hexponent : 0 - (['0'].length : Int) + ((n + 1 - digits.length + 1 : Nat) : Int) =
            Int.ofNat (n + 1) - digits.length := by
          simp only [List.length_singleton, Int.ofNat_eq_natCast]
          omega
        rw [if_pos hrest, hcoefficient, Decimal.nearest?_shifted, hexponent]
      · have hlength : n + 1 < digits.length := by
          rwa [List.drop_eq_nil_iff, Nat.not_le] at hrest
        have hexponent : 0 - ((digits.drop (n + 1)).length : Int) =
            Int.ofNat (n + 1) - digits.length := by
          rw [List.length_drop, Int.ofNat_eq_natCast]
          omega
        rw [if_neg hrest, hexponent, Nat.sub_eq_zero_of_le hlength.le, List.replicate_zero,
          List.append_nil, List.take_append_drop]
  | negSucc n =>
    simp only [pointed, Literal.decimal, Option.getD_none]
    have hcoefficient : Decimal.ofDigits (['0'] ++ (List.replicate (n + 1) '0' ++ digits)) =
        Decimal.ofDigits digits := by
      rw [← List.append_assoc, ← List.replicate_one, List.replicate_append_replicate,
        Decimal.ofDigits_append, Decimal.ofDigits_zeros, Nat.mul_zero, Nat.zero_add]
    have hexponent : 0 - ((List.replicate (n + 1) '0' ++ digits).length : Int) =
        Int.negSucc n - digits.length := by
      rw [List.length_append, List.length_replicate]
      omega
    rw [hcoefficient, hexponent]

theorem fraction_pointed (negative : Bool) {digits : List Char} (nonempty : digits ≠ [])
    (point : Int) : (pointed negative digits point).fraction ≠ [] := by
  cases point with
  | ofNat n =>
    cases n with
    | zero => exact nonempty
    | succ n =>
      simp only [pointed]
      split
      · exact List.cons_ne_nil _ _
      · assumption
  | negSucc n => exact List.cons_ne_nil _ _

theorem denoted?_of_real {l : Literal} (h : ¬(l.fraction = [] ∧ l.exponent = none)) :
    l.denoted? = (l.decimal.nearest? Binary.binary64).map .real := by
  rw [Literal.denoted?, Literal.asInteger?, if_neg h]
  rfl

theorem denoted?_realLiteral (x : Double) : (realLiteral x).denoted? = some (.real x) := by
  have hshortest := Decimal.nearest?_shortest x
  obtain ⟨digits, hdigits⟩ : ∃ ds, Nat.toDigits 10 x.shortest.digits = ds := ⟨_, rfl⟩
  have hvalue : x.shortest.digits = Decimal.ofDigits digits := by
    rw [← hdigits, Decimal.ofDigits_toDigits]
  have hnonempty : digits ≠ [] := hdigits ▸ Nat.toDigits_ne_nil
  have hlength : 0 < digits.length := List.length_pos_iff.mpr hnonempty
  rw [hvalue] at hshortest
  simp only [realLiteral, hdigits]
  split
  · have hexponent : x.shortest.exponent + digits.length - 1 + 1 - digits.length =
        x.shortest.exponent := by omega
    rw [denoted?_of_real fun h => fraction_pointed _ hnonempty _ h.1, nearest?_pointed, hexponent,
      hshortest]
    rfl
  · have hexponent : x.shortest.exponent + digits.length - 1 - ((digits.drop 1).length : Int) =
        x.shortest.exponent := by
      rw [List.length_drop]
      omega
    rw [denoted?_of_real fun h => Option.some_ne_none _ h.2]
    simp only [Literal.decimal, List.take_append_drop, Option.getD_some, hexponent, hshortest]
    rfl

theorem signed_natAbs (z : Int) :
    (if decide (z < 0) = true then -(z.natAbs : Int) else z.natAbs) = z := by
  by_cases hneg : z < 0
  · rw [if_pos (decide_eq_true hneg)]
    omega
  · rw [if_neg (by simpa using hneg)]
    omega

theorem integer?_of_value (z : Integer) :
    Literal.integer? (decide (z.value < 0)) z.value.natAbs = some z := by
  have hzero : ¬(decide (z.value < 0) = true ∧ z.value.natAbs = 0) := by
    rw [decide_eq_true_iff]
    omega
  simp only [Literal.integer?, signed_natAbs]
  rw [dif_pos ⟨z.inRange, hzero⟩]

theorem denoted?_literal (n : Number) : n.literal.denoted? = some n := by
  cases n with
  | integer z =>
    have hinteger : (literal (.integer z)).asInteger? = some z := by
      simp only [literal, Literal.asInteger?, Literal.decimal, and_self, if_true, List.append_nil,
        Decimal.ofDigits_toDigits, integer?_of_value]
    rw [Literal.denoted?, hinteger]
    rfl
  | real x => exact denoted?_realLiteral x

theorem head?_toDigits {n : Nat} (h : (Nat.toDigits 10 n).head? = some '0') : n = 0 := by
  induction n using Nat.strongRecOn with
  | ind n ih =>
    rw [Nat.toDigits_eq_if (by decide)] at h
    split at h
    · simpa using h
    · rw [List.head?_append_of_ne_nil _ Nat.toDigits_ne_nil] at h
      have hdiv := ih (n / 10) (by omega) h
      omega

theorem proper_pointed (negative : Bool) {digits : List Char} {point : Int}
    (digit : ∀ c ∈ digits, c.isDigit = true) (nonempty : digits ≠ [])
    (lead : digits.head? = some '0' → digits = ['0'] ∧ point = 1) :
    (pointed negative digits point).Proper := by
  have hzeros (n : Nat) : ∀ c ∈ List.replicate n '0', c.isDigit = true := fun c hc => by
    rw [List.eq_of_mem_replicate hc]
    rfl
  cases point with
  | ofNat n =>
    cases n with
    | zero => exact ⟨hzeros 1, digit, List.cons_ne_nil _ _, fun _ => rfl⟩
    | succ n =>
      refine ⟨?_, ?_, ?_, ?_⟩
      · exact List.forall_mem_append.mpr
          ⟨fun c hc => digit c (List.mem_of_mem_take hc), hzeros _⟩
      · simp only [pointed]
        split
        · exact hzeros 1
        · exact fun c hc => digit c (List.mem_of_mem_drop hc)
      · cases digits with
        | nil => exact absurd rfl nonempty
        | cons d digits => exact List.cons_ne_nil _ _
      · intro h
        have hhead : digits.head? = some '0' := by
          cases digits with
          | nil => exact absurd rfl nonempty
          | cons d digits => exact h
        obtain ⟨rfl, hpoint⟩ := lead hhead
        obtain rfl : n = 0 := by
          rw [Int.ofNat_eq_natCast] at hpoint
          omega
        rfl
  | negSucc n =>
    exact ⟨hzeros 1, List.forall_mem_append.mpr ⟨hzeros _, digit⟩, List.cons_ne_nil _ _,
      fun _ => rfl⟩

theorem proper_literal (n : Number) : n.literal.Proper := by
  cases n with
  | integer z =>
    refine ⟨isDigit_toDigits _, fun _ hc => absurd hc List.not_mem_nil, Nat.toDigits_ne_nil,
      fun h => ?_⟩
    simp only [literal] at h ⊢
    rw [head?_toDigits h]
    rfl
  | real x =>
    simp only [literal, realLiteral]
    split
    · refine proper_pointed _ (isDigit_toDigits _) Nat.toDigits_ne_nil fun h => ?_
      have hzero : x.isZero = true := by
        by_contra hne
        have hpos := Binary.shortest_digits_pos (by simpa using hne)
        have := head?_toDigits h
        omega
      rw [Binary.shortest, if_pos hzero]
      exact ⟨rfl, rfl⟩
    · have hlength := @Nat.length_toDigits_pos 10 x.shortest.digits
      refine ⟨fun c hc => isDigit_toDigits _ c (List.mem_of_mem_take hc),
        fun c hc => isDigit_toDigits _ c (List.mem_of_mem_drop hc), ?_, fun _ => ?_⟩
      · simp
      · rw [List.length_take]
        omega

end Number
end RowQuery.Json
