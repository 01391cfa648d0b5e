import Mathlib
import RowQuery.Filter.Coercion
import RowQuery.Proofs.Conjunction
import RowQuery.Proofs.NumberGrammar
import RowQuery.Proofs.ReadingBack
import RowQuery.Proofs.ReadingError
import RowQuery.Proofs.ReplyEntries

/-!
# Numbers in quotes and without

In quotes, with blanks around it or not, a number is the numeral that it is, rounded once. Without
quotes it is read in steps, so the two are near each other and not always the same. Where the steps
are exact they are the same, and then rows and conditions are treated alike with either; elsewhere
rows are treated alike by every bound that is not near the number. Beyond the largest double a text
in quotes is no number at all.
-/
namespace RowQuery
open Json

namespace Decimal
variable {l : Literal} {cs digits rest power : List Char}

theorem sign_of_digit (digit : ∀ c ∈ cs.head?, c.isDigit = true) : sign cs = (false, cs) := by
  rw [sign.eq_def]
  split
  · exact absurd (digit '-' rfl) (by decide)
  · exact absurd (digit '+' rfl) (by decide)
  · rfl

theorem span_digits (digit : ∀ c ∈ digits, c.isDigit = true)
    (stop : ∀ c ∈ rest.head?, c.isDigit = false) :
    (digits ++ rest).takeWhile Char.isDigit = digits ∧
      (digits ++ rest).dropWhile Char.isDigit = rest := by
  rw [List.takeWhile_append_of_pos digit, List.dropWhile_append_of_pos digit]
  cases rest with
  | nil => simp
  | cons c rest => simp [stop c rfl]

theorem head?_digits (digit : ∀ c ∈ digits, c.isDigit = true) (nonempty : digits ≠ []) :
    ∀ c ∈ (digits ++ rest).head?, c.isDigit = true := by
  intro c hc
  rw [List.head?_append_of_ne_nil _ nonempty] at hc
  exact digit c (List.mem_of_head? hc)

theorem readExponent?_power {e : Option Int} (spells : Literal.SpellsPower e power) :
    readExponent? power = some (e.getD 0) := by
  cases spells with
  | none => rfl
  | @some letter mark digits hletter hmark nonempty digit =>
    have hsign : sign (mark ++ digits) = (decide (mark = ['-']), digits) := by
      obtain rfl | rfl | rfl := hmark
      · rw [List.nil_append, sign_of_digit fun c hc => digit c (List.mem_of_head? hc)]
        rfl
      · rfl
      · rfl
    have hall : digits.all Char.isDigit = true := List.all_eq_true.mpr digit
    simp only [readExponent?, hsign, hletter, ne_eq, nonempty, not_false_eq_true, hall, and_self,
      if_true, Option.getD_some, decide_eq_true_eq]

theorem head?_power {e : Option Int} (spells : Literal.SpellsPower e power) :
    ∀ c ∈ power.head?, c.isDigit = false ∧ c ≠ '.' := by
  cases spells with
  | none => exact nofun
  | some hletter =>
    intro c hc
    obtain rfl := Option.some.inj hc
    obtain rfl | rfl := hletter <;> exact ⟨rfl, by decide⟩

def readFraction (rest : List Char) : List Char × List Char :=
  match rest with
  | '.' :: after => (after.takeWhile Char.isDigit, after.dropWhile Char.isDigit)
  | _ => ([], rest)

theorem readFraction_spelled {e : Option Int} (spells : Literal.SpellsPower e power)
    (digit : ∀ c ∈ digits, c.isDigit = true) :
    readFraction ((if digits = [] then [] else '.' :: digits) ++ power) = (digits, power) := by
  have hend := head?_power spells
  split
  · next hnone =>
    rw [hnone, List.nil_append, readFraction]
    rintro after rfl
    exact (hend '.' rfl).2 rfl
  · obtain ⟨htake, hdrop⟩ := span_digits digit fun c hc => (hend c hc).1
    rw [List.cons_append, readFraction, htake, hdrop]

theorem read?_spelled (spelled : l.SpelledBy cs) : read? cs = some l.decimal := by
  obtain ⟨proper, power, spells, rfl⟩ := spelled
  obtain ⟨tail, htail⟩ : ∃ tail,
      (if l.fraction = [] then [] else '.' :: l.fraction) ++ power = tail := ⟨_, rfl⟩
  have hfraction : readFraction tail = (l.fraction, power) := by
    rw [← htail]
    exact readFraction_spelled spells proper.fraction
  have hstop : ∀ c ∈ tail.head?, c.isDigit = false := by
    rw [← htail]
    split
    · exact fun c hc => (head?_power spells c hc).1
    · intro c hc
      obtain rfl := Option.some.inj hc
      rfl
  -- The sign is cut off first, then the digits up to the point or the power of ten.
  have hsign : sign ((if l.negative then ['-'] else []) ++ (l.whole ++ tail)) =
      (l.negative, l.whole ++ tail) := by
    cases l.negative with
    | true => rfl
    | false =>
      rw [if_neg Bool.false_ne_true, List.nil_append]
      exact sign_of_digit (head?_digits proper.whole proper.nonempty)
  obtain ⟨htake, hdrop⟩ := span_digits proper.whole hstop
  have hread : read? ((if l.negative then ['-'] else []) ++ (l.whole ++ tail)) =
      if l.whole = [] ∧ (readFraction tail).1 = [] then none
      else (readExponent? (readFraction tail).2).map fun exponent =>
        ⟨l.negative, ofDigits (l.whole ++ (readFraction tail).1),
          exponent - (readFraction tail).1.length⟩ := by
    simp only [read?, hsign, htake, hdrop]
    rfl
  rw [htail, hread, hfraction, if_neg fun h => proper.nonempty h.1, readExponent?_power spells]
  rfl

end Decimal

namespace Json
variable {l : Literal} {cs before after : List Char}

theorem isBlank_of_isDigit {c : Char} (h : c.isDigit = true) : Text.isBlank c = false := by
  have hrange : 48 ≤ c.toNat ∧ c.toNat ≤ 57 := Char.isDigit_iff_toNat.mp h
  simp only [Text.isBlank, Bool.or_eq_false_iff, Bool.and_eq_false_iff, decide_eq_false_iff_not,
    beq_eq_false_iff_ne]
  omega

theorem Literal.SpellsPower.not_blank {e : Option Int} {power : List Char}
    (spells : SpellsPower e power) : ∀ c ∈ power, Text.isBlank c = false := by
  cases spells with
  | none => exact nofun
  | @some letter sign digits hletter hsign nonempty digit =>
    have hmark : Text.isBlank letter = false := by
      obtain rfl | rfl := hletter <;> rfl
    have hmarks : ∀ c ∈ sign, Text.isBlank c = false := by
      obtain rfl | rfl | rfl := hsign
      · exact nofun
      · exact List.forall_mem_singleton.mpr rfl
      · exact List.forall_mem_singleton.mpr rfl
    exact List.forall_mem_cons.mpr ⟨hmark, List.forall_mem_append.mpr
      ⟨hmarks, fun c hc => isBlank_of_isDigit (digit c hc)⟩⟩

theorem Literal.SpelledBy.not_blank (spelled : l.SpelledBy cs) :
    ∀ c ∈ cs, Text.isBlank c = false := by
  obtain ⟨proper, power, spells, rfl⟩ := spelled
  have hsign : ∀ c ∈ (if l.negative then ['-'] else []), Text.isBlank c = false := by
    split
    · exact List.forall_mem_singleton.mpr rfl
    · exact nofun
  have hfraction : ∀ c ∈ (if l.fraction = [] then [] else '.' :: l.fraction),
      Text.isBlank c = false := by
    split
    · exact nofun
    · exact List.forall_mem_cons.mpr ⟨rfl, fun c hc => isBlank_of_isDigit (proper.fraction c hc)⟩
  exact List.forall_mem_append.mpr ⟨hsign, List.forall_mem_append.mpr
    ⟨fun c hc => isBlank_of_isDigit (proper.whole c hc),
      List.forall_mem_append.mpr ⟨hfraction, spells.not_blank⟩⟩⟩

theorem Literal.SpelledBy.stripped (spelled : l.SpelledBy cs)
    (hbefore : ∀ c ∈ before, Text.isBlank c = true) (hafter : ∀ c ∈ after, Text.isBlank c = true) :
    Text.Stripped (before ++ cs ++ after) cs where
  around := ⟨before, after, rfl, hbefore, hafter⟩
  first c hc := spelled.not_blank c (List.mem_of_head? hc)
  last c hc := spelled.not_blank c (List.mem_of_getLast? hc)

theorem Value.asNumber?_quoted (spelled : l.SpelledBy cs)
    (hbefore : ∀ c ∈ before, Text.isBlank c = true) (hafter : ∀ c ∈ after, Text.isBlank c = true) :
    (Value.string (String.ofList (before ++ cs ++ after))).asNumber? =
      l.decimal.nearest? Binary.binary64 := by
  have hstripped := spelled.stripped hbefore hafter
  rw [Value.asNumber?, String.toList_ofList, hstripped.trimChars_eq, Decimal.read?_spelled spelled]
  rfl

theorem Value.read_spelled (spelled : l.SpelledBy cs) :
    Value.read (String.ofList cs) = l.read.map .number := by
  obtain ⟨b, octets, htext, hspace, hscan⟩ := Token.scanFrom_spelled spelled
  have htokens : Token.scan (utf8 cs) = [.number l] := by
    rw [htext]
    exact (Token.scans_one hspace hscan).scan_eq
  rw [Value.read, Value.ofBytes, toUTF8_ofList, Document.ofBytes]
  change (Document.ofTokens (Token.scan (utf8 cs))).value = _
  rw [htokens]
  change (Tree.value (.number l) >>= fun v => .ok v) = _
  rw [Tree.value, Tree.valueWithin]
  cases l.read <;> rfl

theorem Literal.toDouble?_of_exact {n : Number} (exact : l.asInteger?.isSome ∨ l.Short)
    (h : l.number? = some n) : n.toDouble? = l.decimal.nearest? Binary.binary64 := by
  rw [number?_eq_denoted? exact, denoted?] at h
  cases hz : l.asInteger? with
  | some z =>
    rw [hz, Option.map_some, Option.some_or] at h
    obtain rfl := Option.some.inj h
    exact toDouble?_of_asInteger? hz
  | none =>
    rw [hz, Option.map_none, Option.none_or, Option.map_eq_some_iff] at h
    obtain ⟨x, hx, rfl⟩ := h
    exact hx.symm

end Json

namespace Operator
variable {o : Operator} {v w bound : Value} {x y : Double}

/-- The numbers are the same or lie on one side of the bound. -/
def OneSide (a a' b : Int) : Prop := a = a' ∨ a < b ∧ a' < b ∨ b < a ∧ b < a'

theorem exists_order (numeric : o.isNumeric = true) : ∃ r : Int → Int → Prop,
    (∀ cell value, o.Holds cell value ↔ Ordered r cell value) ∧
      ∀ a a' b, OneSide a a' b → (r a b ↔ r a' b) := by
  simp only [OneSide]
  cases o with
  | greater => exact ⟨(· > ·), fun _ _ => Iff.rfl, by omega⟩
  | less => exact ⟨(· < ·), fun _ _ => Iff.rfl, by omega⟩
  | atLeast => exact ⟨(· ≥ ·), fun _ _ => Iff.rfl, by omega⟩
  | atMost => exact ⟨(· ≤ ·), fun _ _ => Iff.rfl, by omega⟩
  | _ => cases numeric

theorem holds_alike (numeric : o.isNumeric = true) (hx : v.asNumber? = some x)
    (hy : w.asNumber? = some y)
    (side : ∀ b, bound.asNumber? = some b → OneSide x.units y.units b.units) :
    o.Holds (some v) bound ↔ o.Holds (some w) bound := by
  obtain ⟨r, hholds, hside⟩ := exists_order numeric
  rw [hholds, hholds]
  cases hb : bound.asNumber? with
  | none => simp [Ordered, hb]
  | some b => simp [Ordered, hx, hy, hb, hside _ _ _ (side b hb)]

theorem not_holds_of_not_number (numeric : o.isNumeric = true) (h : v.asNumber? = none) :
    ¬o.Holds (some v) bound := by
  obtain ⟨r, hholds, -⟩ := exists_order numeric
  simp [hholds, Ordered, h]

end Operator

namespace Dataset
open Binary
variable {d : Dataset} {row row' : Members} {header : String} {v w : Value}

theorem mem_apply_iff_of_cells (hrow : row ∈ d.rows) (hrow' : row' ∈ d.rows)
    (hcell : row.lookup header = some v) (hcell' : row'.lookup header = some w)
    (hv : v ≠ .null) (hw : w ≠ .null) {o : Operator} {bound : Value}
    (h : o.Holds (some v) bound ↔ o.Holds (some w) bound) :
    row ∈ (d.apply [⟨header, o, bound⟩]).1.rows ↔ row' ∈ (d.apply [⟨header, o, bound⟩]).1.rows := by
  simp only [mem_apply_singleton, hrow, hrow', true_and]
  rw [Condition.holds_iff_of_lookup hcell hv, Condition.holds_iff_of_lookup hcell' hw, h]

theorem not_mem_apply_of_not_number (hcell : row.lookup header = some v) (hv : v ≠ .null)
    {o : Operator} {bound : Value} (numeric : o.isNumeric = true)
    (effective : Condition.Effective d.headers ⟨header, o, bound⟩) (h : v.asNumber? = none) :
    row ∉ (d.apply [⟨header, o, bound⟩]).1.rows := by
  intro hkept
  have hholds := (mem_apply_singleton.mp hkept).2 effective
  rw [Condition.holds_iff_of_lookup hcell hv] at hholds
  exact Operator.not_holds_of_not_number numeric h hholds

/-- A text that is read as a number is that of a literal. In quotes, with blanks around it or not,
it is the double nearest to what the literal stands for. Without quotes it is the same where that is
an integer of 64 bits or short, and near it where there is one. A numeric condition keeps a row with
the one when it keeps a row with the other, unless they differ and its bound is near them; and as
the value of a condition each is the bound that it is as a cell. Beyond the largest double the text
in quotes is no number, as a cell or as a bound, and the number without quotes is near the
largest. -/
theorem numbers_in_quotes {text : String} {n : Number}
    (accepted : Value.read text = .ok (.number n)) {before after : List Char}
    (hbefore : ∀ c ∈ before, Text.isBlank c = true) (hafter : ∀ c ∈ after, Text.isBlank c = true) :
    let quoted : Value := .string (String.ofList (before ++ text.toList ++ after))
    ∃ (l : Literal) (core : List Char), Text.Stripped text.toList core ∧ l.SpelledBy core ∧
      quoted.asNumber? = l.decimal.nearest? binary64 ∧
      ∃ x, (Value.number n).asNumber? = some x ∧
        (l.asInteger?.isSome ∨ l.Short → quoted.asNumber? = some x) ∧
        (quoted.asNumber? = none →
          x.negative = l.negative ∧ x.Near (largest binary64 l.negative) ∧
          (∀ (d : Dataset) (header : String) (o : Operator) (bound : Value) (row : Members),
            o.isNumeric = true → Condition.Effective d.headers ⟨header, o, bound⟩ →
            row.lookup header = some quoted → row ∉ (d.apply [⟨header, o, bound⟩]).1.rows) ∧
          ∀ (header : String) (o : Operator) (entry : Value), o.isNumeric = true →
            (⟨header, o, quoted⟩ : Condition).SpelledBy entry →
            Filter.ofEntry entry = .error (.nonNumericValue header o.symbol quoted.text)) ∧
        ∀ y, quoted.asNumber? = some y →
          x.negative = y.negative ∧ x.Near y ∧
          (∀ (d : Dataset) (header : String) (o : Operator) (bound : Value) (row row' : Members),
            o.isNumeric = true → row ∈ d.rows → row' ∈ d.rows →
            row.lookup header = some (.number n) → row'.lookup header = some quoted →
            (x = y ∨ ∀ b, bound.asNumber? = some b → ¬b.Near y) →
            (row ∈ (d.apply [⟨header, o, bound⟩]).1.rows ↔
              row' ∈ (d.apply [⟨header, o, bound⟩]).1.rows)) ∧
          ∀ (header : String) (o : Operator) (entry entry' : Value), o.isNumeric = true →
            (⟨header, o, .number n⟩ : Condition).SpelledBy entry →
            (⟨header, o, quoted⟩ : Condition).SpelledBy entry' →
            Filter.ofEntry entry = .ok ⟨header, o, .number (.real x)⟩ ∧
              Filter.ofEntry entry' = .ok ⟨header, o, .number (.real y)⟩ := by
  intro quoted
  obtain ⟨l, before', core, after', hspelled, hnumber, htext, hbefore', hafter'⟩ :=
    Value.spelled_of_read accepted
  have hquoted : quoted.asNumber? = l.decimal.nearest? binary64 := by
    have hblanks : before ++ text.toList ++ after =
        before ++ before' ++ core ++ (after' ++ after) := by
      rw [htext]
      simp only [List.append_assoc]
    simp only [quoted, hblanks]
    exact Value.asNumber?_quoted hspelled (List.forall_mem_append.mpr ⟨hbefore, hbefore'⟩)
      (List.forall_mem_append.mpr ⟨hafter', hafter⟩)
  obtain ⟨x, hx⟩ := n.exists_toDouble?
  have hstripped : Text.Stripped text.toList core := by
    rw [htext]
    exact hspelled.stripped hbefore' hafter'
  refine ⟨l, core, hstripped, hspelled, hquoted, x, hx, fun hexact => ?_, fun hnone => ?_,
    fun y hy => ?_⟩
  · rw [hquoted, ← Literal.toDouble?_of_exact hexact hnumber, hx]
  · obtain ⟨hsign, hnear⟩ := Literal.reading_near_largest hspelled.proper hnumber hx
      (hquoted.symm.trans hnone)
    refine ⟨hsign, hnear, fun d header o bound row numeric effective hcell => ?_,
      fun header o entry numeric hentry => Filter.gives_iff.mp (.notNumber hentry numeric hnone)⟩
    exact not_mem_apply_of_not_number hcell nofun numeric effective hnone
  · rw [hquoted] at hy
    obtain ⟨hsign, hnear⟩ := Literal.readings_near hspelled.proper hnumber hx hy
    refine ⟨hsign, hnear, ?_, ?_⟩
    · intro d header o bound row row' numeric hrow hrow' hcell hcell' hbound
      refine mem_apply_iff_of_cells hrow hrow' hcell hcell' nofun nofun
        (Operator.holds_alike numeric hx (hquoted.trans hy) fun b hb => ?_)
      rcases hbound with rfl | hfar
      · exact .inl rfl
      -- Both numbers are near each other, so a bound between them would be near too.
      · have hapart := hfar b hb
        simp only [Near] at hapart hnear
        simp only [Operator.OneSide]
        omega
    · intro header o entry entry' numeric hentry hentry'
      exact ⟨Filter.gives_iff.mp (.number hentry numeric hx),
        Filter.gives_iff.mp (.number hentry' numeric (hquoted.trans hy))⟩

example : let l : Literal := ⟨false, "179769313486231581".toList, [], some 291⟩
    l.decimal.nearest? binary64 = none ∧ l.number? = some (.real (largest binary64 false)) := by
  decide +kernel

theorem numbers_in_quotes_short :
    let text := "-12.5e-1"
    let l : Literal := ⟨true, ['1', '2'], ['5'], some (-1)⟩
    let x : Double := ⟨true, 5629499534213120, 1022, by decide, by decide, by decide⟩
    let n : Number := .real x
    let quoted : Value := .string (String.ofList ([' '] ++ text.toList ++ ['\t']))
    let row : Members := [("x", .number n)]
    let row' : Members := [("x", quoted)]
    let d : Dataset := ⟨["x"], [row, row']⟩
    let bound : Value := .string "-1.25"
    Value.read text = .ok (.number n) ∧ (∀ c ∈ [' '], Text.isBlank c = true) ∧
      (∀ c ∈ ['\t'], Text.isBlank c = true) ∧ l.SpelledBy text.toList ∧ l.Short ∧
      quoted.asNumber? = some x ∧
      (row ∈ (d.apply [⟨"x", .atMost, bound⟩]).1.rows ↔
        row' ∈ (d.apply [⟨"x", .atMost, bound⟩]).1.rows) := by
  intro text l x n quoted row row' d bound
  have hproper : l.Proper :=
    ⟨List.all_eq_true.mp rfl, List.all_eq_true.mp rfl, List.cons_ne_nil _ _, by decide⟩
  have htext : text.toList = l.text := by decide
  have hspelled : l.SpelledBy text.toList := htext ▸ hproper.spelledBy_text
  have hnumber : l.number? = some n := by decide +kernel
  have hread : Value.read text = .ok (.number n) := by
    rw [← String.ofList_toList (s := text), Value.read_spelled hspelled, Literal.read, hnumber]
    rfl
  have hbefore : ∀ c ∈ [' '], Text.isBlank c = true := List.forall_mem_singleton.mpr rfl
  have hafter : ∀ c ∈ ['\t'], Text.isBlank c = true := List.forall_mem_singleton.mpr rfl
  have hshort : l.Short := ⟨by decide, ⟨125, 0, rfl, by decide⟩, by decide⟩
  obtain ⟨l', core, hstripped, hspelled', -, x', hx', hexact, -, hnear⟩ :=
    numbers_in_quotes hread hbefore hafter
  have hcore : core = text.toList := by
    rw [← hstripped.trimChars_eq]
    decide +kernel
  obtain rfl : l = l' := hspelled.unique (hcore ▸ hspelled')
  obtain rfl : x = x' := Option.some.inj hx'
  have hquoted := hexact (.inr hshort)
  obtain ⟨-, -, hrows, -⟩ := hnear x hquoted
  exact ⟨hread, hbefore, hafter, hspelled, hshort, hquoted,
    hrows d "x" .atMost bound row row' rfl List.mem_cons_self
      (List.mem_cons_of_mem _ List.mem_cons_self) rfl rfl (.inl rfl)⟩

/-- In quotes a number of sixteen digits is the double nearest to it, without them the next one, so
a bound between the two tells them apart. -/
theorem numbers_in_quotes_next_double :
    let text := "0.9099999999999999"
    let x : Double := ⟨false, 8196551321814303, 1021, by decide, by decide, by decide⟩
    let y : Double := ⟨false, 8196551321814302, 1021, by decide, by decide, by decide⟩
    let row : Members := [("x", .number (.real x))]
    let row' : Members := [("x", .string text)]
    let d : Dataset := ⟨["x"], [row, row']⟩
    Value.read text = .ok (.number (.real x)) ∧ (Value.number (.real x)).asNumber? = some x ∧
      (Value.string text).asNumber? = some y ∧ x.units ≠ y.units ∧
      (d.apply [⟨"x", .less, .number (.real x)⟩]).1.rows = [row'] := by
  intro text x y row row' d
  let l : Literal := ⟨false, ['0'],
    ['9', '0', '9', '9', '9', '9', '9', '9', '9', '9', '9', '9', '9', '9', '9', '9'], none⟩
  have hproper : l.Proper :=
    ⟨List.all_eq_true.mp rfl, List.all_eq_true.mp rfl, List.cons_ne_nil _ _, by decide⟩
  have htext : String.ofList l.text = text := rfl
  have hnumber : l.number? = some (.real x) := by decide +kernel
  have hread : Value.read text = .ok (.number (.real x)) := by
    rw [← htext, Value.read_spelled hproper.spelledBy_text, Literal.read, hnumber]
    rfl
  have hquoted : (Value.string text).asNumber? = some y := by decide +kernel
  have hnot : x.lt x = false := by decide +kernel
  have hless : y.lt x = true := by decide +kernel
  have hunits : x.units ≠ y.units := by decide +kernel
  have hcell : cell row "x" = some (.number (.real x)) := rfl
  have hcell' : cell row' "x" = some (.string text) := rfl
  have hnumber' : (Value.number (.real x)).asNumber? = some x := rfl
  refine ⟨hread, rfl, hquoted, hunits, ?_⟩
  simp [d, apply, narrow, Test.ofCondition?, Value.isNull, hnumber', Test.accepts, Test.ordered,
    hcell, hcell', hquoted, hnot, hless]

end Dataset
end RowQuery
