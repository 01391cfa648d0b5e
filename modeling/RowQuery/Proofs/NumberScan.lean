import Mathlib
import RowQuery.Proofs.NumberText
import RowQuery.Proofs.Quoting

/-!
# The text of a literal is scanned as the literal

A number is the only token without an end of its own: the scan takes all the digits there are and
looks for a point and a power of ten behind them. So the text of a literal is taken in whole, and
nothing more, where none of these goes on behind it.
-/
namespace RowQuery.Json
-- Powers are those of the core library, also where an algebra library offers its own.
attribute [local instance (high)] instPowNat

namespace Token
variable {negative : Bool} {whole fraction cs : List Char} {rest : List UInt8}

def Stops (rest : List UInt8) : Prop :=
  ∀ b ∈ rest.head?, isDigit b = false ∧ b ≠ 0x2E ∧ b ≠ 0x65 ∧ b ≠ 0x45

theorem stops_nil : Stops [] := nofun

theorem octet_of_isDigit {c : Char} (h : c.isDigit = true) :
    ∃ b, String.utf8EncodeChar c = [b] ∧ isDigit b = true ∧ Char.ofUInt8 b = c := by
  obtain ⟨n, hn⟩ : ∃ n, c.toNat = n := ⟨_, rfl⟩
  have hc : c = Char.ofNat n := by rw [← hn, Char.ofNat_toNat]
  have hrange : 48 ≤ n ∧ n ≤ 57 := by
    simpa [Char.isDigit, UInt32.le_iff_toNat_le, ← hn] using h
  obtain ⟨hlow, hhigh⟩ := hrange
  subst hc
  clear hn h
  interval_cases n <;> exact ⟨_, rfl, rfl, rfl⟩

theorem utf8_digits (digit : ∀ c ∈ cs, c.isDigit = true) :
    (∀ b ∈ utf8 cs, isDigit b = true) ∧ chars (utf8 cs) = cs := by
  induction cs with
  | nil => exact ⟨nofun, rfl⟩
  | cons c cs ih =>
    obtain ⟨hc, hcs⟩ := List.forall_mem_cons.mp digit
    obtain ⟨b, hencode, hdigit, hchar⟩ := octet_of_isDigit hc
    obtain ⟨hdigits, hchars⟩ := ih hcs
    rw [utf8_cons, hencode, List.singleton_append]
    refine ⟨List.forall_mem_cons.mpr ⟨hdigit, hdigits⟩, ?_⟩
    rw [chars, List.map_cons, hchar]
    exact congrArg _ hchars

theorem span_digits (digit : ∀ c ∈ cs, c.isDigit = true)
    (stop : ∀ b ∈ rest.head?, isDigit b = false) :
    (utf8 cs ++ rest).takeWhile isDigit = utf8 cs ∧ (utf8 cs ++ rest).dropWhile isDigit = rest := by
  have hdigits := (utf8_digits digit).1
  rw [List.takeWhile_append_of_pos hdigits, List.dropWhile_append_of_pos hdigits]
  cases rest with
  | nil => simp
  | cons b rest => simp [stop b rfl]

theorem utf8_ne_nil (nonempty : cs ≠ []) (digit : ∀ c ∈ cs, c.isDigit = true) : utf8 cs ≠ [] := by
  intro h
  have hchars := (utf8_digits digit).2
  rw [h] at hchars
  exact nonempty hchars.symm

theorem ofUInt8_injective {b b' : UInt8} (h : Char.ofUInt8 b = Char.ofUInt8 b') : b = b' := by
  have hvalue := congrArg (fun c : Char => c.val.toNat) h
  exact UInt8.toNat_inj.mp (by simpa [Char.ofUInt8] using hvalue)

theorem scanExponent_of_stops (stop : Stops rest) :
    scanExponent negative whole fraction rest =
      (.number ⟨negative, whole, fraction, none⟩, rest) := by
  cases rest with
  | nil => rfl
  | cons b rest =>
    obtain ⟨-, -, hsmall, hcapital⟩ := stop b rfl
    have hno : ¬(Char.ofUInt8 b = 'e' ∨ Char.ofUInt8 b = 'E') := by
      rintro (h | h)
      · exact hsmall (@ofUInt8_injective b 0x65 h)
      · exact hcapital (@ofUInt8_injective b 0x45 h)
    simp [scanExponent, hno]

theorem scanExponent_letter {b : UInt8} {sign after : List UInt8} (letter : b = 0x65 ∨ b = 0x45)
    (hsign : sign = [] ∨ sign = [0x2B] ∨ sign = [0x2D])
    (unsigned : sign = [] → ∀ d ∈ after.head?, d ≠ 0x2D ∧ d ≠ 0x2B) :
    scanExponent negative whole fraction (b :: (sign ++ after)) =
      if after.takeWhile isDigit = [] then digitsMissing (after.dropWhile isDigit)
      else
        let power : Int := Decimal.ofDigits (chars (after.takeWhile isDigit))
        (.number ⟨negative, whole, fraction, some (if sign = [0x2D] then -power else power)⟩,
          after.dropWhile isDigit) := by
  have hletter : Char.ofUInt8 b = 'e' ∨ Char.ofUInt8 b = 'E' := by
    rcases letter with rfl | rfl
    · exact .inl rfl
    · exact .inr rfl
  obtain rfl | rfl | rfl := hsign
  · simp only [scanExponent, List.map_cons, List.take_succ_cons, List.take_zero, hletter, if_true,
      List.drop_succ_cons, List.drop_zero, List.nil_append]
    split
    · exact absurd rfl (unsigned rfl 0x2D rfl).1
    · exact absurd rfl (unsigned rfl 0x2B rfl).2
    · rfl
  · simp [scanExponent, hletter]
  · simp [scanExponent, hletter]

theorem scanExponent_power {e : Option Int} {power : List Char}
    (spells : Literal.SpellsPower e power) (stop : Stops rest) :
    scanExponent negative whole fraction (utf8 power ++ rest) =
      (.number ⟨negative, whole, fraction, e⟩, rest) := by
  cases spells with
  | none => exact scanExponent_of_stops stop
  | @some letter sign digits hletter hsign nonempty digit =>
    obtain ⟨htake, hdrop⟩ := span_digits digit fun b hb => (stop b hb).1
    have hfirst : ∀ b ∈ (utf8 digits ++ rest).head?, b ≠ 0x2D ∧ b ≠ 0x2B := by
      intro b hb
      rw [List.head?_append_of_ne_nil _ (utf8_ne_nil nonempty digit)] at hb
      have hdigit := (utf8_digits digit).1 b (List.mem_of_head? hb)
      constructor <;> rintro rfl <;> cases hdigit
    obtain ⟨b, hb, hencode⟩ : ∃ b : UInt8, (b = 0x65 ∨ b = 0x45) ∧
        String.utf8EncodeChar letter = [b] := by
      obtain rfl | rfl := hletter
      · exact ⟨0x65, .inl rfl, rfl⟩
      · exact ⟨0x45, .inr rfl, rfl⟩
    have hoctets (marks : List UInt8) (hmarks : utf8 sign = marks) :
        utf8 (letter :: (sign ++ digits)) ++ rest = b :: (marks ++ (utf8 digits ++ rest)) := by
      rw [utf8_cons, hencode, utf8_append, hmarks, List.append_assoc, List.append_assoc]
      rfl
    obtain rfl | rfl | rfl := hsign
    · rw [hoctets [] rfl, scanExponent_letter hb (.inl rfl) fun _ => hfirst, htake, hdrop,
        if_neg (utf8_ne_nil nonempty digit), (utf8_digits digit).2]
      rfl
    · rw [hoctets [0x2B] rfl, scanExponent_letter hb (.inr (.inl rfl)) nofun, htake, hdrop,
        if_neg (utf8_ne_nil nonempty digit), (utf8_digits digit).2]
      rfl
    · rw [hoctets [0x2D] rfl, scanExponent_letter hb (.inr (.inr rfl)) nofun, htake, hdrop,
        if_neg (utf8_ne_nil nonempty digit), (utf8_digits digit).2]
      rfl

theorem head_power {e : Option Int} {power : List Char} (spells : Literal.SpellsPower e power)
    (stop : Stops rest) :
    ∀ b ∈ (utf8 power ++ rest).head?, isDigit b = false ∧ b ≠ 0x2E := by
  cases spells with
  | none => exact fun b hb => ⟨(stop b hb).1, (stop b hb).2.1⟩
  | some hletter =>
    intro b hb
    obtain rfl | rfl := hletter
    · obtain rfl : 0x65 = b := Option.some.inj hb
      exact ⟨rfl, by decide⟩
    · obtain rfl : 0x45 = b := Option.some.inj hb
      exact ⟨rfl, by decide⟩

def scanFraction (negative : Bool) (whole : List Char) : List UInt8 → Token × List UInt8
  | 0x2E :: after =>
    if after.takeWhile isDigit = [] then digitsMissing after
    else scanExponent negative whole (chars (after.takeWhile isDigit)) (after.dropWhile isDigit)
  | rest => scanExponent negative whole [] rest

theorem scanNumber_digits (digit : ∀ c ∈ whole, c.isDigit = true) (nonempty : whole ≠ [])
    (lead : whole.head? = some '0' → whole.length = 1)
    (stop : ∀ b ∈ rest.head?, isDigit b = false) :
    scanNumber negative (utf8 whole ++ rest) = scanFraction negative whole rest := by
  obtain ⟨htake, hdrop⟩ := span_digits digit stop
  have hchars := (utf8_digits digit).2
  have hlead : ¬((utf8 whole).head? = some 0x30 ∧ (utf8 whole).length ≠ 1) := by
    intro h
    obtain ⟨hhead, hlength⟩ := h
    refine hlength ?_
    have hwhole : whole.head? = some '0' := by
      rw [← hchars, chars, List.head?_map, hhead]
      rfl
    rw [← lead hwhole, ← hchars, chars, List.length_map, ← chars, hchars]
  simp only [scanNumber, htake, hdrop, hchars, if_neg (utf8_ne_nil nonempty digit), if_neg hlead]
  rfl

theorem scanFraction_of_no_point (h : ∀ b ∈ rest.head?, b ≠ 0x2E) :
    scanFraction negative whole rest = scanExponent negative whole [] rest := by
  rw [scanFraction.eq_def]
  split
  · exact absurd rfl (h _ rfl)
  · rfl

theorem scanNumber_spelled {l : Literal} {power : List Char} (proper : l.Proper)
    (spells : Literal.SpellsPower l.exponent power) (stop : Stops rest) :
    scanNumber l.negative (utf8 (l.whole ++ ((if l.fraction = [] then [] else '.' :: l.fraction) ++
      power)) ++ rest) = (.number l, rest) := by
  have hhead := head_power spells stop
  rw [utf8_append, List.append_assoc]
  by_cases hfraction : l.fraction = []
  · rw [if_pos hfraction, List.nil_append,
      scanNumber_digits proper.whole proper.nonempty proper.lead fun b hb => (hhead b hb).1,
      scanFraction_of_no_point fun b hb => (hhead b hb).2, scanExponent_power spells stop,
      ← hfraction]
  · have hoctets : utf8 ('.' :: l.fraction ++ power) ++ rest =
        0x2E :: (utf8 l.fraction ++ (utf8 (power) ++ rest)) := by
      rw [utf8_append, List.append_assoc]
      rfl
    have hpoint : ∀ b ∈ (0x2E :: (utf8 l.fraction ++
        (utf8 (power) ++ rest))).head?, isDigit b = false := by
      intro b hb
      obtain rfl : 0x2E = b := Option.some.inj hb
      rfl
    obtain ⟨htake, hdrop⟩ := span_digits proper.fraction fun b hb => (hhead b hb).1
    rw [if_neg hfraction, hoctets,
      scanNumber_digits proper.whole proper.nonempty proper.lead hpoint, scanFraction, htake, hdrop,
      if_neg (utf8_ne_nil hfraction proper.fraction), (utf8_digits proper.fraction).2,
      scanExponent_power spells stop]

theorem scanFrom_digit {b : UInt8} (h : isDigit b = true) (bs : List UInt8) :
    isSpace b = false ∧ scanFrom b bs = scanNumber false (b :: bs) := by
  obtain ⟨n, hn⟩ : ∃ n, b.toNat = n := ⟨_, rfl⟩
  have hb : b = UInt8.ofNat n := by rw [← hn, UInt8.ofNat_toNat]
  have hrange : 48 ≤ n ∧ n ≤ 57 := by
    simpa [isDigit, UInt8.le_iff_toNat_le, hn] using h
  obtain ⟨hlow, hhigh⟩ := hrange
  subst hb
  clear hn h
  interval_cases n <;> exact ⟨rfl, rfl⟩

theorem scanFrom_spelled {l : Literal} {cs : List Char} (spelled : l.SpelledBy cs) : ∃ b octets,
    utf8 cs = b :: octets ∧ isSpace b = false ∧
      ∀ rest, Stops rest → scanFrom b (octets ++ rest) = (.number l, rest) := by
  obtain ⟨proper, power, spells, rfl⟩ := spelled
  have hscan {rest : List UInt8} (stop : Stops rest) := scanNumber_spelled proper spells stop
  rw [utf8_append]
  cases hnegative : l.negative with
  | true =>
    refine ⟨0x2D, _, rfl, rfl, fun rest stop => ?_⟩
    rw [← hscan stop, hnegative]
    rfl
  | false =>
    have hnonempty := utf8_ne_nil proper.nonempty proper.whole
    have hdigits := (utf8_digits proper.whole).1
    rw [utf8_append] at hscan ⊢
    cases hwhole : utf8 l.whole with
    | nil => exact absurd hwhole hnonempty
    | cons b octets =>
      rw [hwhole] at hscan hdigits
      have hdigit := hdigits b List.mem_cons_self
      refine ⟨b, _, rfl, (scanFrom_digit hdigit []).1, fun rest stop => ?_⟩
      rw [(scanFrom_digit hdigit _).2, ← hscan stop, hnegative]
      rfl

end Token
end RowQuery.Json
