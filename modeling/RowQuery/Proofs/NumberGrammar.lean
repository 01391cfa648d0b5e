import Mathlib
import RowQuery.Proofs.Decoding
import RowQuery.Proofs.NumberScan
import RowQuery.Proofs.TreeInvariant
import RowQuery.Text.Blank

/-!
# What is read as a number is spelled as one

The scan of a number takes what JSON allows a number to look like and nothing else: the octets it
takes are the text of the literal it gives. A document that is a number has one token, for reading
goes on behind any other, and what begins as a list or an object ends as one. So a text that is read
as a number is the text of a literal between blanks. Inside a document numbers are spelled so too,
also where the text breaks off behind them.
-/
namespace RowQuery.Json
-- Powers are those of the core library, also where an algebra library offers its own.
attribute [local instance (high)] instPowNat

namespace Token
variable {negative : Bool} {whole fraction : List Char} {b : UInt8} {bs rest rest' : List UInt8}
  {l : Literal}

theorem char_of_isDigit (h : isDigit b = true) :
    (Char.ofUInt8 b).isDigit = true ∧ String.utf8EncodeChar (Char.ofUInt8 b) = [b] := by
  obtain ⟨n, hn⟩ : ∃ n, b.toNat = n := ⟨_, rfl⟩
  have hb : b = UInt8.ofNat n := by rw [← hn, UInt8.ofNat_toNat]
  have hrange : 48 ≤ n ∧ n ≤ 57 := by
    simpa [isDigit, UInt8.le_iff_toNat_le, hn] using h
  obtain ⟨hlow, hhigh⟩ := hrange
  subst hb
  clear hn h
  interval_cases n <;> exact ⟨rfl, rfl⟩

theorem utf8_chars (digit : ∀ b ∈ bs, isDigit b = true) :
    utf8 (chars bs) = bs ∧ ∀ c ∈ chars bs, c.isDigit = true := by
  induction bs with
  | nil => exact ⟨rfl, List.forall_mem_nil _⟩
  | cons b bs ih =>
    obtain ⟨hb, hbs⟩ := List.forall_mem_cons.mp digit
    obtain ⟨hdigit, hencode⟩ := char_of_isDigit hb
    obtain ⟨hchars, hdigits⟩ := ih hbs
    rw [chars, List.map_cons, ← chars, utf8_cons, hencode, hchars]
    exact ⟨rfl, List.forall_mem_cons.mpr ⟨hdigit, hdigits⟩⟩

theorem utf8_takeWhile (bs : List UInt8) :
    utf8 (chars (bs.takeWhile isDigit)) = bs.takeWhile isDigit ∧
      ∀ c ∈ chars (bs.takeWhile isDigit), c.isDigit = true :=
  utf8_chars fun _ => List.mem_takeWhile_imp

theorem chars_ne_nil (h : bs ≠ []) : chars bs ≠ [] := by
  rwa [chars, ne_eq, List.map_eq_nil_iff]

theorem digitsMissing_ne : digitsMissing rest ≠ (.number l, rest') := nofun

theorem exists_sign (bs : List UInt8) : ∃ sign after, bs = sign ++ after ∧
    (sign = [] ∨ sign = [0x2B] ∨ sign = [0x2D]) ∧
    (sign = [] → ∀ d ∈ after.head?, d ≠ 0x2D ∧ d ≠ 0x2B) := by
  cases bs with
  | nil => exact ⟨[], [], rfl, .inl rfl, fun _ => nofun⟩
  | cons d after =>
    by_cases hplus : d = 0x2B
    · exact ⟨[0x2B], after, by rw [hplus]; rfl, .inr (.inl rfl), nofun⟩
    · by_cases hminus : d = 0x2D
      · exact ⟨[0x2D], after, by rw [hminus]; rfl, .inr (.inr rfl), nofun⟩
      · refine ⟨[], d :: after, rfl, .inl rfl, fun _ d' hd' => ?_⟩
        obtain rfl := Option.some.inj hd'
        exact ⟨hminus, hplus⟩

theorem exists_marks {sign : List UInt8} (h : sign = [] ∨ sign = [0x2B] ∨ sign = [0x2D]) :
    ∃ marks : List Char, (marks = [] ∨ marks = ['+'] ∨ marks = ['-']) ∧ utf8 marks = sign ∧
      (marks = ['-'] ↔ sign = [0x2D]) := by
  obtain rfl | rfl | rfl := h
  · exact ⟨[], .inl rfl, rfl, by decide⟩
  · exact ⟨['+'], .inr (.inl rfl), rfl, by decide⟩
  · exact ⟨['-'], .inr (.inr rfl), rfl, by decide⟩

theorem char_of_letter (h : b = 0x65 ∨ b = 0x45) :
    (Char.ofUInt8 b = 'e' ∨ Char.ofUInt8 b = 'E') ∧
      String.utf8EncodeChar (Char.ofUInt8 b) = [b] := by
  obtain rfl | rfl := h
  · exact ⟨.inl rfl, rfl⟩
  · exact ⟨.inr rfl, rfl⟩

theorem power_of_scanExponent (h : scanExponent negative whole fraction bs = (.number l, rest)) :
    ∃ power, Literal.SpellsPower l.exponent power ∧ bs = utf8 power ++ rest ∧
      l = ⟨negative, whole, fraction, l.exponent⟩ := by
  cases bs with
  | nil =>
    cases h
    exact ⟨[], .none, rfl, rfl⟩
  | cons b bs =>
    by_cases hletter : b = 0x65 ∨ b = 0x45
    · obtain ⟨sign, after, rfl, hsign, hunsigned⟩ := exists_sign bs
      rw [scanExponent_letter hletter hsign hunsigned] at h
      split at h
      · exact absurd h digitsMissing_ne
      · next hnonempty =>
        cases h
        have hrest : after.takeWhile isDigit ++ after.dropWhile isDigit = after :=
          List.takeWhile_append_dropWhile
        obtain ⟨marks, hmarks, hutf8, hminus⟩ := exists_marks hsign
        obtain ⟨hchars, hdigits⟩ := utf8_takeWhile after
        obtain ⟨hshape, hencode⟩ := char_of_letter hletter
        have hspells := Literal.SpellsPower.some hshape hmarks (chars_ne_nil hnonempty) hdigits
        simp only [hminus] at hspells
        refine ⟨_, hspells, ?_, rfl⟩
        rw [utf8_cons, utf8_append, hencode, hutf8, hchars, List.append_assoc, List.append_assoc,
          hrest]
        rfl
    · have hno : ¬(Char.ofUInt8 b = 'e' ∨ Char.ofUInt8 b = 'E') := by
        rintro (hb | hb)
        · exact hletter (.inl (@ofUInt8_injective b 0x65 hb))
        · exact hletter (.inr (@ofUInt8_injective b 0x45 hb))
      have hnone : scanExponent negative whole fraction (b :: bs) =
          (.number ⟨negative, whole, fraction, none⟩, b :: bs) := by simp [scanExponent, hno]
      rw [hnone] at h
      cases h
      exact ⟨[], .none, rfl, rfl⟩

theorem fraction_of_scanFraction (h : scanFraction negative whole bs = (.number l, rest)) :
    ∃ fraction power, (∀ c ∈ fraction, c.isDigit = true) ∧
      Literal.SpellsPower l.exponent power ∧ l = ⟨negative, whole, fraction, l.exponent⟩ ∧
      bs = utf8 ((if fraction = [] then [] else '.' :: fraction) ++ power) ++ rest := by
  by_cases hpoint : bs.head? = some 0x2E
  · obtain ⟨after, rfl⟩ := List.head?_eq_some_iff.mp hpoint
    rw [scanFraction] at h
    split at h
    · exact absurd h digitsMissing_ne
    · next hnonempty =>
      obtain ⟨power, hspells, hdrop, hl⟩ := power_of_scanExponent h
      obtain ⟨hchars, hdigits⟩ := utf8_takeWhile after
      have hafter : after.takeWhile isDigit ++ after.dropWhile isDigit = after :=
        List.takeWhile_append_dropWhile
      have hencode : String.utf8EncodeChar '.' = [0x2E] := rfl
      refine ⟨_, power, hdigits, hspells, hl, ?_⟩
      rw [if_neg (chars_ne_nil hnonempty), List.cons_append, utf8_cons, hencode, utf8_append,
        hchars, List.append_assoc, List.append_assoc, ← hdrop, hafter]
      rfl
  · have hno : ∀ b ∈ bs.head?, b ≠ 0x2E := fun b hb hb' => hpoint (hb' ▸ hb)
    rw [scanFraction_of_no_point hno] at h
    obtain ⟨power, hspells, hbs, hl⟩ := power_of_scanExponent h
    exact ⟨[], power, List.forall_mem_nil _, hspells, hl, hbs⟩

theorem length_of_zero (lead : ¬(bs.head? = some 0x30 ∧ bs.length ≠ 1)) :
    (chars bs).head? = some '0' → (chars bs).length = 1 := by
  cases bs with
  | nil => exact nofun
  | cons b bs =>
    intro hzero
    obtain rfl := @ofUInt8_injective b 0x30 (Option.some.inj hzero)
    by_contra hlength
    exact lead ⟨rfl, by rwa [chars, List.length_map] at hlength⟩

theorem spelled_of_scanNumber (h : scanNumber negative bs = (.number l, rest)) :
    ∃ cs, l.SpelledBy ((if negative then ['-'] else []) ++ cs) ∧ bs = utf8 cs ++ rest := by
  obtain ⟨hchars, hdigits⟩ := utf8_takeWhile bs
  have hbs : bs.takeWhile isDigit ++ bs.dropWhile isDigit = bs := List.takeWhile_append_dropWhile
  have hnumber : scanNumber negative bs =
      if bs.takeWhile isDigit = [] then digitsMissing (bs.dropWhile isDigit)
      else if (bs.takeWhile isDigit).head? = some 0x30 ∧ (bs.takeWhile isDigit).length ≠ 1 then
        (.broken .badNumber, [])
      else scanFraction negative (chars (bs.takeWhile isDigit)) (bs.dropWhile isDigit) := rfl
  rw [hnumber] at h
  split at h
  · exact absurd h digitsMissing_ne
  · next hnonempty =>
    split at h
    · cases h
    · next hlead =>
      obtain ⟨fraction, power, hfraction, hspells, hl, hrest⟩ := fraction_of_scanFraction h
      obtain ⟨sign, digits, point, e⟩ := l
      simp only [Literal.mk.injEq, and_true] at hl
      obtain ⟨rfl, rfl, rfl⟩ := hl
      refine ⟨_, ⟨⟨hdigits, hfraction, chars_ne_nil hnonempty, ?_⟩, power, hspells, rfl⟩, ?_⟩
      · exact length_of_zero hlead
      · rw [utf8_append, hchars, List.append_assoc, ← hrest, hbs]

theorem scanLetters_ne (w : Word) (cs : List Char) (bs : List UInt8) :
    scanLetters w cs bs ≠ (.number l, rest) := by
  induction cs generalizing bs with
  | nil => exact nofun
  | cons c cs ih =>
    cases bs with
    | nil => exact nofun
    | cons b bs =>
      rw [scanLetters]
      split
      · exact ih bs
      · exact nofun

theorem scanFrom_ne (minus : b ≠ 0x2D) (digit : isDigit b ≠ true) :
    scanFrom b bs ≠ (.number l, rest) := by
  intro h
  rw [scanFrom.eq_def] at h
  split at h <;> first
    | cases h
    | exact scanLetters_ne _ _ _ h
    | exact minus (@ofUInt8_injective b 0x2D ‹_›)
    | rw [if_neg digit] at h; cases h

theorem spelled_of_scanFrom (h : scanFrom b bs = (.number l, rest)) :
    ∃ cs, l.SpelledBy cs ∧ b :: bs = utf8 cs ++ rest := by
  by_cases hminus : b = 0x2D
  · subst hminus
    obtain ⟨cs, hspelled, rfl⟩ := spelled_of_scanNumber h
    exact ⟨'-' :: cs, hspelled, rfl⟩
  · by_cases hdigit : isDigit b = true
    · rw [(scanFrom_digit hdigit bs).2] at h
      obtain ⟨cs, hspelled, hbs⟩ := spelled_of_scanNumber h
      exact ⟨cs, hspelled, hbs⟩
    · exact absurd h (scanFrom_ne hminus hdigit)

variable {done tokens : List Token} {token : Token} {k : Nat}

theorem scanOnto_of_blank (h : bs.dropWhile isSpace = []) : scanOnto done k bs = done.reverse := by
  cases k with
  | zero => rfl
  | succ k => rw [scanOnto, h]

theorem scanOnto_of_token (h : bs.dropWhile isSpace = b :: rest) : scanOnto done (k + 1) bs =
    scanOnto ((scanFrom b rest).1 :: done) k (scanFrom b rest).2 := by
  rw [scanOnto, h]

theorem prefix_scanOnto (done : List Token) (k : Nat) (bs : List UInt8) :
    done.reverse <+: scanOnto done k bs := by
  induction k generalizing done bs with
  | zero => exact List.prefix_refl _
  | succ k ih =>
    cases hdrop : bs.dropWhile isSpace with
    | nil => rw [scanOnto_of_blank hdrop]
    | cons b rest =>
      rw [scanOnto_of_token hdrop]
      refine List.IsPrefix.trans ?_ (ih _ _)
      rw [List.reverse_cons]
      exact List.prefix_append _ _

theorem utf8_pos {cs : List Char} (spelled : l.SpelledBy cs) : 0 < (utf8 cs).length := by
  obtain ⟨b, octets, htext, -⟩ := scanFrom_spelled spelled
  rw [htext]
  exact Nat.succ_pos _

theorem blank_of_only (steps : rest.length ≤ k)
    (h : scanOnto [token] k rest = [.number l]) : rest.dropWhile isSpace = [] := by
  cases hdrop : rest.dropWhile isSpace with
  | nil => rfl
  | cons b more =>
    have hlength := List.length_dropWhile_le isSpace rest
    rw [hdrop, List.length_cons] at hlength
    obtain ⟨k, rfl⟩ : ∃ k', k = k' + 1 := ⟨k - 1, by omega⟩
    rw [scanOnto_of_token hdrop] at h
    have htwo := (prefix_scanOnto [(scanFrom b more).1, token] k (scanFrom b more).2).length_le
    rw [h] at htwo
    exact absurd htwo (by simp)

theorem spelled_of_scan (h : scan bs = [.number l]) : ∃ before cs after, l.SpelledBy cs ∧
    bs = before ++ utf8 cs ++ after ∧ (∀ b ∈ before, isSpace b = true) ∧
      ∀ b ∈ after, isSpace b = true := by
  have hbs : bs.takeWhile isSpace ++ bs.dropWhile isSpace = bs := List.takeWhile_append_dropWhile
  rw [scan] at h
  cases hdrop : bs.dropWhile isSpace with
  | nil =>
    rw [scanOnto_of_blank hdrop] at h
    cases h
  | cons b octets =>
    have hlength := List.length_dropWhile_le isSpace bs
    rw [hdrop, List.length_cons] at hlength
    obtain ⟨k, hk⟩ : ∃ k, bs.length = k + 1 := ⟨bs.length - 1, by omega⟩
    rw [hk, scanOnto_of_token hdrop] at h
    obtain ⟨more, hmore⟩ := prefix_scanOnto [(scanFrom b octets).1] k (scanFrom b octets).2
    rw [h] at hmore
    have hnumber : scanFrom b octets = (.number l, (scanFrom b octets).2) :=
      Prod.ext (List.cons.inj hmore).1 rfl
    obtain ⟨cs, hspelled, htext⟩ := spelled_of_scanFrom hnumber
    -- Every step takes an octet at least, so there are steps enough for what is left.
    have hsteps : (scanFrom b octets).2.length ≤ k := by
      have hoctets := congrArg List.length htext
      have hpos := utf8_pos hspelled
      rw [List.length_cons, List.length_append] at hoctets
      omega
    refine ⟨bs.takeWhile isSpace, cs, (scanFrom b octets).2, hspelled, ?_,
      fun b hb => List.mem_takeWhile_imp hb,
      List.dropWhile_eq_nil_iff.mp (blank_of_only hsteps h)⟩
    rw [List.append_assoc, ← htext, ← hdrop, hbs]

end Token

def Tree.Other (t : Tree) : Prop := ∀ l, t ≠ .number l

theorem Tree.other_invariant : Invariant (fun _ => True) (fun _ => True) Other where
  inside _ := trivial
  number _ := trivial
  word w := by cases w <;> exact fun _ => nofun
  string _ := fun _ => nofun
  list _ _ := fun _ => nofun
  object _ _ := fun _ => nofun
  broken _ := fun _ => nofun

namespace Document
variable {tokens : List Token} {l : Literal} {last : Tree}

theorem read_separator (h : read [] (.separator last) tokens = ⟨.number l, false⟩) :
    last = .number l ∧ tokens = [] := by
  cases tokens with
  | nil => exact ⟨congrArg tree h, rfl⟩
  | cons token tokens => cases h

theorem tokens_of_number (h : ofTokens tokens = ⟨.number l, false⟩) : tokens = [.number l] := by
  have hother {expecting : Expecting} {tokens : List Token}
      (hfits : expecting.Fits (fun _ => True) (fun _ => True) Tree.Other []) :
      read [] expecting tokens ≠ ⟨.number l, false⟩ := fun hd =>
    Tree.other_invariant.read (List.forall_mem_nil _) hfits (fun _ _ _ _ => trivial) l
      (congrArg tree hd)
  -- Behind any other first token a tree is begun that is no number.
  cases tokens with
  | nil => cases h
  | cons token tokens =>
    cases token with
    | number l' =>
      obtain ⟨hlast, rfl⟩ := read_separator h
      rw [Tree.number.inj hlast]
    | word w =>
      obtain ⟨hlast, -⟩ := read_separator h
      cases w <;> cases hlast
    | string q =>
      simp only [ofTokens, read, Move.ofToken, Move.value] at h
      cases hq : q.ending with
      | none =>
        rw [hq] at h
        obtain ⟨hlast, -⟩ := read_separator h
        cases hlast
      | some b =>
        rw [hq] at h
        cases h
    | listOpen => exact absurd h (@hother .listStart tokens trivial)
    | objectOpen => exact absurd h (@hother .objectStart tokens trivial)
    | _ => cases h

end Document

theorem Literal.SpelledBy.unique {l l' : Literal} {cs : List Char} (h : l.SpelledBy cs)
    (h' : l'.SpelledBy cs) : l = l' := by
  obtain ⟨b, octets, htext, -, hscan⟩ := Token.scanFrom_spelled h
  obtain ⟨b', octets', htext', -, hscan'⟩ := Token.scanFrom_spelled h'
  obtain ⟨rfl, rfl⟩ := List.cons.inj (htext.symm.trans htext')
  have hsame := (hscan [] Token.stops_nil).symm.trans (hscan' [] Token.stops_nil)
  exact Token.number.inj (congrArg Prod.fst hsame)

theorem utf8_injective {cs ds : List Char} (h : utf8 cs = utf8 ds) : cs = ds := by
  have hcs := fromUTF8?_utf8 (String.ofList cs)
  have hds := fromUTF8?_utf8 (String.ofList ds)
  rw [String.toList_ofList] at hcs hds
  rw [h, hds] at hcs
  exact (String.ofList_injective (Option.some.inj hcs)).symm

theorem utf8_spaces {bs : List UInt8} (space : ∀ b ∈ bs, Token.isSpace b = true) :
    utf8 (Token.chars bs) = bs ∧ ∀ c ∈ Token.chars bs, Text.isBlank c = true := by
  induction bs with
  | nil => exact ⟨rfl, List.forall_mem_nil _⟩
  | cons b bs ih =>
    obtain ⟨hb, hbs⟩ := List.forall_mem_cons.mp space
    obtain ⟨hchars, hblank⟩ := ih hbs
    have hone : String.utf8EncodeChar (Char.ofUInt8 b) = [b] ∧
        Text.isBlank (Char.ofUInt8 b) = true := by
      simp only [Token.isSpace, Bool.or_eq_true, beq_iff_eq] at hb
      obtain ((rfl | rfl) | rfl) | rfl := hb <;> exact ⟨rfl, rfl⟩
    rw [Token.chars, List.map_cons, ← Token.chars, utf8_cons, hone.1, hchars]
    exact ⟨rfl, List.forall_mem_cons.mpr ⟨hone.2, hblank⟩⟩

theorem Document.value_eq_number {d : Document} {n : Number} (h : d.value = .ok (.number n)) :
    ∃ l, d = ⟨.number l, false⟩ ∧ l.number? = some n := by
  obtain ⟨tree, trailing⟩ := d
  rw [Document.value] at h
  cases hvalue : tree.value with
  | error b =>
    rw [hvalue] at h
    cases h
  | ok v =>
    cases trailing with
    | true =>
      rw [hvalue] at h
      cases h
    | false =>
      rw [hvalue] at h
      cases h
      obtain ⟨l, rfl, hnumber⟩ := Tree.valueWithin_eq_number_iff.mp hvalue
      exact ⟨l, rfl, hnumber⟩

/-- A text that is read as a number is the text of a literal between blanks. -/
theorem Value.spelled_of_read {text : String} {n : Number}
    (h : Value.read text = .ok (.number n)) : ∃ (l : Literal) (before cs after : List Char),
      l.SpelledBy cs ∧ l.number? = some n ∧ text.toList = before ++ cs ++ after ∧
      (∀ c ∈ before, Text.isBlank c = true) ∧ ∀ c ∈ after, Text.isBlank c = true := by
  rw [Value.read, Value.ofBytes, ← String.ofList_toList (s := text), toUTF8_ofList] at h
  obtain ⟨l, hdocument, hnumber⟩ := Document.value_eq_number h
  obtain ⟨before, cs, after, hspelled, htext, hbefore, hafter⟩ :=
    Token.spelled_of_scan (Document.tokens_of_number hdocument)
  obtain ⟨hbefore', hblank⟩ := utf8_spaces hbefore
  obtain ⟨hafter', hblank'⟩ := utf8_spaces hafter
  refine ⟨l, Token.chars before, cs, Token.chars after, hspelled, hnumber, ?_, hblank, hblank'⟩
  refine utf8_injective ?_
  rw [htext, utf8_append, utf8_append, hbefore', hafter']

/-- Every number in the tree is spelled as JSON spells numbers. -/
inductive Tree.Proper : Tree → Prop
  | null : Proper .null
  | bool (b : Bool) : Proper (.bool b)
  | number {l : Literal} : l.Proper → Proper (.number l)
  | string (q : Quoted) : Proper (.string q)
  | list {items : List Tree} {ending : Ending} :
      (∀ t ∈ items, Proper t) → Proper (.list items ending)
  | object {members : List (Quoted × Tree)} {ending : Ending} :
      (∀ m ∈ members, Proper m.2) → Proper (.object members ending)
  | broken (b : Break) : Proper (.broken b)

namespace Tree.Proper

theorem of_number {l : Literal} (h : (Tree.number l).Proper) : l.Proper := by
  cases h with
  | number h => exact h

theorem of_list {items : List Tree} {ending : Ending} (h : (Tree.list items ending).Proper) :
    ∀ t ∈ items, t.Proper := by
  cases h with
  | list h => exact h

theorem of_object {members : List (Quoted × Tree)} {ending : Ending}
    (h : (Tree.object members ending).Proper) : ∀ m ∈ members, m.2.Proper := by
  cases h with
  | object h => exact h

theorem invariant : Invariant Literal.Proper Tree.Proper Tree.Proper where
  inside := id
  number := .number
  word w := by cases w <;> constructor
  string := .string
  list _ := .list
  object _ := .object
  broken := .broken

end Tree.Proper

theorem Token.proper_scanOnto {done : List Token}
    (hdone : ∀ token ∈ done, ∀ l, token = .number l → l.Proper) (k : Nat) (bs : List UInt8) :
    ∀ token ∈ scanOnto done k bs, ∀ l, token = .number l → l.Proper := by
  induction k generalizing done bs with
  | zero => exact fun token h => hdone token (List.mem_reverse.mp h)
  | succ k ih =>
    cases hdrop : bs.dropWhile isSpace with
    | nil =>
      rw [scanOnto_of_blank hdrop]
      exact fun token h => hdone token (List.mem_reverse.mp h)
    | cons b rest =>
      have hfirst : ∀ l, (scanFrom b rest).1 = .number l → l.Proper := by
        intro l h
        obtain ⟨cs, hspelled, -⟩ := spelled_of_scanFrom (Prod.ext h rfl : scanFrom b rest = (_, _))
        exact hspelled.proper
      rw [scanOnto_of_token hdrop]
      exact ih (List.forall_mem_cons.mpr ⟨hfirst, hdone⟩) _

theorem Document.proper_ofBytes (bs : List UInt8) : (ofBytes bs).tree.Proper :=
  Tree.Proper.invariant.read (List.forall_mem_nil _) (.inr fun _ => .number)
    (Token.proper_scanOnto (List.forall_mem_nil _) _ _)

end RowQuery.Json
