import Mathlib
import RowQuery.Json.Printer
import RowQuery.Json.Reader

/-!
# Quoted texts are read back

The octets of a quoted text are scanned as one string: an escaped control is kept as a unit, any
other character as its octets. Decoded, the pieces are the text again.
-/
namespace RowQuery.Json

def utf8 (cs : List Char) : List UInt8 := cs.flatMap String.utf8EncodeChar

theorem utf8_append (cs ds : List Char) : utf8 (cs ++ ds) = utf8 cs ++ utf8 ds :=
  List.flatMap_append

theorem utf8_cons (c : Char) (cs : List Char) :
    utf8 (c :: cs) = String.utf8EncodeChar c ++ utf8 cs :=
  List.flatMap_cons

theorem toUTF8_ofList (cs : List Char) : (String.ofList cs).toUTF8.data.toList = utf8 cs := by
  simp [utf8, List.utf8Encode]

theorem fromUTF8?_utf8 (s : String) : String.fromUTF8? ⟨(utf8 s.toList).toArray⟩ = some s := by
  have hbytes : (⟨(utf8 s.toList).toArray⟩ : ByteArray) = s.toByteArray := by
    rw [← String.utf8Encode_toList, List.utf8Encode, utf8]
    exact ByteArray.ext (by simp)
  rw [hbytes, String.fromUTF8?, dif_pos s.isValidUTF8]
  rfl

def piecesOf (c : Char) : List Piece :=
  if c.toNat < 0x20 ∧ c ∉ ['\x08', '\x0c', '\n', '\r', '\t'] then [.unit c.toNat]
  else (String.utf8EncodeChar c).map .octet

namespace Token

def IsPlain (b : UInt8) : Prop := 0x20 ≤ b ∧ b ≠ 0x22 ∧ b ≠ 0x5C

theorem scanString_plain {b : UInt8} (h : IsPlain b) (done : List Piece) (bs : List UInt8) :
    scanString done (b :: bs) = scanString (.octet b :: done) bs := by
  obtain ⟨hlow, hquote, hslash⟩ := h
  have hnot : ¬b < 0x20 := UInt8.not_lt.mpr hlow
  rw [scanString.eq_def]
  split <;> simp_all [UInt8.not_lt]

theorem scanString_octets {octets : List UInt8} (h : ∀ b ∈ octets, IsPlain b) (done : List Piece)
    (bs : List UInt8) : scanString done (octets ++ bs) =
      scanString ((octets.map .octet).reverse ++ done) bs := by
  induction octets generalizing done with
  | nil => rfl
  | cons b octets ih =>
    obtain ⟨hb, hrest⟩ := List.forall_mem_cons.mp h
    rw [List.cons_append, scanString_plain hb, ih hrest]
    simp

theorem isPlain_ofNat {n : Nat} (h : n < 256) (hlow : 0x20 ≤ n) (hquote : n ≠ 0x22)
    (hslash : n ≠ 0x5C) : IsPlain (UInt8.ofNat n) := by
  have hvalue : (UInt8.ofNat n).toNat = n := UInt8.toNat_ofNat_of_lt' h
  refine ⟨?_, fun he => hquote ?_, fun he => hslash ?_⟩
  · rw [UInt8.le_iff_toNat_le, hvalue]
    exact hlow
  · rw [← hvalue, he]
    rfl
  · rw [← hvalue, he]
    rfl

theorem isPlain_of_mem_utf8 {c : Char} (hlow : 0x20 ≤ c.toNat) (hquote : c ≠ '"')
    (hslash : c ≠ '\\') {b : UInt8} (hb : b ∈ String.utf8EncodeChar c) : IsPlain b := by
  have hquote' : c.val.toNat ≠ 0x22 := fun h => hquote (Char.ext (UInt32.toNat_inj.mp h))
  have hslash' : c.val.toNat ≠ 0x5C := fun h => hslash (Char.ext (UInt32.toNat_inj.mp h))
  have hlow' : 0x20 ≤ c.val.toNat := hlow
  simp only [String.utf8EncodeChar] at hb
  split at hb
  · obtain rfl := List.mem_singleton.mp hb
    exact isPlain_ofNat (by omega) hlow' hquote' hslash'
  · split at hb
    · simp only [List.mem_cons, List.not_mem_nil, or_false] at hb
      rcases hb with rfl | rfl <;> exact isPlain_ofNat (by omega) (by omega) (by omega) (by omega)
    · split at hb
      · simp only [List.mem_cons, List.not_mem_nil, or_false] at hb
        rcases hb with rfl | rfl | rfl <;>
          exact isPlain_ofNat (by omega) (by omega) (by omega) (by omega)
      · simp only [List.mem_cons, List.not_mem_nil, or_false] at hb
        rcases hb with rfl | rfl | rfl | rfl <;>
          exact isPlain_ofNat (by omega) (by omega) (by omega) (by omega)

theorem scanString_control {c : Char} (hc : c.toNat < 0x20)
    (hnot : c ∉ ['\x08', '\x0c', '\n', '\r', '\t']) (done : List Piece) (bs : List UInt8) :
    scanString done (utf8 (escapeChar c) ++ bs) = scanString (.unit c.toNat :: done) bs := by
  obtain ⟨n, hn⟩ : ∃ n, c.toNat = n := ⟨_, rfl⟩
  have hc : c = Char.ofNat n := by rw [← hn, Char.ofNat_toNat]
  subst hc
  rw [hn] at hc ⊢
  clear hn
  interval_cases n <;> first | rfl | exact absurd (by decide) hnot

theorem scanString_escapeChar (c : Char) (done : List Piece) (bs : List UInt8) :
    scanString done (utf8 (escapeChar c) ++ bs) = scanString ((piecesOf c).reverse ++ done) bs := by
  by_cases hletter : c ∈ ['"', '\\', '\x08', '\x0c', '\n', '\r', '\t']
  · simp only [List.mem_cons, List.not_mem_nil, or_false] at hletter
    rcases hletter with rfl | rfl | rfl | rfl | rfl | rfl | rfl <;> rfl
  · have hnot : c ∉ ['\x08', '\x0c', '\n', '\r', '\t'] := fun h =>
      hletter (.tail _ (.tail _ h))
    by_cases hlow : c.toNat < 0x20
    · rw [scanString_control hlow hnot, piecesOf, if_pos ⟨hlow, hnot⟩]
      rfl
    · have hself : escapeChar c = [c] := by
        rw [escapeChar.eq_def]
        split <;> simp_all
      have hplain : ∀ b ∈ String.utf8EncodeChar c, IsPlain b := fun b hb =>
        isPlain_of_mem_utf8 (Nat.le_of_not_lt hlow) (fun h => hletter (by simp [h]))
          (fun h => hletter (by simp [h])) hb
      rw [hself, piecesOf, if_neg fun h => hlow h.1, utf8_cons, utf8, List.flatMap_nil,
        List.append_nil]
      exact scanString_octets hplain done bs

theorem scanString_escaped (cs : List Char) (done : List Piece) (bs : List UInt8) :
    scanString done (utf8 (cs.flatMap escapeChar) ++ 0x22 :: bs) =
      (⟨done.reverse ++ cs.flatMap piecesOf, none⟩, bs) := by
  induction cs generalizing done with
  | nil => simp [utf8, scanString]
  | cons c cs ih =>
    rw [List.flatMap_cons, utf8_append, List.append_assoc, scanString_escapeChar, ih]
    simp

end Token

namespace Quoted

def ofText (s : String) : Quoted := ⟨s.toList.flatMap piecesOf, none⟩

theorem octets_unit {u : Nat} (hu : u < 0x20) (ending : Option Break) (done : List UInt8)
    (pieces : List Piece) : octets ending done (.unit u :: pieces) =
      octets ending ((String.utf8EncodeChar (Char.ofNat u)).reverse ++ done) pieces := by
  have hlow : isLow u = false := by simp [isLow]; omega
  have hhigh : isHigh u = false := by simp [isHigh]; omega
  cases pieces with
  | nil => simp [octets, hlow, hhigh]
  | cons p pieces => cases p <;> simp [octets, hlow, hhigh]

theorem octets_octets (bytes : List UInt8) (ending : Option Break) (done : List UInt8)
    (pieces : List Piece) : octets ending done (bytes.map .octet ++ pieces) =
      octets ending (bytes.reverse ++ done) pieces := by
  induction bytes generalizing done with
  | nil => rfl
  | cons b bytes ih =>
    rw [List.map_cons, List.cons_append, octets, ih]
    simp

theorem octets_piecesOf (c : Char) (ending : Option Break) (done : List UInt8)
    (pieces : List Piece) : octets ending done (piecesOf c ++ pieces) =
      octets ending ((String.utf8EncodeChar c).reverse ++ done) pieces := by
  rw [piecesOf]
  split
  · next h => rw [List.singleton_append, octets_unit h.1, Char.ofNat_toNat]
  · exact octets_octets _ _ _ _

theorem octets_flatMap (cs : List Char) (done : List UInt8) :
    octets none done (cs.flatMap piecesOf) = .ok (done.reverse ++ utf8 cs) := by
  induction cs generalizing done with
  | nil => simp [octets, utf8]
  | cons c cs ih =>
    rw [List.flatMap_cons, octets_piecesOf, ih, utf8_cons]
    simp

theorem text_ofText (s : String) : (ofText s).text = .ok s := by
  simp only [text, ofText, octets_flatMap, List.reverse_nil, List.nil_append, bind, Except.bind,
    fromUTF8?_utf8]

end Quoted

theorem utf8_quote (s : String) :
    utf8 (quote s) = 0x22 :: (utf8 (s.toList.flatMap escapeChar) ++ [0x22]) := by
  rw [quote, utf8_cons, utf8_append]
  rfl

theorem Token.scanFrom_quote (s : String) (bs : List UInt8) :
    scanFrom 0x22 (utf8 (s.toList.flatMap escapeChar) ++ 0x22 :: bs) =
      (.string (.ofText s), bs) := by
  have h : scanFrom 0x22 (utf8 (s.toList.flatMap escapeChar) ++ 0x22 :: bs) =
      (.string (scanString [] (utf8 (s.toList.flatMap escapeChar) ++ 0x22 :: bs)).1,
        (scanString [] (utf8 (s.toList.flatMap escapeChar) ++ 0x22 :: bs)).2) := rfl
  rw [h, scanString_escaped]
  rfl

end RowQuery.Json
