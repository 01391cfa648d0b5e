import Mathlib
import RowQuery.Proofs.Quoting
import RowQuery.Text.Octets

/-!
# Octets of a text

The octets that a text is encoded as are read as that text: no octet of them is replaced. The bounds
on a second octet are those that the encoding of a character keeps.
-/
namespace RowQuery.Text.Octets
open Json (utf8 utf8_cons)

variable {done : List Char} {bs : List UInt8} {n b : Nat} {p : Partial}

theorem start_two (hlow : 0xC2 ≤ b) (hhigh : b < 0xE0) :
    start b = .lead ⟨b - 0xC0, 1, 0x80, 0xBF⟩ := by
  rw [start, if_neg (by omega), if_neg (by omega), if_pos hhigh]

theorem start_three (hlow : 0xE0 ≤ b) (hhigh : b < 0xF0) :
    start b = .lead ⟨b - 0xE0, 2, if b = 0xE0 then 0xA0 else 0x80,
      if b = 0xED then 0x9F else 0xBF⟩ := by
  rw [start, if_neg (by omega), if_neg (by omega), if_neg (by omega), if_pos hhigh]

theorem start_four (hlow : 0xF0 ≤ b) (hhigh : b < 0xF5) :
    start b = .lead ⟨b - 0xF0, 3, if b = 0xF0 then 0x90 else 0x80,
      if b = 0xF4 then 0x8F else 0xBF⟩ := by
  rw [start, if_neg (by omega), if_neg (by omega), if_neg (by omega), if_neg (by omega),
    if_pos hhigh]

theorem toNat_ofNat (h : n < 256) : (UInt8.ofNat n).toNat = n := by
  rw [UInt8.toNat_ofNat', Nat.mod_eq_of_lt h]

theorem read_lead (hstart : start b = .lead p) (hb : b < 256) :
    read done none (UInt8.ofNat b :: bs) = read done (some p) bs := by
  rw [read, toNat_ofNat hb, step, begin, hstart]

theorem read_next (hn : n < 64) (hlow : p.low ≤ n + 128) (hhigh : n + 128 ≤ p.high)
    (hleft : p.left ≠ 1) : read done (some p) (UInt8.ofNat (n + 128) :: bs) =
      read done (some ⟨64 * p.bits + n, p.left - 1, 0x80, 0xBF⟩) bs := by
  rw [read, toNat_ofNat (by omega)]
  simp only [step, if_pos (And.intro hlow hhigh), if_neg hleft, Nat.add_sub_cancel]

theorem read_last (hn : n < 64) (hlow : p.low ≤ n + 128) (hhigh : n + 128 ≤ p.high)
    (hleft : p.left = 1) : read done (some p) (UInt8.ofNat (n + 128) :: bs) =
      read (Char.ofNat (64 * p.bits + n) :: done) none bs := by
  rw [read, toNat_ofNat (by omega)]
  simp only [step, if_pos (And.intro hlow hhigh), if_pos hleft, Nat.add_sub_cancel]

theorem read_encoded (c : Char) :
    read done none (String.utf8EncodeChar c ++ bs) = read (c :: done) none bs := by
  have hvalid : c.toNat < 0xD800 ∨ 0xDFFF < c.toNat ∧ c.toNat < 0x110000 := c.valid
  have hback : ∀ v, v = c.toNat → Char.ofNat v = c := fun v hv => hv ▸ Char.ofNat_toNat c
  have hval : c.val.toNat = c.toNat := rfl
  simp only [String.utf8EncodeChar, hval]
  -- One case for each number of octets that a character takes.
  split
  · next hsize =>
    rw [List.singleton_append, read, toNat_ofNat (by omega), step, begin, start,
      if_pos (by omega), hback _ rfl]
  · split
    · next hsize =>
      rw [List.cons_append, List.singleton_append,
        read_lead (start_two (by omega) (by omega)) (by omega),
        read_last (by omega) (by simp) (by simp; omega) rfl, hback]
      simp only
      omega
    · split
      · next hsize =>
        simp only [List.cons_append, List.nil_append]
        rw [read_lead (start_three (by omega) (by omega)) (by omega),
          read_next (by omega) (by simp only; split <;> omega) (by simp only; split <;> omega)
            (by simp),
          read_last (by omega) (by simp) (by simp; omega) rfl, hback]
        simp only
        omega
      · simp only [List.cons_append, List.nil_append]
        rw [read_lead (start_four (by omega) (by omega)) (by omega),
          read_next (by omega) (by simp only; split <;> omega) (by simp only; split <;> omega)
            (by simp),
          read_next (by omega) (by simp) (by simp; omega) (by simp),
          read_last (by omega) (by simp) (by simp; omega) rfl, hback]
        simp only
        omega

theorem read_utf8 (cs : List Char) (done : List Char) :
    read done none (utf8 cs) = done.reverse ++ cs := by
  induction cs generalizing done with
  | nil => simp [utf8, read]
  | cons c cs ih => rw [utf8_cons, read_encoded, ih, List.reverse_cons, List.append_assoc,
      List.singleton_append]

theorem chars_toUTF8 (s : String) : chars s.toUTF8.data.toList = s.toList := by
  have hutf8 := Json.toUTF8_ofList s.toList
  rw [String.ofList_toList] at hutf8
  rw [chars, hutf8, read_utf8, List.reverse_nil, List.nil_append]

end RowQuery.Text.Octets
