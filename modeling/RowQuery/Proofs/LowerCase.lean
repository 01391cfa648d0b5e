import Mathlib
import RowQuery.Text.Lowercase

/-!
# Lower case amid other text

A character is lower-cased by itself, a capital sigma by what stands around it. So the lower-case
form of a part of a text is that of the part alone, but for capital sigmas that see beyond an end of
the part: those with nothing between them and the end but characters that are passed over, and a
cased character behind it.
-/
namespace RowQuery.Text
variable {before before' part after after' xs ys : List Char}

/-- The lower-case form of a part of a text, with what stands before it, nearest first, and after
it. -/
def lowercaseAmid (before : List Char) : List Char → List Char → List Char
  | [], _ => []
  | c :: cs, after => lowercaseIn before c (cs ++ after) ++ lowercaseAmid (c :: before) cs after

theorem lowercaseOnto_eq (done before cs : List Char) :
    lowercaseOnto done before cs = done.reverse ++ lowercaseAmid before cs [] := by
  induction cs generalizing done before with
  | nil => rw [lowercaseOnto, lowercaseAmid, List.append_nil]
  | cons c cs ih => simp [lowercaseOnto, lowercaseAmid, ih]

theorem lowercaseChars_eq (cs : List Char) : lowercaseChars cs = lowercaseAmid [] cs [] :=
  lowercaseOnto_eq [] [] cs

theorem lowercaseAmid_append (before cs ds after : List Char) :
    lowercaseAmid before (cs ++ ds) after =
      lowercaseAmid before cs (ds ++ after) ++ lowercaseAmid (cs.reverse ++ before) ds after := by
  induction cs generalizing before with
  | nil => rfl
  | cons c cs ih => simp [lowercaseAmid, ih]

theorem lowercaseAmid_infix (before part after : List Char) :
    lowercaseAmid before.reverse part after <:+: lowercaseChars (before ++ part ++ after) := by
  rw [lowercaseChars_eq, lowercaseAmid_append, lowercaseAmid_append]
  simp only [List.append_nil]
  exact List.infix_append _ _ _

/-- What stands around a part counts for its capital sigmas alone. -/
theorem lowercaseAmid_congr
    (sigmas : ∀ p q, part = p ++ 'Σ' :: q →
      lowercaseSigma (p.reverse ++ before) (q ++ after) =
        lowercaseSigma (p.reverse ++ before') (q ++ after')) :
    lowercaseAmid before part after = lowercaseAmid before' part after' := by
  induction part generalizing before before' with
  | nil => rfl
  | cons c cs ih =>
    have hhead : lowercaseIn before c (cs ++ after) = lowercaseIn before' c (cs ++ after') := by
      by_cases hc : c = 'Σ'
      · have hsigma := sigmas [] cs (by rw [hc]; rfl)
        simp only [lowercaseIn, if_pos hc]
        exact congrArg (fun form => [form]) hsigma
      · simp only [lowercaseIn, if_neg hc]
    have htail : lowercaseAmid (c :: before) cs after = lowercaseAmid (c :: before') cs after' := by
      refine ih fun p q hsplit => ?_
      have hsigma := sigmas (c :: p) q (by rw [hsplit]; rfl)
      simpa using hsigma
    rw [lowercaseAmid, lowercaseAmid, hhead, htail]

theorem startsCased_append (xs ys : List Char) :
    startsCased (xs ++ ys) = if xs.all isCaseIgnorable then startsCased ys else startsCased xs := by
  induction xs with
  | nil => rfl
  | cons x xs ih =>
    cases hx : isCaseIgnorable x with
    | false => simp [startsCased, hx]
    | true =>
      have hcons (zs : List Char) : startsCased (x :: zs) = startsCased zs := by
        rw [startsCased, List.dropWhile_cons_of_pos hx, startsCased]
      rw [List.cons_append, hcons, hcons, ih, List.all_cons, hx, Bool.true_and]

theorem startsCased_of_all (h : xs.all isCaseIgnorable = true) : startsCased xs = false := by
  have hnone : xs.dropWhile isCaseIgnorable = [] :=
    List.dropWhile_eq_nil_iff.mpr (List.all_eq_true.mp h)
  rw [startsCased, hnone]

theorem startsCased_append_eq (h : ¬(xs.all isCaseIgnorable = true ∧ startsCased ys = true)) :
    startsCased (xs ++ ys) = startsCased xs := by
  rw [startsCased_append]
  split
  · next hall =>
    have hys : startsCased ys = false := Bool.eq_false_iff.mpr fun hys => h ⟨hall, hys⟩
    rw [hys, startsCased_of_all hall]
  · rfl

/-- A capital sigma of the part has another form in the text than in the part alone. -/
def SigmaChanges (before part after : List Char) : Prop :=
  ∃ p q, part = p ++ 'Σ' :: q ∧
    lowercaseSigma (p.reverse ++ before.reverse) (q ++ after) ≠ lowercaseSigma p.reverse q

/-- A capital sigma of the part sees a cased character beyond an end of the part. -/
def SigmaExposed (before part after : List Char) : Prop :=
  ∃ p q, part = p ++ 'Σ' :: q ∧
    (p.all isCaseIgnorable = true ∧ startsCased before.reverse = true ∨
      q.all isCaseIgnorable = true ∧ startsCased after = true)

theorem SigmaChanges.exposed (h : SigmaChanges before part after) :
    SigmaExposed before part after := by
  obtain ⟨p, q, hsplit, hchange⟩ := h
  refine ⟨p, q, hsplit, ?_⟩
  by_contra hhidden
  rw [not_or] at hhidden
  have hbefore : startsCased (p.reverse ++ before.reverse) = startsCased p.reverse :=
    startsCased_append_eq fun hseen => hhidden.1 ⟨List.all_reverse ▸ hseen.1, hseen.2⟩
  have hafter : startsCased (q ++ after) = startsCased q := startsCased_append_eq hhidden.2
  rw [lowercaseSigma, lowercaseSigma, hbefore, hafter] at hchange
  exact hchange rfl

theorem SigmaExposed.mem (h : SigmaExposed before part after) : 'Σ' ∈ part := by
  obtain ⟨p, q, rfl, -⟩ := h
  exact List.mem_append_right p List.mem_cons_self

theorem SigmaExposed.beside_cased (h : SigmaExposed before part after) :
    startsCased before.reverse = true ∨ startsCased after = true := by
  obtain ⟨p, q, -, hends⟩ := h
  exact hends.imp And.right And.right

theorem lowercaseChars_infix (h : ¬SigmaChanges before part after) :
    lowercaseChars part <:+: lowercaseChars (before ++ part ++ after) := by
  have hamid : lowercaseAmid before.reverse part after = lowercaseAmid [] part [] := by
    refine lowercaseAmid_congr fun p q hsplit => ?_
    rw [List.append_nil, List.append_nil]
    by_contra hchange
    exact h ⟨p, q, hsplit, hchange⟩
  rw [lowercaseChars_eq part, ← hamid]
  exact lowercaseAmid_infix before part after

end RowQuery.Text
