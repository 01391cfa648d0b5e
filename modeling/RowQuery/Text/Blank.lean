/-!
# Blank characters

The characters with the Unicode property White_Space, and texts stripped of them at both ends.
-/
namespace RowQuery.Text

def isBlank (c : Char) : Bool :=
  let n := c.toNat
  (9 ≤ n && n ≤ 13) || n == 0x20 || n == 0x85 || n == 0xA0 || n == 0x1680 ||
    (0x2000 ≤ n && n ≤ 0x200A) || n == 0x2028 || n == 0x2029 || n == 0x202F || n == 0x205F ||
    n == 0x3000

def trimChars (cs : List Char) : List Char :=
  ((cs.dropWhile isBlank).reverse.dropWhile isBlank).reverse

def trim (s : String) : String := String.ofList (trimChars s.toList)

/-- A text, and what is left of it without the blanks at both ends. -/
structure Stripped (cs core : List Char) : Prop where
  around : ∃ before after, cs = before ++ core ++ after ∧ (∀ c ∈ before, isBlank c = true) ∧
    ∀ c ∈ after, isBlank c = true
  first : ∀ c ∈ core.head?, isBlank c = false
  last : ∀ c ∈ core.getLast?, isBlank c = false

theorem dropWhile_of_head? {cs : List Char} (h : ∀ c ∈ cs.head?, isBlank c = false) :
    cs.dropWhile isBlank = cs := by
  cases cs with
  | nil => rfl
  | cons c cs => exact List.dropWhile_cons_of_neg (by simp [h c rfl])

theorem head?_dropWhile (cs : List Char) :
    ∀ c ∈ (cs.dropWhile isBlank).head?, isBlank c = false := by
  intro c hc
  have hnot := List.head?_dropWhile_not isBlank cs
  rwa [hc] at hnot

theorem Stripped.trimChars_eq {cs core : List Char} (h : Stripped cs core) :
    trimChars cs = core := by
  obtain ⟨before, after, rfl, hbefore, hafter⟩ := h.around
  have hback : (core.reverse).dropWhile isBlank = core.reverse :=
    dropWhile_of_head? fun c hc => h.last c (by rwa [List.head?_reverse] at hc)
  have hblank : ∀ c ∈ after.reverse, isBlank c = true := fun c hc =>
    hafter c (List.mem_reverse.mp hc)
  rw [trimChars, List.append_assoc, List.dropWhile_append_of_pos hbefore]
  cases core with
  | nil =>
    have hnone : after.dropWhile isBlank = [] := by
      have hend := @List.dropWhile_append_of_pos _ isBlank after [] hafter
      rwa [List.append_nil] at hend
    rw [List.nil_append, hnone]
    rfl
  | cons c core =>
    rw [List.cons_append, List.dropWhile_cons_of_neg (by simp [h.first c rfl]), ← List.cons_append,
      List.reverse_append, List.dropWhile_append_of_pos hblank, hback, List.reverse_reverse]

theorem stripped_trimChars (cs : List Char) : Stripped cs (trimChars cs) := by
  refine ⟨⟨cs.takeWhile isBlank,
    ((cs.dropWhile isBlank).reverse.takeWhile isBlank).reverse, ?_, ?_, ?_⟩, ?_, ?_⟩
  · rw [trimChars, List.append_assoc, ← List.reverse_append, List.takeWhile_append_dropWhile,
      List.reverse_reverse, List.takeWhile_append_dropWhile]
  · exact List.all_eq_true.mp List.all_takeWhile
  · intro c hc
    exact List.all_eq_true.mp List.all_takeWhile c (List.mem_reverse.mp hc)
  · -- A blank at the front would have been dropped before the text was turned around.
    intro c hc
    refine head?_dropWhile cs c ?_
    rw [← List.reverse_reverse (cs.dropWhile isBlank), List.head?_reverse]
    rw [trimChars, List.head?_reverse] at hc
    have hsplit : (cs.dropWhile isBlank).reverse.takeWhile isBlank ++
        (cs.dropWhile isBlank).reverse.dropWhile isBlank = (cs.dropWhile isBlank).reverse :=
      List.takeWhile_append_dropWhile
    rw [← hsplit, List.getLast?_append, hc]
    rfl
  · intro c hc
    rw [trimChars, List.getLast?_reverse] at hc
    exact head?_dropWhile _ c hc

def isBlankText (s : String) : Bool := s.toList.all isBlank

end RowQuery.Text
