/-!
# White space

The characters with the Unicode property `White_Space`, and removal of them from the
ends of a text. The set is wider than `Char.isWhitespace` (which knows ASCII alone, and
of ASCII neither the vertical tab nor the form feed) and it leaves out characters that
only look blank: the zero-width space and the byte order mark are not white space.

`isBlank_of_isWhitespace` says that no blank of `Char.isWhitespace` is missed, and
`trimEnd_append_blanks` that blanks at the end of a text do not reach its trimmed form.
-/

namespace TransformerEngine.Text

/-- `c` has the Unicode property `White_Space`. -/
def isBlank (c : Char) : Bool :=
  let n := c.toNat
  (0x09 ≤ n && n ≤ 0x0D) || n == 0x20 || n == 0x85 || n == 0xA0 || n == 0x1680 ||
    (0x2000 ≤ n && n ≤ 0x200A) || n == 0x2028 || n == 0x2029 || n == 0x202F ||
    n == 0x205F || n == 0x3000

/-- The list without the blanks it begins with. -/
def dropBlanks (cs : List Char) : List Char := cs.dropWhile isBlank

/-- The list without the blanks it ends in. -/
def dropBlanksEnd (cs : List Char) : List Char := (dropBlanks cs.reverse).reverse

/-- `text` without the blanks at its end. -/
def trimEnd (text : String) : String := String.ofList (dropBlanksEnd text.toList)

/-- `text` without the blanks at either end. -/
def trim (text : String) : String := String.ofList (dropBlanksEnd (dropBlanks text.toList))

theorem isBlank_of_isWhitespace {c : Char} (h : c.isWhitespace = true) : isBlank c = true := by
  simp only [Char.isWhitespace, Bool.or_eq_true, decide_eq_true_eq] at h
  rcases h with ((h | h) | h) | h <;> subst h <;> decide

theorem dropBlanks_of_all {cs : List Char} (h : ∀ c ∈ cs, isBlank c = true) (rest : List Char) :
    dropBlanks (cs ++ rest) = dropBlanks rest := by
  induction cs with
  | nil => rfl
  | cons c cs ih =>
    have hc := h c (by simp)
    simp only [dropBlanks, List.cons_append, List.dropWhile_cons, hc, if_true]
    exact ih fun d hd => h d (by simp [hd])

theorem dropBlanksEnd_append_blanks (cs : List Char) {blanks : List Char}
    (h : ∀ c ∈ blanks, isBlank c = true) : dropBlanksEnd (cs ++ blanks) = dropBlanksEnd cs := by
  unfold dropBlanksEnd
  rw [List.reverse_append, dropBlanks_of_all]
  intro c hc
  exact h c (List.mem_reverse.mp hc)

theorem trimEnd_append_blanks (text blanks : String)
    (h : ∀ c ∈ blanks.toList, isBlank c = true) : trimEnd (text ++ blanks) = trimEnd text := by
  simp only [trimEnd, String.toList_append, dropBlanksEnd_append_blanks _ h]

end TransformerEngine.Text
