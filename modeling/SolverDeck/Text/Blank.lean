import SolverDeck.Text.CodePoints

/-!
# Blanks

Blank characters are those with the Unicode property White_Space; a blank text is
one without any other. `trim` removes the blanks at both ends of a text and leaves
those inside alone.
-/

namespace SolverDeck.Text

/-- A character with the property White_Space. -/
def isBlank (c : Char) : Bool :=
  CodePoints.blank.holds c

/-- The characters of a text without the blanks at its two ends. -/
def trim (s : List Char) : List Char :=
  ((s.dropWhile isBlank).reverse.dropWhile isBlank).reverse

/-- Has the text no character but blanks? -/
def isBlankText (s : String) : Bool :=
  s.toList.all isBlank

/-- A blank text is one of which trimming leaves nothing. -/
theorem trim_eq_nil_iff (s : List Char) : trim s = [] ↔ s.all isBlank = true := by
  induction s with
  | nil => simp [trim]
  | cons c s ih =>
      by_cases h : isBlank c = true
      · simpa [trim, h] using ih
      · simp only [trim, List.dropWhile_cons_of_neg h, List.reverse_cons, List.dropWhile_append,
          List.isEmpty_iff, List.all_cons, h, Bool.false_and]
        split <;> simp

end SolverDeck.Text
