import SolverDeck.Proofs.Decimal.Characters
import SolverDeck.Proofs.Decimal.Closest
import SolverDeck.Proofs.Value.Numbers

/-!
# Floating-point numbers as they are shown

A finite number is shown as a literal with a point or an exponent, so that no integer has the same
text. The literal has the sign of the number, and its decimal lies in the span of the number
(`Value.exists_literal_display`). Hence nothing is lost in the text. A reader that rounds to nearest
gets the number back from it, to the last bit, and different numbers have different texts
(`Value.display_real`).
-/

namespace SolverDeck

open Json (Literal)

/-! ### Marks of a floating-point number -/

namespace Json.Literal

variable {l : Literal}

theorem point_mem_chars (h : l.fraction ≠ []) : '.' ∈ l.chars := by
  rw [chars, fractionChars_of_ne h]
  simp

theorem mark_mem_chars {e : Exponent} (h : l.exponent = some e) : e.mark ∈ l.chars := by
  simp [chars, exponentChars, h, Exponent.chars]

end Json.Literal

namespace Value

variable {x y : Binary64} {l : Literal} {c : Char}

theorem uses_of_mem_display (hx : x.isFinite = true) (h : c ∈ (real x).display.toList) :
    c.isDigit = true ∨ c = '-' ∨ c = '.' ∨ c = 'e' := by
  have huses := Binary64.uses_of_mem_text hx h
  simp only [Layout.Uses, layout, Bool.false_eq_true, and_false, or_false] at huses
  rcases huses with hc | hc | hc | hc <;> simp [hc]

theorem display_int_ne (hl : l.chars = (real x).display.toList)
    (hmarked : l.fraction ≠ [] ∨ l.exponent ≠ none) (n : Int64) :
    (int n).display ≠ (real x).display := by
  intro hsame
  have hint : (Literal.ofInt n.toInt).chars = l.chars := by
    rw [Literal.chars_ofInt, hl, ← hsame, display]
  obtain rfl := Literal.chars_injective hint
  simp [Literal.ofInt] at hmarked

theorem display_bool_ne (hx : x.isFinite = true) (b : Bool) :
    (bool b).display ≠ (real x).display := by
  intro hsame
  have hmem : (if b then 't' else 'f') ∈ (real x).display.toList := by
    rw [← hsame]
    cases b <;> simp [display]
  have huses := uses_of_mem_display hx hmem
  cases b <;> simp at huses

/-! ### The literal that is shown -/

/-- A finite number is shown as a literal that leads back to it. -/
theorem exists_literal_display (hx : x.isFinite = true) :
    ∃ l : Literal, l.chars = (real x).display.toList ∧ (l.fraction ≠ [] ∨ l.exponent ≠ none) ∧
      l.negative = x.isNegative ∧ x.ClosestTo l.decimal.value ∧
      Binary64.nearest l.negative l.decimal.ratio = x := by
  cases hzero : x.isZero with
  | true =>
      obtain ⟨l, hchars, hnegative, hfraction, -, hdecimal⟩ := Binary64.pointed_zero hzero layout
      rw [← Binary64.toList_text hx] at hchars
      have hvalue : l.decimal.value = 0 := by simp [hdecimal, Decimal.value]
      have hnum : l.decimal.ratio.num = 0 := by simp [hdecimal, Decimal.ratio]
      refine ⟨l, hchars, .inl hfraction, hnegative, ?_, ?_⟩
      · rw [hvalue]
        exact Binary64.closestTo_zero hzero
      · rw [Binary64.nearest, if_pos hnum, hnegative, ← Binary64.isZero_iff.mp hzero,
          Binary64.withSign_magnitudeBits]
  | false =>
      obtain ⟨l, hchars, hspells⟩ := Binary64.exists_literal_text hx hzero layout (by decide)
      obtain ⟨hholds, -⟩ := Binary64.shortest_spec hx hzero layout.tie
      rw [← Span.holds_congr hspells.value_eq] at hholds
      refine ⟨l, hchars, hspells.real, hspells.negative_eq, Binary64.closestTo_of_holds hholds, ?_⟩
      rw [Binary64.nearest_of_holds hx hzero hholds, hspells.negative_eq,
        Binary64.withSign_magnitudeBits]

/-- **Floating-point numbers.** The text of a finite number has a point or an exponent, only digits
and `-` besides, and is the text of no integer and of no truth value. It is a literal with the sign of
the number, and its decimal is rounded to just that number, to nearest and ties to even. So no other
finite number has the same text. -/
theorem display_real (hx : x.isFinite = true) :
    ('.' ∈ (real x).display.toList ∨ 'e' ∈ (real x).display.toList) ∧
    (∀ c ∈ (real x).display.toList, c.isDigit = true ∨ c = '-' ∨ c = '.' ∨ c = 'e') ∧
    (∀ n, (int n).display ≠ (real x).display) ∧
    (∀ b, (bool b).display ≠ (real x).display) ∧
    (∃ l : Literal, l.chars = (real x).display.toList ∧ l.negative = x.isNegative ∧
      x.ClosestTo l.decimal.value ∧ Binary64.nearest l.negative l.decimal.ratio = x) ∧
    ∀ y : Binary64, y.isFinite = true → (real y).display = (real x).display → y = x := by
  obtain ⟨l, hchars, hmarked, hnegative, hclosest, hnearest⟩ := exists_literal_display hx
  have huses : ∀ c ∈ (real x).display.toList, c.isDigit = true ∨ c = '-' ∨ c = '.' ∨ c = 'e' := by
    intro c hc
    exact uses_of_mem_display hx hc
  refine ⟨?_, huses, display_int_ne hchars hmarked, display_bool_ne hx,
    ⟨l, hchars, hnegative, hclosest, hnearest⟩, ?_⟩
  · rcases hmarked with hfraction | hexponent
    · exact .inl (hchars ▸ Literal.point_mem_chars hfraction)
    · obtain ⟨e, he⟩ := Option.ne_none_iff_exists'.mp hexponent
      have hmark : e.mark ∈ (real x).display.toList := hchars ▸ Literal.mark_mem_chars he
      rcases e.mark_eq with hsmall | hlarge
      · exact .inr (hsmall ▸ hmark)
      · -- A capital letter is not used.
        have hnone := huses _ hmark
        rw [hlarge] at hnone
        simp at hnone
  · intro y hy hsame
    obtain ⟨l', hchars', -, -, -, hnearest'⟩ := exists_literal_display hy
    rw [hsame] at hchars'
    obtain rfl := Literal.chars_injective (hchars'.trans hchars.symm)
    rw [← hnearest', hnearest]

/-- The least positive number, of one digit. -/
theorem display_real_least :
    (Binary64.mk 1).isFinite = true ∧ (real ⟨1⟩).display = "5e-324" ∧
      (∃ l : Literal, l.chars = "5e-324".toList ∧ (Binary64.mk 1).ClosestTo l.decimal.value) ∧
      ∀ y : Binary64, y.isFinite = true → (real y).display = "5e-324" → y = ⟨1⟩ := by
  have hfinite : (Binary64.mk 1).isFinite = true := by decide +kernel
  have htext : (real ⟨1⟩).display = "5e-324" := by decide +kernel
  obtain ⟨-, -, -, -, ⟨l, hchars, -, hclosest, -⟩, hsame⟩ := display_real hfinite
  rw [htext] at hchars hsame
  exact ⟨hfinite, htext, ⟨l, hchars, hclosest⟩, hsame⟩

end Value

end SolverDeck
