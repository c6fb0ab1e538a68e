import SolverDeck.Decimal.Layout

/-!
# What numbers are set with

The text of a floating-point number is made of digits, a point, an exponent mark and signs,
whatever the layout, save for the words that stand for an infinity and a not-a-number. So it has
nothing in it that separates lines, or labels from values.
-/

namespace SolverDeck

namespace Layout

/-- A character that the text of a finite number may have. -/
def Uses (layout : Layout) (c : Char) : Prop :=
  c.isDigit = true ∨ c = '.' ∨ c = 'e' ∨ c = '-' ∨ (c = '+' ∧ layout.writesPlus = true)

variable {layout : Layout} {digits : List Char} {lead : Int} {c : Char}

theorem isDigit_of_mem_decimalDigits {n : Nat} (h : c ∈ decimalDigits n) : c.isDigit = true :=
  Nat.isDigit_of_mem_toDigits (by decide) (by decide) h

theorem isDigit_of_mem_zeros {n : Nat} (h : c ∈ List.replicate n '0') : c.isDigit = true := by
  rw [List.eq_of_mem_replicate h]
  decide

theorem uses_of_mem_plain (hdigits : ∀ c ∈ digits, c.isDigit = true) (h : c ∈ plain digits lead) :
    layout.Uses c := by
  unfold plain at h
  split at h
  · rw [List.mem_cons, List.mem_cons, List.mem_append] at h
    rcases h with rfl | rfl | h | h
    · exact Or.inl (by decide)
    · exact Or.inr (Or.inl rfl)
    · exact Or.inl (isDigit_of_mem_zeros h)
    · exact Or.inl (hdigits c h)
  · dsimp only at h
    split at h
    · simp only [List.mem_append, List.mem_cons, List.not_mem_nil, or_false] at h
      rcases h with (h | h) | rfl | rfl
      · exact Or.inl (hdigits c h)
      · exact Or.inl (isDigit_of_mem_zeros h)
      · exact Or.inr (Or.inl rfl)
      · exact Or.inl (by decide)
    · rw [List.mem_append, List.mem_cons] at h
      rcases h with h | rfl | h
      · exact Or.inl (hdigits c (List.mem_of_mem_take h))
      · exact Or.inr (Or.inl rfl)
      · exact Or.inl (hdigits c (List.mem_of_mem_drop h))

theorem uses_of_mem_exponentText (h : c ∈ layout.exponentText lead) : layout.Uses c := by
  rw [exponentText, List.mem_append] at h
  rcases h with h | h
  · split at h
    · exact Or.inr (Or.inr (Or.inr (Or.inl (List.mem_singleton.mp h))))
    · split at h
      case _ hplus =>
          exact Or.inr (Or.inr (Or.inr (Or.inr ⟨List.mem_singleton.mp h, hplus⟩)))
      case _ => exact absurd h List.not_mem_nil
  · exact Or.inl (isDigit_of_mem_decimalDigits h)

theorem uses_of_mem_scientific (hdigits : ∀ c ∈ digits, c.isDigit = true)
    (h : c ∈ layout.scientific digits lead) : layout.Uses c := by
  unfold scientific at h
  dsimp only at h
  rw [List.mem_append, List.mem_cons] at h
  rcases h with h | rfl | h
  · split at h
    case _ first second more =>
        rw [List.mem_cons, List.mem_cons] at h
        rcases h with rfl | rfl | h
        · exact Or.inl (hdigits c List.mem_cons_self)
        · exact Or.inr (Or.inl rfl)
        · exact Or.inl (hdigits c (List.mem_cons_of_mem first h))
    case _ => exact Or.inl (hdigits c h)
  · exact Or.inr (Or.inr (Or.inl rfl))
  · exact uses_of_mem_exponentText h

theorem uses_of_mem_setDecimal {d : Decimal} (h : c ∈ layout.setDecimal d) : layout.Uses c := by
  have hdigits : ∀ c ∈ ((decimalDigits d.digits).reverse.dropWhile (· == '0')).reverse,
      c.isDigit = true := by
    intro c hc
    have hall := (List.dropWhile_sublist _).mem (List.mem_reverse.mp hc)
    exact isDigit_of_mem_decimalDigits (List.mem_reverse.mp hall)
  unfold setDecimal at h
  simp only at h
  split at h
  · exact uses_of_mem_plain hdigits h
  · exact uses_of_mem_scientific hdigits h

end Layout

namespace Binary64

variable {layout : Layout} {c : Char}

theorem isNaN_of_isFinite {x : Binary64} (hx : x.isFinite = true) : x.isNaN = false := by
  simp only [isFinite, decide_eq_true_eq] at hx
  simp only [isNaN, Bool.and_eq_false_imp, beq_iff_eq]
  omega

/-- The text of a finite number has only what its layout sets numbers with. -/
theorem uses_of_mem_text {x : Binary64} (hx : x.isFinite = true) (h : c ∈ (x.text layout).toList) :
    layout.Uses c := by
  rw [text, isNaN_of_isFinite hx, if_neg Bool.false_ne_true, hx, if_pos rfl, String.toList_ofList,
    List.mem_append] at h
  rcases h with h | h
  · split at h
    · exact Or.inr (Or.inr (Or.inr (Or.inl (List.mem_singleton.mp h))))
    · exact absurd h List.not_mem_nil
  · unfold magnitudeText at h
    split at h
    · simp only [List.mem_cons, List.not_mem_nil, or_false] at h
      rcases h with rfl | rfl | rfl
      · exact Or.inl (by decide)
      · exact Or.inr (Or.inl rfl)
      · exact Or.inl (by decide)
    · exact Layout.uses_of_mem_setDecimal h

/-- No number has a line feed in its text. -/
theorem lineFeed_not_mem_text (layout : Layout) (x : Binary64) : '\n' ∉ (x.text layout).toList := by
  intro h
  cases hx : x.isFinite with
  | true =>
      have huses := uses_of_mem_text hx h
      simp [Layout.Uses] at huses
  | false =>
      unfold text at h
      split at h
      · exact absurd h (by decide)
      · rw [hx, if_neg Bool.false_ne_true] at h
        revert h
        cases x.isNegative <;> decide

end Binary64

end SolverDeck
