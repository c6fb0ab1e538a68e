import SolverDeck.Proofs.Case.Tree
import SolverDeck.Proofs.Json.Numeral
import SolverDeck.Proofs.Json.Spelled

/-!
# Integers as values

A numeral is read as an integer just if it fits 64 bits and is not `-0`; then it is that integer,
and its display is the numeral again (`Value.parse_of_fits`, `Value.display_of_fits`). Every other
numeral becomes a floating-point number or is refused as too large (`Value.parse_of_not_fits`).

Two limits lie behind this that are not the same. Digits are gathered up to `2 ^ 64`, whatever the
sign, and only then the sign and `2 ^ 63` decide (`Value.ofNumber_wholeNumber`).

A number with a point or an exponent never becomes an integer, so an integer was always written as a
numeral (`Value.exists_numeral`).
-/

namespace SolverDeck

open Json (Numeral Literal Blank Stops)

/-- The integer has 64 bits, and it is not zero with a minus. -/
def Json.Numeral.Fits (w : Numeral) : Prop :=
  Int64.minValue.toInt ≤ w.value ∧ w.value ≤ Int64.maxValue.toInt ∧ w.text ≠ "-0"

namespace Value

variable {w : Numeral} {l : Literal} {n : Int64} {before rest : List Char}

/-! ### Numbers -/

theorem toInt_minValue : Int64.minValue.toInt = -Json.signedLimit := by decide

theorem toInt_maxValue : Int64.maxValue.toInt = Json.signedLimit - 1 := by decide

theorem ofNumber_wholeNumber (w : Numeral) :
    (w.Fits ∧ ofNumber (Json.wholeNumber w.negative w.magnitude) = .int (.ofInt w.value)) ∨
      ¬ w.Fits ∧ ∃ x, ofNumber (Json.wholeNumber w.negative w.magnitude) = .real x := by
  rw [Numeral.Fits, toInt_minValue, toInt_maxValue, Ne, Numeral.text_eq_minusZero_iff,
    Json.wholeNumber, Numeral.value]
  cases w.negative with
  | true =>
      simp only [if_true, true_and]
      split
      case isTrue h => exact .inr ⟨by omega, _, rfl⟩
      case isFalse h => exact .inl ⟨by omega, by rw [ofNumber, if_pos (by omega)]⟩
  | false =>
      simp only [Bool.false_eq_true, if_false, false_and, not_false_eq_true, and_true]
      by_cases h : (w.magnitude : Int) < Json.signedLimit
      · exact .inl ⟨by omega, by rw [ofNumber, if_pos h]⟩
      · exact .inr ⟨by omega, _, by rw [ofNumber, if_neg h]⟩

theorem magnitude_le_of_fits (h : w.Fits) : w.magnitude ≤ Json.mostSignificand := by
  have hsigned : Json.signedLimit ≤ Json.mostSignificand := by decide
  obtain ⟨hleast, hmost, -⟩ := h
  rw [toInt_minValue] at hleast
  rw [toInt_maxValue] at hmost
  rw [← w.natAbs_value]
  omega

/-- **Numerals.** As a value, a numeral is an integer just if it fits. -/
theorem readNumber_fits (w : Numeral) (hrest : Stops rest) :
    (w.Fits ∧ (Json.readNumber (w.text.toList ++ rest)).map ofNumber =
      .ok (.int (.ofInt w.value), rest)) ∨
    ¬ w.Fits ∧
      ((∃ x, (Json.readNumber (w.text.toList ++ rest)).map ofNumber = .ok (.real x, rest)) ∨
        (Json.readNumber (w.text.toList ++ rest)).map ofNumber =
          .error (.here .numberTooLarge rest)) := by
  by_cases h : w.magnitude ≤ Json.mostSignificand
  · rw [Numeral.readNumber_of_le h hrest, Json.Result.map]
    obtain ⟨hfits, hvalue⟩ | ⟨hfits, x, hvalue⟩ := ofNumber_wholeNumber w
    · exact .inl ⟨hfits, by rw [hvalue]⟩
    · exact .inr ⟨hfits, .inl ⟨x, by rw [hvalue]⟩⟩
  · refine .inr ⟨fun hfits => h (magnitude_le_of_fits hfits), ?_⟩
    obtain ⟨x, hread⟩ | hread := Numeral.readNumber_of_lt (Nat.lt_of_not_le h) hrest
    · exact .inl ⟨x, by rw [hread]; rfl⟩
    · exact .inr (by rw [hread]; rfl)

/-! ### Reading -/

theorem read_literal (l : Literal) (levels : Nat) (hbefore : Blank before) (rest : List Char) :
    read levels (before ++ (l.chars ++ rest)) = (Json.readNumber (l.chars ++ rest)).map ofNumber := by
  rw [read, Json.readDocument_literal l levels hbefore rest]
  cases Json.readNumber (l.chars ++ rest) <;> rfl

theorem read_numeral (w : Numeral) (levels : Nat) :
    read levels w.text.toList = (Json.readNumber (w.text.toList ++ [])).map ofNumber := by
  have hread := read_literal w.literal levels Blank.nil []
  rw [w.chars_literal, List.nil_append] at hread
  rwa [List.append_nil] at hread ⊢

theorem parse_of_fits (h : w.Fits) : parse w.text = .ok (.int (.ofInt w.value)) := by
  obtain ⟨-, hread⟩ | ⟨hfits, -⟩ := readNumber_fits w Stops.nil
  · rw [parse, Json.readWhole, read_numeral, hread]
    rfl
  · exact absurd h hfits

theorem parse_of_not_fits (h : ¬ w.Fits) :
    (∃ x, parse w.text = .ok (.real x)) ∨
      ∃ refusal, parse w.text = .error refusal ∧ refusal.problem = .numberTooLarge := by
  rw [parse, Json.readWhole, read_numeral]
  obtain ⟨hfits, -⟩ | ⟨-, ⟨x, hread⟩ | hread⟩ := readNumber_fits w Stops.nil
  · exact absurd hfits h
  · rw [hread]
    exact .inl ⟨x, rfl⟩
  · rw [hread]
    exact .inr ⟨_, rfl, rfl⟩

theorem parse_eq_int_iff : parse w.text = .ok (.int n) ↔ w.Fits ∧ n = .ofInt w.value := by
  constructor
  · intro hn
    by_cases hfits : w.Fits
    · rw [parse_of_fits hfits] at hn
      cases hn
      exact ⟨hfits, rfl⟩
    · obtain ⟨x, hreal⟩ | ⟨refusal, hrefusal, -⟩ := parse_of_not_fits hfits
      · rw [hreal] at hn
        cases hn
      · rw [hrefusal] at hn
        cases hn
  · rintro ⟨hfits, rfl⟩
    exact parse_of_fits hfits

/-! ### Display -/

theorem toInt_of_fits (h : w.Fits) : (Int64.ofInt w.value).toInt = w.value := by
  obtain ⟨hleast, hmost, -⟩ := h
  exact Int64.toInt_ofInt_of_le hleast (Int.lt_add_one_of_le hmost)

theorem display_of_fits (h : w.Fits) : (int (.ofInt w.value)).display = w.text := by
  rw [display, toInt_of_fits h, w.text_eq_toString_iff.mpr h.2.2]

/-- An integer is read back from its display. -/
theorem parse_display_int (n : Int64) : parse (int n).display = .ok (.int n) := by
  obtain ⟨w, htext, hvalue⟩ := Numeral.exists_text_eq n.toInt
  have hminus : w.text ≠ "-0" := w.text_eq_toString_iff.mp (by rw [htext, hvalue])
  have hfits : w.Fits := by
    refine ⟨?_, ?_, hminus⟩
    · rw [hvalue]
      exact n.minValue_le_toInt
    · rw [hvalue]
      exact Int64.toInt_le n
  have hparse := parse_of_fits hfits
  rwa [htext, hvalue, Int64.ofInt_toInt] at hparse

/-- Whatever number becomes an integer was written as a numeral that fits. -/
theorem exists_numeral {m : Json.Number} (hl : l.number? = some m) (hn : ofNumber m = .int n) :
    ∃ w : Numeral, w.literal = l ∧ w.Fits ∧ n = .ofInt w.value := by
  obtain ⟨i, rfl⟩ : ∃ i, m = .whole i := by
    cases m with
    | whole i => exact ⟨i, rfl⟩
    | real x => cases hn
  obtain ⟨w, rfl⟩ := Numeral.exists_literal_eq hl
  have hread : Json.readNumber (w.text.toList ++ []) = .ok (.whole i, []) := by
    have hgives := Json.readNumber_literal w.literal Stops.nil
    rwa [hl, w.chars_literal] at hgives
  obtain ⟨hfits, hvalue⟩ | ⟨-, ⟨x, hvalue⟩ | hvalue⟩ := readNumber_fits w Stops.nil
  · rw [hread, Json.Result.map, hn] at hvalue
    exact ⟨w, rfl, hfits, by simpa using hvalue⟩
  · rw [hread, Json.Result.map, hn] at hvalue
    cases hvalue
  · rw [hread] at hvalue
    cases hvalue

end Value

end SolverDeck
