import SolverDeck.Proofs.Case.Literals
import SolverDeck.Proofs.Case.Spelling
import SolverDeck.Proofs.Value.Integers

/-!
# Integers in cases

The numbers in the values of a case are those written in its text, one for one and in order
(`Case.readAs_ofTree?`). And a number that is read as an integer is written as a numeral that fits,
which is what the integer is shown as (`Value.exists_numeral`).

So an integer that a case file writes is kept to the last digit, or it is no longer an integer
(`Case.integers_kept`).
-/

namespace SolverDeck

open Json (Numeral Literal Tree Blank)

namespace Case

/-! ### Integers -/

/-- **Integers are kept.** A text that is a numeral is read as an integer just if that has 64 bits
and is not spelled `-0`. Then it is the integer that is written, and shown as it is written.
Otherwise it is read as a floating-point number, or it is out of range. In turn, every integer is
read back from its display.

The numbers of a case, whatever lists they are in, are one for one the numbers written in its text;
any of them that is an integer is written with its own digits. -/
theorem integers_kept :
    (∀ w : Numeral,
      ((∃ n, Value.parse w.text = .ok (.int n)) ↔
        Int64.minValue.toInt ≤ w.value ∧ w.value ≤ Int64.maxValue.toInt ∧ w.text ≠ "-0") ∧
      (∀ n, Value.parse w.text = .ok (.int n) →
        n.toInt = w.value ∧ (Value.int n).display = w.text) ∧
      ((∃ n, Value.parse w.text = .ok (.int n)) ∨ (∃ x, Value.parse w.text = .ok (.real x)) ∨
        ∃ refusal, Value.parse w.text = .error refusal ∧
          refusal.problem.message = "number out of range")) ∧
    (∀ n : Int64, Value.parse (Value.int n).display = .ok (.int n)) ∧
    ∀ (t : Tree) (before cs after : List Char) (c : Case), Blank before → t.Spells cs →
      parse (String.ofList (before ++ (cs ++ after))) = .ok c →
      List.Forall₂ (fun l v => ∀ n, v = .int n → l.chars = (Value.int n).display.toList)
        t.literals (c.parameters.flatMap fun p => p.value.numbers) := by
  refine ⟨fun w => ⟨⟨?_, ?_⟩, ?_, ?_⟩, Value.parse_display_int, ?_⟩
  · rintro ⟨n, hn⟩
    exact (Value.parse_eq_int_iff.mp hn).1
  · intro h
    exact ⟨_, Value.parse_of_fits h⟩
  · intro n hn
    obtain ⟨hfits, rfl⟩ := Value.parse_eq_int_iff.mp hn
    exact ⟨Value.toInt_of_fits hfits, Value.display_of_fits hfits⟩
  · by_cases hfits : w.Fits
    · exact .inl ⟨_, Value.parse_of_fits hfits⟩
    · obtain hreal | ⟨refusal, hrefusal, hproblem⟩ := Value.parse_of_not_fits hfits
      · exact .inr (.inl hreal)
      · exact .inr (.inr ⟨refusal, hrefusal, by rw [hproblem]; rfl⟩)
  · intro t before cs after c hbefore hcs hc
    refine (readAs_ofTree? (ofTree?_of_parse hbefore hcs hc)).imp fun l v hv n hn => ?_
    obtain ⟨m, hm, rfl⟩ := Option.map_eq_some_iff.mp hv
    obtain ⟨w, rfl, hfits, rfl⟩ := Value.exists_numeral hm hn
    rw [w.chars_literal, Value.display_of_fits hfits]

/-- The least integer, as a text of its own and in a case. -/
theorem integers_kept_least :
    (Value.parse "-9223372036854775808" = .ok (.int .minValue) ∧
      (Value.int .minValue).display = "-9223372036854775808") ∧
    parse "\x7b\"parameters\":[\x7b\"value\":-9223372036854775808\x7d]\x7d" =
        .ok ⟨none, [⟨none, none, .int .minValue⟩]⟩ ∧
      (Literal.ofInt Int64.minValue.toInt).chars = (Value.int .minValue).display.toList := by
  obtain ⟨w, htext, -⟩ := Numeral.exists_text_eq Int64.minValue.toInt
  have hspelled : toString Int64.minValue.toInt = "-9223372036854775808" := by decide +kernel
  have hparse : Value.parse w.text = .ok (.int .minValue) := by
    rw [htext]
    exact Value.parse_display_int .minValue
  have hkept := (integers_kept.1 w).2.1 .minValue hparse
  rw [htext, hspelled] at hparse hkept
  have hkey : ∀ s ∈ ["value", "parameters"], Json.Written (Json.plain s) s.toList := by
    intro s hs
    exact Json.written_plain (by revert s; decide)
  have hnumber : Tree.Spells (.number (.ofInt Int64.minValue.toInt))
      "-9223372036854775808".toList := by
    rw [← hspelled, ← Literal.chars_ofInt]
    exact .number _
  have hcs : Tree.Spells (.object [(Json.plain "parameters",
      .list [.object [(Json.plain "value", .number (.ofInt Int64.minValue.toInt))]])]) _ :=
    .object (.first Blank.nil (.entry (hkey _ (by decide)) Blank.nil Blank.nil
      (.list (.first Blank.nil (.object (.first Blank.nil
        (.entry (hkey _ (by decide)) Blank.nil Blank.nil hnumber) (.done Blank.nil)))
        (.done Blank.nil)))) (.done Blank.nil))
  have hc : WrittenAs Value.WrittenAs ⟨none, [⟨none, none, .int .minValue⟩]⟩
      (.object [(Json.plain "parameters",
        .list [.object [(Json.plain "value", .number (.ofInt Int64.minValue.toInt))]])]) :=
    .object .omitted (.list (Json.textOf?_plain _) (.cons
      (.object .omitted .omitted (Json.textOf?_plain _) (.int _) (.refl _)) .nil)) (.refl _)
  have hnesting : ∀ p ∈ [(⟨none, none, .int .minValue⟩ : Parameter)],
      p.value.nesting ≤ valueLevels := by simp [Value.nesting]
  have hcase : parse (String.ofList ([] ++ (_ ++ []))) = _ :=
    hc.parse (fun _ hp _ ht => ht.value? valueLevels (hnesting _ hp)) hcs Blank.nil Blank.nil
  have hnumbers := integers_kept.2.2 _ _ _ _ _ Blank.nil hcs hcase
  refine ⟨⟨hparse, hkept.2⟩, Eq.trans (congrArg parse ?_) hcase, ?_⟩
  · decide +kernel
  · exact (List.forall₂_cons.mp hnumbers).1 _ rfl

end Case

end SolverDeck
