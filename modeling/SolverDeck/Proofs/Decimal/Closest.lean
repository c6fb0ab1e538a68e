import SolverDeck.Proofs.Binary64.Arithmetic
import SolverDeck.Proofs.Decimal.Span

/-!
# Decimals and the numbers closest to them

What a magnitude is rounded to can be said without bits and without rounding: it is the number that is
closest, and of two that are as close the one with the even mantissa (`Binary64.ClosestTo`). A decimal
in the span of a number is a magnitude that the number is closest to (`Binary64.closestTo_of_holds`).

The ends of the span lie half-way to the next numbers on either side, or nearer. What comes next above
is one step away, at whatever exponent it is written (`Binary64.succ_le_of_lt`). Below it is one step
as well, save under a power of two, where steps may be half as long (`Binary64.le_low_of_lt`). There
the quarter of a step is needed that a span goes down.
-/

namespace SolverDeck

namespace Binary64

variable {x : Binary64} {d : Decimal} {m j : ℕ}

/-- The number is what a magnitude is rounded to: closer to it than all others of 53 bits, or as close
with an even mantissa. The others have any exponent from the least one on, as if there were no greatest
number: what is closer to `2 ^ 1024` than to that one is rounded to infinity. -/
def ClosestTo (x : Binary64) (ρ : ℚ) : Prop :=
  ∀ (m : ℕ) (e : ℤ), m < 2 ^ 53 → -1074 ≤ e → (m : ℚ) * 2 ^ e ≠ x.value →
    |x.value - ρ| < |m * 2 ^ e - ρ| ∨ (x.mantissa % 2 = 0 ∧ |x.value - ρ| = |m * 2 ^ e - ρ|)

/-! ### The next numbers -/

theorem normal_of_lt_levelOf (h : j < x.levelOf) : 2 ^ 52 ≤ x.mantissa := by
  rcases x.levelOf_eq_zero_or with hzero | hnormal
  · omega
  · exact hnormal

/-- No number of 53 bits is less than a step above. -/
theorem succ_le_of_lt (hm : m < 2 ^ 53) (h : x.mantissa * 2 ^ x.levelOf < m * 2 ^ j) :
    (x.mantissa + 1) * 2 ^ x.levelOf ≤ m * 2 ^ j := by
  rcases le_or_gt x.levelOf j with hj | hj
  · obtain ⟨i, rfl⟩ := Nat.exists_eq_add_of_le hj
    rw [show m * 2 ^ (x.levelOf + i) = m * 2 ^ i * 2 ^ x.levelOf by ring] at h ⊢
    exact Nat.mul_le_mul_right _ (Nat.lt_of_mul_lt_mul_right h)
  · -- With a lesser exponent there are too few bits to come so far.
    have hnormal := normal_of_lt_levelOf hj
    have hpow : 2 ^ (j + 1) ≤ 2 ^ x.levelOf := Nat.pow_le_pow_right (by norm_num) hj
    have hless : m * 2 ^ j ≤ x.mantissa * 2 ^ x.levelOf :=
      calc m * 2 ^ j ≤ 2 ^ 53 * 2 ^ j := Nat.mul_le_mul_right _ hm.le
        _ = 2 ^ 52 * 2 ^ (j + 1) := by ring
        _ ≤ x.mantissa * 2 ^ x.levelOf := Nat.mul_le_mul hnormal hpow
    omega

/-- The lower end of the span in quarters of a step. -/
theorem le_span_low (x : Binary64) : 4 * x.mantissa - 2 ≤ x.span.low := by
  rw [span]
  dsimp only
  split <;> omega

theorem le_span_low_of_normal (h : 2 ^ 52 ≤ x.mantissa) :
    2 * x.mantissa + (2 ^ 53 - 1) ≤ x.span.low := by
  have hweight : exponentWeight = 2 ^ 52 := by decide
  rw [span]
  dsimp only
  split <;> omega

/-- Any number of 53 bits that is less lies as far below the lower end as the number above it, or
farther. -/
theorem le_low_of_lt (hm : m < 2 ^ 53) (h : m * 2 ^ j < x.mantissa * 2 ^ x.levelOf) :
    2 * (m * 2 ^ j) + 2 * (x.mantissa * 2 ^ x.levelOf) ≤ x.span.low * 2 ^ x.levelOf := by
  rcases le_or_gt x.levelOf j with hj | hj
  · obtain ⟨i, rfl⟩ := Nat.exists_eq_add_of_le hj
    rw [show m * 2 ^ (x.levelOf + i) = m * 2 ^ i * 2 ^ x.levelOf by ring] at h ⊢
    have hlt := Nat.lt_of_mul_lt_mul_right h
    have hlow := x.le_span_low
    calc 2 * (m * 2 ^ i * 2 ^ x.levelOf) + 2 * (x.mantissa * 2 ^ x.levelOf)
        = (2 * (m * 2 ^ i) + 2 * x.mantissa) * 2 ^ x.levelOf := by ring
      _ ≤ x.span.low * 2 ^ x.levelOf := Nat.mul_le_mul_right _ (by omega)
  · have hnormal := normal_of_lt_levelOf hj
    have hpow : 2 ^ (j + 1) ≤ 2 ^ x.levelOf := Nat.pow_le_pow_right (by norm_num) hj
    have hlow := le_span_low_of_normal hnormal
    calc 2 * (m * 2 ^ j) + 2 * (x.mantissa * 2 ^ x.levelOf)
        = m * 2 ^ (j + 1) + 2 * x.mantissa * 2 ^ x.levelOf := by ring
      _ ≤ (2 ^ 53 - 1) * 2 ^ x.levelOf + 2 * x.mantissa * 2 ^ x.levelOf := by
          gcongr
          omega
      _ = (2 * x.mantissa + (2 ^ 53 - 1)) * 2 ^ x.levelOf := by ring
      _ ≤ x.span.low * 2 ^ x.levelOf := Nat.mul_le_mul_right _ hlow

/-! ### Spans -/

theorem closer_than_lesser {u v w : ℚ} (h : w < v) (hmid : w + v < 2 * u) : |v - u| < |w - u| := by
  rw [abs_of_neg (show w - u < 0 by linarith), abs_lt]
  constructor <;> linarith

theorem closer_than_greater {u v w : ℚ} (h : v < w) (hmid : 2 * u < v + w) : |v - u| < |w - u| := by
  rw [abs_of_pos (show 0 < w - u by linarith), abs_lt]
  constructor <;> linarith

theorem as_close {u v w : ℚ} (hmid : w + v = 2 * u) : |v - u| = |w - u| := by
  rw [show v - u = -(w - u) by linarith, abs_neg]

/-- In units of the least positive number, a decimal in the span is closer to the number than to any
other, or as close and the mantissa is even. -/
theorem closer_of_holds (hd : x.span.holds d = true) (hm : m < 2 ^ 53)
    (hne : (m : ℚ) * 2 ^ j ≠ x.units) :
    |x.units - d.ratio.units| < |m * 2 ^ j - d.ratio.units| ∨
      (x.mantissa % 2 = 0 ∧ |x.units - d.ratio.units| = |m * 2 ^ j - d.ratio.units|) := by
  have heven : x.span.closed = true → x.mantissa % 2 = 0 := by simp [span]
  have hunits : x.units = ((x.mantissa * 2 ^ x.levelOf : ℕ) : ℚ) := by
    rw [units]
    push_cast
    rfl
  rcases lt_or_gt_of_ne hne with hless | hmore
  · have hmid : 2 * (m * 2 ^ j) + 2 * x.units ≤ (x.span.low : ℚ) * 2 ^ x.levelOf := by
      rw [hunits] at hless ⊢
      exact_mod_cast le_low_of_lt hm (by exact_mod_cast hless)
    rcases units_of_holds hd with ⟨hlow, -⟩ | ⟨hclosed, hlow, -⟩
    · exact .inl (closer_than_lesser hless (by linarith))
    · by_cases htie : m * 2 ^ j + x.units = 2 * d.ratio.units
      · exact .inr ⟨heven hclosed, as_close htie⟩
      · exact .inl (closer_than_lesser hless (lt_of_le_of_ne (by linarith) htie))
  · have hmid : x.units + 2 ^ x.levelOf ≤ (m : ℚ) * 2 ^ j := by
      have hnext : (x.mantissa + 1) * 2 ^ x.levelOf ≤ m * 2 ^ j := by
        rw [hunits] at hmore
        exact succ_le_of_lt hm (by exact_mod_cast hmore)
      have hcast : (((x.mantissa + 1) * 2 ^ x.levelOf : ℕ) : ℚ) ≤ ((m * 2 ^ j : ℕ) : ℚ) := by
        exact_mod_cast hnext
      rw [units]
      push_cast at hcast
      linarith
    have hhigh : (x.span.high : ℚ) / 4 * 2 ^ x.levelOf = x.units + 2 ^ x.levelOf / 2 := by
      rw [span, units]
      push_cast
      ring
    rcases units_of_holds hd with ⟨-, hupper⟩ | ⟨hclosed, -, hupper⟩
    · exact .inl (closer_than_greater hmore (by linarith))
    · by_cases htie : m * 2 ^ j + x.units = 2 * d.ratio.units
      · exact .inr ⟨heven hclosed, as_close htie⟩
      · refine .inl (closer_than_greater hmore (lt_of_le_of_ne (by linarith) ?_))
        intro h
        exact htie (by linarith)

/-- **Closest numbers.** A number is closest to every decimal in its span. -/
theorem closestTo_of_holds (hd : x.span.holds d = true) : x.ClosestTo d.value := by
  intro m e hm he hne
  obtain ⟨j, rfl⟩ : ∃ j : ℕ, e = j - 1074 := ⟨(e + 1074).toNat, by omega⟩
  have hpos : (0 : ℚ) < 2 ^ 1074 := by positivity
  have hpow : (2 : ℚ) ^ ((j : ℤ) - 1074) * 2 ^ 1074 = 2 ^ j := by
    have hexponent : (j : ℤ) - 1074 + (1074 : ℕ) = j := by omega
    rw [← zpow_natCast, ← zpow_add₀ (by norm_num), hexponent, zpow_natCast]
  have hother : (m : ℚ) * 2 ^ ((j : ℤ) - 1074) * 2 ^ 1074 = m * 2 ^ j := by
    rw [mul_assoc, hpow]
  have hscale : ∀ a b : ℚ, |a * 2 ^ 1074 - b * 2 ^ 1074| = |a - b| * 2 ^ 1074 := by
    intro a b
    rw [← sub_mul, abs_mul, abs_of_pos hpos]
  have hne' : (m : ℚ) * 2 ^ j ≠ x.units := by
    rw [← hother, units_eq]
    exact fun h => hne (mul_right_cancel₀ hpos.ne' h)
  have hclose := closer_of_holds hd hm hne'
  rw [units_eq, Ratio.units, d.value_ratio, ← hother, hscale, hscale] at hclose
  rcases hclose with hless | ⟨heven, hsame⟩
  · exact .inl (lt_of_mul_lt_mul_right hless hpos.le)
  · exact .inr ⟨heven, mul_right_cancel₀ hpos.ne' hsame⟩

/-- A zero is closest to nothing at all. -/
theorem closestTo_zero (h : x.isZero = true) : x.ClosestTo 0 := by
  have hvalue := value_of_isZero h
  intro m e _ _ hne
  rw [hvalue] at hne ⊢
  left
  rw [sub_zero, sub_zero, abs_zero]
  exact abs_pos.mpr hne

end Binary64

end SolverDeck
