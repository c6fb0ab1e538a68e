import SolverDeck.Decimal.Shortest
import SolverDeck.Proofs.Binary64.Error

/-!
# Spans

The span of a number is where its decimal is looked for. Here it is shown to be what it is meant
for: a decimal in the span of a number is rounded to just that number (`roundedBits_of_holds`). The
ends of the span are half a place away from the bits on both sides, also below a power of two, where
the numbers lie twice as dense but are counted twice as fast.
-/

namespace SolverDeck

open Binary64 (Ratio AtLevel position line roundedBits zpow_eq_div)

/-! ### Decimals as fractions -/

/-- A decimal as a fraction. -/
def Decimal.ratio (d : Decimal) : Ratio :=
  ⟨d.digits * 10 ^ d.exponent.toNat, 10 ^ (-d.exponent).toNat⟩

/-- A decimal as a rational number. -/
def Decimal.value (d : Decimal) : ℚ :=
  d.digits * 10 ^ d.exponent

theorem Decimal.value_ratio (d : Decimal) : d.ratio.value = d.value := by
  rw [Ratio.value, ratio, value, zpow_eq_div 10 (by norm_num)]
  push_cast
  ring

theorem Decimal.den_ratio_ne_zero (d : Decimal) : d.ratio.den ≠ 0 := by
  rw [ratio]
  positivity

namespace Span

variable {s : Span} {d : Decimal}

/-- Grid points and landmarks are compared over a common denominator. -/
theorem common_denominator (s : Span) (t : ℤ) :
    ∃ K : ℚ, 0 < K ∧ (s.gridFactor t : ℚ) = 10 ^ t * K ∧ (s.markFactor t : ℚ) = 2 ^ s.scale * K := by
  refine ⟨10 ^ (-t).toNat * 2 ^ (-s.scale).toNat, by positivity, ?_, ?_⟩
  · rw [gridFactor, zpow_eq_div 10 (by norm_num)]
    simp only [Nat.pow_eq]
    push_cast
    field_simp
  · rw [markFactor, zpow_eq_div 2 (by norm_num)]
    simp only [Nat.pow_eq]
    push_cast
    field_simp

theorem grid_le_mark_iff (s : Span) (t : ℤ) (n mark : ℕ) :
    n * s.gridFactor t ≤ mark * s.markFactor t ↔ (n : ℚ) * 10 ^ t ≤ mark * 2 ^ s.scale := by
  obtain ⟨K, hK, hgrid, hmark⟩ := s.common_denominator t
  rw [← Nat.cast_le (α := ℚ), Nat.cast_mul, Nat.cast_mul, hgrid, hmark, ← mul_assoc, ← mul_assoc]
  exact mul_le_mul_iff_left₀ hK

theorem mark_le_grid_iff (s : Span) (t : ℤ) (n mark : ℕ) :
    mark * s.markFactor t ≤ n * s.gridFactor t ↔ (mark : ℚ) * 2 ^ s.scale ≤ n * 10 ^ t := by
  obtain ⟨K, hK, hgrid, hmark⟩ := s.common_denominator t
  rw [← Nat.cast_le (α := ℚ), Nat.cast_mul, Nat.cast_mul, hgrid, hmark, ← mul_assoc, ← mul_assoc]
  exact mul_le_mul_iff_left₀ hK

/-- A decimal is in a span if it lies between its ends, which count if the span is closed. -/
theorem holds_iff :
    s.holds d = true ↔ (s.low * 2 ^ s.scale < d.value ∧ d.value < s.high * 2 ^ s.scale) ∨
      (s.closed = true ∧ s.low * 2 ^ s.scale ≤ d.value ∧ d.value ≤ s.high * 2 ^ s.scale) := by
  rw [holds, Decimal.value]
  cases s.closed with
  | true =>
      rw [if_pos rfl, Bool.and_eq_true, decide_eq_true_eq, decide_eq_true_eq, mark_le_grid_iff,
        grid_le_mark_iff]
      constructor
      · exact fun h => .inr ⟨rfl, h⟩
      · rintro (⟨hlow, hhigh⟩ | ⟨-, h⟩)
        · exact ⟨hlow.le, hhigh.le⟩
        · exact h
  | false =>
      rw [if_neg Bool.false_ne_true, Bool.and_eq_true, decide_eq_true_eq, decide_eq_true_eq,
        ← not_le, ← not_le, mark_le_grid_iff, grid_le_mark_iff, not_le, not_le]
      simp

/-- A span holds values, in whichever digits they are written. -/
theorem holds_congr {d e : Decimal} (h : d.value = e.value) : s.holds d = s.holds e := by
  rw [Bool.eq_iff_iff, holds_iff, holds_iff, h]

end Span

namespace Binary64

variable {x : Binary64} {d : Decimal}

theorem mantissa_ne_zero (h : x.isZero = false) : x.mantissa ≠ 0 := by
  intro hmantissa
  have hbits : x.magnitudeBits ≠ 0 := by
    rw [← beq_eq_false_iff_ne]
    exact h
  rcases x.levelOf_eq_zero_or with hlevel | hlarge
  · rw [← levelOf_mul_add_mantissa x, hlevel, hmantissa] at hbits
    exact hbits (by norm_num)
  · rw [hmantissa] at hlarge
    norm_num at hlarge

/-- The landmarks of a span count quarters of a step. -/
theorem landmark_units (x : Binary64) (mark : ℕ) :
    (mark : ℚ) * 2 ^ x.span.scale * 2 ^ 1074 = mark / 4 * 2 ^ x.levelOf := by
  have hle := x.neg1074_le_exponent
  have hpow : (2 : ℚ) ^ (x.exponent - 2) * 2 ^ 1074 = 2 ^ x.levelOf / 4 := by
    rw [← zpow_natCast, ← zpow_natCast, ← zpow_add₀ (by norm_num), levelOf,
      show (4 : ℚ) = 2 ^ (2 : ℤ) by norm_num, ← zpow_sub₀ (by norm_num)]
    congr 1
    omega
  rw [span, mul_assoc, hpow]
  ring

/-- Half a step below a number that is not the first of its level. -/
theorem position_half_below {m k : ℕ} (hm : 1 ≤ m) (hlt : m < 2 ^ 53) (hk : k = 0 ∨ 2 ^ 52 < m) :
    position (((m : ℚ) - 1 / 2) * 2 ^ k) = k * 2 ^ 52 + (m - 1 / 2) := by
  have hpos : (0 : ℚ) < 2 ^ k := by positivity
  have hone : (1 : ℚ) ≤ m := by exact_mod_cast hm
  have hat : AtLevel k (((m : ℚ) - 1 / 2) * 2 ^ k) := by
    refine ⟨?_, hk.imp_right fun hgt => ?_⟩
    · have hle : (m : ℚ) < 2 ^ 53 := by exact_mod_cast hlt
      rw [pow_add, mul_comm]
      gcongr
      linarith
    · have hge : ((2 ^ 52 + 1 : ℕ) : ℚ) ≤ m := by exact_mod_cast hgt
      push_cast at hge
      rw [pow_add, mul_comm]
      gcongr
      linarith
  rw [hat.position_eq (mul_nonneg (by linarith) hpos.le), line, mul_div_assoc, div_self hpos.ne',
    mul_one]

/-- A quarter of a step below the first number of a level. On the level underneath, where that is,
it is half a step. -/
theorem le_position_quarter_below (k : ℕ) :
    (k : ℚ) * 2 ^ 52 + 2 ^ 52 - 1 / 2 ≤ position ((2 ^ 52 - 1 / 4) * 2 ^ k) := by
  cases k with
  | zero =>
      have hat : AtLevel 0 (((2 : ℚ) ^ 52 - 1 / 4) * 2 ^ 0) := ⟨by norm_num, .inl rfl⟩
      rw [hat.position_eq (by norm_num), line]
      norm_num
  | succ j =>
      have hpos : (0 : ℚ) < 2 ^ j := by positivity
      have hdouble : ((2 : ℚ) ^ 52 - 1 / 4) * 2 ^ (j + 1) = (2 ^ 53 - 1 / 2) * 2 ^ j := by
        rw [pow_succ]
        ring
      have hat : AtLevel j (((2 : ℚ) ^ 53 - 1 / 2) * 2 ^ j) := by
        refine ⟨?_, .inr ?_⟩
        · rw [pow_add]
          linarith
        · rw [pow_add]
          linarith
      rw [hdouble, hat.position_eq (by positivity), line, mul_div_assoc, div_self hpos.ne']
      push_cast
      linarith

/-- The lower end of the span is half a place below the number, or less. -/
theorem le_position_low (h : x.isZero = false) :
    (x.magnitudeBits : ℚ) - 1 / 2 ≤ position (x.span.low / 4 * 2 ^ x.levelOf) := by
  have hmantissa := Nat.pos_of_ne_zero (mantissa_ne_zero h)
  have hweight : exponentWeight = 2 ^ 52 := by decide
  rw [cast_magnitudeBits]
  by_cases hpower : x.mantissa = 2 ^ 52
  · have hlow : (x.span.low : ℚ) / 4 = 2 ^ 52 - 1 / 4 := by
      rw [span]
      dsimp only
      rw [if_pos (hpower.trans hweight.symm), hpower]
      norm_num
    have hquarter := le_position_quarter_below x.levelOf
    rw [hlow, hpower]
    push_cast
    exact hquarter
  · have hlow : (x.span.low : ℚ) / 4 = x.mantissa - 1 / 2 := by
      rw [span]
      dsimp only
      rw [if_neg (hweight ▸ hpower), Nat.cast_sub (by omega)]
      push_cast
      ring
    have hlevel : x.levelOf = 0 ∨ 2 ^ 52 < x.mantissa :=
      x.levelOf_eq_zero_or.imp_right fun hge => lt_of_le_of_ne hge (Ne.symm hpower)
    rw [hlow, position_half_below hmantissa x.mantissa_lt hlevel]
    linarith

/-- The upper end of the span is half a place above the number. -/
theorem line_high (x : Binary64) :
    line x.levelOf (x.span.high / 4 * 2 ^ x.levelOf) = x.magnitudeBits + 1 / 2 := by
  rw [line, mul_div_assoc, div_self (by positivity), mul_one, cast_magnitudeBits, span]
  push_cast
  ring

/-- A decimal in a span lies between its ends, in units of the least positive number. -/
theorem units_of_holds (hd : x.span.holds d = true) :
    (x.span.low / 4 * 2 ^ x.levelOf < d.ratio.units ∧
        d.ratio.units < x.span.high / 4 * 2 ^ x.levelOf) ∨
      (x.span.closed = true ∧ x.span.low / 4 * 2 ^ x.levelOf ≤ d.ratio.units ∧
        d.ratio.units ≤ x.span.high / 4 * 2 ^ x.levelOf) := by
  rw [← landmark_units, ← landmark_units, Ratio.units, d.value_ratio]
  rcases Span.holds_iff.mp hd with ⟨hlow, hhigh⟩ | ⟨hclosed, hlow, hhigh⟩
  · refine .inl ⟨?_, ?_⟩ <;> gcongr
  · refine .inr ⟨hclosed, ?_, ?_⟩ <;> gcongr

/-- A decimal in the span of a number is nearer to its bits than to others, or as near and they are
even. -/
theorem near_of_holds (h : x.isZero = false) (hd : x.span.holds d = true) :
    |(x.magnitudeBits : ℚ) - position d.ratio.units| < 1 / 2 ∨
      (x.magnitudeBits % 2 = 0 ∧ |(x.magnitudeBits : ℚ) - position d.ratio.units| ≤ 1 / 2) := by
  have hle := le_position_low h
  have hlowNonneg : (0 : ℚ) ≤ x.span.low / 4 * 2 ^ x.levelOf := by positivity
  have hposition := position_le_line d.ratio.units_nonneg x.levelOf
  have hsub := line_sub x.levelOf d.ratio.units (x.span.high / 4 * 2 ^ x.levelOf)
  rw [line_high] at hsub
  rcases units_of_holds hd with ⟨hlow, hhigh⟩ | ⟨hclosed, hlow, hhigh⟩
  · have hgt := position_strictMono hlowNonneg hlow
    have hlt : 0 < (x.span.high / 4 * 2 ^ x.levelOf - d.ratio.units) / 2 ^ x.levelOf :=
      div_pos (sub_pos.mpr hhigh) (by positivity)
    refine .inl (abs_lt.mpr ?_)
    constructor <;> linarith
  · have hge := position_mono hlowNonneg hlow
    have hle' : 0 ≤ (x.span.high / 4 * 2 ^ x.levelOf - d.ratio.units) / 2 ^ x.levelOf :=
      div_nonneg (sub_nonneg.mpr hhigh) (by positivity)
    have hmod : x.mantissa % 2 = 0 := by
      rw [span] at hclosed
      simpa using hclosed
    have hweight : exponentWeight % 2 = 0 := by decide
    refine .inr ⟨?_, abs_le.mpr ?_⟩
    · rw [← levelOf_mul_add_mantissa x, Nat.add_mod, Nat.mul_mod, hweight, hmod, Nat.mul_zero]
    · constructor <;> linarith

theorem digits_ne_zero_of_holds (h : x.isZero = false) (hd : x.span.holds d = true) :
    d.digits ≠ 0 := by
  intro hzero
  have hmantissa := Nat.pos_of_ne_zero (mantissa_ne_zero h)
  have hlowPos : 0 < x.span.low := by
    rw [span]
    dsimp only
    split <;> omega
  have hpos : (0 : ℚ) < x.span.low * 2 ^ x.span.scale :=
    mul_pos (by exact_mod_cast hlowPos) (two_zpow_pos _)
  have hvalue : d.value = 0 := by
    rw [Decimal.value, hzero, Nat.cast_zero, zero_mul]
  rcases Span.holds_iff.mp hd with ⟨hlow, -⟩ | ⟨-, hlow, -⟩ <;> linarith

theorem num_ratio_ne_zero_of_holds (h : x.isZero = false) (hd : x.span.holds d = true) :
    d.ratio.num ≠ 0 := by
  have hdigits := digits_ne_zero_of_holds h hd
  rw [Decimal.ratio]
  positivity

/-- **Spans.** A decimal in the span of a number is rounded to the number. -/
theorem roundedBits_of_holds (h : x.isZero = false) (hd : x.span.holds d = true) :
    roundedBits d.ratio = x.magnitudeBits := by
  have hnum := num_ratio_ne_zero_of_holds h hd
  rcases near_of_holds h hd with hnear | ⟨heven, hnear⟩
  · exact roundedBits_eq hnum d.den_ratio_ne_zero hnear.le fun htie => absurd htie hnear.ne
  · exact roundedBits_eq hnum d.den_ratio_ne_zero hnear fun _ => heven

end Binary64

end SolverDeck
