import Mathlib.Algebra.Order.Field.Power
import SolverDeck.Binary64
import SolverDeck.Proofs.Binary64.Position

/-!
# Rounding to the nearest number

The bits that `nearest` packs are the whole number nearest to the position of the fraction, a tie
going to the even one (`roundedBits_eq`). So nothing has to be said twice for subnormal numbers, for
normal ones, and for the step from one level to the next.

A finite number stands just where its bits say (`position_units`), so a number that is rounded to
lies within half a step of the fraction (`abs_units_sub_le`).
-/

namespace SolverDeck.Binary64

/-! ### Fractions -/

/-- A fraction as a rational number. -/
def Ratio.value (r : Ratio) : ℚ :=
  r.num / r.den

/-- A fraction in units of the least positive number. -/
def Ratio.units (r : Ratio) : ℚ :=
  r.value * 2 ^ 1074

variable {r : Ratio}

theorem Ratio.value_nonneg (r : Ratio) : 0 ≤ r.value := by
  rw [value]
  positivity

theorem Ratio.units_nonneg (r : Ratio) : 0 ≤ r.units :=
  mul_nonneg r.value_nonneg (by positivity)

theorem two_zpow_pos (e : ℤ) : (0 : ℚ) < 2 ^ e :=
  zpow_pos (by norm_num) e

/-- A power of two is that of the positive part of the exponent over that of the negative part. -/
theorem zpow_eq_div (b : ℚ) (hb : b ≠ 0) (e : ℤ) : b ^ e = b ^ e.toNat / b ^ (-e).toNat := by
  rw [← zpow_natCast, ← zpow_natCast, ← zpow_sub₀ hb]
  congr 1
  omega

theorem Ratio.value_scaled (m : ℕ) (e : ℤ) : (Ratio.scaled m e).value = m * 2 ^ e := by
  rw [value, scaled, zpow_eq_div 2 (by norm_num)]
  simp only [Nat.pow_eq]
  push_cast
  ring

theorem Ratio.value_descale (r : Ratio) (e : ℤ) : (r.descale e).value = r.value / 2 ^ e := by
  rw [value, value, descale, zpow_eq_div 2 (by norm_num)]
  simp only [Nat.pow_eq]
  push_cast
  rw [div_div_div_eq]

/-! ### The level at which a fraction is rounded -/

/-- The level at which a fraction is rounded. -/
def Ratio.level (r : Ratio) : ℕ :=
  (r.roundingExponent + 1074).toNat

theorem neg1074_le_roundingExponent (r : Ratio) : -1074 ≤ r.roundingExponent := by
  rw [Ratio.roundingExponent]
  exact le_max_left _ _

theorem two_zpow_roundingExponent (r : Ratio) :
    (2 : ℚ) ^ r.roundingExponent = 2 ^ r.level / 2 ^ 1074 := by
  have hle := neg1074_le_roundingExponent r
  rw [← zpow_natCast, ← zpow_natCast, ← zpow_sub₀ (by norm_num), Ratio.level]
  congr 1
  omega

/-- The binary logarithms of its parts tell a fraction's own up to one. -/
theorem Ratio.value_bounds (hnum : r.num ≠ 0) (hden : r.den ≠ 0) :
    (2 : ℚ) ^ ((r.num.log2 : ℤ) - r.den.log2 - 1) ≤ r.value ∧
      r.value < 2 ^ ((r.num.log2 : ℤ) - r.den.log2 + 1) := by
  have hdenPos : (0 : ℚ) < r.den := by exact_mod_cast Nat.pos_of_ne_zero hden
  have hnumLow : ((2 ^ r.num.log2 : ℕ) : ℚ) ≤ r.num := by exact_mod_cast Nat.log2_self_le hnum
  have hnumHigh : (r.num : ℚ) < ((2 ^ (r.num.log2 + 1) : ℕ) : ℚ) := by
    exact_mod_cast Nat.lt_log2_self
  have hdenLow : ((2 ^ r.den.log2 : ℕ) : ℚ) ≤ r.den := by exact_mod_cast Nat.log2_self_le hden
  have hdenHigh : (r.den : ℚ) < ((2 ^ (r.den.log2 + 1) : ℕ) : ℚ) := by
    exact_mod_cast Nat.lt_log2_self
  push_cast at hnumLow hnumHigh hdenLow hdenHigh
  constructor
  · rw [show (r.num.log2 : ℤ) - r.den.log2 - 1 = (r.num.log2 : ℤ) - ((r.den.log2 + 1 : ℕ) : ℤ) by
      push_cast; ring, zpow_sub₀ (by norm_num), zpow_natCast, zpow_natCast, value,
      div_le_div_iff₀ (by positivity) hdenPos]
    gcongr
  · rw [show (r.num.log2 : ℤ) - r.den.log2 + 1 = ((r.num.log2 + 1 : ℕ) : ℤ) - (r.den.log2 : ℤ) by
      push_cast; ring, zpow_sub₀ (by norm_num), zpow_natCast, zpow_natCast, value,
      div_lt_div_iff₀ hdenPos (by positivity)]
    exact mul_lt_mul hnumHigh hdenLow (by positivity) (by positivity)

theorem Ratio.scaled_le_iff (hden : r.den ≠ 0) (e : ℤ) :
    (Ratio.scaled r.den e).num ≤ r.num * (Ratio.scaled r.den e).den ↔ (2 : ℚ) ^ e ≤ r.value := by
  have hdenPos : (0 : ℚ) < r.den := by exact_mod_cast Nat.pos_of_ne_zero hden
  rw [value, le_div_iff₀ hdenPos, zpow_eq_div 2 (by norm_num), div_mul_eq_mul_div,
    div_le_iff₀ (by positivity), scaled]
  simp only [Nat.pow_eq]
  rw [mul_comm r.den]
  exact_mod_cast Iff.rfl

/-- **Levels.** A fraction is rounded at the level of its magnitude. -/
theorem Ratio.atLevel (hnum : r.num ≠ 0) (hden : r.den ≠ 0) : AtLevel r.level r.units := by
  obtain ⟨hlow, hhigh⟩ := Ratio.value_bounds hnum hden
  -- the exponent of the leading one
  obtain ⟨top, htop, hlow, hhigh⟩ : ∃ top : ℤ, r.roundingExponent = max (-1074) (top - 52) ∧
      (2 : ℚ) ^ top ≤ r.value ∧ r.value < 2 ^ (top + 1) := by
    have hle := Ratio.scaled_le_iff hden ((r.num.log2 : ℤ) - r.den.log2)
    by_cases h : (2 : ℚ) ^ ((r.num.log2 : ℤ) - r.den.log2) ≤ r.value
    · exact ⟨_, by rw [roundingExponent]; simp only [hle.mpr h, if_true], h, hhigh⟩
    · refine ⟨(r.num.log2 : ℤ) - r.den.log2 - 1, ?_, hlow, ?_⟩
      · rw [roundingExponent]
        simp only [mt hle.mp h, if_false]
      · rw [sub_add_cancel]
        exact not_le.mp h
  have hunits : ∀ e : ℤ, (2 : ℚ) ^ e * 2 ^ 1074 = 2 ^ (e + 1074) := by
    intro e
    rw [zpow_add₀ (by norm_num)]
    rfl
  rw [Ratio.level, htop, AtLevel, units]
  constructor
  · calc r.value * 2 ^ 1074 < 2 ^ (top + 1) * 2 ^ 1074 := by gcongr
      _ = 2 ^ (top + 1 + 1074) := hunits _
      _ ≤ 2 ^ ((((max (-1074) (top - 52) + 1074).toNat + 53 : ℕ)) : ℤ) :=
          zpow_le_zpow_right₀ (by norm_num) (by omega)
      _ = 2 ^ ((max (-1074) (top - 52) + 1074).toNat + 53) := zpow_natCast _ _
  · by_cases hsubnormal : top ≤ -1022
    · exact .inl (by omega)
    · refine .inr ?_
      calc (2 : ℚ) ^ ((max (-1074) (top - 52) + 1074).toNat + 52)
          = 2 ^ ((((max (-1074) (top - 52) + 1074).toNat + 52 : ℕ)) : ℤ) := (zpow_natCast _ _).symm
        _ = 2 ^ (top + 1074) := by congr 1; omega
        _ = 2 ^ top * 2 ^ 1074 := (hunits top).symm
        _ ≤ r.value * 2 ^ 1074 := by gcongr

/-! ### Rounding to a whole number -/

/-- How far a fraction is from what it is rounded to, in parts of its denominator. -/
theorem Ratio.round_spec (hden : r.den ≠ 0) :
    2 * ((r.round : ℤ) * r.den - r.num).natAbs ≤ r.den ∧
      (2 * ((r.round : ℤ) * r.den - r.num).natAbs = r.den → r.round % 2 = 0) := by
  have hdiv : r.den * (r.num / r.den) + r.num % r.den = r.num := Nat.div_add_mod _ _
  have hmod : r.num % r.den < r.den := Nat.mod_lt _ (Nat.pos_of_ne_zero hden)
  rw [round]
  generalize r.num / r.den = whole at hdiv
  generalize r.num % r.den = left at hdiv hmod
  have hnum : (r.num : ℤ) = whole * r.den + left := by
    rw [← hdiv]
    push_cast
    ring
  split
  case _ hlow =>
      have hsub : ((whole : ℕ) : ℤ) * r.den - r.num = -left := by rw [hnum]; ring
      rw [hsub]
      omega
  case _ hlow =>
      have hsub : ((whole + 1 : ℕ) : ℤ) * r.den - r.num = r.den - left := by
        rw [hnum]
        push_cast
        ring
      split
      case _ hhigh =>
          rw [hsub]
          omega
      case _ hhigh =>
          rcases Nat.mod_two_eq_zero_or_one whole with heven | hodd
          · have hsub : ((whole + whole % 2 : ℕ) : ℤ) * r.den - r.num = -left := by
              rw [hnum, heven]
              push_cast
              ring
            rw [hsub]
            omega
          · rw [hodd, hsub]
            omega

theorem Ratio.two_mul_abs_round_sub (hden : r.den ≠ 0) :
    2 * |(r.round : ℚ) - r.value| =
      ((2 * ((r.round : ℤ) * r.den - r.num).natAbs : ℕ) : ℚ) / r.den := by
  have hdenPos : (0 : ℚ) < r.den := by exact_mod_cast Nat.pos_of_ne_zero hden
  have hsub : (r.round : ℚ) - r.value = (((r.round : ℤ) * r.den - r.num : ℤ) : ℚ) / r.den := by
    rw [value, eq_div_iff hdenPos.ne', sub_mul, div_mul_cancel₀ _ hdenPos.ne']
    push_cast
    ring
  rw [hsub, abs_div, abs_of_pos hdenPos, Nat.cast_mul, Nat.cast_natAbs, Int.cast_abs]
  push_cast
  ring

theorem Ratio.abs_round_sub_le (hden : r.den ≠ 0) : |(r.round : ℚ) - r.value| ≤ 1 / 2 := by
  have hdenPos : (0 : ℚ) < r.den := by exact_mod_cast Nat.pos_of_ne_zero hden
  have htwice := Ratio.two_mul_abs_round_sub hden
  have hle : ((2 * ((r.round : ℤ) * r.den - r.num).natAbs : ℕ) : ℚ) / r.den ≤ 1 := by
    rw [div_le_one hdenPos]
    exact_mod_cast (Ratio.round_spec hden).1
  linarith

theorem Ratio.even_round_of_half (hden : r.den ≠ 0) (h : |(r.round : ℚ) - r.value| = 1 / 2) :
    r.round % 2 = 0 := by
  have hdenPos : (0 : ℚ) < r.den := by exact_mod_cast Nat.pos_of_ne_zero hden
  have htwice := Ratio.two_mul_abs_round_sub hden
  rw [h, mul_one_div_cancel (by norm_num), eq_comm, div_eq_one_iff_eq hdenPos.ne'] at htwice
  exact (Ratio.round_spec hden).2 (by exact_mod_cast htwice)

/-! ### Rounding to bits -/

/-- The bits that a fraction is rounded to, if there is no end to them. -/
def roundedBits (r : Ratio) : ℕ :=
  r.level * exponentWeight + (r.descale r.roundingExponent).round

theorem cast_exponentWeight : (exponentWeight : ℚ) = 2 ^ 52 := by
  rw [exponentWeight, Nat.pow_eq]
  norm_cast

theorem descale_den_ne_zero (hden : r.den ≠ 0) (e : ℤ) : (r.descale e).den ≠ 0 := by
  rw [Ratio.descale]
  simp only [Nat.pow_eq]
  positivity

/-- Where a fraction stands, and what is rounded at its level. -/
theorem Ratio.position_units (hnum : r.num ≠ 0) (hden : r.den ≠ 0) :
    position r.units = r.level * 2 ^ 52 + (r.descale r.roundingExponent).value := by
  rw [(Ratio.atLevel hnum hden).position_eq r.units_nonneg, line, Ratio.value_descale,
    two_zpow_roundingExponent, units, div_div_eq_mul_div]

theorem roundedBits_sub_position (hnum : r.num ≠ 0) (hden : r.den ≠ 0) :
    (roundedBits r : ℚ) - position r.units =
      ((r.descale r.roundingExponent).round : ℚ) - (r.descale r.roundingExponent).value := by
  rw [Ratio.position_units hnum hden, roundedBits]
  push_cast
  rw [cast_exponentWeight]
  ring

theorem abs_roundedBits_sub_le (hnum : r.num ≠ 0) (hden : r.den ≠ 0) :
    |(roundedBits r : ℚ) - position r.units| ≤ 1 / 2 := by
  rw [roundedBits_sub_position hnum hden]
  exact Ratio.abs_round_sub_le (descale_den_ne_zero hden _)

theorem even_roundedBits_of_half (hnum : r.num ≠ 0) (hden : r.den ≠ 0)
    (h : |(roundedBits r : ℚ) - position r.units| = 1 / 2) : roundedBits r % 2 = 0 := by
  rw [roundedBits_sub_position hnum hden] at h
  have heven := Ratio.even_round_of_half (descale_den_ne_zero hden _) h
  have hweight : exponentWeight % 2 = 0 := by decide
  rw [roundedBits, Nat.add_mod, Nat.mul_mod, hweight, heven, Nat.mul_zero]

/-- **Rounding.** A fraction is rounded to the bits that are nearest to its position, a tie going to
the even ones. -/
theorem roundedBits_eq {bits : ℕ} (hnum : r.num ≠ 0) (hden : r.den ≠ 0)
    (hnear : |(bits : ℚ) - position r.units| ≤ 1 / 2)
    (htie : |(bits : ℚ) - position r.units| = 1 / 2 → bits % 2 = 0) : roundedBits r = bits := by
  have hnear' := abs_roundedBits_sub_le hnum hden
  have htie' := even_roundedBits_of_half hnum hden
  -- Both are within a half, so they are at most one apart, and one apart only if both are ties.
  rw [abs_le] at hnear hnear'
  rcases Nat.lt_trichotomy (roundedBits r) bits with hlt | heq | hgt
  · have hstep : ((roundedBits r + 1 : ℕ) : ℚ) ≤ bits := by exact_mod_cast hlt
    push_cast at hstep
    have hbits : (bits : ℚ) - position r.units = 1 / 2 := by linarith [hnear.2, hnear'.1]
    have hrounded : (roundedBits r : ℚ) - position r.units = -(1 / 2) := by
      linarith [hnear.2, hnear'.1]
    have heven := htie (by rw [hbits]; norm_num)
    have heven' := htie' (by rw [hrounded]; norm_num)
    have hone : bits = roundedBits r + 1 := by
      have : (bits : ℚ) = ((roundedBits r + 1 : ℕ) : ℚ) := by push_cast; linarith
      exact_mod_cast this
    omega
  · exact heq
  · have hstep : ((bits + 1 : ℕ) : ℚ) ≤ roundedBits r := by exact_mod_cast hgt
    push_cast at hstep
    have hbits : (bits : ℚ) - position r.units = -(1 / 2) := by linarith [hnear.1, hnear'.2]
    have hrounded : (roundedBits r : ℚ) - position r.units = 1 / 2 := by
      linarith [hnear.1, hnear'.2]
    have heven := htie (by rw [hbits]; norm_num)
    have heven' := htie' (by rw [hrounded]; norm_num)
    have hone : roundedBits r = bits + 1 := by
      have : (roundedBits r : ℚ) = ((bits + 1 : ℕ) : ℚ) := by push_cast; linarith
      exact_mod_cast this
    omega

theorem roundedBits_le {bits : ℕ} (hnum : r.num ≠ 0) (hden : r.den ≠ 0)
    (h : position r.units ≤ bits) : roundedBits r ≤ bits := by
  have hnear := (abs_le.mp (abs_roundedBits_sub_le hnum hden)).2
  have hlt : (roundedBits r : ℚ) < ((bits + 1 : ℕ) : ℚ) := by
    push_cast
    linarith
  have := Nat.cast_lt.mp hlt
  omega

/-! ### Numbers by sign and bits -/

theorem infinityBits_lt_signWeight : infinityBits < signWeight := by
  decide

theorem toNat_bits_withSign {bits : ℕ} (h : bits < signWeight) (negative : Bool) :
    (withSign negative bits).bits.toNat = if negative then signWeight + bits else bits := by
  have hweight : signWeight = 2 ^ 63 := by decide
  rw [withSign, UInt64.toNat_ofNat', Nat.mod_eq_of_lt]
  cases negative <;> simp <;> omega

theorem magnitudeBits_withSign {bits : ℕ} (h : bits < signWeight) (negative : Bool) :
    (withSign negative bits).magnitudeBits = bits := by
  rw [magnitudeBits, toNat_bits_withSign h]
  cases negative
  · exact Nat.mod_eq_of_lt h
  · rw [if_pos rfl, Nat.add_mod_left, Nat.mod_eq_of_lt h]

theorem isNegative_withSign {bits : ℕ} (h : bits < signWeight) (negative : Bool) :
    (withSign negative bits).isNegative = negative := by
  rw [isNegative, toNat_bits_withSign h]
  cases negative
  · simpa using h
  · simp

theorem magnitudeBits_lt (x : Binary64) : x.magnitudeBits < signWeight :=
  Nat.mod_lt _ (by decide)

/-- A number is its sign and its magnitude. -/
theorem withSign_magnitudeBits (x : Binary64) : withSign x.isNegative x.magnitudeBits = x := by
  obtain ⟨bits⟩ := x
  have hlt : bits.toNat < 2 ^ 64 := bits.toNat_lt
  have hweight : signWeight = 2 ^ 63 := by decide
  have hbits : (withSign (isNegative ⟨bits⟩) (magnitudeBits ⟨bits⟩)).bits.toNat = bits.toNat := by
    rw [toNat_bits_withSign (magnitudeBits_lt _), isNegative, magnitudeBits, hweight]
    by_cases h : 2 ^ 63 ≤ bits.toNat
    · simp only [h, decide_true, if_true]
      omega
    · simp only [h, decide_false, Bool.false_eq_true, if_false]
      omega
  exact congrArg Binary64.mk (UInt64.toNat_inj.mp hbits)

/-- Numbers with the same sign and the same magnitude are the same. -/
theorem eq_of_parts {x y : Binary64} (hsign : y.isNegative = x.isNegative)
    (hbits : y.magnitudeBits = x.magnitudeBits) : y = x := by
  rw [← withSign_magnitudeBits y, hsign, hbits, withSign_magnitudeBits]

theorem isFinite_iff {x : Binary64} : x.isFinite = true ↔ x.magnitudeBits < infinityBits := by
  have hweight : 0 < exponentWeight := by decide
  rw [isFinite, decide_eq_true_eq, exponentField, infinityBits, Nat.div_lt_iff_lt_mul hweight]

theorem isZero_iff {x : Binary64} : x.isZero = true ↔ x.magnitudeBits = 0 := by
  rw [isZero, beq_iff_eq]

/-! ### Where numbers stand -/

/-- The level of a number. -/
def levelOf (x : Binary64) : ℕ :=
  (x.exponent + 1074).toNat

/-- The magnitude of a number in units of the least positive one. -/
def units (x : Binary64) : ℚ :=
  x.mantissa * 2 ^ x.levelOf

theorem fraction_lt (x : Binary64) : x.fraction < exponentWeight :=
  Nat.mod_lt _ (by decide)

theorem magnitudeBits_eq (x : Binary64) :
    x.magnitudeBits = x.exponentField * exponentWeight + x.fraction := by
  rw [exponentField, fraction]
  exact (Nat.div_add_mod' _ _).symm

/-- The sum by which magnitudes are packed. -/
theorem levelOf_mul_add_mantissa (x : Binary64) :
    x.levelOf * exponentWeight + x.mantissa = x.magnitudeBits := by
  rw [magnitudeBits_eq, levelOf, exponent, mantissa]
  by_cases hfield : x.exponentField = 0
  · rw [if_pos hfield, if_pos hfield, hfield]
    simp
  · rw [if_neg hfield, if_neg hfield]
    obtain ⟨field, hsucc⟩ := Nat.exists_eq_succ_of_ne_zero hfield
    rw [Nat.succ_eq_add_one] at hsucc
    rw [hsucc, show ((field + 1 : ℕ) : ℤ) - 1075 + 1074 = field by push_cast; ring, Int.toNat_natCast]
    ring

theorem mantissa_lt (x : Binary64) : x.mantissa < 2 ^ 53 := by
  have hfraction := x.fraction_lt
  have hweight : exponentWeight = 2 ^ 52 := by decide
  rw [mantissa]
  split <;> omega

theorem levelOf_eq_zero_or (x : Binary64) : x.levelOf = 0 ∨ 2 ^ 52 ≤ x.mantissa := by
  have hweight : exponentWeight = 2 ^ 52 := by decide
  rw [levelOf, exponent, mantissa]
  by_cases hfield : x.exponentField = 0
  · exact .inl (by rw [if_pos hfield]; rfl)
  · refine .inr ?_
    rw [if_neg hfield]
    omega

/-- **Numbers stand where their bits say.** -/
theorem cast_magnitudeBits (x : Binary64) :
    (x.magnitudeBits : ℚ) = x.levelOf * 2 ^ 52 + x.mantissa := by
  rw [← levelOf_mul_add_mantissa x]
  push_cast
  rw [cast_exponentWeight]

theorem position_units (x : Binary64) : position x.units = x.magnitudeBits := by
  rw [units, position_mul_pow x.mantissa_lt.le x.levelOf_eq_zero_or, cast_magnitudeBits]

theorem units_nonneg (x : Binary64) : 0 ≤ x.units := by
  rw [units]
  positivity

theorem neg1074_le_exponent (x : Binary64) : -1074 ≤ x.exponent := by
  rw [exponent]
  split <;> omega

/-- The exact magnitude in units of the least positive number. -/
theorem units_ratio (x : Binary64) : x.ratio.units = x.units := by
  have hle := x.neg1074_le_exponent
  have hpow : (2 : ℚ) ^ x.exponent * 2 ^ 1074 = 2 ^ x.levelOf := by
    rw [← zpow_natCast, ← zpow_natCast, ← zpow_add₀ (by norm_num), levelOf]
    congr 1
    omega
  rw [ratio, Ratio.units, Ratio.value_scaled, units, mul_assoc, hpow]

end SolverDeck.Binary64
