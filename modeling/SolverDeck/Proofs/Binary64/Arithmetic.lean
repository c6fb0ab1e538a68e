import SolverDeck.Proofs.Binary64.Error

/-!
# Rounded results

Whole numbers, products and quotients of positive numbers are what an exact magnitude is rounded to
(`rounds_ofNat`, `rounds_mul`, `rounds_div`). What `Rounds` says of a number is all that matters
afterwards: it fixes the number (`Rounds.unique`), which is off by a small factor only
(`Rounds.within`) and not at all if the magnitude has no more than 53 bits (`Rounds.value_eq`), and
magnitudes that stand close together are rounded to numbers that do (`Rounds.close`).
-/

namespace SolverDeck.Binary64

/-! ### Magnitudes -/

/-- The magnitude of a number. -/
def value (x : Binary64) : ℚ :=
  x.units / 2 ^ 1074

/-- The number is what a positive magnitude is rounded to. -/
def Rounds (x : Binary64) (ρ : ℚ) : Prop :=
  ∃ r : Ratio, r.num ≠ 0 ∧ r.den ≠ 0 ∧ r.value = ρ ∧ x = nearest false r

/-- The greatest finite number. -/
def greatest : ℕ :=
  (2 ^ 53 - 1) * 2 ^ 971

variable {x y : Binary64} {ρ σ : ℚ}

theorem value_ratio (x : Binary64) : x.ratio.value = x.value := by
  rw [value, ← units_ratio, Ratio.units, mul_div_assoc, div_self (by positivity), mul_one]

theorem units_eq (x : Binary64) : x.units = x.value * 2 ^ 1074 := by
  rw [value, div_mul_cancel₀ _ (by positivity)]

theorem value_nonneg (x : Binary64) : 0 ≤ x.value :=
  div_nonneg x.units_nonneg (by positivity)

theorem value_of_isZero (h : x.isZero = true) : x.value = 0 := by
  have hbits := x.levelOf_mul_add_mantissa
  rw [isZero_iff.mp h] at hbits
  rw [value, units, show x.mantissa = 0 by omega, Nat.cast_zero, zero_mul, zero_div]

theorem isZero_of_value_pos (h : 0 < x.value) : x.isZero = false := by
  rw [← Bool.not_eq_true]
  intro hzero
  exact h.ne' (value_of_isZero hzero)

theorem Ratio.value_pos {r : Ratio} (hnum : r.num ≠ 0) (hden : r.den ≠ 0) : 0 < r.value := by
  have hnumPos : (0 : ℚ) < r.num := by exact_mod_cast Nat.pos_of_ne_zero hnum
  have hdenPos : (0 : ℚ) < r.den := by exact_mod_cast Nat.pos_of_ne_zero hden
  exact div_pos hnumPos hdenPos

theorem num_ratio_ne_zero (hx : 0 < x.value) : x.ratio.num ≠ 0 := by
  intro h
  rw [← value_ratio, Ratio.value, h, Nat.cast_zero, zero_div] at hx
  exact lt_irrefl _ hx

theorem den_ratio_ne_zero (x : Binary64) : x.ratio.den ≠ 0 := by
  rw [ratio, Ratio.scaled]
  simp only [Nat.pow_eq]
  positivity

theorem position_greatest : position ((greatest : ℚ) * 2 ^ 1074) = ((infinityBits - 1 : ℕ) : ℚ) := by
  have hpow : (greatest : ℚ) * 2 ^ 1074 = ((2 ^ 53 - 1 : ℕ) : ℚ) * 2 ^ 2045 := by
    rw [greatest, Nat.cast_mul, mul_assoc, Nat.cast_pow, Nat.cast_ofNat, ← pow_add]
  rw [hpow, position_mul_pow (by norm_num) (.inr (by norm_num)), infinityBits, exponentWeight,
    Nat.pow_eq]
  norm_num

/-! ### Results -/

theorem rounds_ofNat {n : ℕ} (hn : n ≠ 0) : Rounds (ofNat n) n :=
  ⟨⟨n, 1⟩, hn, one_ne_zero, by rw [Ratio.value, Nat.cast_one, div_one], rfl⟩

theorem rounds_mul (hx : 0 < x.value) (hy : 0 < y.value) (hsign : x.isNegative = false)
    (hsign' : y.isNegative = false) : Rounds (x * y) (x.value * y.value) := by
  refine ⟨⟨x.ratio.num * y.ratio.num, x.ratio.den * y.ratio.den⟩,
    mul_ne_zero (num_ratio_ne_zero hx) (num_ratio_ne_zero hy),
    mul_ne_zero x.den_ratio_ne_zero y.den_ratio_ne_zero, ?_, ?_⟩
  · rw [← value_ratio, ← value_ratio, Ratio.value, Ratio.value, Ratio.value, Nat.cast_mul,
      Nat.cast_mul, mul_div_mul_comm]
  · rw [show x * y = x.mul y from rfl, mul, hsign, hsign']
    rfl

theorem rounds_div (hx : 0 < x.value) (hy : 0 < y.value) (hsign : x.isNegative = false)
    (hsign' : y.isNegative = false) : Rounds (x / y) (x.value / y.value) := by
  refine ⟨⟨x.ratio.num * y.ratio.den, x.ratio.den * y.ratio.num⟩,
    mul_ne_zero (num_ratio_ne_zero hx) y.den_ratio_ne_zero,
    mul_ne_zero x.den_ratio_ne_zero (num_ratio_ne_zero hy), ?_, ?_⟩
  · rw [← value_ratio, ← value_ratio, Ratio.value, Ratio.value, Ratio.value, Nat.cast_mul,
      Nat.cast_mul, div_div_div_eq]
  · rw [show x / y = x.div y from rfl, div, hsign, hsign']
    rfl

theorem Rounds.pos (h : Rounds x ρ) : 0 < ρ := by
  obtain ⟨r, hnum, hden, rfl, -⟩ := h
  exact Ratio.value_pos hnum hden

theorem Rounds.isNegative (h : Rounds x ρ) : x.isNegative = false := by
  obtain ⟨r, -, -, -, rfl⟩ := h
  exact isNegative_nearest r false

theorem Rounds.magnitudeBits (h : Rounds x ρ) :
    ∃ r : Ratio, r.num ≠ 0 ∧ r.den ≠ 0 ∧ r.units = ρ * 2 ^ 1074 ∧
      x.magnitudeBits = min infinityBits (roundedBits r) := by
  obtain ⟨r, hnum, hden, rfl, rfl⟩ := h
  exact ⟨r, hnum, hden, rfl, magnitudeBits_nearest hnum false⟩

/-- A magnitude is rounded to one number. -/
theorem Rounds.unique (hx : Rounds x ρ) (hy : Rounds y ρ) : x = y := by
  obtain ⟨r, hnum, hden, hunits, hbits⟩ := hx.magnitudeBits
  obtain ⟨s, hnum', hden', hunits', hbits'⟩ := hy.magnitudeBits
  have heq : roundedBits r = roundedBits s := by
    have hposition : r.units = s.units := hunits.trans hunits'.symm
    refine roundedBits_eq hnum hden ?_ ?_
    · rw [hposition]
      exact abs_roundedBits_sub_le hnum' hden'
    · rw [hposition]
      exact even_roundedBits_of_half hnum' hden'
  rw [← withSign_magnitudeBits x, ← withSign_magnitudeBits y, hx.isNegative, hy.isNegative, hbits,
    hbits', heq]

theorem Rounds.isFinite_of_le (h : Rounds x ρ) (hle : ρ ≤ greatest) : x.isFinite = true := by
  obtain ⟨r, hnum, hden, hunits, hbits⟩ := h.magnitudeBits
  have hposition : position r.units ≤ ((infinityBits - 1 : ℕ) : ℚ) := by
    rw [← position_greatest, hunits]
    exact position_mono (mul_nonneg h.pos.le (by positivity)) (by gcongr)
  have hpos : 0 < infinityBits := by decide
  have := roundedBits_le hnum hden hposition
  rw [isFinite_iff]
  omega

/-- What is rounded to a finite number is less than the power of two above the greatest one. -/
theorem Rounds.lt_of_isFinite (h : Rounds x ρ) (hx : x.isFinite = true) : ρ < 2 ^ 1024 := by
  obtain ⟨r, hnum, hden, hunits, hbits⟩ := h.magnitudeBits
  have hnear := (abs_le.mp (abs_roundedBits_sub_le hnum hden)).1
  have hfinite := isFinite_iff.mp hx
  have htop : position (((2 ^ 53 : ℕ) : ℚ) * 2 ^ 2045) = infinityBits := by
    rw [position_mul_pow le_rfl (.inr (by norm_num)), infinityBits, exponentWeight, Nat.pow_eq]
    norm_num
  by_contra hle
  rw [not_lt] at hle
  have hunitsLe : ((2 ^ 53 : ℕ) : ℚ) * 2 ^ 2045 ≤ r.units := by
    rw [hunits, Nat.cast_pow, Nat.cast_ofNat, ← pow_add, show 53 + 2045 = 1024 + 1074 from rfl,
      pow_add]
    gcongr
  have hposition := position_mono (by positivity) hunitsLe
  rw [htop] at hposition
  have hlt : (roundedBits r : ℚ) ≤ ((infinityBits - 1 : ℕ) : ℚ) := by
    exact Nat.cast_le.mpr (by omega)
  rw [Nat.cast_sub (by decide)] at hlt
  push_cast at hlt
  linarith

theorem Rounds.nearest_of_isFinite (h : Rounds x ρ) (hx : x.isFinite = true) :
    ∃ r : Ratio, r.num ≠ 0 ∧ r.den ≠ 0 ∧ r.units = ρ * 2 ^ 1074 ∧
      roundedBits r < infinityBits ∧ x = nearest false r := by
  obtain ⟨r, hnum, hden, rfl, rfl⟩ := h
  rw [isFinite_iff, magnitudeBits_nearest hnum] at hx
  exact ⟨r, hnum, hden, rfl, by omega, rfl⟩

/-! ### How far results are off -/

/-- **Errors of results.** -/
theorem Rounds.within {θ : ℚ} (h : Rounds x ρ) (hx : x.isFinite = true) (hθ : 0 ≤ θ) (hle : θ ≤ 1)
    (habove : 2 ^ (level (ρ * 2 ^ 1074) + 52) ≤ θ * (ρ * 2 ^ 1074)) :
    Within (errorFactor θ) x.value ρ := by
  obtain ⟨r, hnum, hden, hunits, hfinite, rfl⟩ := h.nearest_of_isFinite hx
  have hlevel := (Ratio.atLevel hnum hden).level_eq r.units_nonneg
  have hpos : (0 : ℚ) < 2 ^ 1074 := by positivity
  rw [← hunits, hlevel] at habove
  have hwithin := within_nearest hθ hle hnum hden hfinite habove false
  rw [hunits, units_eq] at hwithin
  constructor
  · have := hwithin.le
    rw [mul_right_comm] at this
    exact le_of_mul_le_mul_right this hpos
  · have := hwithin.ge
    rw [mul_right_comm] at this
    exact le_of_mul_le_mul_right this hpos

/-- Nothing is lost but one part in `2 ^ 53`, unless the result is below the least normal number. -/
theorem Rounds.within_one (h : Rounds x ρ) (hx : x.isFinite = true)
    (hnormal : 2 ^ 52 ≤ ρ * 2 ^ 1074) : Within (errorFactor 1) x.value ρ := by
  refine h.within hx zero_le_one le_rfl ?_
  rw [one_mul]
  exact two_pow_level_le hnormal

/-- Magnitudes whose positions are less than two apart are rounded to numbers at most two apart. -/
theorem Rounds.close (hx : Rounds x ρ) (hy : Rounds y σ)
    (hnear : |position (σ * 2 ^ 1074) - position (ρ * 2 ^ 1074)| < 2)
    (hfinite : x.magnitudeBits + 2 < infinityBits) :
    y.magnitudeBits ≤ x.magnitudeBits + 2 ∧ x.magnitudeBits ≤ y.magnitudeBits + 2 := by
  obtain ⟨r, hnum, hden, hunits, hbits⟩ := hx.magnitudeBits
  obtain ⟨s, hnum', hden', hunits', hbits'⟩ := hy.magnitudeBits
  have hr := abs_le.mp (abs_roundedBits_sub_le hnum hden)
  have hs := abs_le.mp (abs_roundedBits_sub_le hnum' hden')
  rw [hunits] at hr
  rw [hunits'] at hs
  rw [abs_lt] at hnear
  have hup : (roundedBits s : ℚ) < ((roundedBits r + 3 : ℕ) : ℚ) := by
    push_cast
    linarith [hr.2, hs.2, hnear.2]
  have hdown : (roundedBits r : ℚ) < ((roundedBits s + 3 : ℕ) : ℚ) := by
    push_cast
    linarith [hr.1, hs.1, hnear.1]
  have hup' := Nat.cast_lt.mp hup
  have hdown' := Nat.cast_lt.mp hdown
  omega

/-! ### Exact results -/

/-- A number of at most 53 bits times a power of two stands at a whole position. -/
theorem exists_position_eq {q k : ℕ} (hq : q ≠ 0) (hlt : q < 2 ^ 53) (hk : 52 ≤ k) :
    ∃ bits : ℕ, position (q * 2 ^ k) = bits := by
  have hlow : 2 ^ q.log2 ≤ q := Nat.log2_self_le hq
  have hhigh : q < 2 ^ (q.log2 + 1) := Nat.lt_log2_self
  have hlog : q.log2 ≤ 52 := by
    by_contra h
    have : 2 ^ 53 ≤ 2 ^ q.log2 := Nat.pow_le_pow_right (by norm_num) (by omega)
    omega
  -- Moved to the left, the leading one counts `2 ^ 52`.
  have hmoved : (q : ℚ) * 2 ^ k = ((q * 2 ^ (52 - q.log2) : ℕ) : ℚ) * 2 ^ (k - (52 - q.log2)) := by
    rw [Nat.cast_mul, Nat.cast_pow, Nat.cast_ofNat, mul_assoc, ← pow_add]
    congr 2
    omega
  have hmost : q * 2 ^ (52 - q.log2) ≤ 2 ^ 53 := by
    calc q * 2 ^ (52 - q.log2) ≤ 2 ^ (q.log2 + 1) * 2 ^ (52 - q.log2) := by gcongr
      _ = 2 ^ 53 := by rw [← pow_add]; congr 1; omega
  have hleast : 2 ^ 52 ≤ q * 2 ^ (52 - q.log2) := by
    calc 2 ^ 52 = 2 ^ q.log2 * 2 ^ (52 - q.log2) := by rw [← pow_add]; congr 1; omega
      _ ≤ q * 2 ^ (52 - q.log2) := by gcongr
  refine ⟨(k - (52 - q.log2)) * 2 ^ 52 + q * 2 ^ (52 - q.log2), ?_⟩
  rw [hmoved, position_mul_pow hmost (.inr hleast)]
  push_cast
  rfl

/-- What has at most 53 bits, save for a power of two, is not rounded. -/
theorem Rounds.value_eq {q k : ℕ} (h : Rounds x ρ) (hx : x.isFinite = true) (hlt : q < 2 ^ 53)
    (hρ : ρ = q * 2 ^ k) : x.value = ρ := by
  obtain ⟨r, hnum, hden, hunits, hfinite, rfl⟩ := h.nearest_of_isFinite hx
  have hq : q ≠ 0 := by
    rintro rfl
    have := h.pos
    rw [hρ, Nat.cast_zero, zero_mul] at this
    exact lt_irrefl _ this
  obtain ⟨bits, hbits⟩ := exists_position_eq (k := k + 1074) hq hlt (by omega)
  have hposition : position r.units = bits := by
    rw [hunits, hρ, mul_assoc, ← pow_add, hbits]
  have hrounded : roundedBits r = bits :=
    roundedBits_eq hnum hden (by rw [hposition]; norm_num) (by rw [hposition]; norm_num)
  rw [value, units_nearest_of_position hnum hden hposition (hrounded ▸ hfinite), hunits,
    mul_div_assoc, div_self (by positivity), mul_one]

end SolverDeck.Binary64
