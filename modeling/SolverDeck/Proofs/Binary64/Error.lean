import SolverDeck.Proofs.Binary64.Rounding

/-!
# What rounding costs

A number that a fraction is rounded to is off by at most half a step (`abs_units_nearest_sub_le`).
Where the steps are as fine as the magnitude asks for, that is a small factor (`within_nearest`).
Such factors multiply up when numbers are multiplied and divided (`Within.mul`, `Within.div`), and in
the end they say how far the position can be off (`Within.position_le`).
-/

namespace SolverDeck.Binary64

/-! ### Factors -/

/-- Two magnitudes differ by no more than a factor. -/
structure Within (factor a b : ℚ) : Prop where
  le : a ≤ b * factor
  ge : b ≤ a * factor

variable {f g a b c d : ℚ}

theorem Within.mul (h : Within f a b) (h' : Within g c d) (ha : 0 ≤ a) (hb : 0 ≤ b) (hc : 0 ≤ c)
    (hd : 0 ≤ d) : Within (f * g) (a * c) (b * d) :=
  ⟨(mul_le_mul h.le h'.le hc (ha.trans h.le)).trans_eq (by ring),
    (mul_le_mul h.ge h'.ge hd (hb.trans h.ge)).trans_eq (by ring)⟩

theorem Within.scale (h : Within f a b) (hc : 0 ≤ c) : Within f (a * c) (b * c) := by
  constructor
  · rw [mul_right_comm]
    exact mul_le_mul_of_nonneg_right h.le hc
  · rw [mul_right_comm]
    exact mul_le_mul_of_nonneg_right h.ge hc

theorem Within.inv (h : Within f a b) (ha : 0 < a) (hb : 0 < b) : Within f a⁻¹ b⁻¹ := by
  constructor
  · rw [inv_le_iff_one_le_mul₀ ha, mul_assoc, mul_comm f, ← div_eq_inv_mul, one_le_div hb]
    exact h.ge
  · rw [inv_le_iff_one_le_mul₀ hb, mul_assoc, mul_comm f, ← div_eq_inv_mul, one_le_div ha]
    exact h.le

theorem Within.div (h : Within f a b) (h' : Within g c d) (ha : 0 ≤ a) (hb : 0 ≤ b) (hc : 0 < c)
    (hd : 0 < d) : Within (f * g) (a / c) (b / d) := by
  rw [div_eq_mul_inv, div_eq_mul_inv]
  exact h.mul (h'.inv hc hd) ha hb (inv_pos.mpr hc).le (inv_pos.mpr hd).le

theorem Within.trans (h : Within f a b) (h' : Within g b c) (hf : 0 ≤ f) (hg : 0 ≤ g) :
    Within (f * g) a c := by
  constructor
  · calc a ≤ b * f := h.le
      _ ≤ c * g * f := by gcongr; exact h'.le
      _ = c * (f * g) := by ring
  · calc c ≤ b * g := h'.ge
      _ ≤ a * f * g := by gcongr; exact h.ge
      _ = a * (f * g) := by ring

theorem Within.mono (h : Within f a b) (hfg : f ≤ g) (ha : 0 ≤ a) (hb : 0 ≤ b) : Within g a b :=
  ⟨h.le.trans (by gcongr), h.ge.trans (by gcongr)⟩

theorem Within.pos (h : Within f a b) (hf : 0 ≤ f) (hb : 0 < b) : 0 < a := by
  by_contra hle
  have hmul : a * f ≤ 0 := mul_nonpos_of_nonpos_of_nonneg (not_lt.mp hle) hf
  linarith [h.ge]

/-- **Positions.** A factor close to one moves a magnitude by that part of `2 ^ 53`. -/
theorem Within.position_le (h : Within f a b) (ha : 0 ≤ a) (hb : 0 ≤ b) (hf : 1 ≤ f) :
    |position a - position b| ≤ (f - 1) * 2 ^ 53 := by
  have hθ : 0 ≤ f - 1 := by linarith
  have hab := position_le_of_le_mul hb ha hθ (by rw [add_sub_cancel]; exact h.le)
  have hba := position_le_of_le_mul ha hb hθ (by rw [add_sub_cancel]; exact h.ge)
  rw [abs_le]
  constructor <;> linarith

/-! ### Rounded fractions -/

variable {r : Ratio} {negative : Bool}

theorem magnitudeBits_nearest (hnum : r.num ≠ 0) (negative : Bool) :
    (nearest negative r).magnitudeBits = min infinityBits (roundedBits r) := by
  rw [nearest, if_neg hnum, magnitudeBits_withSign
    ((min_le_left _ _).trans_lt infinityBits_lt_signWeight)]
  rfl

theorem isNegative_nearest (r : Ratio) (negative : Bool) :
    (nearest negative r).isNegative = negative := by
  rw [nearest]
  split
  · exact isNegative_withSign (by decide) negative
  · exact isNegative_withSign ((min_le_left _ _).trans_lt infinityBits_lt_signWeight) negative

theorem magnitudeBits_nearest_of_lt (hnum : r.num ≠ 0) (hfinite : roundedBits r < infinityBits)
    (negative : Bool) : (nearest negative r).magnitudeBits = roundedBits r := by
  rw [magnitudeBits_nearest hnum, min_eq_right hfinite.le]

/-- A fraction that stands where a number stands is that number. -/
theorem units_nearest_of_position {bits : ℕ} (hnum : r.num ≠ 0) (hden : r.den ≠ 0)
    (h : position r.units = bits) (hfinite : bits < infinityBits) (negative : Bool) :
    (nearest negative r).units = r.units := by
  have hbits : roundedBits r = bits :=
    roundedBits_eq hnum hden (by rw [h]; norm_num) (by rw [h]; norm_num)
  refine position_injective (units_nonneg _) r.units_nonneg ?_
  rw [position_units, magnitudeBits_nearest_of_lt hnum (hbits ▸ hfinite), hbits, h]

/-- What is rounded at a level has at most 53 bits, and no fewer unless the level is the lowest. -/
theorem round_descale_bounds (hnum : r.num ≠ 0) (hden : r.den ≠ 0) :
    (r.descale r.roundingExponent).round ≤ 2 ^ 53 ∧
      (r.level = 0 ∨ 2 ^ 52 ≤ (r.descale r.roundingExponent).round) := by
  have hlevel := Ratio.atLevel hnum hden
  have hvalue : (r.descale r.roundingExponent).value = r.units / 2 ^ r.level := by
    rw [Ratio.value_descale, two_zpow_roundingExponent, Ratio.units, div_div_eq_mul_div]
  have hround := abs_le.mp (Ratio.abs_round_sub_le (descale_den_ne_zero hden r.roundingExponent))
  rw [hvalue] at hround
  generalize (r.descale r.roundingExponent).round = q at hround
  constructor
  · have hlt : r.units / 2 ^ r.level < 2 ^ 53 := by
      rw [div_lt_iff₀ (by positivity), ← pow_add, add_comm]
      exact hlevel.1
    have hq : (q : ℚ) < ((2 ^ 53 + 1 : ℕ) : ℚ) := by
      push_cast
      linarith [hround.2]
    have := Nat.cast_lt.mp hq
    omega
  · refine hlevel.2.imp_right fun hge => ?_
    have hle : (2 : ℚ) ^ 52 ≤ r.units / 2 ^ r.level := by
      rw [le_div_iff₀ (by positivity), ← pow_add, add_comm]
      exact hge
    have hq : ((2 ^ 52 : ℕ) : ℚ) < ((q + 1 : ℕ) : ℚ) := by
      push_cast
      linarith [hround.1]
    have := Nat.cast_lt.mp hq
    omega

theorem units_nearest (hnum : r.num ≠ 0) (hden : r.den ≠ 0)
    (hfinite : roundedBits r < infinityBits) (negative : Bool) :
    (nearest negative r).units = (r.descale r.roundingExponent).round * 2 ^ r.level := by
  obtain ⟨hmost, hleast⟩ := round_descale_bounds hnum hden
  refine position_injective (units_nonneg _) (by positivity) ?_
  rw [position_units, magnitudeBits_nearest_of_lt hnum hfinite, position_mul_pow hmost hleast,
    roundedBits]
  push_cast
  rw [cast_exponentWeight]

/-- **Errors.** A rounded fraction is off by at most half a step of its level. -/
theorem abs_units_nearest_sub_le (hnum : r.num ≠ 0) (hden : r.den ≠ 0)
    (hfinite : roundedBits r < infinityBits) (negative : Bool) :
    |(nearest negative r).units - r.units| ≤ 2 ^ r.level / 2 := by
  have hround := Ratio.abs_round_sub_le (descale_den_ne_zero hden r.roundingExponent)
  have hunits : r.units = (r.descale r.roundingExponent).value * 2 ^ r.level := by
    rw [Ratio.value_descale, two_zpow_roundingExponent, Ratio.units]
    field_simp
  rw [units_nearest hnum hden hfinite, hunits, ← sub_mul, abs_mul,
    abs_of_pos (show (0 : ℚ) < 2 ^ r.level by positivity)]
  calc _ ≤ 1 / 2 * (2 : ℚ) ^ r.level := by gcongr
    _ = 2 ^ r.level / 2 := by ring

/-- The factor that an error of `θ` parts in `2 ^ 53` amounts to. -/
def errorFactor (θ : ℚ) : ℚ :=
  2 ^ 53 / (2 ^ 53 - θ)

theorem within_of_abs_sub_le {θ : ℚ} (hθ : 0 ≤ θ) (hle : θ ≤ 1) (hb : 0 ≤ b)
    (h : |a - b| * 2 ^ 53 ≤ θ * b) : Within (errorFactor θ) a b := by
  have hpos : 0 < 2 ^ 53 - θ := by linarith
  have habs := abs_le.mp ((le_div_iff₀ (by norm_num)).mpr h)
  rw [errorFactor]
  constructor
  · rw [mul_div_assoc', le_div_iff₀ hpos]
    have hθb : 0 ≤ θ * b := mul_nonneg hθ hb
    have hupper : a ≤ b + θ * b / 2 ^ 53 := by linarith [habs.2]
    calc a * (2 ^ 53 - θ) ≤ (b + θ * b / 2 ^ 53) * (2 ^ 53 - θ) := by gcongr
      _ = b * 2 ^ 53 - θ * (θ * b) / 2 ^ 53 := by ring
      _ ≤ b * 2 ^ 53 := by
        have : 0 ≤ θ * (θ * b) / 2 ^ 53 := by positivity
        linarith
  · rw [mul_div_assoc', le_div_iff₀ hpos]
    have hlower : b - θ * b / 2 ^ 53 ≤ a := by linarith [habs.1]
    calc b * (2 ^ 53 - θ) = (b - θ * b / 2 ^ 53) * 2 ^ 53 := by ring
      _ ≤ a * 2 ^ 53 := by gcongr

/-- **Small errors.** A fraction is rounded by a small factor, the smaller the further it is above
the least one of its level. -/
theorem within_nearest {θ : ℚ} (hθ : 0 ≤ θ) (hle : θ ≤ 1) (hnum : r.num ≠ 0) (hden : r.den ≠ 0)
    (hfinite : roundedBits r < infinityBits) (habove : 2 ^ (r.level + 52) ≤ θ * r.units)
    (negative : Bool) : Within (errorFactor θ) (nearest negative r).units r.units := by
  refine within_of_abs_sub_le hθ hle r.units_nonneg ?_
  rw [pow_add] at habove
  have hoff := abs_units_nearest_sub_le hnum hden hfinite negative
  calc |(nearest negative r).units - r.units| * 2 ^ 53 ≤ 2 ^ r.level / 2 * 2 ^ 53 := by gcongr
    _ = 2 ^ r.level * 2 ^ 52 := by ring
    _ ≤ θ * r.units := habove

end SolverDeck.Binary64
