import SolverDeck.Json.Number
import SolverDeck.Proofs.Binary64.Arithmetic

/-!
# How far scaling is off

A significand is scaled by multiplying it with a power of ten or dividing it by one, and the
significand, the power and the result are all rounded. The last rounding apart, that moves the
result by less than two places (`exists_scaled`), and by nothing at all if the significand has at
most 53 bits and the exponent is no more than 22.

No power of ten is off by more than 0.91 parts in `2 ^ 53` (`within_powerOfTen`), which leaves room
for one more rounding. Only exponents below -308 take two: there the significand and the first
quotient cannot both be close above a power of two, where rounding costs the most, because
`10 ^ 308` is not close to one (`above_or_above`).
-/

namespace SolverDeck.Json

open Binary64

/-! ### Powers of ten -/

variable {n s : ℕ} {e : ℤ} {x : Binary64}

theorem rounds_powerOfTen (n : ℕ) : Rounds (powerOfTen n) ((10 ^ n : ℕ) : ℚ) :=
  rounds_ofNat (pow_ne_zero n (by norm_num))

theorem isFinite_powerOfTen (hn : n ≤ mostPower) : (powerOfTen n).isFinite = true := by
  have hle : 10 ^ mostPower ≤ greatest := by decide +kernel
  have hpow : 10 ^ n ≤ 10 ^ mostPower := Nat.pow_le_pow_right (by norm_num) hn
  exact (rounds_powerOfTen n).isFinite_of_le (Nat.cast_le.mpr (hpow.trans hle))

/-- How far a number is off a whole number, if that was checked on its fraction. -/
theorem within_of_checked {m a b : ℕ} (hb : b ≠ 0) (hle : a ≤ b)
    (h : ((x.ratio.num : ℤ) - m * x.ratio.den).natAbs * (b * 2 ^ 53) ≤ a * (m * x.ratio.den)) :
    Within (errorFactor (a / b)) x.value m := by
  have hbPos : (0 : ℚ) < b := by exact_mod_cast Nat.pos_of_ne_zero hb
  have hden : (0 : ℚ) < x.ratio.den := by exact_mod_cast Nat.pos_of_ne_zero x.den_ratio_ne_zero
  refine within_of_abs_sub_le (by positivity) ((div_le_one hbPos).mpr (by exact_mod_cast hle))
    (Nat.cast_nonneg m) ?_
  have hcast : |(x.ratio.num : ℚ) - m * x.ratio.den| * (b * 2 ^ 53) ≤ a * (m * x.ratio.den) := by
    have := (Nat.cast_le (α := ℚ)).mpr h
    push_cast [Nat.cast_natAbs] at this
    exact this
  have hvalue : x.value - m = ((x.ratio.num : ℚ) - m * x.ratio.den) / x.ratio.den := by
    rw [← value_ratio, Ratio.value]
    field_simp
  rw [hvalue, abs_div, abs_of_pos hden, div_mul_eq_mul_div, div_le_iff₀ hden]
  calc |(x.ratio.num : ℚ) - m * x.ratio.den| * 2 ^ 53
      = |(x.ratio.num : ℚ) - m * x.ratio.den| * (b * 2 ^ 53) / b := by field_simp
    _ ≤ (a : ℚ) * (m * x.ratio.den) / b := by gcongr
    _ = a / b * m * x.ratio.den := by ring

theorem powerOfTen_checked : ∀ n < 309,
    (((powerOfTen n).ratio.num : ℤ) - (10 ^ n : ℕ) * (powerOfTen n).ratio.den).natAbs *
        (100 * 2 ^ 53) ≤ 91 * (10 ^ n * (powerOfTen n).ratio.den) := by
  decide +kernel

theorem mostPower_checked :
    (((powerOfTen mostPower).ratio.num : ℤ) -
          (10 ^ mostPower : ℕ) * (powerOfTen mostPower).ratio.den).natAbs * (1000 * 2 ^ 53) ≤
      99 * (10 ^ mostPower * (powerOfTen mostPower).ratio.den) := by
  decide +kernel

/-- **Powers of ten.** -/
theorem within_powerOfTen (hn : n ≤ mostPower) :
    Within (errorFactor (91 / 100)) (powerOfTen n).value (10 ^ n) := by
  have hlt : n < 309 := Nat.lt_succ_of_le hn
  have hwithin := within_of_checked (by norm_num) (by norm_num) (powerOfTen_checked n hlt)
  rwa [Nat.cast_pow] at hwithin

theorem value_powerOfTen_pos (hn : n ≤ mostPower) : 0 < (powerOfTen n).value :=
  (within_powerOfTen hn).pos (by norm_num [errorFactor]) (by positivity)

/-- The greatest one is closer. -/
theorem within_mostPower :
    Within (errorFactor (99 / 1000)) (powerOfTen mostPower).value (10 ^ mostPower) := by
  have hwithin := within_of_checked (by norm_num) (by norm_num) mostPower_checked
  rwa [Nat.cast_pow] at hwithin

/-- Small powers of ten are exact, having few bits apart from a power of two. -/
theorem value_powerOfTen (hn : n ≤ 22) : (powerOfTen n).value = 10 ^ n := by
  have hpow : ((10 ^ n : ℕ) : ℚ) = (5 ^ n : ℕ) * 2 ^ n := by
    rw [Nat.cast_pow, Nat.cast_pow, ← mul_pow]
    norm_num
  have hlt : 5 ^ n < 2 ^ 53 :=
    (Nat.pow_le_pow_right (by norm_num) hn).trans_lt (by norm_num)
  have hmost : n ≤ mostPower := hn.trans (by decide)
  rw [(rounds_powerOfTen n).value_eq (isFinite_powerOfTen hmost) hlt hpow, Nat.cast_pow,
    Nat.cast_ofNat]

/-! ### Significands -/

theorem isFinite_significand (hs : s ≠ 0) (hle : s ≤ 2 * 10 ^ 18) : (ofNat s).isFinite = true := by
  have hgreatest : 2 * 10 ^ 18 ≤ greatest := by decide +kernel
  exact (rounds_ofNat hs).isFinite_of_le (Nat.cast_le.mpr (hle.trans hgreatest))

theorem normal_significand (hs : s ≠ 0) : (2 : ℚ) ^ 52 ≤ s * 2 ^ 1074 := by
  have hone : (1 : ℚ) ≤ s := by exact_mod_cast Nat.one_le_iff_ne_zero.mpr hs
  calc (2 : ℚ) ^ 52 ≤ 2 ^ 1074 := pow_le_pow_right₀ (by norm_num) (by norm_num)
    _ ≤ s * 2 ^ 1074 := le_mul_of_one_le_left (by positivity) hone

theorem within_significand (hs : s ≠ 0) (hle : s ≤ 2 * 10 ^ 18) :
    Within (errorFactor 1) (ofNat s).value s :=
  (rounds_ofNat hs).within_one (isFinite_significand hs hle) (normal_significand hs)

theorem value_significand_pos (hs : s ≠ 0) (hle : s ≤ 2 * 10 ^ 18) : 0 < (ofNat s).value := by
  have hsPos : (0 : ℚ) < s := by exact_mod_cast Nat.pos_of_ne_zero hs
  exact (within_significand hs hle).pos (by norm_num [errorFactor]) hsPos

theorem value_significand (hs : s ≠ 0) (hlt : s < 2 ^ 53) : (ofNat s).value = s := by
  have hle : s ≤ 2 * 10 ^ 18 := hlt.le.trans (by norm_num)
  exact (rounds_ofNat hs).value_eq (k := 0) (isFinite_significand hs hle) hlt
    (by rw [pow_zero, mul_one])

/-! ### One rounding -/

theorem scaled_of_nonneg (he : 0 ≤ e) (hmost : e ≤ mostPower)
    (hfinite : (x * powerOfTen e.toNat).isFinite = true) :
    scaled x e = some (x * powerOfTen e.toNat) := by
  rw [scaled, if_neg (by omega), if_neg (by omega), if_pos hmost]
  exact if_pos hfinite

theorem scaled_of_neg (hleast : -mostPower ≤ e) (he : e < 0) :
    scaled x e = some (x / powerOfTen (-e).toNat) := by
  rw [scaled, if_neg (by omega), if_pos he]

theorem scaled_of_lt (he : e < -mostPower) (hx : x.isZero = false) :
    scaled x e = scaled (x / powerOfTen mostPower) (e + mostPower) := by
  rw [scaled, if_pos he, if_neg (by rw [hx]; exact Bool.false_ne_true)]

/-- What is scaled, before the last rounding, is less than two places off. -/
structure ScaledNear (x : Binary64) (s : ℕ) (e : ℤ) (y : Binary64) (ρ : ℚ) : Prop where
  rounds : Rounds y ρ
  near : |position (ρ * 2 ^ 1074) - position (s * 10 ^ e * 2 ^ 1074)| < 2
  exact : s < 2 ^ 53 → e.natAbs ≤ 22 → ρ = s * 10 ^ e
  scaled_eq : y.isFinite = true → scaled x e = some y

theorem near_of_within {f ρ σ : ℚ} (h : Within f ρ σ) (hρ : 0 ≤ ρ) (hσ : 0 ≤ σ) (hf : 1 ≤ f)
    (hlt : (f - 1) * 2 ^ 53 < 2) :
    |position (ρ * 2 ^ 1074) - position (σ * 2 ^ 1074)| < 2 := by
  have hpos : (0 : ℚ) ≤ 2 ^ 1074 := by positivity
  exact ((h.scale hpos).position_le (mul_nonneg hρ hpos) (mul_nonneg hσ hpos) hf).trans_lt hlt

theorem exists_scaled_of_nonneg (hs : s ≠ 0) (hle : s ≤ 2 * 10 ^ 18) (he : 0 ≤ e)
    (hmost : e ≤ mostPower) : ∃ y ρ, ScaledNear (ofNat s) s e y ρ := by
  obtain ⟨n, rfl⟩ := Int.eq_ofNat_of_zero_le he
  have hn : n ≤ mostPower := by omega
  have hsPos : (0 : ℚ) < s := by exact_mod_cast Nat.pos_of_ne_zero hs
  have hpow : (0 : ℚ) < 10 ^ n := by positivity
  have hx := within_significand hs hle
  have hp := within_powerOfTen hn
  have hxPos := value_significand_pos hs hle
  have hpPos := value_powerOfTen_pos hn
  have hrounds := rounds_mul hxPos hpPos (rounds_ofNat hs).isNegative (rounds_powerOfTen n).isNegative
  refine ⟨_, _, hrounds, ?_, ?_, ?_⟩
  · rw [zpow_natCast]
    exact near_of_within (hx.mul hp hxPos.le hsPos.le hpPos.le hpow.le) hrounds.pos.le
      (by positivity) (by norm_num [errorFactor]) (by norm_num [errorFactor])
  · intro hlt hsmall
    rw [value_significand hs hlt, value_powerOfTen (by omega), zpow_natCast]
  · intro hfinite
    exact scaled_of_nonneg he hmost hfinite

theorem exists_scaled_of_neg (hs : s ≠ 0) (hle : s ≤ 2 * 10 ^ 18) (he : e < 0)
    (hleast : -mostPower ≤ e) : ∃ y ρ, ScaledNear (ofNat s) s e y ρ := by
  obtain ⟨n, rfl⟩ := Int.exists_eq_neg_ofNat he.le
  have hn : n ≤ mostPower := by omega
  have hsPos : (0 : ℚ) < s := by exact_mod_cast Nat.pos_of_ne_zero hs
  have hpow : (0 : ℚ) < 10 ^ n := by positivity
  have hx := within_significand hs hle
  have hp := within_powerOfTen hn
  have hxPos := value_significand_pos hs hle
  have hpPos := value_powerOfTen_pos hn
  have hrounds := rounds_div hxPos hpPos (rounds_ofNat hs).isNegative (rounds_powerOfTen n).isNegative
  refine ⟨_, _, hrounds, ?_, ?_, ?_⟩
  · rw [zpow_neg, zpow_natCast, ← div_eq_mul_inv]
    exact near_of_within (hx.div hp hxPos.le hsPos.le hpPos hpow) hrounds.pos.le
      (by positivity) (by norm_num [errorFactor]) (by norm_num [errorFactor])
  · intro hlt hsmall
    rw [value_significand hs hlt, value_powerOfTen (by omega), zpow_neg, zpow_natCast,
      ← div_eq_mul_inv]
  · intro hfinite
    rw [scaled_of_neg hleast he, neg_neg, Int.toNat_natCast]

/-! ### Two roundings -/

theorem cast_pow_mul_le {a b c d i j : ℕ} (h : a ^ i * b ≤ c * d ^ j) :
    (a : ℚ) ^ i * b ≤ c * (d : ℚ) ^ j := by
  exact_mod_cast h

/-- Of two magnitudes that are `10 ^ 308` times apart, one is well above the least of its level. -/
theorem above_or_above {σ ζ : ℚ} (hσ : 2 ^ 52 ≤ σ) (hζ : 2 ^ 52 ≤ ζ)
    (h : Within (1001 / 1000) (ζ * 10 ^ mostPower) σ) :
    2 ^ (level σ + 52) ≤ 9 / 10 * σ ∨ 2 ^ (level ζ + 52) ≤ 9 / 10 * ζ := by
  -- `10 ^ 308` is well above `2 ^ 1023` and well below `2 ^ 1024`.
  have hlow : (2 : ℚ) ^ 1023 * 10010 ≤ 9000 * 10 ^ mostPower :=
    cast_pow_mul_le (by decide +kernel)
  have hhigh : 10 ^ mostPower * 10010 ≤ 9000 * (2 : ℚ) ^ 1024 :=
    cast_pow_mul_le (by decide +kernel)
  have hσle := two_pow_level_le hσ
  have hζle := two_pow_level_le hζ
  -- Otherwise both are close to powers of two, which then are as far apart as `10 ^ 308`.
  by_contra hbelow
  push Not at hbelow
  obtain ⟨hσlt, hζlt⟩ := hbelow
  rw [pow_add] at hσle hζle hσlt hζlt
  have hpow : (0 : ℚ) < 10 ^ mostPower := by positivity
  have hupper : level σ < level ζ + 1024 := by
    refine (pow_lt_pow_iff_right₀ (one_lt_two : (1 : ℚ) < 2)).mp ?_
    rw [pow_add]
    generalize (2 : ℚ) ^ 1024 = top at hhigh ⊢
    have hstep : ζ * 10 ^ mostPower * (1001 / 1000) <
        10 / 9 * (2 ^ level ζ * 2 ^ 52) * 10 ^ mostPower * (1001 / 1000) := by
      gcongr
      linarith
    have hlast : 2 ^ level ζ * 2 ^ 52 * (10 ^ mostPower * 10010) ≤
        2 ^ level ζ * 2 ^ 52 * (9000 * top) := by
      gcongr
    linarith [h.ge]
  have hlower : level ζ + 1023 < level σ := by
    refine (pow_lt_pow_iff_right₀ (one_lt_two : (1 : ℚ) < 2)).mp ?_
    rw [pow_add]
    generalize (2 : ℚ) ^ 1023 = bottom at hlow ⊢
    have hstep : 2 ^ level ζ * 2 ^ 52 * 10 ^ mostPower ≤ ζ * 10 ^ mostPower := by
      gcongr
    have hlast : 2 ^ level ζ * 2 ^ 52 * (bottom * 10010) ≤
        2 ^ level ζ * 2 ^ 52 * (9000 * 10 ^ mostPower) := by
      gcongr
    linarith [h.le]
  omega

/-- What the first quotient is rounded from, coarsely. -/
theorem within_quotient (hs : s ≠ 0) (hle : s ≤ 2 * 10 ^ 18) :
    Within (1001 / 1000) ((ofNat s).value / (powerOfTen mostPower).value * 10 ^ mostPower) s := by
  have hsPos : (0 : ℚ) < s := by exact_mod_cast Nat.pos_of_ne_zero hs
  have hpow : (0 : ℚ) < 10 ^ mostPower := by positivity
  have hx := within_significand hs hle
  have hp := within_mostPower
  have hxPos := value_significand_pos hs hle
  have hpPos := value_powerOfTen_pos le_rfl
  have hquotient := (hx.div hp hxPos.le hsPos.le hpPos hpow).scale hpow.le
  rw [div_mul_cancel₀ _ hpow.ne'] at hquotient
  exact hquotient.mono (by norm_num [errorFactor])
    (mul_pos (div_pos hxPos hpPos) hpow).le hsPos.le

theorem normal_quotient {ζ : ℚ} (hs : 3 ≤ s) (hζ : 0 < ζ)
    (h : Within (1001 / 1000) (ζ * 10 ^ mostPower) s) : 2 ^ 52 ≤ ζ * 2 ^ 1074 := by
  have hs' : (3 : ℚ) ≤ s := by exact_mod_cast hs
  have hlow : 10 ^ mostPower * 1001 ≤ 3000 * (2 : ℚ) ^ 1022 :=
    cast_pow_mul_le (by decide +kernel)
  rw [show 1074 = 1022 + 52 from rfl, pow_add, ← mul_assoc]
  generalize (2 : ℚ) ^ 1022 = normal at hlow ⊢
  have hstep : ζ * (10 ^ mostPower * 1001) ≤ ζ * (3000 * normal) := by gcongr
  have hone : 1 ≤ ζ * normal := by linarith [h.ge]
  exact le_mul_of_one_le_left (by norm_num) hone

theorem isFinite_quotient {ζ : ℚ} {z : Binary64} (hz : Rounds z ζ) (hle : s ≤ 2 * 10 ^ 18)
    (h : Within (1001 / 1000) (ζ * 10 ^ mostPower) s) : z.isFinite = true := by
  have hsle : (s : ℚ) ≤ 2 * 10 ^ 18 := by exact_mod_cast hle
  have hgreatest : ((4 * 10 ^ 18 : ℕ) : ℚ) ≤ greatest := Nat.cast_le.mpr (by decide +kernel)
  have hone : (1 : ℚ) ≤ 10 ^ mostPower := one_le_pow₀ (by norm_num)
  have hmul := le_mul_of_one_le_right hz.pos.le hone
  refine hz.isFinite_of_le (le_trans ?_ hgreatest)
  push_cast
  linarith [h.le]

/-- The first quotient, if the significand is no less than three: the two roundings that lead to it
and that of the power are small together. -/
theorem within_first_quotient (hs : 3 ≤ s) (hle : s ≤ 2 * 10 ^ 18) :
    Within (errorFactor (9 / 10) * (errorFactor 1 * errorFactor (99 / 1000)))
      (ofNat s / powerOfTen mostPower).value (s / 10 ^ mostPower) := by
  have hne : s ≠ 0 := by omega
  have hsPos : (0 : ℚ) < s := by exact_mod_cast Nat.pos_of_ne_zero hne
  have hpow : (0 : ℚ) < 10 ^ mostPower := by positivity
  have hunit : (0 : ℚ) ≤ 2 ^ 1074 := by positivity
  have hp := within_mostPower
  have hpPos := value_powerOfTen_pos le_rfl
  have hx := within_significand hne hle
  have hxPos := value_significand_pos hne hle
  have hcoarse := within_quotient hne hle
  have hz := rounds_div hxPos hpPos (rounds_ofNat hne).isNegative
    (rounds_powerOfTen mostPower).isNegative
  have hnormal := normal_quotient hs hz.pos hcoarse
  have hfinite := isFinite_quotient hz hle hcoarse
  have hcoarse' := hcoarse.scale hunit
  rw [mul_right_comm] at hcoarse'
  obtain habove | habove := above_or_above (normal_significand hne) hnormal hcoarse'
  · have hx' := (rounds_ofNat hne).within (isFinite_significand hne hle) (by norm_num) (by norm_num)
      habove
    have hquotient := hx'.div hp hxPos.le hsPos.le hpPos hpow
    have htotal := (hz.within_one hfinite hnormal).trans hquotient (by norm_num [errorFactor])
      (by norm_num [errorFactor])
    rwa [mul_left_comm] at htotal
  · exact (hz.within hfinite (by norm_num) (by norm_num) habove).trans
      (hx.div hp hxPos.le hsPos.le hpPos hpow) (by norm_num [errorFactor]) (by norm_num [errorFactor])

theorem small_checked : ∀ s ∈ [1, 2],
    (((ofNat s / powerOfTen mostPower).ratio.num : ℤ) * 10 ^ mostPower -
          s * (ofNat s / powerOfTen mostPower).ratio.den).natAbs * 2 ^ 1074 ≤
      (ofNat s / powerOfTen mostPower).ratio.den * 10 ^ mostPower := by
  decide +kernel

/-- The first quotient of a smaller significand is less than a whole step off, though not normal. -/
theorem abs_first_quotient_sub_le (hs : s = 1 ∨ s = 2) :
    |(ofNat s / powerOfTen mostPower).value - s / 10 ^ mostPower| * 2 ^ 1074 ≤ 1 := by
  have hmem : s ∈ [1, 2] := by simpa using hs
  have hchecked := (Nat.cast_le (α := ℚ)).mpr (small_checked s hmem)
  generalize ofNat s / powerOfTen mostPower = z at hchecked ⊢
  have hden : (0 : ℚ) < z.ratio.den := by exact_mod_cast Nat.pos_of_ne_zero z.den_ratio_ne_zero
  have hpow : (0 : ℚ) < 10 ^ mostPower := by positivity
  rw [Nat.cast_mul, Nat.cast_mul, Nat.cast_natAbs, Nat.cast_pow, Nat.cast_pow, Int.cast_abs] at hchecked
  generalize (2 : ℚ) ^ 1074 = unit at hchecked ⊢
  have hvalue : z.value - s / 10 ^ mostPower =
      (z.ratio.num * 10 ^ mostPower - s * z.ratio.den) / (z.ratio.den * 10 ^ mostPower) := by
    rw [← value_ratio, Ratio.value, div_sub_div _ _ hden.ne' hpow.ne']
    ring
  rw [hvalue, abs_div, abs_of_pos (mul_pos hden hpow), div_mul_eq_mul_div,
    div_le_one (mul_pos hden hpow)]
  simpa using hchecked

/-- The first quotient, divided once more by an exact power of ten. -/
theorem near_second_quotient (hs : s ≠ 0) (hle : s ≤ 2 * 10 ^ 18) (n : ℕ) :
    0 < (ofNat s / powerOfTen mostPower).value ∧
      |position ((ofNat s / powerOfTen mostPower).value / 10 ^ n * 2 ^ 1074) -
        position (s / 10 ^ mostPower / 10 ^ n * 2 ^ 1074)| < 2 := by
  have hsPos : (0 : ℚ) < s := by exact_mod_cast Nat.pos_of_ne_zero hs
  have hpow : (0 : ℚ) < 10 ^ mostPower := by positivity
  have hpow' : (0 : ℚ) < 10 ^ n := by positivity
  have hquotient := div_pos hsPos hpow
  by_cases hthree : 3 ≤ s
  · have hwithin := within_first_quotient hthree hle
    have hzPos := hwithin.pos (by norm_num [errorFactor]) hquotient
    have hdivided := hwithin.scale (inv_nonneg.mpr hpow'.le)
    rw [← div_eq_mul_inv, ← div_eq_mul_inv] at hdivided
    exact ⟨hzPos, near_of_within hdivided (div_pos hzPos hpow').le (div_pos hquotient hpow').le
      (by norm_num [errorFactor]) (by norm_num [errorFactor])⟩
  · have hoff := abs_first_quotient_sub_le (s := s) (by omega)
    have hunit : 10 ^ mostPower < (2 : ℚ) ^ 1074 := by
      have hnat : 10 ^ mostPower < 2 ^ 1074 := by decide +kernel
      have hcast := (Nat.cast_lt (α := ℚ)).mpr hnat
      rwa [Nat.cast_pow, Nat.cast_pow] at hcast
    have hone : (1 : ℚ) ≤ s := by exact_mod_cast Nat.one_le_iff_ne_zero.mpr hs
    have hten : (1 : ℚ) ≤ 10 ^ n := one_le_pow₀ (by norm_num)
    have hz := value_nonneg (ofNat s / powerOfTen mostPower)
    generalize (ofNat s / powerOfTen mostPower).value = z at hoff hz ⊢
    generalize (2 : ℚ) ^ 1074 = unit at hoff hunit ⊢
    have hunitPos : 0 < unit := hpow.trans hunit
    refine ⟨?_, ?_⟩
    · rcases hz.lt_or_eq with hz | rfl
      · exact hz
      · rw [zero_sub, abs_neg, abs_of_pos hquotient, div_mul_eq_mul_div, div_le_one hpow] at hoff
        have : unit ≤ s * unit := le_mul_of_one_le_left hunitPos.le hone
        linarith
    · refine (abs_position_sub_le (mul_nonneg (div_nonneg hz hpow'.le) hunitPos.le)
        (mul_pos (div_pos hquotient hpow') hunitPos).le).trans_lt ?_
      rw [← sub_mul, ← sub_div, abs_mul, abs_div, abs_of_pos hpow', abs_of_pos hunitPos,
        div_mul_eq_mul_div]
      have := div_le_self (mul_nonneg (abs_nonneg (z - s / 10 ^ mostPower)) hunitPos.le) hten
      linarith

theorem exists_scaled_of_lt (hs : s ≠ 0) (hle : s ≤ 2 * 10 ^ 18) (he : e < -mostPower)
    (hleast : -324 ≤ e) : ∃ y ρ, ScaledNear (ofNat s) s e y ρ := by
  have hmost : mostPower = 308 := rfl
  obtain ⟨n, hn⟩ := Int.eq_ofNat_of_zero_le (show 0 ≤ -(e + mostPower) by omega)
  have hsPos : (0 : ℚ) < s := by exact_mod_cast Nat.pos_of_ne_zero hs
  have hpow : (0 : ℚ) < 10 ^ mostPower := by positivity
  have hpow' : (0 : ℚ) < 10 ^ n := by positivity
  have hxPos := value_significand_pos hs hle
  have hpPos := value_powerOfTen_pos le_rfl
  have hpValue : (powerOfTen n).value = 10 ^ n := value_powerOfTen (by omega)
  have hz := rounds_div hxPos hpPos (rounds_ofNat hs).isNegative
    (rounds_powerOfTen mostPower).isNegative
  have hexact : (s : ℚ) * 10 ^ e = s / 10 ^ mostPower / 10 ^ n := by
    rw [show e = -(mostPower : ℤ) + -(n : ℤ) by omega, zpow_add₀ (by norm_num), zpow_neg, zpow_neg,
      zpow_natCast, zpow_natCast]
    ring
  have hscaled : scaled (ofNat s) e = some (ofNat s / powerOfTen mostPower / powerOfTen n) := by
    rw [scaled_of_lt he (isZero_of_value_pos hxPos), scaled_of_neg (by omega) (by omega), hn,
      Int.toNat_natCast]
  obtain ⟨hzPos, hnear⟩ := near_second_quotient hs hle n
  have hrounds := rounds_div hzPos (hpValue ▸ hpow') hz.isNegative (rounds_powerOfTen n).isNegative
  rw [hpValue] at hrounds
  exact ⟨_, _, hrounds, by rwa [hexact], fun _ _ => by omega, fun _ => hscaled⟩

/-- **Scaling.** -/
theorem exists_scaled (hs : s ≠ 0) (hle : s ≤ 2 * 10 ^ 18) (hleast : -324 ≤ e)
    (hmost : e ≤ mostPower) : ∃ y ρ, ScaledNear (ofNat s) s e y ρ := by
  by_cases he : 0 ≤ e
  · exact exists_scaled_of_nonneg hs hle he hmost
  · by_cases hlow : -mostPower ≤ e
    · exact exists_scaled_of_neg hs hle (by omega) hlow
    · exact exists_scaled_of_lt hs hle (by omega) hleast

end SolverDeck.Json
