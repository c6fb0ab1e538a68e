import SolverDeck.Proofs.Decimal.Span

/-!
# The search for the shortest decimal

The search for a decimal always ends on one of its grids (`shortest_spec`): a grid that is finer
than the span is wide has a point in the span, and then one right next to the number
(`exists_onGrid`). The grids are fine enough after twenty, and also at `10 ^ (-324)`, below which no
two numbers lie. Both bounds say how many digits there can be and how small their exponent.

How far the estimate of the first grid can be off is checked one binary exponent at a time
(`estimate_checked`).
-/

namespace SolverDeck

open Binary64 (two_zpow_pos zpow_eq_div)

theorem ten_zpow_pos (t : ℤ) : (0 : ℚ) < 10 ^ t :=
  zpow_pos (by norm_num) t

namespace Span

variable {s : Span} {tie : Tie} {t t₀ : ℤ} {d : Decimal}

/-! ### One grid -/

/-- What is taken from a grid lies on it and in the span. -/
theorem onGrid_spec (h : s.onGrid tie t = some d) : s.holds d = true ∧ d.exponent = t := by
  unfold onGrid at h
  split at h
  case _ hbelow habove =>
      obtain rfl := Option.some.inj h
      split
      · exact ⟨hbelow, rfl⟩
      · exact ⟨habove, rfl⟩
  case _ hbelow habove =>
      obtain rfl := Option.some.inj h
      exact ⟨hbelow, rfl⟩
  case _ hbelow habove =>
      obtain rfl := Option.some.inj h
      exact ⟨habove, rfl⟩
  case _ => cases h

theorem onGrid_of_holds (h : s.holds (s.below t) = true ∨ s.holds (s.above t) = true) :
    ∃ d, s.onGrid tie t = some d := by
  unfold onGrid
  split
  case _ => exact ⟨_, rfl⟩
  case _ => exact ⟨_, rfl⟩
  case _ => exact ⟨_, rfl⟩
  case _ hbelow habove =>
      rw [hbelow, habove] at h
      simp at h

/-- The number lies between its two neighbours on a grid. -/
theorem between_neighbours (s : Span) (t : ℤ) :
    (s.below t).value ≤ s.mid * 2 ^ s.scale ∧ s.mid * 2 ^ s.scale < (s.above t).value := by
  have hgrid : 0 < s.gridFactor t := by
    rw [gridFactor]
    simp only [Nat.pow_eq]
    positivity
  constructor
  · exact (s.grid_le_mark_iff t _ _).mp (Nat.div_mul_le_self _ _)
  · rw [← not_le]
    intro h
    have hle := (s.grid_le_mark_iff t _ _).mpr h
    have hlt := Nat.lt_mul_div_succ (s.mid * s.markFactor t) hgrid
    rw [mul_comm (s.gridFactor t)] at hlt
    exact absurd hle (Nat.not_le.mpr hlt)

/-- **A grid finer than the span has a point in it.** -/
theorem exists_onGrid (hlow : s.low < s.mid) (hhigh : s.mid < s.high)
    (hfine : (10 : ℚ) ^ t < (s.high - s.low) * 2 ^ s.scale) : ∃ d, s.onGrid tie t = some d := by
  have hgrid := ten_zpow_pos t
  have hscale := two_zpow_pos s.scale
  obtain ⟨hbelow, habove⟩ := s.between_neighbours t
  have hlowMid : (s.low : ℚ) * 2 ^ s.scale < s.mid * 2 ^ s.scale := by
    have : (s.low : ℚ) < s.mid := by exact_mod_cast hlow
    gcongr
  have hmidHigh : (s.mid : ℚ) * 2 ^ s.scale < s.high * 2 ^ s.scale := by
    have : (s.mid : ℚ) < s.high := by exact_mod_cast hhigh
    gcongr
  have hstep : (s.above t).value = (s.below t).value + 10 ^ t := by
    rw [Decimal.value, Decimal.value, above, below]
    push_cast
    ring
  refine onGrid_of_holds ?_
  -- If the point below the number is too low, the one above it is not too high.
  by_cases hcase : (s.low : ℚ) * 2 ^ s.scale < (s.below t).value
  · exact .inl (holds_iff.mpr (.inl ⟨hcase, by linarith⟩))
  · exact .inr (holds_iff.mpr (.inl ⟨by linarith, by linarith⟩))

/-! ### All grids -/

/-- The search finds something no finer than a grid with a point. -/
theorem firstOnGrid_spec {count : ℕ} (hgrid : ∃ d, s.onGrid tie t₀ = some d) (hle : t₀ ≤ t)
    (hcount : t - t₀ < count) :
    ∃ d, s.firstOnGrid tie count t = some d ∧ s.holds d = true ∧ t₀ ≤ d.exponent ∧
      d.exponent ≤ t := by
  induction count generalizing t with
  | zero => omega
  | succ count ih =>
      rw [firstOnGrid]
      cases hnow : s.onGrid tie t with
      | some d =>
          obtain ⟨hholds, hexponent⟩ := onGrid_spec hnow
          exact ⟨d, rfl, hholds, by omega, by omega⟩
      | none =>
          have hne : t ≠ t₀ := by
            rintro rfl
            obtain ⟨d, hd⟩ := hgrid
            rw [hnow] at hd
            cases hd
          obtain ⟨d, hd, hholds, hlow, hhigh⟩ := ih (t := t - 1) (by omega) (by omega)
          exact ⟨d, hd, hholds, hlow, by omega⟩

/-! ### The estimate -/

/-- The estimate of the decimal exponent of `2 ^ e`. -/
def estimate (e : ℤ) : ℤ :=
  e * 30103 / 100000

/-- The estimate is off by less than one decimal place, and by less than a factor of two. -/
theorem estimate_checked : ∀ i : ℕ, i < 2100 →
    10 ^ (estimate (i - 1075)).toNat * 2 ^ (-(i - 1075 : ℤ)).toNat ≤
        2 * 2 ^ (i - 1075 : ℤ).toNat * 10 ^ (-estimate (i - 1075)).toNat ∧
      2 ^ (i - 1075 : ℤ).toNat * 10 ^ (-(estimate (i - 1075) + 1)).toNat ≤
        2 * 10 ^ (estimate (i - 1075) + 1).toNat * 2 ^ (-(i - 1075 : ℤ)).toNat := by
  decide +kernel

theorem estimate_bounds {e : ℤ} (hleast : -1075 ≤ e) (hmost : e < 1025) :
    (10 : ℚ) ^ estimate e ≤ 2 * 2 ^ e ∧ (2 : ℚ) ^ e ≤ 2 * 10 ^ (estimate e + 1) := by
  obtain ⟨hlow, hhigh⟩ := estimate_checked (e + 1075).toNat (by omega)
  rw [show (((e + 1075).toNat : ℕ) : ℤ) - 1075 = e by omega] at hlow hhigh
  constructor
  · rw [zpow_eq_div 10 (by norm_num), zpow_eq_div 2 (by norm_num) e, mul_div_assoc',
      div_le_div_iff₀ (by positivity) (by positivity)]
    exact_mod_cast hlow
  · rw [zpow_eq_div 2 (by norm_num), zpow_eq_div 10 (by norm_num) (estimate e + 1), mul_div_assoc',
      div_le_div_iff₀ (by positivity) (by positivity)]
    exact_mod_cast hhigh

end Span

namespace Binary64

variable {x : Binary64} {tie : Tie}

theorem exponent_le (hx : x.isFinite = true) : x.exponent ≤ 971 := by
  rw [isFinite, decide_eq_true_eq] at hx
  rw [exponent]
  split <;> omega

theorem span_low_lt_mid (h : x.isZero = false) : x.span.low < x.span.mid := by
  have hmantissa := mantissa_ne_zero h
  rw [span]
  dsimp only
  split <;> omega

theorem span_mid_lt_high (x : Binary64) : x.span.mid < x.span.high := by
  rw [span]
  exact Nat.lt_add_of_pos_right (by norm_num)

theorem three_le_span_width (h : x.isZero = false) : x.span.low + 3 ≤ x.span.high := by
  have hmantissa := mantissa_ne_zero h
  rw [span]
  dsimp only
  split <;> omega

/-- The binary exponent just above a number. -/
def above (x : Binary64) : ℤ :=
  (x.span.mid.log2 : ℤ) + x.span.scale + 1

theorem log2_mid_bounds (h : x.isZero = false) :
    2 ≤ x.span.mid.log2 ∧ x.span.mid.log2 ≤ 54 ∧ x.span.high ≤ 2 ^ (x.span.mid.log2 + 1) := by
  have hmantissa := mantissa_ne_zero h
  have hlt := x.mantissa_lt
  have hmid : x.span.mid = 4 * x.mantissa := rfl
  have hhigh : x.span.high = 4 * x.mantissa + 2 := rfl
  have hne : x.span.mid ≠ 0 := by omega
  have hleast : 2 ≤ x.span.mid.log2 := (Nat.le_log2 hne).mpr (by omega)
  have hmost : x.span.mid.log2 < 55 := (Nat.log2_lt hne).mpr (by omega)
  have hbelow : x.span.mid < 2 ^ (x.span.mid.log2 + 1) := Nat.lt_log2_self
  refine ⟨hleast, by omega, ?_⟩
  -- Between the number and the next power of two there is room for its upper end.
  obtain ⟨k, hk⟩ := Nat.exists_eq_add_of_le hleast
  have hpow : 2 ^ (x.span.mid.log2 + 1) = 8 * 2 ^ k := by
    rw [hk, show 2 + k + 1 = 3 + k by omega, pow_add]
    norm_num
  omega

theorem above_bounds (hx : x.isFinite = true) (h : x.isZero = false) :
    -1073 ≤ x.above ∧ x.above ≤ 1024 := by
  obtain ⟨hleast, hmost, -⟩ := log2_mid_bounds h
  have hlow := x.neg1074_le_exponent
  have hhigh := exponent_le hx
  have hscale : x.span.scale = x.exponent - 2 := rfl
  rw [above]
  omega

/-- The upper end of the span is no greater than the next power of two. -/
theorem high_le_above (h : x.isZero = false) :
    (x.span.high : ℚ) * 2 ^ x.span.scale ≤ 2 ^ x.above := by
  obtain ⟨-, -, hhigh⟩ := log2_mid_bounds h
  have hcast : (x.span.high : ℚ) ≤ 2 ^ (x.span.mid.log2 + 1) := by exact_mod_cast hhigh
  have hpos := two_zpow_pos x.span.scale
  calc (x.span.high : ℚ) * 2 ^ x.span.scale
      ≤ 2 ^ (x.span.mid.log2 + 1) * 2 ^ x.span.scale := by gcongr
    _ = 2 ^ x.above := by
        rw [← zpow_natCast, ← zpow_add₀ (by norm_num), above]
        congr 1
        push_cast
        ring

/-- The span is wide enough for seventeen digits. -/
theorem above_le_width (h : x.isZero = false) :
    3 * (2 : ℚ) ^ x.above ≤ 2 ^ 55 * ((x.span.high - x.span.low) * 2 ^ x.span.scale) := by
  obtain ⟨-, hmost, -⟩ := log2_mid_bounds h
  have hpos := two_zpow_pos x.span.scale
  have hwidth : (3 : ℚ) ≤ x.span.high - x.span.low := by
    have : ((x.span.low + 3 : ℕ) : ℚ) ≤ x.span.high := by exact_mod_cast three_le_span_width h
    push_cast at this
    linarith
  have habove : (2 : ℚ) ^ x.above = 2 ^ (x.span.mid.log2 + 1) * 2 ^ x.span.scale := by
    rw [← zpow_natCast, ← zpow_add₀ (by norm_num), above]
    congr 1
    push_cast
    ring
  have hpow : (2 : ℚ) ^ (x.span.mid.log2 + 1) ≤ 2 ^ 55 :=
    pow_le_pow_right₀ (by norm_num) (by omega)
  calc 3 * (2 : ℚ) ^ x.above = 2 ^ (x.span.mid.log2 + 1) * (3 * 2 ^ x.span.scale) := by
        rw [habove]
        ring
    _ ≤ 2 ^ 55 * ((x.span.high - x.span.low) * 2 ^ x.span.scale) := by gcongr

/-- No span is narrower than the grid `10 ^ (-324)`. -/
theorem least_grid_lt_width (h : x.isZero = false) :
    (10 : ℚ) ^ (-324 : ℤ) < (x.span.high - x.span.low) * 2 ^ x.span.scale := by
  have hscale : -1076 ≤ x.span.scale := by
    have hle := x.neg1074_le_exponent
    have heq : x.span.scale = x.exponent - 2 := rfl
    omega
  have hwidth : (3 : ℚ) ≤ x.span.high - x.span.low := by
    have : ((x.span.low + 3 : ℕ) : ℚ) ≤ x.span.high := by exact_mod_cast three_le_span_width h
    push_cast at this
    linarith
  have hleast : (10 : ℚ) ^ (-324 : ℤ) < 3 * 2 ^ (-1076 : ℤ) := by
    have hnat : 2 ^ 1076 < 3 * 10 ^ 324 := by decide +kernel
    have hcast : (2 : ℚ) ^ 1076 < 3 * 10 ^ 324 := by exact_mod_cast hnat
    rw [zpow_neg, zpow_neg, ← div_eq_mul_inv, inv_lt_iff_one_lt_mul₀ (by positivity),
      div_mul_eq_mul_div, one_lt_div (by positivity)]
    exact_mod_cast hcast
  calc (10 : ℚ) ^ (-324 : ℤ) < 3 * 2 ^ (-1076 : ℤ) := hleast
    _ ≤ 3 * 2 ^ x.span.scale := by
        gcongr
        norm_num
    _ ≤ (x.span.high - x.span.low) * 2 ^ x.span.scale := by
        have hpos := two_zpow_pos x.span.scale
        gcongr

/-- The twentieth grid is finer than the span. -/
theorem last_grid_lt_width (hx : x.isFinite = true) (h : x.isZero = false) :
    (10 : ℚ) ^ (x.span.coarsest - 19) < (x.span.high - x.span.low) * 2 ^ x.span.scale := by
  obtain ⟨hleast, hmost⟩ := above_bounds hx h
  obtain ⟨hestimate, -⟩ := Span.estimate_bounds (e := x.above) (by omega) (by omega)
  have hwidth := above_le_width h
  have hpos := two_zpow_pos x.above
  have hgrid : (10 : ℚ) ^ (x.span.coarsest - 19) = 10 ^ Span.estimate x.above / 10 ^ 17 := by
    rw [show x.span.coarsest - 19 = Span.estimate x.above - 17 by
      rw [show x.span.coarsest = Span.estimate x.above + 2 from rfl]; ring, zpow_sub₀ (by norm_num)]
    norm_num
  rw [hgrid, div_lt_iff₀ (by positivity)]
  linarith

/-- **The search.** The shortest decimal of a number lies in its span and has not many digits. -/
theorem shortest_spec (hx : x.isFinite = true) (h : x.isZero = false) (tie : Tie) :
    x.span.holds (x.span.shortest tie) = true ∧
      (x.span.shortest tie).digits ≤ 2 * 10 ^ 18 ∧
      -324 ≤ (x.span.shortest tie).exponent ∧ (x.span.shortest tie).exponent ≤ 310 := by
  obtain ⟨hleast, hmost⟩ := above_bounds hx h
  have hcoarsest : x.span.coarsest = x.above * 30103 / 100000 + 2 := rfl
  -- the coarser one of the two grids that are fine enough
  have hgrid : ∃ d, x.span.onGrid tie (max (-324) (x.span.coarsest - 19)) = some d := by
    refine Span.exists_onGrid (span_low_lt_mid h) x.span_mid_lt_high ?_
    rcases max_choice (-324) (x.span.coarsest - 19) with hmax | hmax
    · rw [hmax]
      exact least_grid_lt_width h
    · rw [hmax]
      exact last_grid_lt_width hx h
  have hsearch : ∃ d, x.span.firstOnGrid tie 20 x.span.coarsest = some d ∧ x.span.holds d = true ∧
      max (-324) (x.span.coarsest - 19) ≤ d.exponent ∧ d.exponent ≤ x.span.coarsest :=
    Span.firstOnGrid_spec hgrid (by omega) (by omega)
  obtain ⟨d, hd, hholds, hlow, hhigh⟩ := hsearch
  rw [Span.shortest, hd, Option.getD_some]
  refine ⟨hholds, ?_, by omega, by omega⟩
  have hvalue : d.value ≤ x.span.high * 2 ^ x.span.scale := by
    rcases Span.holds_iff.mp hholds with ⟨-, hle⟩ | ⟨-, -, hle⟩
    · exact hle.le
    · exact hle
  obtain ⟨-, hestimate⟩ := Span.estimate_bounds (e := x.above) (by omega) (by omega)
  have hpos := ten_zpow_pos (Span.estimate x.above - 17)
  have hexponent : (10 : ℚ) ^ (Span.estimate x.above - 17) ≤ 10 ^ d.exponent :=
    zpow_le_zpow_right₀ (by norm_num) (by rw [Span.estimate]; omega)
  have hdigits : (d.digits : ℚ) * 10 ^ (Span.estimate x.above - 17) ≤
      2 * 10 ^ 18 * 10 ^ (Span.estimate x.above - 17) := by
    calc (d.digits : ℚ) * 10 ^ (Span.estimate x.above - 17) ≤ d.digits * 10 ^ d.exponent := by gcongr
      _ ≤ 2 ^ x.above := hvalue.trans (high_le_above h)
      _ ≤ 2 * 10 ^ (Span.estimate x.above + 1) := hestimate
      _ = 2 * 10 ^ 18 * 10 ^ (Span.estimate x.above - 17) := by
          rw [show Span.estimate x.above + 1 = 18 + (Span.estimate x.above - 17) by ring,
            zpow_add₀ (by norm_num)]
          norm_num
          ring
  exact_mod_cast le_of_mul_le_mul_right hdigits hpos

end Binary64

end SolverDeck
