import Mathlib.Algebra.Order.Field.Rat
import Mathlib.Data.Nat.Log
import Mathlib.Data.Rat.Floor
import Mathlib.Tactic.FieldSimp
import Mathlib.Tactic.GCongr
import Mathlib.Tactic.Linarith
import Mathlib.Tactic.Positivity
import Mathlib.Tactic.Ring

/-!
# Where a magnitude stands among the floating-point numbers

Magnitudes are measured in units of the least positive number, `2 ^ (-1074)`. At level `k` the
numbers are the multiples of `2 ^ k`; `AtLevel k ρ` says that `ρ` belongs there. The bits of a
number count the numbers below it, and `position ρ` goes on counting between them: one level is
`2 ^ 52` numbers, and at level `k` the position grows by one with every `2 ^ k`.

So the position is made of pieces of straight lines, one for each level. It is the least of these
lines (`position_le_line`), which is all that is needed to compare positions: they grow with the
magnitude (`position_strictMono`), and a magnitude that grows by a small part of itself moves by no
more than that part of `2 ^ 53` (`position_le_of_le_mul`), even from one level to the next.
-/

namespace SolverDeck.Binary64

/-- The magnitudes that are rounded to multiples of `2 ^ k`. -/
def AtLevel (k : ℕ) (ρ : ℚ) : Prop :=
  ρ < 2 ^ (k + 53) ∧ (k = 0 ∨ 2 ^ (k + 52) ≤ ρ)

/-- The level of a magnitude. -/
def level (ρ : ℚ) : ℕ :=
  Nat.log 2 ⌊ρ⌋₊ - 52

/-- The line on which the magnitudes of a level have their positions. -/
def line (k : ℕ) (ρ : ℚ) : ℚ :=
  k * 2 ^ 52 + ρ / 2 ^ k

/-- How many floating-point numbers lie below a magnitude, whole ones at the numbers themselves. -/
def position (ρ : ℚ) : ℚ :=
  line (level ρ) ρ

variable {ρ σ : ℚ} {j k : ℕ}

/-! ### Levels -/

theorem AtLevel.unique (hk : AtLevel k ρ) (hj : AtLevel j ρ) : k = j := by
  -- If one level were lower, the magnitude would be too small for the other.
  have hle : ∀ {k j : ℕ}, AtLevel k ρ → AtLevel j ρ → j ≤ k := by
    intro k j hk hj
    by_contra hlt
    obtain hj | hj := hj.2
    · omega
    · have hpow : (2 : ℚ) ^ (k + 53) ≤ 2 ^ (j + 52) := pow_le_pow_right₀ (by norm_num) (by omega)
      linarith [hk.1]
  exact Nat.le_antisymm (hle hj hk) (hle hk hj)

theorem atLevel_level (hρ : 0 ≤ ρ) : AtLevel (level ρ) ρ := by
  have habove : ρ < (⌊ρ⌋₊ : ℚ) + 1 := Nat.lt_floor_add_one ρ
  have hbelow : (⌊ρ⌋₊ : ℚ) ≤ ρ := Nat.floor_le hρ
  rw [level]
  generalize ⌊ρ⌋₊ = n at habove hbelow
  have hlt : n + 1 ≤ 2 ^ (Nat.log 2 n + 1) := Nat.lt_pow_succ_log_self (by norm_num) n
  refine ⟨?_, ?_⟩
  · have hpow : 2 ^ (Nat.log 2 n + 1) ≤ 2 ^ (Nat.log 2 n - 52 + 53) :=
      Nat.pow_le_pow_right (by norm_num) (by omega)
    have hcast : ((n + 1 : ℕ) : ℚ) ≤ ((2 ^ (Nat.log 2 n - 52 + 53) : ℕ) : ℚ) := by
      exact_mod_cast hlt.trans hpow
    push_cast at hcast
    linarith
  · by_cases hlog : Nat.log 2 n ≤ 52
    · exact .inl (by omega)
    · have hne : n ≠ 0 := by
        rintro rfl
        simp at hlog
      have hpow : 2 ^ Nat.log 2 n ≤ n := Nat.pow_log_le_self 2 hne
      rw [show Nat.log 2 n = Nat.log 2 n - 52 + 52 by omega] at hpow
      have hcast : ((2 ^ (Nat.log 2 n - 52 + 52) : ℕ) : ℚ) ≤ n := by exact_mod_cast hpow
      push_cast at hcast
      exact .inr (by linarith)

theorem AtLevel.level_eq (h : AtLevel k ρ) (hρ : 0 ≤ ρ) : level ρ = k :=
  (atLevel_level hρ).unique h

/-- A magnitude that is no less than the least normal number is no less than its level asks for. -/
theorem two_pow_level_le (h : 2 ^ 52 ≤ ρ) : 2 ^ (level ρ + 52) ≤ ρ := by
  have hρ : 0 ≤ ρ := le_trans (by norm_num) h
  obtain hlevel | hlevel := (atLevel_level hρ).2
  · rwa [hlevel]
  · exact hlevel

/-! ### Lines -/

theorem line_succ (k : ℕ) (ρ : ℚ) : line (k + 1) ρ = line k ρ + (2 ^ 52 - ρ / 2 ^ (k + 1)) := by
  rw [line, line, pow_succ]
  push_cast
  field_simp
  ring

theorem line_le_succ (h : ρ ≤ 2 ^ (k + 53)) : line k ρ ≤ line (k + 1) ρ := by
  rw [show k + 53 = 52 + (k + 1) by omega, pow_add] at h
  have hle : ρ / 2 ^ (k + 1) ≤ 2 ^ 52 := (div_le_iff₀ (by positivity)).mpr h
  rw [line_succ]
  linarith

theorem line_succ_le (h : 2 ^ (k + 53) ≤ ρ) : line (k + 1) ρ ≤ line k ρ := by
  rw [show k + 53 = 52 + (k + 1) by omega, pow_add] at h
  have hle : 2 ^ 52 ≤ ρ / 2 ^ (k + 1) := (le_div_iff₀ (by positivity)).mpr h
  rw [line_succ]
  linarith

/-- At its level, a magnitude is on the lowest of the lines. -/
theorem AtLevel.line_le (h : AtLevel k ρ) (j : ℕ) : line k ρ ≤ line j ρ := by
  rcases Nat.le_total k j with hkj | hjk
  · induction j, hkj using Nat.le_induction with
    | base => exact le_rfl
    | succ j hkj ih =>
        have hpow : (2 : ℚ) ^ (k + 53) ≤ 2 ^ (j + 53) :=
          pow_le_pow_right₀ (by norm_num) (by omega)
        exact ih.trans (line_le_succ (by linarith [h.1]))
  · obtain ⟨n, rfl⟩ := Nat.exists_eq_add_of_le hjk
    -- Every step from `j` up to the level goes down.
    suffices hdown : ∀ i ≤ n, line (j + i) ρ ≤ line j ρ from hdown n le_rfl
    intro i hi
    induction i with
    | zero => exact le_rfl
    | succ i ih =>
        obtain hn | hn := h.2
        · omega
        · have hpow : (2 : ℚ) ^ (j + i + 53) ≤ 2 ^ (j + n + 52) :=
            pow_le_pow_right₀ (by norm_num) (by omega)
          have hstep : line (j + i + 1) ρ ≤ line (j + i) ρ := line_succ_le (hpow.trans hn)
          exact hstep.trans (ih (by omega))

theorem line_sub (k : ℕ) (ρ σ : ℚ) : line k σ - line k ρ = (σ - ρ) / 2 ^ k := by
  rw [line, line]
  ring

/-! ### Positions -/

theorem AtLevel.position_eq (h : AtLevel k ρ) (hρ : 0 ≤ ρ) : position ρ = line k ρ := by
  rw [position, h.level_eq hρ]

theorem position_le_line (hρ : 0 ≤ ρ) (j : ℕ) : position ρ ≤ line j ρ :=
  (atLevel_level hρ).line_le j

/-- Greater magnitudes have greater positions. -/
theorem position_strictMono (hρ : 0 ≤ ρ) (h : ρ < σ) : position ρ < position σ := by
  have hline := line_sub (level σ) ρ σ
  have hpos : 0 < (σ - ρ) / 2 ^ level σ := div_pos (by linarith) (by positivity)
  have hle := position_le_line hρ (level σ)
  rw [position.eq_def σ]
  linarith

theorem position_mono (hρ : 0 ≤ ρ) (h : ρ ≤ σ) : position ρ ≤ position σ := by
  rcases h.lt_or_eq with h | rfl
  · exact (position_strictMono hρ h).le
  · exact le_rfl

theorem position_injective (hρ : 0 ≤ ρ) (hσ : 0 ≤ σ) (h : position ρ = position σ) : ρ = σ := by
  rcases lt_trichotomy ρ σ with hlt | rfl | hlt
  · exact absurd h (position_strictMono hρ hlt).ne
  · rfl
  · exact absurd h (position_strictMono hσ hlt).ne'

/-- A multiple of `2 ^ k` with at most 53 bits, and no fewer unless the level is the lowest. -/
theorem position_mul_pow {q : ℕ} (hq : q ≤ 2 ^ 53) (hk : k = 0 ∨ 2 ^ 52 ≤ q) :
    position (q * 2 ^ k) = k * 2 ^ 52 + q := by
  have hqle : (q : ℚ) ≤ 2 ^ 53 := by exact_mod_cast hq
  rcases hq.lt_or_eq with hlt | rfl
  · have hqlt : (q : ℚ) < 2 ^ 53 := by exact_mod_cast hlt
    have hlevel : AtLevel k (q * 2 ^ k) := by
      refine ⟨?_, hk.imp_right fun h => ?_⟩
      · rw [add_comm, pow_add]
        gcongr
      · have hqge : (2 : ℚ) ^ 52 ≤ q := by exact_mod_cast h
        rw [add_comm, pow_add]
        gcongr
    rw [hlevel.position_eq (by positivity), line, mul_div_assoc, div_self (by positivity), mul_one]
  · -- The last of them is the first one of the next level.
    have hlevel : AtLevel (k + 1) (((2 ^ 53 : ℕ) : ℚ) * 2 ^ k) := by
      refine ⟨?_, .inr ?_⟩
      · rw [show k + 1 + 53 = 1 + (53 + k) by omega, pow_add, pow_add 2 53 k]
        push_cast
        have hpos : (0 : ℚ) < 2 ^ 53 * 2 ^ k := by positivity
        linarith
      · rw [show k + 1 + 52 = 53 + k by omega, pow_add]
        push_cast
        exact le_rfl
    rw [hlevel.position_eq (by positivity), line, pow_succ]
    push_cast
    field_simp
    ring

/-- A magnitude that grows moves on as on the line where it was. -/
theorem AtLevel.position_le_add (h : AtLevel k ρ) (hρ : 0 ≤ ρ) (hσ : 0 ≤ σ) :
    position σ ≤ position ρ + (σ - ρ) / 2 ^ k := by
  rw [h.position_eq hρ, ← line_sub k ρ σ]
  linarith [position_le_line hσ k]

/-- Positions differ by no more than the magnitudes. -/
theorem abs_position_sub_le (hρ : 0 ≤ ρ) (hσ : 0 ≤ σ) : |position ρ - position σ| ≤ |ρ - σ| := by
  have hgrow : ∀ {ρ σ : ℚ}, 0 ≤ ρ → ρ ≤ σ → position σ - position ρ ≤ σ - ρ := by
    intro ρ σ hρ h
    have hle : (σ - ρ) / 2 ^ level ρ ≤ σ - ρ :=
      div_le_self (by linarith) (one_le_pow₀ (by norm_num))
    linarith [(atLevel_level hρ).position_le_add hρ (hρ.trans h)]
  rcases le_total ρ σ with h | h
  · rw [abs_sub_comm, abs_of_nonneg (sub_nonneg.mpr (position_mono hρ h)), abs_sub_comm,
      abs_of_nonneg (sub_nonneg.mpr h)]
    exact hgrow hρ h
  · rw [abs_of_nonneg (sub_nonneg.mpr (position_mono hσ h)), abs_of_nonneg (sub_nonneg.mpr h)]
    exact hgrow hσ h

/-- A magnitude that grows by a part of itself moves by no more than that part of `2 ^ 53`. -/
theorem position_le_of_le_mul {θ : ℚ} (hρ : 0 ≤ ρ) (hσ : 0 ≤ σ) (hθ : 0 ≤ θ)
    (h : σ ≤ ρ * (1 + θ)) : position σ ≤ position ρ + θ * 2 ^ 53 := by
  have hlevel := atLevel_level hρ
  have hstep : (σ - ρ) / 2 ^ level ρ ≤ θ * 2 ^ 53 := by
    rw [div_le_iff₀ (by positivity)]
    have hbound := hlevel.1.le
    rw [pow_add] at hbound
    calc σ - ρ ≤ θ * ρ := by linarith
      _ ≤ θ * (2 ^ level ρ * 2 ^ 53) := by gcongr
      _ = θ * 2 ^ 53 * 2 ^ level ρ := by ring
  linarith [hlevel.position_le_add hρ hσ]

end SolverDeck.Binary64
