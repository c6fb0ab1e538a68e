import SolverDeck.Proofs.Decimal.Spelling
import SolverDeck.Proofs.Json.Scaling
import SolverDeck.Value

/-!
# Numbers as they are shown, read again

The text that a deck shows for a finite number is a JSON number. It is always read as a
floating-point number that is finite and has the same sign, and no more than two places from the one
that was shown (`number?_display`); it is the same one if that is a zero, or if the digits of the
text have at most 53 bits and the power of ten is no greater than 22.

The decimal of the text rounds to the number that was shown, and scaling is less than two places off
before the last rounding, so both are at most two apart. Only close to infinity that does not keep the
number finite, and the last two numbers below infinity are read one by one.
-/

namespace SolverDeck

open Json (Literal)

variable {x y : Binary64} {l : Literal}

/-- What a number that is shown can be read as. -/
structure Binary64.Reread (x y : Binary64) : Prop where
  isFinite : y.isFinite = true
  isNegative_eq : y.isNegative = x.isNegative
  le : y.magnitudeBits ≤ x.magnitudeBits + 2
  ge : x.magnitudeBits ≤ y.magnitudeBits + 2
  /-- Zeros are kept, each with its sign. -/
  zero : x.isZero = true → y = x
  /-- Few digits, scaled by a small power of ten, are read as the number itself. -/
  exact : ∀ l : Literal, l.chars = (Value.real x).display.toList → l.decimal.digits < 2 ^ 53 →
    l.decimal.exponent.natAbs ≤ 22 → y = x

theorem Binary64.isNegative_signed (hy : y.isNegative = false) (negative : Bool) :
    (Json.signed negative y).isNegative = negative := by
  cases negative with
  | false => exact hy
  | true =>
      rw [Json.signed, if_pos rfl, show -y = y.neg from rfl, neg, hy,
        isNegative_withSign y.magnitudeBits_lt]
      rfl

theorem Binary64.magnitudeBits_signed (y : Binary64) (negative : Bool) :
    (Json.signed negative y).magnitudeBits = y.magnitudeBits := by
  cases negative with
  | false => rfl
  | true =>
      rw [Json.signed, if_pos rfl, show -y = y.neg from rfl, neg,
        magnitudeBits_withSign y.magnitudeBits_lt]

/-- Every decimal in the span of a number is rounded to the number. -/
theorem Binary64.nearest_of_holds {d : Decimal} (hx : x.isFinite = true) (h : x.isZero = false)
    (hd : x.span.holds d = true) (negative : Bool) :
    nearest negative d.ratio = withSign negative x.magnitudeBits := by
  have hbits := roundedBits_of_holds h hd
  have hnum := num_ratio_ne_zero_of_holds h hd
  refine eq_of_parts ?_ ?_
  · rw [isNegative_nearest, isNegative_withSign x.magnitudeBits_lt]
  · rw [magnitudeBits_withSign x.magnitudeBits_lt,
      magnitudeBits_nearest_of_lt hnum (hbits ▸ isFinite_iff.mp hx), hbits]

theorem Binary64.rounds_of_holds {d : Decimal} (hx : x.isFinite = true) (h : x.isZero = false)
    (hd : x.span.holds d = true) : Rounds (withSign false x.magnitudeBits) d.value :=
  ⟨d.ratio, num_ratio_ne_zero_of_holds h hd, d.den_ratio_ne_zero, d.value_ratio,
    (nearest_of_holds hx h hd false).symm⟩

/-! ### Zeros and the two greatest numbers -/

theorem Binary64.Reread.refl (hx : x.isFinite = true) : x.Reread x :=
  ⟨hx, rfl, Nat.le_add_right _ _, Nat.le_add_right _ _, fun _ => rfl, fun _ _ _ _ => rfl⟩

/-- Nothing is lost of a zero, not even its sign. -/
theorem number?_zero (hx : x.isFinite = true) (h : x.isZero = true)
    (hl : l.chars = (Value.real x).display.toList) : l.number? = some (.real x) := by
  obtain ⟨l', hchars, hnegative, hfraction, hexponent, hdecimal⟩ :=
    Binary64.pointed_zero h Value.layout
  rw [← Binary64.toList_text hx] at hchars
  obtain rfl := Literal.chars_injective (hl.trans hchars.symm)
  have hdigits : l.decimal.digits ≤ Json.mostSignificand := by
    rw [hdecimal]
    exact Nat.zero_le _
  have hscaled : Json.scaled (.ofNat 0) (-1) = some (.ofNat 0) := by
    rw [Json.scaled_of_neg (by decide) (by decide)]
    exact congrArg some (by decide +kernel)
  rw [Json.number?_eq hdigits (by simp [hexponent]) (.inl hfraction), hdecimal, Json.real?, hscaled,
    hnegative, Option.map_some]
  congr 2
  refine Binary64.eq_of_parts (Binary64.isNegative_signed (by decide +kernel) _) ?_
  rw [Binary64.magnitudeBits_signed, Binary64.isZero_iff.mp h]
  decide +kernel

/-- The literals of the greatest number and of the one below it, which differ in the last digit. -/
def greatestLiteral (negative below : Bool) : Literal where
  negative := negative
  whole := ['1']
  fraction := "797693134862315".toList ++ [if below then '5' else '7']
  exponent := some (Value.layout.exponentOf 308)
  whole_ne_nil := by simp
  isDigit_whole := by decide
  whole_of_zero := by simp
  isDigit_fraction := by cases below <;> decide

theorem chars_greatestLiteral (negative below : Bool) :
    (greatestLiteral negative below).chars =
      (Value.real (.withSign negative
        (Binary64.infinityBits - if below then 2 else 1))).display.toList := by
  cases negative <;> cases below <;> decide +kernel

theorem decimal_greatestLiteral (negative below : Bool) :
    (greatestLiteral negative below).decimal =
      ⟨if below then 17976931348623155 else 17976931348623157, 292⟩ := by
  cases negative <;> cases below <;> decide +kernel

/-- Both are read as the greatest number. -/
theorem number?_greatestLiteral (negative below : Bool) :
    (greatestLiteral negative below).number? =
      some (.real (.withSign negative (Binary64.infinityBits - 1))) := by
  have hdecimal := decimal_greatestLiteral negative below
  have hscaled : ∀ s ∈ [17976931348623155, 17976931348623157],
      Json.scaled (.ofNat s) 292 = some (.withSign false (Binary64.infinityBits - 1)) := by
    intro s hs
    have hproduct : Binary64.ofNat s * Json.powerOfTen 292 =
        .withSign false (Binary64.infinityBits - 1) := by
      revert s
      decide +kernel
    rw [Json.scaled_of_nonneg (by decide) (by decide)]
    · exact congrArg some hproduct
    · rw [show (292 : ℤ).toNat = 292 from rfl, hproduct]
      decide +kernel
  have hnumber := Json.number?_eq (l := greatestLiteral negative below)
    (by rw [hdecimal]; cases below <;> decide) (by cases negative <;> cases below <;> decide +kernel)
    (.inr (by simp [greatestLiteral]))
  rw [hnumber, hdecimal, Json.real?, hscaled _ (by cases below <;> decide)]
  cases negative <;> cases below <;> decide +kernel

/-! ### All numbers -/

/-- One of the two greatest numbers. -/
theorem number?_top (hx : x.isFinite = true) (htop : Binary64.infinityBits ≤ x.magnitudeBits + 2)
    (hl : l.chars = (Value.real x).display.toList) :
    ∃ y, l.number? = some (.real y) ∧ x.Reread y := by
  have hfinite := Binary64.isFinite_iff.mp hx
  have hweight := Binary64.infinityBits_lt_signWeight
  obtain ⟨below, hbelow⟩ : ∃ below : Bool,
      x.magnitudeBits = Binary64.infinityBits - if below then 2 else 1 := by
    by_cases h : x.magnitudeBits = Binary64.infinityBits - 1
    · exact ⟨false, h⟩
    · exact ⟨true, by rw [if_pos rfl]; omega⟩
  have hchars := chars_greatestLiteral x.isNegative below
  rw [← hbelow, Binary64.withSign_magnitudeBits, ← hl] at hchars
  obtain rfl := Literal.chars_injective hchars
  have hlt : Binary64.infinityBits - 1 < Binary64.signWeight := by omega
  have hbits := Binary64.magnitudeBits_withSign hlt x.isNegative
  refine ⟨_, number?_greatestLiteral x.isNegative below, ?_, ?_, ?_, ?_, ?_, ?_⟩
  · rw [Binary64.isFinite_iff, hbits]
    omega
  · exact Binary64.isNegative_withSign hlt _
  · rw [hbits]
    omega
  · rw [hbits]
    omega
  · intro hzero
    have hbound : 2 < Binary64.infinityBits := by decide
    rw [Binary64.isZero_iff.mp hzero] at htop
    omega
  · intro l hl' _ hexponent
    obtain rfl := Literal.chars_injective (hl'.trans hl.symm)
    rw [decimal_greatestLiteral] at hexponent
    exact absurd hexponent (show ¬ (292 : ℤ).natAbs ≤ 22 by decide)

/-- The decimal that a number is shown as can be scaled. -/
theorem exists_scaled_of_spells {d : Decimal} (hd : 0 < d.value) (hlt : d.value < 2 ^ 1024)
    (hspells : Spells l x.isNegative d) :
    ∃ y ρ, Json.ScaledNear (.ofNat l.decimal.digits) l.decimal.digits l.decimal.exponent y ρ := by
  have hvalue := hspells.value_eq
  rw [Decimal.value] at hvalue
  have hdigits : l.decimal.digits ≠ 0 := by
    intro hzero
    rw [hzero, Nat.cast_zero, zero_mul] at hvalue
    exact hd.ne hvalue
  have hone : (1 : ℚ) ≤ l.decimal.digits := by
    exact_mod_cast Nat.one_le_iff_ne_zero.mpr hdigits
  refine Json.exists_scaled hdigits hspells.digits_le hspells.le_exponent ?_
  -- A greater exponent alone would be too much.
  by_contra hgreater
  have hpow : (10 : ℚ) ^ (309 : ℕ) ≤ 10 ^ l.decimal.exponent := by
    rw [← zpow_natCast]
    exact zpow_le_zpow_right₀ (by norm_num) (by simp only [Json.mostPower] at hgreater; omega)
  have htop : (2 : ℚ) ^ 1024 ≤ 10 ^ 309 := by
    have hnat : 2 ^ 1024 ≤ 10 ^ 309 := by decide +kernel
    have hcast := (Nat.cast_le (α := ℚ)).mpr hnat
    rwa [Nat.cast_pow, Nat.cast_pow] at hcast
  have hle := le_mul_of_one_le_left (zpow_pos (by norm_num : (0 : ℚ) < 10) l.decimal.exponent).le hone
  rw [hvalue] at hle
  exact absurd (htop.trans (hpow.trans hle)) (not_le.mpr hlt)

/-- **Numbers that are shown.** -/
theorem number?_display (hx : x.isFinite = true) (hl : l.chars = (Value.real x).display.toList) :
    ∃ y, l.number? = some (.real y) ∧ x.Reread y := by
  by_cases htop : Binary64.infinityBits ≤ x.magnitudeBits + 2
  · exact number?_top hx htop hl
  cases hzero : x.isZero with
  | true => exact ⟨x, number?_zero hx hzero hl, .refl hx⟩
  | false =>
      obtain ⟨l', hchars, hspells⟩ :=
        Binary64.exists_literal_text hx hzero Value.layout (by decide)
      obtain rfl := Literal.chars_injective (hl.trans hchars.symm)
      obtain ⟨hholds, -⟩ := Binary64.shortest_spec hx hzero Value.layout.tie
      have hrounds := Binary64.rounds_of_holds hx hzero hholds
      have hmagnitude := Binary64.magnitudeBits_withSign x.magnitudeBits_lt false
      have hfinite : (Binary64.withSign false x.magnitudeBits).isFinite = true := by
        rw [Binary64.isFinite_iff, hmagnitude]
        exact Binary64.isFinite_iff.mp hx
      obtain ⟨y, ρ, hscaled⟩ :=
        exists_scaled_of_spells hrounds.pos (hrounds.lt_of_isFinite hfinite) hspells
      have hvalue := hspells.value_eq
      rw [Decimal.value] at hvalue
      have hnear := hscaled.near
      rw [hvalue] at hnear
      obtain ⟨hle, hge⟩ := hrounds.close hscaled.rounds hnear (by rw [hmagnitude]; omega)
      rw [hmagnitude] at hle hge
      have hy : y.isFinite = true := by
        rw [Binary64.isFinite_iff]
        omega
      have hlimit : 2 * 10 ^ 18 ≤ Json.mostSignificand := by decide
      refine ⟨Json.signed x.isNegative y, ?_, ?_⟩
      · rw [Json.number?_eq (hspells.digits_le.trans hlimit) hspells.exponent_le hspells.real, Json.real?,
          hscaled.scaled_eq hy, hspells.negative_eq]
        rfl
      · have hsign := Binary64.isNegative_signed hscaled.rounds.isNegative x.isNegative
        have hbits := Binary64.magnitudeBits_signed y x.isNegative
        refine ⟨?_, hsign, by rw [hbits]; exact hle, by rw [hbits]; exact hge, ?_, ?_⟩
        · rw [Binary64.isFinite_iff, hbits]
          exact Binary64.isFinite_iff.mp hy
        · intro h
          rw [hzero] at h
          cases h
        · intro l' hl' hdigits hexponent
          obtain rfl := Literal.chars_injective (hl'.trans hl.symm)
          have hsame := hscaled.rounds
          rw [hscaled.exact hdigits hexponent, hvalue] at hsame
          refine Binary64.eq_of_parts hsign ?_
          rw [hbits, hsame.unique hrounds, hmagnitude]

end SolverDeck
