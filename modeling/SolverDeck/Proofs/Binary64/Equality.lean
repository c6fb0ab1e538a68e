import SolverDeck.Proofs.Binary64.Arithmetic

/-!
# Equality of numbers

Equality is decided by the bits. Said without them, two numbers are equal if they are finite and have
the same value, or if they are the same infinity (`beq_iff_sameNumber`). A not-a-number is not the same
number as anything.

The bits of a finite number can be read off its value and its sign, and only zero has the same value
with either sign. So every number but zero is equal to itself alone, and all that equality overlooks is
the sign of a zero. `representative` is what it does see: numbers are equal if their representatives are
the same, and none of them is a not-a-number (`beq_iff_representative`).
-/

namespace SolverDeck.Binary64

variable {x y : Binary64}

/-! ### Kinds of numbers -/

theorem isInfinite_iff : x.isInfinite = true ↔ x.magnitudeBits = infinityBits := by
  have hfraction := x.fraction_lt
  rw [magnitudeBits_eq, isInfinite, infinityBits, Bool.and_eq_true, beq_iff_eq, beq_iff_eq]
  rw [show exponentWeight = 4503599627370496 by decide] at hfraction ⊢
  omega

theorem isNaN_iff : x.isNaN = true ↔ infinityBits < x.magnitudeBits := by
  have hfraction := x.fraction_lt
  have hlt := x.magnitudeBits_lt
  rw [show signWeight = 9223372036854775808 by decide] at hlt
  rw [magnitudeBits_eq] at hlt ⊢
  rw [isNaN, infinityBits, Bool.and_eq_true, beq_iff_eq, bne_iff_ne]
  rw [show exponentWeight = 4503599627370496 by decide] at hfraction hlt ⊢
  omega

theorem isFinite_of_isZero (h : x.isZero = true) : x.isFinite = true := by
  rw [isFinite_iff, isZero_iff.mp h]
  decide

theorem isNaN_eq_false_iff : x.isNaN = false ↔ x.isFinite = true ∨ x.isInfinite = true := by
  rw [← Bool.not_eq_true, isNaN_iff, isFinite_iff, isInfinite_iff]
  omega

/-! ### Values with a sign -/

/-- The value of a finite number. -/
def signed (x : Binary64) : ℚ :=
  if x.isNegative then -x.value else x.value

/-- Different magnitudes have different values. -/
theorem magnitudeBits_eq_of_value_eq (h : x.value = y.value) :
    x.magnitudeBits = y.magnitudeBits := by
  have hposition : position x.units = position y.units := by rw [units_eq, units_eq, h]
  rw [position_units, position_units] at hposition
  exact_mod_cast hposition

theorem isZero_of_value_eq_zero (h : x.value = 0) : x.isZero = true := by
  have hzero : (mk 0).value = 0 := value_of_isZero (by decide)
  rw [isZero_iff, magnitudeBits_eq_of_value_eq (h.trans hzero.symm)]
  decide

theorem signed_of_isZero (h : x.isZero = true) : x.signed = 0 := by
  rw [signed, value_of_isZero h, neg_zero, ite_self]

/-- Numbers of the same value are the same, or both are zero. -/
theorem eq_or_zeros_of_signed_eq (h : x.signed = y.signed) :
    x = y ∨ x.isZero = true ∧ y.isZero = true := by
  have hzeros : x.value = -y.value → x.isZero = true ∧ y.isZero = true := by
    intro hopposite
    have hx := x.value_nonneg
    have hy := y.value_nonneg
    exact ⟨isZero_of_value_eq_zero (by linarith), isZero_of_value_eq_zero (by linarith)⟩
  unfold signed at h
  cases hx : x.isNegative <;> cases hy : y.isNegative <;> rw [hx, hy] at h
  case false.false => exact .inl (eq_of_parts (hx.trans hy.symm) (magnitudeBits_eq_of_value_eq h))
  case true.true =>
    exact .inl (eq_of_parts (hx.trans hy.symm) (magnitudeBits_eq_of_value_eq (neg_inj.mp h)))
  case false.true => exact .inr (hzeros h)
  case true.false => exact .inr (hzeros (neg_eq_iff_eq_neg.mp h))

/-! ### Equality -/

/-- Two floating-point numbers that are the same number. -/
inductive SameNumber (x y : Binary64) : Prop
  | finite (hx : x.isFinite = true) (hy : y.isFinite = true) (h : x.signed = y.signed)
  | infinite (hx : x.isInfinite = true) (hy : y.isInfinite = true)
      (h : x.isNegative = y.isNegative)

theorem beq_iff : (x == y) = true ↔
    x.isNaN = false ∧ y.isNaN = false ∧ (x = y ∨ x.isZero = true ∧ y.isZero = true) := by
  have hbits : x.bits = y.bits ↔ x = y := ⟨fun h => congrArg mk h, fun h => congrArg bits h⟩
  rw [beq_eq_equals, equals, Bool.and_eq_true, Bool.and_eq_true, Bool.not_eq_true',
    Bool.not_eq_true', Bool.or_eq_true, Bool.and_eq_true, beq_iff_eq, hbits, and_assoc]

/-- **Equality.** What is decided by the bits is whether it is the same number. -/
theorem beq_iff_sameNumber : (x == y) = true ↔ x.SameNumber y := by
  rw [beq_iff]
  constructor
  · rintro ⟨hx, -, rfl | ⟨hzero, hzero'⟩⟩
    · rcases isNaN_eq_false_iff.mp hx with hfinite | hinfinite
      · exact .finite hfinite hfinite rfl
      · exact .infinite hinfinite hinfinite rfl
    · exact .finite (isFinite_of_isZero hzero) (isFinite_of_isZero hzero')
        ((signed_of_isZero hzero).trans (signed_of_isZero hzero').symm)
  · intro hsame
    cases hsame with
    | finite hx hy h =>
        exact ⟨isNaN_eq_false_iff.mpr (.inl hx), isNaN_eq_false_iff.mpr (.inl hy),
          eq_or_zeros_of_signed_eq h⟩
    | infinite hx hy h =>
        refine ⟨isNaN_eq_false_iff.mpr (.inr hx), isNaN_eq_false_iff.mpr (.inr hy), .inl ?_⟩
        exact eq_of_parts h ((isInfinite_iff.mp hx).trans (isInfinite_iff.mp hy).symm)

/-! ### Representatives -/

/-- The number itself, but the positive zero for the negative one. -/
def representative (x : Binary64) : Binary64 :=
  if x.isZero then ⟨0⟩ else x

/-- Is it the negative zero? -/
def isMinusZero (x : Binary64) : Bool :=
  x.isZero && x.isNegative

theorem representative_eq_iff : x.representative = y.representative ↔
    x = y ∨ x.isZero = true ∧ y.isZero = true := by
  have hzero : (mk 0).isZero = true := by decide
  unfold representative
  cases hx : x.isZero <;> cases hy : y.isZero
  case false.false => simp
  case true.true => simp
  case false.true =>
    have hne : x ≠ y := fun h => by rw [h, hy] at hx; cases hx
    have hne' : x ≠ ⟨0⟩ := fun h => by rw [h, hzero] at hx; cases hx
    simp [hne, hne']
  case true.false =>
    have hne : x ≠ y := fun h => by rw [← h, hx] at hy; cases hy
    have hne' : mk 0 ≠ y := fun h => by rw [← h, hzero] at hy; cases hy
    simp [hne, hne']

theorem beq_iff_representative : (x == y) = true ↔
    x.representative = y.representative ∧ x.isNaN = false ∧ y.isNaN = false := by
  rw [beq_iff, representative_eq_iff]
  tauto

theorem representative_of_not_isMinusZero (h : x.isMinusZero = false) : x.representative = x := by
  unfold representative
  split
  · rename_i hzero
    rw [isMinusZero, hzero, Bool.true_and] at h
    refine eq_of_parts ?_ ?_
    · rw [h]
      decide
    · rw [isZero_iff.mp hzero]
      decide
  · rfl

end SolverDeck.Binary64
