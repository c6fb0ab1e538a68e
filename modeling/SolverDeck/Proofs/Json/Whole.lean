import SolverDeck.Proofs.Json.Literal

/-!
# Whole numbers as they are written

Every integer has one way of being written with digits alone, `Literal.ofInt`. It stands for that
integer if it is within 64 bits (`number?_ofInt`), because digits that make a number within the
limit are all gathered (`gather_eq`).
-/

namespace SolverDeck.Json

/-! ### Gathering all digits -/

theorem le_ofDigitChars (ds : List Char) (value : Nat) : value ≤ Nat.ofDigitChars 10 ds value := by
  rw [Nat.ofDigitChars_eq_ofDigitChars_zero]
  have hpos := Nat.one_le_pow ds.length 10 (by decide)
  have hle := Nat.mul_le_mul_right value hpos
  omega

/-- Digits that make a number within the limit are all gathered. -/
theorem gather_eq {ds : List Char} {limit value : Nat} (hds : Digits ds)
    (hle : Nat.ofDigitChars 10 ds value ≤ limit) :
    gather limit value ds = ⟨Nat.ofDigitChars 10 ds value, ds.length, []⟩ := by
  induction ds generalizing value with
  | nil => rw [gather, Nat.ofDigitChars_nil, List.length_nil]
  | cons c ds ih =>
      have hvalue : 10 * value + (c.toNat - '0'.toNat) = value * 10 + digitValue c := by
        rw [digitValue, Nat.mul_comm]
      rw [Nat.ofDigitChars_cons, hvalue] at hle ⊢
      have hfirst := Nat.le_trans (le_ofDigitChars ds _) hle
      rw [gather_cons_of_le (hds c List.mem_cons_self) hfirst,
        ih (fun d hd => hds d (List.mem_cons_of_mem c hd)) hle, List.length_cons]

/-! ### The literal of an integer -/

theorem digits_toDigits (n : Nat) : Digits (Nat.toDigits 10 n) :=
  fun _ hc => Nat.isDigit_of_mem_toDigits (by decide) (by decide) hc

theorem eq_zero_of_head?_toDigits {n : Nat} (h : (Nat.toDigits 10 n).head? = some '0') : n = 0 := by
  induction n using Nat.strongRecOn with
  | ind n ih =>
      by_cases hn : n < 10
      · rw [Nat.toDigits_of_lt_base hn, List.head?_cons] at h
        exact Nat.digitChar_eq_zero.mp (Option.some.inj h)
      · obtain ⟨c, cs, hcs⟩ := List.exists_cons_of_ne_nil (@Nat.toDigits_ne_nil (n / 10) 10)
        rw [Nat.toDigits_of_base_le (by decide) (by omega), hcs, List.cons_append,
          List.head?_cons] at h
        have hfirst : (Nat.toDigits 10 (n / 10)).head? = some '0' := by
          rw [hcs, List.head?_cons, h]
        have := ih (n / 10) (by omega) hfirst
        omega

/-- An integer as it is written. -/
def Literal.ofInt (n : Int) : Literal where
  negative := decide (n < 0)
  whole := Nat.toDigits 10 n.natAbs
  fraction := []
  exponent := none
  whole_ne_nil := Nat.toDigits_ne_nil
  isDigit_whole := digits_toDigits n.natAbs
  whole_of_zero := by
    intro h
    rw [eq_zero_of_head?_toDigits h, Nat.toDigits_zero]
  isDigit_fraction := fun _ h => absurd h List.not_mem_nil

theorem Literal.chars_ofInt (n : Int) : (ofInt n).chars = (toString n).toList := by
  rw [Int.toString_eq_repr, Int.repr_eq_if, Literal.chars, Literal.fractionChars,
    Literal.exponentChars]
  by_cases hn : 0 ≤ n
  · have habs : n.natAbs = n.toNat := by omega
    have hsign : ¬ n < 0 := by omega
    simp [ofInt, hn, hsign, habs]
  · have habs : n.natAbs = (-n).toNat := by omega
    have hsign : n < 0 := by omega
    simp [ofInt, hn, hsign, habs, String.toList_append]

theorem wholeGathered_ofInt {n : Int} (h : n.natAbs ≤ mostSignificand) :
    (Literal.ofInt n).wholeGathered = ⟨n.natAbs, (Nat.toDigits 10 n.natAbs).length, []⟩ := by
  rw [Literal.wholeGathered, Literal.ofInt]
  dsimp only
  rw [gather_eq (digits_toDigits _) (by rwa [Nat.ofDigitChars_ten_toDigits]),
    Nat.ofDigitChars_ten_toDigits]

/-- **Whole numbers.** An integer that is within 64 bits is read as it is written. -/
theorem number?_ofInt {n : Int} (hleast : -signedLimit ≤ n) (hmost : n ≤ mostSignificand) :
    (Literal.ofInt n).number? = some (.whole n) := by
  have hsigned : signedLimit ≤ mostSignificand := by decide
  have hgathered := wholeGathered_ofInt (n := n) (by omega)
  rw [Literal.number?, hgathered]
  simp only [Literal.ofInt, and_self, if_true, wholeNumber]
  by_cases hn : n < 0
  · have hvalue : ¬ (n.natAbs = 0 ∨ signedLimit < n.natAbs) := by omega
    rw [if_pos (by simpa using hn), if_neg hvalue]
    congr
    omega
  · rw [if_neg (by simpa using hn)]
    congr
    omega

end SolverDeck.Json
