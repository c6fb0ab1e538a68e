import SolverDeck.Proofs.Decimal.Characters
import SolverDeck.Proofs.Decimal.Shortest
import SolverDeck.Proofs.Json.Spelled

/-!
# Decimals as they are set

Whatever layout sets a decimal, the text of it is a JSON number with a point or an exponent, and it
spells that decimal: its digits without the trailing zeros, or, where zeros fill it up to the point,
with those and the one behind the point (`exists_literal_setDecimal`). The cases are those of
`Layout.plain` and `Layout.scientific`.
-/

namespace SolverDeck

open Json (Digits Literal Exponent)

/-! ### Trailing zeros -/

theorem eq_replicate_takeWhile (cs : List Char) :
    cs.takeWhile (· == '0') = List.replicate (cs.takeWhile (· == '0')).length '0' := by
  refine List.eq_replicate_iff.mpr ⟨rfl, fun c hc => ?_⟩
  have hall : (cs.takeWhile (· == '0')).all (· == '0') = true := List.all_takeWhile
  exact beq_iff_eq.mp (List.all_eq_true.mp hall c hc)

/-- Digits without their trailing zeros. -/
def stripped (cs : List Char) : List Char :=
  (cs.reverse.dropWhile (· == '0')).reverse

/-- How many trailing zeros there are. -/
def trailingZeros (cs : List Char) : ℕ :=
  (cs.reverse.takeWhile (· == '0')).length

theorem stripped_append_zeros (cs : List Char) :
    stripped cs ++ List.replicate (trailingZeros cs) '0' = cs := by
  have hzeros := eq_replicate_takeWhile cs.reverse
  rw [stripped, trailingZeros, ← List.reverse_replicate, ← hzeros, ← List.reverse_append,
    List.takeWhile_append_dropWhile, List.reverse_reverse]

variable {n : ℕ}

theorem stripped_digits (n : ℕ) : Digits (stripped (decimalDigits n)) := by
  intro c hc
  have hmem : c ∈ decimalDigits n := by
    rw [← stripped_append_zeros (decimalDigits n)]
    exact List.mem_append_left _ hc
  exact Layout.isDigit_of_mem_decimalDigits hmem

/-- The digits of a number other than zero do not begin with a zero, nor does what is left of them. -/
theorem exists_stripped_eq_cons (hn : n ≠ 0) :
    ∃ c cs, stripped (decimalDigits n) = c :: cs ∧ c ≠ '0' := by
  have happend := stripped_append_zeros (decimalDigits n)
  have hhead : (decimalDigits n).head? ≠ some '0' := fun h =>
    hn (Json.eq_zero_of_head?_toDigits h)
  cases hstripped : stripped (decimalDigits n) with
  | nil =>
      rw [hstripped, List.nil_append] at happend
      cases hzeros : trailingZeros (decimalDigits n) with
      | zero =>
          rw [hzeros] at happend
          exact absurd happend.symm Nat.toDigits_ne_nil
      | succ k =>
          rw [hzeros] at happend
          rw [← happend] at hhead
          exact absurd rfl hhead
  | cons c cs =>
      refine ⟨c, cs, rfl, fun hc => hhead ?_⟩
      rw [hstripped] at happend
      rw [← happend, hc]
      rfl

/-- The number that is left of a number without its trailing zeros. -/
def strippedValue (n : ℕ) : ℕ :=
  Nat.ofDigitChars 10 (stripped (decimalDigits n)) 0

theorem strippedValue_mul_pow (n : ℕ) :
    10 ^ trailingZeros (decimalDigits n) * strippedValue n = n := by
  have happend := congrArg (Nat.ofDigitChars 10 · 0) (stripped_append_zeros (decimalDigits n))
  rw [Nat.ofDigitChars_append, Nat.ofDigitChars_replicate_zero, decimalDigits,
    Nat.ofDigitChars_ten_toDigits] at happend
  exact happend

theorem ofDigitChars_lt {ds : List Char} (hds : Digits ds) : Nat.ofDigitChars 10 ds 0 < 10 ^ ds.length := by
  induction ds using List.reverseRecOn with
  | nil => simp
  | append_singleton ds c ih =>
      have hc : c.isDigit = true := hds c (by simp)
      have hvalue : c.toNat - '0'.toNat < 10 := by
        simp only [Char.isDigit, Bool.and_eq_true, decide_eq_true_eq] at hc
        have hle : c.val.toNat ≤ 57 := UInt32.le_iff_toNat_le.mp hc.2
        have hzero : '0'.toNat = 48 := rfl
        have htoNat : c.toNat = c.val.toNat := rfl
        omega
      have hrest := ih fun d hd => hds d (by simp [hd])
      rw [Nat.ofDigitChars_append, Nat.ofDigitChars_cons, Nat.ofDigitChars_nil, List.length_append,
        List.length_singleton, pow_succ]
      omega

/-! ### Plain notation -/

/-- The sign in front of a number. -/
def signChars (negative : Bool) : List Char :=
  if negative then ['-'] else []

/-- A text with a sign in front is a literal that has a point, no exponent, and spells a decimal. -/
def Pointed (negative : Bool) (cs : List Char) (d : Decimal) : Prop :=
  ∃ l : Literal, l.chars = signChars negative ++ cs ∧ l.negative = negative ∧ l.fraction ≠ [] ∧
    l.exponent = none ∧ l.decimal = d

variable {digits : List Char} {lead : ℤ}

theorem digits_replicate (k : ℕ) : Digits (List.replicate k '0') :=
  fun _ h => Layout.isDigit_of_mem_zeros h

theorem Json.Digits.append {ds es : List Char} (hds : Digits ds) (hes : Digits es) :
    Digits (ds ++ es) := by
  intro c hc
  rcases List.mem_append.mp hc with hc | hc
  · exact hds c hc
  · exact hes c hc

theorem pointed {whole fraction : List Char} (hwhole : Digits whole) (hfraction : Digits fraction)
    (hne : whole ≠ []) (hne' : fraction ≠ []) (hzero : whole.head? = some '0' → whole = ['0'])
    (negative : Bool) :
    Pointed negative (whole ++ '.' :: fraction)
      ⟨Nat.ofDigitChars 10 (whole ++ fraction) 0, -fraction.length⟩ := by
  refine ⟨⟨negative, whole, fraction, none, hne, hwhole, hzero, hfraction⟩, ?_, rfl, hne', rfl, ?_⟩
  · rw [Literal.chars, Literal.fractionChars_of_ne hne']
    simp [Literal.exponentChars, signChars]
  · rw [Literal.decimal, Literal.exponentValue, Int.zero_sub]

/-- Digits behind the point, perhaps after zeros. -/
theorem pointed_below_one (hdigits : Digits digits) (hne : digits ≠ []) (hlead : lead < 0)
    (negative : Bool) :
    Pointed negative (Layout.plain digits lead)
      ⟨Nat.ofDigitChars 10 digits 0, lead + 1 - digits.length⟩ := by
  have hpointed := @pointed ['0'] (List.replicate (-lead - 1).toNat '0' ++ digits) (by decide)
    ((digits_replicate _).append hdigits) (by simp) (by simp [hne]) (fun _ => rfl) negative
  have hvalue : Nat.ofDigitChars 10 (['0'] ++ (List.replicate (-lead - 1).toNat '0' ++ digits)) 0 =
      Nat.ofDigitChars 10 digits 0 := by
    rw [List.singleton_append, Nat.ofDigitChars_cons, Nat.ofDigitChars_append,
      Nat.ofDigitChars_replicate_zero]
    rfl
  have hpower : -((List.replicate (-lead - 1).toNat '0' ++ digits).length : ℤ) =
      lead + 1 - digits.length := by
    rw [List.length_append, List.length_replicate]
    push_cast
    omega
  rw [hvalue, hpower] at hpointed
  rw [Layout.plain, if_pos hlead]
  exact hpointed

/-- Digits in front of the point, filled up with zeros. -/
theorem pointed_filled (hdigits : Digits digits) (hne : digits ≠ []) (hzero : digits.head? ≠ some '0')
    (hlead : 0 ≤ lead) (hshort : digits.length ≤ lead.toNat + 1) (negative : Bool) :
    Pointed negative (Layout.plain digits lead)
      ⟨10 ^ ((lead + 1 - digits.length).toNat + 1) * Nat.ofDigitChars 10 digits 0, -1⟩ := by
  have hpointed := @pointed (digits ++ List.replicate (lead.toNat + 1 - digits.length) '0') ['0']
    (hdigits.append (digits_replicate _)) (by decide) (by simp [hne]) (by simp)
    (fun h => absurd (by rwa [List.head?_append_of_ne_nil _ hne] at h) hzero) negative
  have hcount : (lead + 1 - digits.length).toNat = lead.toNat + 1 - digits.length := by omega
  have hvalue : Nat.ofDigitChars 10
      (digits ++ List.replicate (lead.toNat + 1 - digits.length) '0' ++ ['0']) 0 =
        10 ^ ((lead + 1 - digits.length).toNat + 1) * Nat.ofDigitChars 10 digits 0 := by
    rw [Nat.ofDigitChars_append, Nat.ofDigitChars_append, Nat.ofDigitChars_replicate_zero,
      Nat.ofDigitChars_cons, Nat.ofDigitChars_nil, hcount, pow_succ, Nat.sub_self, Nat.add_zero]
    ring
  rw [hvalue] at hpointed
  rw [Layout.plain, if_neg (by omega)]
  dsimp only
  rw [if_pos hshort]
  exact hpointed

/-- Digits on both sides of the point. -/
theorem pointed_parted (hdigits : Digits digits) (hne : digits ≠ []) (hzero : digits.head? ≠ some '0')
    (hlead : 0 ≤ lead) (hlong : lead.toNat + 1 < digits.length) (negative : Bool) :
    Pointed negative (Layout.plain digits lead)
      ⟨Nat.ofDigitChars 10 digits 0, lead + 1 - digits.length⟩ := by
  obtain ⟨c, cs, rfl⟩ := List.exists_cons_of_ne_nil hne
  have hpointed := @pointed ((c :: cs).take (lead.toNat + 1)) ((c :: cs).drop (lead.toNat + 1))
    (fun d hd => hdigits d (List.mem_of_mem_take hd)) (fun d hd => hdigits d (List.mem_of_mem_drop hd))
    (by simp) (by simpa using hlong) (fun h => absurd h hzero) negative
  have hpower : -(((c :: cs).drop (lead.toNat + 1)).length : ℤ) = lead + 1 - (c :: cs).length := by
    rw [List.length_drop]
    omega
  rw [List.take_append_drop, hpower] at hpointed
  rw [Layout.plain, if_neg (by omega)]
  dsimp only
  rw [if_neg (by omega)]
  exact hpointed

/-! ### Exponents -/

theorem decimalDigits_natAbs_ne_nil (lead : ℤ) : decimalDigits lead.natAbs ≠ [] :=
  Nat.toDigits_ne_nil

/-- An exponent as a layout writes it. -/
def Layout.exponentOf (layout : Layout) (lead : ℤ) : Exponent where
  mark := 'e'
  sign := if lead < 0 then some '-' else if layout.writesPlus then some '+' else none
  digits := decimalDigits lead.natAbs
  mark_eq := .inl rfl
  sign_eq := by
    intro c hc
    split at hc
    · exact .inr (Option.some.inj hc).symm
    · split at hc
      · exact .inl (Option.some.inj hc).symm
      · cases hc
  digits_ne_nil := decimalDigits_natAbs_ne_nil lead
  isDigit_digits := fun _ h => Layout.isDigit_of_mem_decimalDigits h

theorem Layout.chars_exponentOf (layout : Layout) (lead : ℤ) :
    (layout.exponentOf lead).chars = 'e' :: layout.exponentText lead := by
  rw [Exponent.chars, exponentText, exponentOf]
  split
  · rfl
  · split <;> rfl

theorem Layout.value_exponentOf (layout : Layout) (lead : ℤ) :
    (layout.exponentOf lead).value = lead := by
  simp only [Exponent.value, exponentOf, decimalDigits, Nat.ofDigitChars_ten_toDigits]
  by_cases hlead : lead < 0
  · simp only [hlead, if_true]
    omega
  · have hsign : (if layout.writesPlus = true then some '+' else none) ≠ some '-' := by
      split <;> simp
    simp only [hlead, if_false, if_neg hsign]
    omega

theorem exists_literal_scientific (hdigits : Digits digits) (hne : digits ≠ []) (layout : Layout)
    (lead : ℤ) (negative : Bool) :
    ∃ l : Literal, l.negative = negative ∧
      l.chars = signChars negative ++ layout.scientific digits lead ∧
      l.exponent = some (layout.exponentOf lead) ∧
      l.decimal = ⟨Nat.ofDigitChars 10 digits 0, lead + 1 - digits.length⟩ := by
  obtain ⟨c, cs, rfl⟩ := List.exists_cons_of_ne_nil hne
  have hc : Digits [c] := fun d hd => hdigits d (by simp_all)
  have hcs : Digits cs := fun d hd => hdigits d (List.mem_cons_of_mem c hd)
  refine ⟨⟨negative, [c], cs, some (layout.exponentOf lead), by simp, hc, ?_, hcs⟩, rfl, ?_, rfl, ?_⟩
  · intro h
    rw [Option.some.inj h]
  · cases cs with
    | nil =>
        simp [Literal.chars, Literal.fractionChars, Literal.exponentChars, Layout.scientific,
          Layout.chars_exponentOf, signChars]
    | cons d ds =>
        simp [Literal.chars, Literal.fractionChars, Literal.exponentChars, Layout.scientific,
          Layout.chars_exponentOf, signChars]
  · rw [Literal.decimal, Literal.exponentValue]
    dsimp only
    rw [Layout.value_exponentOf, List.singleton_append, List.length_cons]
    congr 1
    push_cast
    ring

/-! ### Decimals -/

/-- What a decimal becomes when the text of it is read: no whole number, but one of the same sign and
the same value, with no more digits than fit the significand. -/
structure Spells (l : Literal) (negative : Bool) (d : Decimal) : Prop where
  negative_eq : l.negative = negative
  real : l.fraction ≠ [] ∨ l.exponent ≠ none
  exponent_le : ∀ e ∈ l.exponent, Nat.ofDigitChars 10 e.digits 0 ≤ Json.mostExponent
  value_eq : l.decimal.value = d.value
  digits_le : l.decimal.digits ≤ 2 * 10 ^ 18
  le_exponent : -324 ≤ l.decimal.exponent

variable {d e : Decimal} {negative : Bool} {cs : List Char}

theorem Pointed.exists_literal (h : Pointed negative cs e) (hvalue : e.value = d.value)
    (hdigits : e.digits ≤ 2 * 10 ^ 18) (hexponent : -324 ≤ e.exponent) :
    ∃ l : Literal, l.chars = signChars negative ++ cs ∧ Spells l negative d := by
  obtain ⟨l, hchars, hnegative, hfraction, hnone, rfl⟩ := h
  exact ⟨l, hchars, hnegative, .inl hfraction, by simp [hnone], hvalue, hdigits, hexponent⟩

theorem length_stripped_add (n : ℕ) :
    (stripped (decimalDigits n)).length + trailingZeros (decimalDigits n) =
      (decimalDigits n).length := by
  have happend := congrArg List.length (stripped_append_zeros (decimalDigits n))
  rwa [List.length_append, List.length_replicate] at happend

theorem strippedValue_le (n : ℕ) : strippedValue n ≤ n := by
  have hmul := strippedValue_mul_pow n
  have hpow : 1 ≤ 10 ^ trailingZeros (decimalDigits n) := Nat.one_le_pow _ _ (by norm_num)
  calc strippedValue n ≤ 10 ^ trailingZeros (decimalDigits n) * strippedValue n :=
        Nat.le_mul_of_pos_left _ hpow
    _ = n := hmul

theorem value_stripped (d : Decimal) :
    (Decimal.mk (strippedValue d.digits)
      (d.exponent + trailingZeros (decimalDigits d.digits))).value = d.value := by
  have hdigits : (d.digits : ℚ) =
      10 ^ trailingZeros (decimalDigits d.digits) * strippedValue d.digits := by
    exact_mod_cast (strippedValue_mul_pow d.digits).symm
  rw [Decimal.value, Decimal.value, hdigits, zpow_add₀ (by norm_num), zpow_natCast]
  ring

theorem value_filled {p : ℤ} (hp : 0 ≤ p) (v : ℕ) :
    (Decimal.mk (10 ^ (p.toNat + 1) * v) (-1)).value = (Decimal.mk v p).value := by
  obtain ⟨n, rfl⟩ := Int.eq_ofNat_of_zero_le hp
  rw [Decimal.value, Decimal.value, Int.toNat_natCast, pow_succ, zpow_neg_one, zpow_natCast]
  push_cast
  ring

theorem pow_mul_pow_le {i j : ℕ} (h : i + j ≤ 18) : 10 ^ i * 10 ^ j ≤ 2 * 10 ^ 18 := by
  rw [← pow_add]
  exact (Nat.pow_le_pow_right (by norm_num) h).trans (by norm_num)

/-- **Decimals.** Every decimal is set as a text that spells it. -/
theorem exists_literal_setDecimal (hd : d.digits ≠ 0) (hmost : d.digits ≤ 2 * 10 ^ 18)
    (hleast : -324 ≤ d.exponent) (hgreatest : d.exponent ≤ 310) {layout : Layout}
    (hlayout : layout.mostPlain ≤ 16) (negative : Bool) :
    ∃ l : Literal, l.chars = signChars negative ++ layout.setDecimal d ∧ Spells l negative d := by
  have hdigits := stripped_digits d.digits
  have hlength := length_stripped_add d.digits
  have hle := (strippedValue_le d.digits).trans hmost
  have hlt : strippedValue d.digits < 10 ^ (stripped (decimalDigits d.digits)).length :=
    ofDigitChars_lt hdigits
  have hshort : (decimalDigits d.digits).length ≤ 19 :=
    (Nat.length_toDigits_le_iff (by norm_num) (by norm_num)).mpr (by omega)
  obtain ⟨hne, hzero⟩ : stripped (decimalDigits d.digits) ≠ [] ∧
      (stripped (decimalDigits d.digits)).head? ≠ some '0' := by
    obtain ⟨c, cs, h, hc⟩ := exists_stripped_eq_cons hd
    rw [h]
    exact ⟨List.cons_ne_nil c cs, fun h => hc (Option.some.inj h)⟩
  obtain ⟨lead, hlead⟩ : ∃ lead, lead = d.exponent + ((decimalDigits d.digits).length : ℤ) - 1 :=
    ⟨_, rfl⟩
  have hpower : lead + 1 - ((stripped (decimalDigits d.digits)).length : ℤ) =
      d.exponent + trailingZeros (decimalDigits d.digits) := by
    omega
  have hvalue := value_stripped d
  rw [← hpower] at hvalue
  rw [Layout.setDecimal, ← stripped, ← hlead]
  split
  case isTrue hplain =>
    by_cases hneg : lead < 0
    · exact (pointed_below_one hdigits hne hneg negative).exists_literal hvalue hle (by dsimp only; omega)
    · by_cases hfilled : (stripped (decimalDigits d.digits)).length ≤ lead.toNat + 1
      · have hle' := (Nat.mul_le_mul_left (10 ^ ((lead + 1 -
            ((stripped (decimalDigits d.digits)).length : ℤ)).toNat + 1)) hlt.le).trans
              (pow_mul_pow_le (by omega))
        exact (pointed_filled hdigits hne hzero (by omega) hfilled negative).exists_literal
          ((value_filled (by omega) _).trans hvalue) hle' (by dsimp only; omega)
      · exact (pointed_parted hdigits hne hzero (by omega) (by omega) negative).exists_literal hvalue hle
          (by dsimp only; omega)
  case isFalse =>
    obtain ⟨l, hnegative, hchars, hexponent, hdecimal⟩ :=
      exists_literal_scientific hdigits hne layout lead negative
    refine ⟨l, hchars, hnegative, .inr (by simp [hexponent]), fun e he => ?_,
      by rw [hdecimal]; exact hvalue, by rw [hdecimal]; exact hle, by rw [hdecimal]; dsimp only; omega⟩
    have hlimit : Json.mostExponent = 2 ^ 31 - 1 := by decide
    rw [hexponent] at he
    obtain rfl := Option.some.inj he
    rw [show (layout.exponentOf lead).digits = Nat.toDigits 10 lead.natAbs from rfl,
      Nat.ofDigitChars_ten_toDigits]
    omega

namespace Binary64

variable {x : Binary64} {layout : Layout}

theorem toList_text (hx : x.isFinite = true) :
    (x.text layout).toList = signChars x.isNegative ++ x.magnitudeText layout := by
  rw [text, isNaN_of_isFinite hx, if_neg Bool.false_ne_true, String.toList_ofList, signChars, hx,
    if_pos rfl]

/-- **Texts of numbers.** The text of a finite number is a JSON number that spells the decimal found
for it. -/
theorem exists_literal_text (hx : x.isFinite = true) (h : x.isZero = false) (layout : Layout)
    (hlayout : layout.mostPlain ≤ 16) :
    ∃ l : Literal, l.chars = (x.text layout).toList ∧
      Spells l x.isNegative (x.span.shortest layout.tie) := by
  obtain ⟨hholds, hdigits, hleast, hmost⟩ := shortest_spec hx h layout.tie
  rw [toList_text hx, magnitudeText, h]
  exact exists_literal_setDecimal (digits_ne_zero_of_holds h hholds) hdigits hleast hmost hlayout _

/-- A zero is set as no tenths. -/
theorem pointed_zero (h : x.isZero = true) (layout : Layout) :
    Pointed x.isNegative (x.magnitudeText layout) ⟨0, -1⟩ := by
  rw [magnitudeText, h]
  exact @pointed ['0'] ['0'] (by decide) (by decide) (by simp) (by simp) (fun _ => rfl) x.isNegative

end Binary64

end SolverDeck
