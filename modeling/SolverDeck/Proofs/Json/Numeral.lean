import SolverDeck.Proofs.Json.Whole

/-!
# Numerals

A number may be written with digits alone and perhaps a minus: a `Numeral`. It can be of any length,
and says an integer exactly (`Numeral.value`). Every integer has one numeral, and zero a second one
with a minus (`Numeral.text_eq_toString_iff`).

How a numeral is read depends on its magnitude. Within 64 bits all digits are gathered
(`Numeral.readNumber_of_le`). Otherwise some are left over, and what comes of them is a
floating-point number, or it is too large (`Numeral.readNumber_of_lt`).
-/

namespace SolverDeck.Json

/-! ### Digits -/

theorem digitValue_lt {c : Char} (h : c.isDigit = true) : digitValue c < 10 := by
  have hrange := Char.isDigit_iff_toNat.mp h
  have hzero : '0'.toNat = 48 := rfl
  have hnine : '9'.toNat = 57 := rfl
  rw [digitValue]
  omega

theorem digitChar_digitValue {c : Char} (h : c.isDigit = true) :
    Nat.digitChar (digitValue c) = c := by
  have hrange := Char.isDigit_iff_toNat.mp h
  have hzero : '0'.toNat = 48 := rfl
  apply Char.toNat_inj.mp
  rw [Nat.toNat_digitChar_of_lt_ten (digitValue_lt h), digitValue]
  omega

theorem digitValue_pos {c : Char} (h : c.isDigit = true) (hzero : c ≠ '0') : 0 < digitValue c := by
  refine Nat.pos_of_ne_zero fun hvalue => hzero ?_
  rw [← digitChar_digitValue h, hvalue]
  rfl

/-- Digits may be added to those of a positive number one by one. -/
theorem toDigits_append_digits {ds : List Char} {value : Nat} (hds : Digits ds) (hpos : 0 < value) :
    Nat.toDigits 10 value ++ ds = Nat.toDigits 10 (Nat.ofDigitChars 10 ds value) := by
  induction ds generalizing value with
  | nil => rw [List.append_nil, Nat.ofDigitChars_nil]
  | cons c ds ih =>
      have hc := hds c List.mem_cons_self
      have hfirst : Nat.toDigits 10 value ++ [c] = Nat.toDigits 10 (10 * value + digitValue c) := by
        rw [← Nat.toDigits_append_toDigits (by decide) hpos (digitValue_lt hc),
          Nat.toDigits_of_lt_base (digitValue_lt hc), digitChar_digitValue hc]
      rw [Nat.ofDigitChars_cons, ← digitValue, ← ih (fun d hd => hds d (List.mem_cons_of_mem c hd))
        (by omega), ← hfirst, List.append_assoc, List.singleton_append]

/-- Digits without a needless zero in front are those of the number they make. -/
theorem toDigits_ofDigitChars {ds : List Char} (hne : ds ≠ []) (hds : Digits ds)
    (hzero : ds.head? = some '0' → ds = ['0']) :
    Nat.toDigits 10 (Nat.ofDigitChars 10 ds 0) = ds := by
  obtain ⟨c, cs, rfl⟩ := List.exists_cons_of_ne_nil hne
  have hc := hds c List.mem_cons_self
  by_cases hfirst : c = '0'
  · rw [hzero (congrArg some hfirst)]
    rfl
  · have hdigits := toDigits_append_digits (fun d hd => hds d (List.mem_cons_of_mem c hd))
      (digitValue_pos hc hfirst)
    rw [Nat.ofDigitChars_cons, Nat.mul_zero, Nat.zero_add, ← digitValue, ← hdigits,
      Nat.toDigits_of_lt_base (digitValue_lt hc), digitChar_digitValue hc, List.singleton_append]

/-- Digits that make a number over the limit are not all gathered. -/
theorem gather_rest_ne_nil {ds : List Char} {limit value : Nat} (hvalue : value ≤ limit)
    (h : limit < Nat.ofDigitChars 10 ds value) : (gather limit value ds).rest ≠ [] := by
  induction ds generalizing value with
  | nil =>
      rw [Nat.ofDigitChars_nil] at h
      omega
  | cons c ds ih =>
      rw [Nat.ofDigitChars_cons, ← digitValue, Nat.mul_comm] at h
      by_cases hle : value * 10 + digitValue c ≤ limit
      · rw [gather]
        split
        · exact ih hle h
        · exact List.cons_ne_nil c ds
      · rw [gather_cons_of_not_le hle]
        exact List.cons_ne_nil c ds

/-! ### Numerals -/

/-- An integer as it may be written. -/
structure Numeral where
  negative : Bool
  digits : List Char
  digits_ne_nil : digits ≠ []
  isDigit_digits : Digits digits
  /-- Zero comes first only if it is alone. -/
  digits_of_zero : digits.head? = some '0' → digits = ['0']

namespace Numeral

/-- The text of a numeral. -/
def text (w : Numeral) : String :=
  String.ofList ((if w.negative then ['-'] else []) ++ w.digits)

/-- The number that the digits make. -/
def magnitude (w : Numeral) : Nat :=
  Nat.ofDigitChars 10 w.digits 0

/-- The integer that is written. -/
def value (w : Numeral) : Int :=
  if w.negative then -w.magnitude else w.magnitude

/-- A numeral as a literal. -/
def literal (w : Numeral) : Literal where
  negative := w.negative
  whole := w.digits
  fraction := []
  exponent := none
  whole_ne_nil := w.digits_ne_nil
  isDigit_whole := w.isDigit_digits
  whole_of_zero := w.digits_of_zero
  isDigit_fraction := Digits.nil

variable (w : Numeral)

theorem chars_literal : w.literal.chars = w.text.toList := by
  rw [text, String.toList_ofList, Literal.chars]
  exact congrArg (_ ++ ·) (List.append_nil w.digits)

/-! ### Texts -/

theorem toDigits_magnitude : Nat.toDigits 10 w.magnitude = w.digits :=
  toDigits_ofDigitChars w.digits_ne_nil w.isDigit_digits w.digits_of_zero

theorem natAbs_value : w.value.natAbs = w.magnitude := by
  rw [value]
  split <;> omega

theorem text_eq_minusZero_iff : w.text = "-0" ↔ w.negative = true ∧ w.magnitude = 0 := by
  have hlist : w.text = "-0" ↔ (if w.negative then ['-'] else []) ++ w.digits = ['-', '0'] := by
    rw [← String.toList_inj, text, String.toList_ofList]
    exact Iff.rfl
  rw [hlist]
  constructor
  · intro h
    cases hnegative : w.negative with
    | true =>
        rw [hnegative] at h
        have hdigits : w.digits = ['0'] := (List.cons.inj h).2
        refine ⟨rfl, ?_⟩
        rw [magnitude, hdigits]
        rfl
    | false =>
        rw [hnegative] at h
        have hdigits : w.digits = ['-', '0'] := h
        have hminus := w.isDigit_digits '-' (by simp [hdigits])
        exact absurd hminus (by decide)
  · rintro ⟨hnegative, hmagnitude⟩
    rw [hnegative, ← w.toDigits_magnitude, hmagnitude]
    rfl

/-- But for `-0`, a numeral is the literal of its integer. -/
theorem literal_eq_ofInt (h : w.text ≠ "-0") : w.literal = Literal.ofInt w.value := by
  rw [Ne, text_eq_minusZero_iff] at h
  have hnegative : w.negative = decide (w.value < 0) := by
    cases hsign : w.negative with
    | true =>
        have hpos : w.magnitude ≠ 0 := fun hzero => h ⟨hsign, hzero⟩
        rw [value, hsign, if_pos rfl, eq_comm, decide_eq_true_iff]
        omega
    | false =>
        rw [value, hsign, if_neg Bool.false_ne_true, eq_comm, decide_eq_false_iff_not]
        omega
  have hdigits : w.digits = Nat.toDigits 10 w.value.natAbs := by
    rw [w.natAbs_value, w.toDigits_magnitude]
  simp only [literal, Literal.ofInt, hnegative, hdigits]

/-- **Texts.** But for `-0`, a numeral is written as its integer is shown. -/
theorem text_eq_toString_iff : w.text = toString w.value ↔ w.text ≠ "-0" := by
  constructor
  · intro htext hminus
    have hmagnitude : w.magnitude = 0 := ((text_eq_minusZero_iff w).mp hminus).2
    have hvalue : w.value = 0 := by
      rw [value, hmagnitude]
      split <;> rfl
    rw [hminus, hvalue] at htext
    exact absurd htext (by decide)
  · intro h
    rw [← String.toList_inj, ← w.chars_literal, w.literal_eq_ofInt h, Literal.chars_ofInt]

/-- What an integer is shown as is a numeral. -/
theorem exists_text_eq (n : Int) : ∃ w : Numeral, w.text = toString n ∧ w.value = n := by
  let l := Literal.ofInt n
  refine ⟨⟨l.negative, l.whole, l.whole_ne_nil, l.isDigit_whole, l.whole_of_zero⟩, ?_, ?_⟩
  · rw [← String.toList_inj, ← chars_literal, ← Literal.chars_ofInt]
    rfl
  · have hmagnitude : Nat.ofDigitChars 10 l.whole 0 = n.natAbs := Nat.ofDigitChars_ten_toDigits
    have hnegative : l.negative = decide (n < 0) := rfl
    rw [value, magnitude]
    simp only [hmagnitude, hnegative, decide_eq_true_eq]
    split <;> omega

/-! ### Literals that are numerals -/

theorem real?_ne_whole (negative : Bool) (significand : Nat) (exponent i : Int) :
    real? negative significand exponent ≠ some (.whole i) := by
  rw [real?]
  cases scaled (.ofNat significand) exponent <;> simp

theorem number?_exponent_ne_whole (e : Exponent) (negative : Bool) (significand : Nat)
    (exponent i : Int) : e.number? negative significand exponent ≠ some (.whole i) := by
  rw [Exponent.number?]
  split
  case isTrue =>
      split
      case isTrue => simp
      case isFalse => simp
  case isFalse =>
      split <;> exact real?_ne_whole _ _ _ i

/-- A literal with a point or an exponent does not stand for a whole number. -/
theorem exists_literal_eq {l : Literal} {i : Int} (h : l.number? = some (.whole i)) :
    ∃ w : Numeral, w.literal = l := by
  obtain ⟨negative, whole, fraction, exponent, hne, hdigits, hzero, hfraction⟩ := l
  rw [Literal.number?] at h
  cases exponent with
  | some e => exact absurd h (number?_exponent_ne_whole e _ _ _ i)
  | none =>
      dsimp only at h
      split at h
      case isTrue hwhole =>
          obtain rfl : fraction = [] := hwhole.1
          exact ⟨⟨negative, whole, hne, hdigits, hzero⟩, rfl⟩
      case isFalse => exact absurd h (real?_ne_whole _ _ _ i)

/-! ### Reading -/

variable {w} {rest : List Char}

theorem readNumber_numeral (hrest : Stops rest) :
    readNumber (w.text.toList ++ rest) =
      if w.literal.wholeGathered.rest = [] then
        .ok (wholeNumber w.negative w.literal.wholeGathered.value, rest)
      else finishReal w.negative w.literal.wholeGathered.value w.literal.wholeGathered.rest.length
        rest := by
  have hstops : rest.head? ≠ some 'e' ∧ rest.head? ≠ some 'E' :=
    ⟨fun h => (hrest 'e' h).2.2.1 rfl, fun h => (hrest 'E' h).2.2.2 rfl⟩
  have hread : readNumber (w.text.toList ++ rest) =
      readMagnitude w.negative (w.digits ++ rest) := by
    rw [text, String.toList_ofList, List.append_assoc]
    exact readNumber_sign w.literal rest
  rw [hread, show readMagnitude w.negative (w.digits ++ rest) = _ from
      readMagnitude_whole w.literal hrest.digits,
    readAfterWhole_of_ne_point _ _ _ fun h => (hrest '.' h).2.1 rfl,
    readExponent_of_stops _ _ _ hrest]
  simp only [List.length_eq_zero_iff, hstops, and_true, ne_eq, not_false_eq_true]
  rfl

/-- **Within 64 bits.** All digits are taken as they are. -/
theorem readNumber_of_le (h : w.magnitude ≤ mostSignificand) (hrest : Stops rest) :
    readNumber (w.text.toList ++ rest) = .ok (wholeNumber w.negative w.magnitude, rest) := by
  have hgathered : w.literal.wholeGathered = ⟨w.magnitude, w.digits.length, []⟩ :=
    gather_eq w.isDigit_digits h
  rw [readNumber_numeral hrest, hgathered, if_pos rfl]

/-- **Beyond.** Digits are left over, and no whole number comes of it. -/
theorem readNumber_of_lt (h : mostSignificand < w.magnitude) (hrest : Stops rest) :
    (∃ x, readNumber (w.text.toList ++ rest) = .ok (.real x, rest)) ∨
      readNumber (w.text.toList ++ rest) = .error (.here .numberTooLarge rest) := by
  have hleft : w.literal.wholeGathered.rest ≠ [] := gather_rest_ne_nil (Nat.zero_le _) h
  rw [readNumber_numeral hrest, if_neg hleft, finishReal]
  cases scaled (.ofNat w.literal.wholeGathered.value) w.literal.wholeGathered.rest.length with
  | none => exact .inr rfl
  | some x => exact .inl ⟨_, rfl⟩

end Numeral

end SolverDeck.Json
