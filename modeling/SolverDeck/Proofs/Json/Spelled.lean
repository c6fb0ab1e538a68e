import SolverDeck.Decimal.Shortest
import SolverDeck.Proofs.Json.Whole

/-!
# The decimal that a literal spells

A literal spells a decimal: all its digits as one whole number, and a power of ten from its exponent
and from where its point stands (`Literal.decimal`). If the digits fit the significand, none is
dropped, and a literal with a point or an exponent is read as that decimal, scaled (`number?_eq`).

A text is the text of one literal only, since each of its parts ends where its characters can go on
no longer (`Literal.chars_injective`).
-/

namespace SolverDeck.Json

/-- An exponent as a whole number. -/
def Exponent.value (e : Exponent) : Int :=
  if e.sign = some '-' then -Nat.ofDigitChars 10 e.digits 0 else Nat.ofDigitChars 10 e.digits 0

/-- The power of ten that an exponent stands for, which may be absent. -/
def Literal.exponentValue (l : Literal) : Int :=
  match l.exponent with
  | none => 0
  | some e => e.value

/-- The decimal that a literal spells, save for its sign. -/
def Literal.decimal (l : Literal) : Decimal :=
  ⟨Nat.ofDigitChars 10 (l.whole ++ l.fraction) 0, l.exponentValue - l.fraction.length⟩

variable {l : Literal}

theorem gathered_of_le (h : l.decimal.digits ≤ mostSignificand) :
    l.wholeGathered.rest = [] ∧
      l.gathered = ⟨l.decimal.digits, l.fraction.length, []⟩ := by
  rw [Literal.decimal, Nat.ofDigitChars_append] at h
  have hwhole := Nat.le_trans (le_ofDigitChars l.fraction _) h
  rw [Literal.gathered, Literal.wholeGathered, gather_eq l.isDigit_whole hwhole, Literal.decimal,
    Nat.ofDigitChars_append]
  exact ⟨rfl, gather_eq l.isDigit_fraction h⟩

/-- **Decimals.** A literal that is no whole number is read as the decimal that it spells. -/
theorem number?_eq (hdigits : l.decimal.digits ≤ mostSignificand)
    (hexponent : ∀ e ∈ l.exponent, Nat.ofDigitChars 10 e.digits 0 ≤ mostExponent)
    (hreal : l.fraction ≠ [] ∨ l.exponent ≠ none) :
    l.number? = real? l.negative l.decimal.digits l.decimal.exponent := by
  obtain ⟨hrest, hgathered⟩ := gathered_of_le hdigits
  have hscale : l.scale = -(l.fraction.length : Int) := by
    rw [Literal.scale, hrest, hgathered, List.length_nil, Int.natCast_zero, Int.zero_sub]
  have hpower : l.decimal.exponent = l.exponentValue - l.fraction.length := rfl
  rw [Literal.number?, hpower, Literal.exponentValue, hscale, hgathered]
  cases hpart : l.exponent with
  | none =>
      have hfraction : l.fraction ≠ [] := by
        rcases hreal with h | h
        · exact h
        · exact absurd hpart h
      dsimp only
      rw [if_neg fun h => hfraction h.1, Int.zero_sub]
  | some e =>
      dsimp only
      rw [Exponent.number?, Exponent.value, gather_eq e.isDigit_digits (hexponent e hpart)]
      dsimp only
      rw [if_neg (by simp)]
      split
      · congr 1
        omega
      · congr 1
        omega

theorem Literal.fractionChars_of_ne (h : l.fraction ≠ []) : l.fractionChars = '.' :: l.fraction := by
  rw [fractionChars]
  cases hfraction : l.fraction with
  | nil => exact absurd hfraction h
  | cons c cs => rfl

/-! ### One literal for a text -/

variable {ds es rest rest' : List Char}

theorem Stops.nil : Stops [] :=
  fun _ h => absurd h (by simp)

theorem digits_append_inj (hds : Digits ds) (hes : Digits es) (hrest : StopsDigits rest)
    (hrest' : StopsDigits rest') (h : ds ++ rest = es ++ rest') : ds = es ∧ rest = rest' := by
  constructor
  · rw [← takeWhile_digits hds hrest, h, takeWhile_digits hes hrest']
  · rw [← dropWhile_digits hds hrest, h, dropWhile_digits hes hrest']

/-- A sign is no digit. -/
theorem sign_cons_ne {c : Char} (hc : c = '+' ∨ c = '-') (hes : Digits es) : c :: ds ≠ es := by
  rintro rfl
  have hdigit := hes c List.mem_cons_self
  rcases hc with rfl | rfl <;> exact absurd hdigit (by decide)

theorem Exponent.chars_injective {e e' : Exponent} (h : e.chars = e'.chars) : e = e' := by
  obtain ⟨hmark, hrest⟩ := List.cons.inj h
  have hparts : e.sign = e'.sign ∧ e.digits = e'.digits := by
    cases hsign : e.sign with
    | none =>
        rw [hsign] at hrest
        cases hsign' : e'.sign with
        | none => exact ⟨rfl, by simpa [hsign'] using hrest⟩
        | some c =>
            rw [hsign'] at hrest
            exact absurd hrest.symm (sign_cons_ne (e'.sign_eq c hsign') e.isDigit_digits)
    | some c =>
        rw [hsign] at hrest
        cases hsign' : e'.sign with
        | none =>
            rw [hsign'] at hrest
            exact absurd hrest (sign_cons_ne (e.sign_eq c hsign) e'.isDigit_digits)
        | some c' =>
            rw [hsign'] at hrest
            obtain ⟨rfl, hdigits⟩ := List.cons.inj hrest
            exact ⟨rfl, hdigits⟩
  cases e
  cases e'
  simp_all

theorem Exponent.ne_point {e : Exponent} : e.chars.head? ≠ some '.' := by
  rw [chars, List.head?_cons]
  rcases e.mark_eq with h | h <;> simp [h]

theorem Literal.exponentChars_injective {l l' : Literal} (h : l.exponentChars = l'.exponentChars) :
    l.exponent = l'.exponent := by
  rw [exponentChars, exponentChars] at h
  cases hl : l.exponent with
  | none =>
      cases hl' : l'.exponent with
      | none => rfl
      | some e' =>
          rw [hl, hl'] at h
          exact absurd h.symm (List.cons_ne_nil _ _)
  | some e =>
      cases hl' : l'.exponent with
      | none =>
          rw [hl, hl'] at h
          exact absurd h (List.cons_ne_nil _ _)
      | some e' =>
          rw [hl, hl'] at h
          rw [Exponent.chars_injective h]

theorem Literal.head?_exponentChars_ne (l : Literal) : l.exponentChars.head? ≠ some '.' := by
  rw [exponentChars]
  cases l.exponent with
  | none => simp
  | some e => exact e.ne_point

theorem Literal.stopsDigits_exponent (l : Literal) : StopsDigits l.exponentChars := by
  simpa using l.stopsDigits_exponentChars Stops.nil

theorem Literal.stopsDigits_fraction (l : Literal) :
    StopsDigits (l.fractionChars ++ l.exponentChars) := by
  simpa using l.stopsDigits_fractionChars Stops.nil

theorem Literal.fractionChars_injective {l l' : Literal}
    (h : l.fractionChars ++ l.exponentChars = l'.fractionChars ++ l'.exponentChars) :
    l.fraction = l'.fraction ∧ l.exponent = l'.exponent := by
  cases hl : l.fraction with
  | nil =>
      cases hl' : l'.fraction with
      | nil =>
          rw [fractionChars, fractionChars, hl, hl'] at h
          exact ⟨rfl, exponentChars_injective h⟩
      | cons c cs =>
          rw [fractionChars, fractionChars, hl, hl'] at h
          exact absurd (congrArg List.head? h) l.head?_exponentChars_ne
  | cons c cs =>
      cases hl' : l'.fraction with
      | nil =>
          rw [fractionChars, fractionChars, hl, hl'] at h
          exact absurd (congrArg List.head? h.symm) l'.head?_exponentChars_ne
      | cons d ds =>
          rw [fractionChars, fractionChars, hl, hl'] at h
          obtain ⟨hfraction, hexponent⟩ := digits_append_inj (hl ▸ l.isDigit_fraction)
            (hl' ▸ l'.isDigit_fraction) l.stopsDigits_exponent l'.stopsDigits_exponent
            (List.cons.inj h).2
          exact ⟨hfraction, exponentChars_injective hexponent⟩

/-- **One literal for a text.** -/
theorem Literal.chars_injective {l l' : Literal} (h : l.chars = l'.chars) : l = l' := by
  have hminus : ∀ {m m' : Literal} (cs : List Char),
      '-' :: cs ≠ m.whole ++ (m'.fractionChars ++ m'.exponentChars) := by
    intro m m' cs heq
    obtain ⟨c, ds, hwhole⟩ := List.exists_cons_of_ne_nil m.whole_ne_nil
    rw [hwhole, List.cons_append] at heq
    have hdigit := m.isDigit_whole c (by simp [hwhole])
    rw [← (List.cons.inj heq).1] at hdigit
    exact absurd hdigit (by decide)
  have hparts : l.negative = l'.negative ∧
      l.whole ++ (l.fractionChars ++ l.exponentChars) =
        l'.whole ++ (l'.fractionChars ++ l'.exponentChars) := by
    rw [chars, chars] at h
    cases hl : l.negative <;> cases hl' : l'.negative <;> rw [hl, hl'] at h
    case false.false => exact ⟨rfl, h⟩
    case false.true => exact absurd h.symm (hminus _)
    case true.false => exact absurd h (hminus _)
    case true.true => exact ⟨rfl, (List.cons.inj h).2⟩
  obtain ⟨hwhole, hrest⟩ := digits_append_inj l.isDigit_whole l'.isDigit_whole
    l.stopsDigits_fraction l'.stopsDigits_fraction hparts.2
  obtain ⟨hfraction, hexponent⟩ := fractionChars_injective hrest
  cases l
  cases l'
  simp_all

end SolverDeck.Json
