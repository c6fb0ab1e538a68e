import SolverDeck.Proofs.Json.Series

/-!
# Numbers as they are written

A number is written as a `Literal`: perhaps a minus, whole digits without a needless zero in front,
perhaps a point and digits, perhaps an exponent. `Literal.number?` is what it stands for, taken from
the parts of the literal one by one; it is none if the number is too large.

Reading a literal gives that, whatever stands behind it, as long as it does not go on with the
number (`readNumber_literal`). Digits are gathered only up to a limit, so what was gathered and what
was left over are carried along together (`gather_append`).
-/

namespace SolverDeck.Json

/-! ### Digits -/

/-- Nothing but digits. -/
def Digits (ds : List Char) : Prop :=
  ∀ c ∈ ds, c.isDigit = true

instance (ds : List Char) : Decidable (Digits ds) :=
  List.decidableBAll (Char.isDigit · = true) ds

theorem Digits.nil : Digits [] :=
  fun _ h => absurd h List.not_mem_nil

/-- A text that digits before it do not go on with. -/
def StopsDigits (rest : List Char) : Prop :=
  ∀ c ∈ rest.head?, c.isDigit = false

variable {ds rest : List Char} {limit value : Nat}

theorem Stops.digits (h : Stops rest) : StopsDigits rest :=
  fun c hc => (h c hc).1

theorem stopsDigits_cons {c : Char} (h : c.isDigit = false) (rest : List Char) :
    StopsDigits (c :: rest) := by
  intro d hd
  obtain rfl : c = d := Option.some.inj hd
  exact h

theorem gather_of_stops (h : StopsDigits rest) (limit value : Nat) :
    gather limit value rest = ⟨value, 0, rest⟩ := by
  cases rest with
  | nil => rfl
  | cons c rest =>
      have hc : ¬ (c.isDigit = true ∧ value * 10 + digitValue c ≤ limit) := by
        rw [h c rfl]
        simp
      rw [gather, if_neg hc]

theorem gather_cons_of_le {c : Char} (hc : c.isDigit = true)
    (hle : value * 10 + digitValue c ≤ limit) (cs : List Char) :
    gather limit value (c :: cs) =
      ⟨(gather limit (value * 10 + digitValue c) cs).value,
        (gather limit (value * 10 + digitValue c) cs).count + 1,
        (gather limit (value * 10 + digitValue c) cs).rest⟩ := by
  rw [gather, if_pos ⟨hc, hle⟩]

theorem gather_cons_of_not_le {c : Char} (hle : ¬ value * 10 + digitValue c ≤ limit)
    (cs : List Char) : gather limit value (c :: cs) = ⟨value, 0, c :: cs⟩ := by
  rw [gather, if_neg fun h => hle h.2]

/-- What stands behind digits does not change what is gathered from them. -/
theorem gather_append (hds : Digits ds) (hrest : StopsDigits rest) (limit value : Nat) :
    gather limit value (ds ++ rest) =
      ⟨(gather limit value ds).value, (gather limit value ds).count,
        (gather limit value ds).rest ++ rest⟩ := by
  induction ds generalizing value with
  | nil => exact gather_of_stops hrest limit value
  | cons c ds ih =>
      have hc := hds c List.mem_cons_self
      have hds' : Digits ds := fun d hd => hds d (List.mem_cons_of_mem c hd)
      rw [List.cons_append]
      by_cases hle : value * 10 + digitValue c ≤ limit
      · rw [gather_cons_of_le hc hle, gather_cons_of_le hc hle, ih hds']
      · rw [gather_cons_of_not_le hle, gather_cons_of_not_le hle]
        rfl

/-- What is left over of digits are digits. -/
theorem digits_gather (hds : Digits ds) (limit value : Nat) :
    Digits (gather limit value ds).rest := by
  induction ds generalizing value with
  | nil => exact hds
  | cons c ds ih =>
      have hc := hds c List.mem_cons_self
      by_cases hle : value * 10 + digitValue c ≤ limit
      · rw [gather_cons_of_le hc hle]
        exact ih (fun d hd => hds d (List.mem_cons_of_mem c hd)) _
      · rw [gather_cons_of_not_le hle]
        exact hds

theorem takeWhile_digits (hds : Digits ds) (hrest : StopsDigits rest) :
    (ds ++ rest).takeWhile Char.isDigit = ds := by
  rw [List.takeWhile_append_of_pos hds]
  cases rest with
  | nil => simp
  | cons c rest => rw [List.takeWhile_cons_of_neg (by simp [hrest c rfl]), List.append_nil]

theorem dropWhile_digits (hds : Digits ds) (hrest : StopsDigits rest) :
    (ds ++ rest).dropWhile Char.isDigit = rest := by
  rw [List.dropWhile_append_of_pos hds]
  cases rest with
  | nil => rfl
  | cons c rest => exact List.dropWhile_cons_of_neg (by simp [hrest c rfl])

theorem startsWithDigit_append (hds : Digits ds) (hrest : StopsDigits rest) :
    startsWithDigit (ds ++ rest) = !ds.isEmpty := by
  cases ds with
  | nil =>
      cases rest with
      | nil => rfl
      | cons c rest => exact hrest c rfl
  | cons c ds => exact hds c List.mem_cons_self

/-! ### Literals -/

/-- An exponent as it is written. -/
structure Exponent where
  mark : Char
  sign : Option Char
  digits : List Char
  mark_eq : mark = 'e' ∨ mark = 'E'
  sign_eq : ∀ c ∈ sign, c = '+' ∨ c = '-'
  digits_ne_nil : digits ≠ []
  isDigit_digits : Digits digits

/-- A number as it is written. -/
structure Literal where
  negative : Bool
  whole : List Char
  /-- The digits behind the point; there is no point if there are none. -/
  fraction : List Char
  exponent : Option Exponent
  whole_ne_nil : whole ≠ []
  isDigit_whole : Digits whole
  /-- Zero comes first only if it is alone. -/
  whole_of_zero : whole.head? = some '0' → whole = ['0']
  isDigit_fraction : Digits fraction

/-- The characters of an exponent. -/
def Exponent.chars (e : Exponent) : List Char :=
  e.mark :: (e.sign.toList ++ e.digits)

/-- The characters behind the whole digits. -/
def Literal.fractionChars (l : Literal) : List Char :=
  match l.fraction with
  | [] => []
  | c :: cs => '.' :: c :: cs

def Literal.exponentChars (l : Literal) : List Char :=
  match l.exponent with
  | none => []
  | some e => e.chars

/-- The characters of a number. -/
def Literal.chars (l : Literal) : List Char :=
  (if l.negative then ['-'] else []) ++ (l.whole ++ (l.fractionChars ++ l.exponentChars))

/-! ### What literals stand for -/

/-- A sign, a significand and a decimal exponent as a floating-point number, if it is not too
large. -/
def real? (negative : Bool) (significand : Nat) (exponent : Int) : Option Number :=
  (scaled (.ofNat significand) exponent).map fun x => .real (signed negative x)

/-- The number with an exponent as written, the rest of it amounting to a significand and a decimal
exponent. -/
def Exponent.number? (e : Exponent) (negative : Bool) (significand : Nat) (exponent : Int) :
    Option Number :=
  let digits := gather mostExponent 0 e.digits
  if digits.rest ≠ [] then
    if significand ≠ 0 ∧ e.sign ≠ some '-' then none
    else some (.real (signed negative (.ofNat 0)))
  else if e.sign = some '-' then real? negative significand (exponent - digits.value)
  else real? negative significand (exponent + digits.value)

/-- What the whole digits amount to as far as they fit. -/
def Literal.wholeGathered (l : Literal) : Gathered :=
  gather mostSignificand 0 l.whole

/-- What all digits amount to as far as they fit. -/
def Literal.gathered (l : Literal) : Gathered :=
  gather mostSignificand l.wholeGathered.value l.fraction

/-- The decimal exponent of what was gathered: whole digits left over raise it, and digits behind
the point lower it. -/
def Literal.scale (l : Literal) : Int :=
  (l.wholeGathered.rest.length : Int) - l.gathered.count

/-- The number that a literal stands for. -/
def Literal.number? (l : Literal) : Option Number :=
  match l.exponent with
  | some e => e.number? l.negative l.gathered.value l.scale
  | none =>
      if l.fraction = [] ∧ l.wholeGathered.rest = [] then
        some (wholeNumber l.negative l.wholeGathered.value)
      else real? l.negative l.gathered.value l.scale

/-! ### Reading literals -/

theorem gives_finishReal (negative : Bool) (significand : Nat) (exponent : Int)
    (rest : List Char) :
    (finishReal negative significand exponent rest).Gives (real? negative significand exponent)
      rest := by
  rw [finishReal, real?]
  cases scaled (.ofNat significand) exponent with
  | none => exact ⟨_, rfl⟩
  | some x => rfl

theorem readExponentDigits_written (e : Exponent) (negative : Bool) (significand : Nat)
    (exponent : Int) (hrest : StopsDigits rest) :
    (readExponentDigits negative significand exponent (e.sign == some '-')
      (e.digits ++ rest)).Gives (e.number? negative significand exponent) rest := by
  obtain ⟨c, cs, hdigits⟩ := List.exists_cons_of_ne_nil e.digits_ne_nil
  have hc : c.isDigit = true := e.isDigit_digits c (by simp [hdigits])
  have hgather := gather_append e.isDigit_digits hrest mostExponent 0
  have hleft := digits_gather e.isDigit_digits mostExponent 0
  rw [hdigits] at hgather hleft
  rw [Exponent.number?, hdigits, List.cons_append, readExponentDigits, hc, ← List.cons_append,
    hgather]
  dsimp only
  rw [startsWithDigit_append hleft hrest, dropWhile_digits hleft hrest, Bool.not_true,
    if_neg Bool.false_ne_true]
  cases (gather mostExponent 0 (c :: cs)).rest with
  | nil =>
      by_cases hsign : e.sign = some '-'
      · simpa [hsign] using gives_finishReal negative significand _ rest
      · simpa [hsign] using gives_finishReal negative significand _ rest
  | cons d ds =>
      by_cases hbad : significand ≠ 0 ∧ e.sign ≠ some '-'
      · simp [hbad, Result.Gives]
      · by_cases hsign : e.sign = some '-'
        · simp [hsign, Result.Gives]
        · have hzero : significand = 0 := by simpa [hsign] using hbad
          simp [hzero, Result.Gives]

theorem readExponent_signed {mark sign : Char} (hmark : mark = 'e' ∨ mark = 'E')
    (hsign : sign = '+' ∨ sign = '-') (negative : Bool) (significand : Nat) (exponent : Int)
    (cs : List Char) :
    readExponent negative significand exponent (mark :: sign :: cs) =
      readExponentDigits negative significand exponent (sign == '-') cs := by
  rcases hsign with rfl | rfl <;> simp [readExponent, hmark]

theorem readExponent_unsigned {mark c : Char} (hmark : mark = 'e' ∨ mark = 'E')
    (hc : c.isDigit = true) (negative : Bool) (significand : Nat) (exponent : Int)
    (cs : List Char) :
    readExponent negative significand exponent (mark :: c :: cs) =
      readExponentDigits negative significand exponent false (c :: cs) := by
  -- The digit that comes first is no sign.
  have hplus : c ≠ '+' := by rintro rfl; exact absurd hc (by decide)
  have hminus : c ≠ '-' := by rintro rfl; exact absurd hc (by decide)
  simp [readExponent, hmark, hplus, hminus]

/-- **Exponents.** -/
theorem readExponent_written (e : Exponent) (negative : Bool) (significand : Nat)
    (exponent : Int) (hrest : StopsDigits rest) :
    (readExponent negative significand exponent (e.chars ++ rest)).Gives
      (e.number? negative significand exponent) rest := by
  have hread := readExponentDigits_written e negative significand exponent hrest
  rw [Exponent.chars, List.cons_append]
  cases hsign : e.sign with
  | none =>
      obtain ⟨c, cs, hdigits⟩ := List.exists_cons_of_ne_nil e.digits_ne_nil
      have hc : c.isDigit = true := e.isDigit_digits c (by simp [hdigits])
      rw [hsign, hdigits] at hread
      rw [hdigits, Option.toList_none, List.nil_append, List.cons_append,
        readExponent_unsigned e.mark_eq hc]
      exact hread
  | some sign =>
      rw [hsign] at hread
      rw [Option.toList_some, List.singleton_append, List.cons_append,
        readExponent_signed e.mark_eq (e.sign_eq sign hsign)]
      exact hread

theorem readExponent_of_stops (negative : Bool) (significand : Nat) (exponent : Int)
    (hrest : Stops rest) :
    readExponent negative significand exponent rest =
      finishReal negative significand exponent rest := by
  cases rest with
  | nil => rfl
  | cons c rest =>
      have hc := hrest c rfl
      simp [readExponent, hc.2.2.1, hc.2.2.2]

theorem Literal.stopsDigits_exponentChars (l : Literal) (hrest : Stops rest) :
    StopsDigits (l.exponentChars ++ rest) := by
  unfold Literal.exponentChars
  split
  case _ => exact hrest.digits
  case _ e _ =>
      refine stopsDigits_cons ?_ _
      rcases e.mark_eq with h | h <;> rw [h] <;> decide

/-- What stands behind the point. -/
theorem readFraction_literal (l : Literal) (hne : l.fraction ≠ []) (hrest : Stops rest) :
    (readFraction l.negative l.wholeGathered.value l.wholeGathered.rest.length
      (l.fraction ++ (l.exponentChars ++ rest))).Gives l.number? rest := by
  have hstops := l.stopsDigits_exponentChars hrest
  have hgather := gather_append l.isDigit_fraction hstops mostSignificand l.wholeGathered.value
  have hleft := digits_gather l.isDigit_fraction mostSignificand l.wholeGathered.value
  obtain ⟨c, cs, hfraction⟩ := List.exists_cons_of_ne_nil hne
  have hc : c.isDigit = true := l.isDigit_fraction c (by simp [hfraction])
  rw [hfraction, List.cons_append] at hgather ⊢
  rw [hfraction] at hleft
  rw [readFraction, hc, hgather, Bool.not_true, if_neg Bool.false_ne_true]
  dsimp only
  rw [dropWhile_digits hleft hstops]
  have hscale : (l.wholeGathered.rest.length : Int) -
      (gather mostSignificand l.wholeGathered.value (c :: cs)).count = l.scale := by
    rw [Literal.scale, Literal.gathered, hfraction]
  have hvalue : (gather mostSignificand l.wholeGathered.value (c :: cs)).value =
      l.gathered.value := by
    rw [Literal.gathered, hfraction]
  rw [hscale, hvalue, Literal.number?, Literal.exponentChars]
  cases l.exponent with
  | none =>
      dsimp only
      rw [List.nil_append, readExponent_of_stops _ _ _ hrest, if_neg fun h => hne h.1]
      exact gives_finishReal _ _ _ rest
  | some e => exact readExponent_written e _ _ _ hrest.digits

theorem readAfterWhole_of_ne_point (negative : Bool) (significand dropped : Nat) {cs : List Char}
    (h : '.' ∉ cs.head?) :
    readAfterWhole negative significand dropped cs =
      if dropped = 0 ∧ cs.head? ≠ some 'e' ∧ cs.head? ≠ some 'E' then
        .ok (wholeNumber negative significand, cs)
      else readExponent negative significand dropped cs := by
  unfold readAfterWhole
  split
  case _ => exact absurd rfl h
  case _ => rfl

/-- What stands behind the whole digits. -/
theorem readAfterWhole_literal (l : Literal) (hrest : Stops rest) :
    (readAfterWhole l.negative l.wholeGathered.value l.wholeGathered.rest.length
      (l.fractionChars ++ (l.exponentChars ++ rest))).Gives l.number? rest := by
  rw [Literal.fractionChars]
  cases hfraction : l.fraction with
  | cons c cs =>
      have hread := readFraction_literal l (by simp [hfraction]) hrest
      rwa [hfraction] at hread
  | nil =>
      have hvalue : l.gathered.value = l.wholeGathered.value := by
        rw [Literal.gathered, hfraction]
        rfl
      have hscale : l.scale = l.wholeGathered.rest.length := by
        rw [Literal.scale, Literal.gathered, hfraction]
        exact Int.sub_zero _
      rw [Literal.number?, Literal.exponentChars, hvalue, hscale, hfraction]
      dsimp only
      rw [List.nil_append]
      cases l.exponent with
      | some e =>
          have hread := readExponent_written e l.negative l.wholeGathered.value
            l.wholeGathered.rest.length hrest.digits
          have hhead : (e.chars ++ rest).head? = some e.mark := rfl
          rw [readAfterWhole_of_ne_point, if_neg]
          · exact hread
          · rw [hhead]
            rcases e.mark_eq with h | h <;> simp [h]
          · rw [hhead]
            rcases e.mark_eq with h | h <;> simp [h]
      | none =>
          dsimp only
          rw [List.nil_append, readAfterWhole_of_ne_point _ _ _ fun h => (hrest '.' h).2.1 rfl]
          by_cases hleft : l.wholeGathered.rest = []
          · rw [if_pos, if_pos ⟨rfl, hleft⟩]
            · rfl
            · exact ⟨by simp [hleft], fun h => (hrest 'e' h).2.2.1 rfl,
                fun h => (hrest 'E' h).2.2.2 rfl⟩
          · rw [if_neg fun h => hleft (List.length_eq_zero_iff.mp h.1),
              if_neg fun h => hleft h.2, readExponent_of_stops _ _ _ hrest]
            exact gives_finishReal _ _ _ rest

theorem Literal.stopsDigits_fractionChars (l : Literal) (hrest : Stops rest) :
    StopsDigits (l.fractionChars ++ (l.exponentChars ++ rest)) := by
  unfold Literal.fractionChars
  split
  case _ => exact l.stopsDigits_exponentChars hrest
  case _ => exact stopsDigits_cons (by decide) _

/-- The whole digits are taken, as far as they fit, and what stands behind them decides. -/
theorem readMagnitude_whole (l : Literal) {more : List Char} (hmore : StopsDigits more) :
    readMagnitude l.negative (l.whole ++ more) =
      readAfterWhole l.negative l.wholeGathered.value l.wholeGathered.rest.length more := by
  obtain ⟨c, cs, hwhole⟩ := List.exists_cons_of_ne_nil l.whole_ne_nil
  have hc : c.isDigit = true := l.isDigit_whole c (by simp [hwhole])
  by_cases hzero : c = '0'
  · subst hzero
    have hall : l.whole = ['0'] := l.whole_of_zero (by simp [hwhole])
    have hgathered : l.wholeGathered = ⟨0, 1, []⟩ := by
      rw [Literal.wholeGathered, hall]
      decide
    rw [hgathered, hall, List.singleton_append, readMagnitude, hc, Bool.not_true,
      if_neg Bool.false_ne_true, if_pos rfl]
    have hdigit := @startsWithDigit_append [] _ (fun _ h => absurd h List.not_mem_nil) hmore
    rw [List.nil_append] at hdigit
    rw [hdigit]
    rfl
  · have hgather := gather_append l.isDigit_whole hmore mostSignificand 0
    have hleft := digits_gather l.isDigit_whole mostSignificand 0
    rw [hwhole, List.cons_append] at hgather ⊢
    rw [readMagnitude, hc, Bool.not_true, if_neg Bool.false_ne_true, if_neg hzero, hgather]
    dsimp only
    rw [← hwhole, takeWhile_digits hleft hmore, dropWhile_digits hleft hmore]
    rfl

/-- A minus is taken before the magnitude. -/
theorem readNumber_sign (l : Literal) (more : List Char) :
    readNumber ((if l.negative then ['-'] else []) ++ (l.whole ++ more)) =
      readMagnitude l.negative (l.whole ++ more) := by
  cases l.negative with
  | true => rfl
  | false =>
      obtain ⟨c, cs, hwhole⟩ := List.exists_cons_of_ne_nil l.whole_ne_nil
      have hminus : c ≠ '-' := by
        have hc : c.isDigit = true := l.isDigit_whole c (by simp [hwhole])
        rintro rfl
        exact absurd hc (by decide)
      rw [hwhole, if_neg Bool.false_ne_true, List.nil_append, List.cons_append, readNumber]
      intro rest heq
      exact hminus (List.cons.inj heq).1

/-- **Numbers.** Reading a literal gives the number that it stands for. -/
theorem readNumber_literal (l : Literal) (hrest : Stops rest) :
    (readNumber (l.chars ++ rest)).Gives l.number? rest := by
  rw [Literal.chars, List.append_assoc, List.append_assoc, List.append_assoc, readNumber_sign,
    readMagnitude_whole l (l.stopsDigits_fractionChars hrest)]
  exact readAfterWhole_literal l hrest

/-- A number begins with a minus or a digit. -/
theorem Literal.exists_chars_eq_cons (l : Literal) :
    ∃ c tail, l.chars = c :: tail ∧ (c = '-' ∨ c.isDigit = true) := by
  obtain ⟨c, cs, hwhole⟩ := List.exists_cons_of_ne_nil l.whole_ne_nil
  rw [Literal.chars]
  cases l.negative with
  | true => exact ⟨'-', _, rfl, Or.inl rfl⟩
  | false => exact ⟨c, _, by rw [hwhole]; rfl, Or.inr (l.isDigit_whole c (by simp [hwhole]))⟩

end SolverDeck.Json
