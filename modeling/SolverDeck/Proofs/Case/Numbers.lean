import SolverDeck.Proofs.Case.Zeroed
import SolverDeck.Proofs.Value.Reals
import SolverDeck.Proofs.Value.Spelling

/-!
# Shown numbers in cases

A case file may spell a floating-point number as a deck shows it, wherever it writes numbers: as the
value of a parameter or within lists, with the case in either form and the other values of any kind.
The number is then read as a floating-point number no more than two places away, and it is never the
reason why the file is refused (`parse_shown`).

Two places do occur, and a number of sixteen plain digits can be off already
(`parse_shown_inexact`), because a significand of more than 53 bits is rounded before it is
scaled.
-/

namespace SolverDeck

open Json (Tree Blank Literal)

/-- A literal is spelled as a deck shows a finite number. -/
structure Json.Literal.Shows (l : Literal) (x : Binary64) : Prop where
  isFinite : x.isFinite = true
  chars_eq : l.chars = (Value.real x).display.toList

variable {x : Binary64} {l : Literal}

theorem Json.Literal.exists_shows (hx : x.isFinite = true) : ∃ l : Literal, l.Shows x := by
  obtain ⟨l, hchars, -⟩ := Value.exists_literal_display hx
  exact ⟨l, hx, hchars⟩

theorem Json.Literal.Shows.exists_value? (h : l.Shows x) :
    ∃ y, l.value? = some (.real y) ∧ x.Reread y := by
  obtain ⟨y, hnumber, hnear⟩ := number?_display h.isFinite h.chars_eq
  exact ⟨y, by rw [Literal.value?, hnumber]; rfl, hnear⟩

theorem Json.Literal.Shows.isSome_number? (h : l.Shows x) : l.number?.isSome := by
  obtain ⟨y, hnumber, -⟩ := number?_display h.isFinite h.chars_eq
  exact Option.isSome_of_eq_some hnumber

theorem Value.exists_parse_display (hx : x.isFinite = true) :
    ∃ y, parse (real x).display = .ok (real y) ∧ x.Reread y := by
  obtain ⟨l, hl⟩ := Literal.exists_shows hx
  obtain ⟨y, hvalue, hnear⟩ := hl.exists_value?
  have hparse := parse_of_value? ((Case.value?_number l Json.mostLevels).trans hvalue)
    (.number l) Blank.nil Blank.nil
  rw [List.nil_append, List.append_nil, hl.chars_eq, String.ofList_toList] at hparse
  exact ⟨y, hparse, hnear⟩

namespace Case

/-- **Shown numbers in cases.** The display of a finite number is read as a number that is near. So it
is in every case file, in whatever form and lists: the numbers of the case are one for one those
written in the file, and each that is spelled as a finite number is shown is near to that number.

Such numbers do not make a file refused. If a file differs from a case only in its numbers, and these
are readable or spelled as finite numbers are shown, then it is a case as well, which differs from
the other only in its numbers. -/
theorem parse_shown :
    (∀ x : Binary64, x.isFinite = true →
      ∃ y, Value.parse (Value.real x).display = .ok (.real y) ∧ x.Reread y) ∧
    ∀ (t : Tree) (before cs after : List Char), Blank before → t.Spells cs → Blank after →
      (∀ c, parse (String.ofList (before ++ (cs ++ after))) = .ok c →
        List.Forall₂ (fun l v => ∀ x, l.Shows x → ∃ y, v = .real y ∧ x.Reread y)
          t.literals (c.parameters.flatMap fun p => p.value.numbers)) ∧
      ∀ (u : Tree) (before' cs' after' : List Char) (d : Case), Blank before' → u.Spells cs' →
        parse (String.ofList (before' ++ (cs' ++ after'))) = .ok d → t.zeroed = u.zeroed →
        (∀ l ∈ t.literals, l.number?.isSome ∨ ∃ x, l.Shows x) →
          ∃ c, parse (String.ofList (before ++ (cs ++ after))) = .ok c ∧ c.zeroed = d.zeroed := by
  refine ⟨fun x => Value.exists_parse_display, ?_⟩
  intro t before cs after hbefore hcs hafter
  constructor
  · intro c hc
    refine (readAs_ofTree? (ofTree?_of_parse hbefore hcs hc)).imp fun l v hv x hshows => ?_
    obtain ⟨y, hvalue, hnear⟩ := hshows.exists_value?
    exact ⟨y, Option.some.inj (hv.symm.trans hvalue), hnear⟩
  · -- What is shown can be read, so that no number stands in the way of the other case.
    intro u before' cs' after' d hbefore' hcs' hd hsame hnumbers
    have hreadable : t.Readable := fun l hl =>
      (hnumbers l hl).elim id fun ⟨x, hshows⟩ => hshows.isSome_number?
    obtain ⟨c, hc, hzeroed⟩ :=
      exists_ofTree?_of_zeroed_eq (ofTree?_of_parse hbefore' hcs' hd) hsame hreadable
    exact ⟨c, parse_of_ofTree? hbefore hcs hafter hc, hzeroed⟩

/-! ### A case of two numbers -/

/-- The greatest number below `2 ^ 53`, with the zero behind its point. -/
def seventeenDigits : Literal where
  negative := false
  whole := "9007199254740991".toList
  fraction := ['0']
  exponent := none
  whole_ne_nil := by decide
  isDigit_whole := by decide
  whole_of_zero := by decide
  isDigit_fraction := by decide

/-- A case in the form of a list, whose only parameter holds a list of two numbers. -/
def pairOf (l m : Literal) : Tree :=
  .list [.null, .list [.list [.null, .text (Json.plain "a"), .list [.number l, .number m]]]]

theorem spells_pairOf (l m : Literal) :
    (pairOf l m).Spells ("[null,[[null,\"a\",[".toList ++
      (l.chars ++ (',' :: m.chars ++ "]]]]".toList))) := by
  have hvalue : Tree.Spells (.list [.number l, .number m]) _ :=
    .list (.first Blank.nil (.number l) (.next Blank.nil Blank.nil (.number m) (.done Blank.nil)))
  have hparameter : Tree.Spells (.list [.null, .text (Json.plain "a"), _]) _ :=
    .list (.first Blank.nil .null (.next Blank.nil Blank.nil
      (.text (Json.written_plain (by decide)))
      (.next Blank.nil Blank.nil hvalue (.done Blank.nil))))
  have hcase : (pairOf l m).Spells _ :=
    .list (.first Blank.nil .null (.next Blank.nil Blank.nil
      (.list (.first Blank.nil hparameter (.done Blank.nil))) (.done Blank.nil)))
  convert hcase using 1
  simp

theorem ofTree?_pairOf {l m : Literal} {v w : Value} (hl : l.value? = some v)
    (hm : m.value? = some w) :
    ofTree? (pairOf l m) = some ⟨none, [⟨none, some "a", .list [v, w]⟩]⟩ := by
  obtain ⟨levels, hlevels⟩ : ∃ n, valueLevels = n + 1 := ⟨valueLevels - 1, by decide⟩
  have hvalue : (Tree.list [.number l, .number m]).value? valueLevels = some (.list [v, w]) := by
    rw [hlevels, value?_list]
    simp [value?_number, hl, hm]
  simp [pairOf, ofTree?, parameters?, parameter?, Tree.optionalText?, hvalue]

/-- Two hundred, with an exponent. -/
def twoHundred : Literal where
  negative := false
  whole := ['2']
  fraction := []
  exponent := some (Value.layout.exponentOf 2)
  whole_ne_nil := by decide
  isDigit_whole := by decide
  whole_of_zero := by decide
  isDigit_fraction := Json.Digits.nil

/-- A shown number in a list, together with one that is spelled in another way. -/
theorem parse_shown_sweep :
    ∃ c, parse "[null,[[null,\"a\",[9007199254740991.0,2e2]]]]" = .ok c ∧
      c.zeroed = ⟨none, [⟨none, some "a", .list [.int 0, .int 0]⟩]⟩ ∧
      ∃ y w, (c.parameters.flatMap fun p => p.value.numbers) = [.real y, w] ∧
        Binary64.Reread ⟨0x433fffffffffffff⟩ y := by
  have hshows : seventeenDigits.Shows ⟨0x433fffffffffffff⟩ :=
    ⟨by decide +kernel, by decide +kernel⟩
  have htwo : twoHundred.number?.isSome := by decide +kernel
  have hzero : (Literal.ofInt 0).value? = some (.int 0) :=
    (value?_number _ 0).symm.trans (value?_zero 0)
  have hplain : parse (String.ofList ([] ++ (_ ++ []))) = .ok _ :=
    parse_of_ofTree? Blank.nil (spells_pairOf _ _) Blank.nil (ofTree?_pairOf hzero hzero)
  obtain ⟨hnumbers, hcase⟩ := parse_shown.2 (pairOf seventeenDigits twoHundred) [] _ []
    Blank.nil (spells_pairOf _ _) Blank.nil
  have hread : ∀ l ∈ [seventeenDigits, twoHundred], l.number?.isSome ∨ ∃ x, l.Shows x :=
    List.forall_mem_cons.mpr ⟨.inr ⟨_, hshows⟩, List.forall_mem_singleton.mpr (.inl htwo)⟩
  obtain ⟨c, hc, hzeroed⟩ := hcase _ [] _ [] _ Blank.nil (spells_pairOf _ _) hplain rfl hread
  refine ⟨c, Eq.trans (congrArg parse ?_) hc, hzeroed, ?_⟩
  · decide +kernel
  · obtain ⟨v, vs, hv, hvs, hlist⟩ := List.forall₂_cons_left_iff.mp (hnumbers c hc)
    obtain ⟨w, ws, -, hws, rfl⟩ := List.forall₂_cons_left_iff.mp hvs
    cases hws
    obtain ⟨y, rfl, hnear⟩ := hv _ hshows
    exact ⟨y, w, hlist, hnear⟩

/-! ### A case of one number -/

/-- A case whose only parameter is a number. -/
def single (l : Literal) : Tree :=
  .object [(Json.plain "parameters", .list [.object
    [(Json.plain "label", .text (Json.plain "a")), (Json.plain "value", .number l)]])]

theorem ofTree?_single {l : Literal} {v : Value} (h : l.value? = some v) :
    ofTree? (single l) = some ⟨none, [⟨none, some "a", v⟩]⟩ := by
  have hparameter : parameter? (.object
      [(Json.plain "label", .text (Json.plain "a")), (Json.plain "value", .number l)]) =
        some ⟨none, some "a", v⟩ := by
    simp [parameter?, PartialParameter.take?, held?, PartialParameter.finish?, Json.textOf?_plain,
      Tree.optionalText?, value?_number, h]
  simp [single, ofTree?, ofEntries?, PartialCase.take?, held?, PartialCase.finish, parameters?,
    Json.textOf?_plain, hparameter]

theorem spells_single (l : Literal) :
    (single l).Spells ("\x7b\"parameters\":[\x7b\"label\":\"a\",\"value\":".toList ++
      (l.chars ++ "\x7d]\x7d".toList)) := by
  have hkey : ∀ s ∈ ["parameters", "label", "value", "a"], Json.Written (Json.plain s) s.toList := by
    intro s hs
    exact Json.written_plain (by revert s; decide)
  have hinner : Tree.Spells (.object
      [(Json.plain "label", .text (Json.plain "a")), (Json.plain "value", .number l)]) _ :=
    .object (.first Blank.nil (.entry (hkey "label" (by decide)) Blank.nil Blank.nil
        (.text (hkey "a" (by decide))))
      (.next Blank.nil Blank.nil (.entry (hkey "value" (by decide)) Blank.nil Blank.nil (.number l))
        (.done Blank.nil)))
  have houter : (single l).Spells _ :=
    .object (.first Blank.nil (.entry (hkey "parameters" (by decide)) Blank.nil Blank.nil
        (.list (.first Blank.nil hinner (.done Blank.nil)))) (.done Blank.nil))
  convert houter using 1
  simp

/-- A literal that is read two places off. -/
def twoOff : Literal where
  negative := false
  whole := ['9']
  fraction := "291521564727751".toList
  exponent := some (Value.layout.exponentOf (-197))
  whole_ne_nil := by decide
  isDigit_whole := by decide
  whole_of_zero := by decide
  isDigit_fraction := by decide

theorem number?_seventeenDigits : seventeenDigits.number? = some (.real ⟨0x433ffffffffffffe⟩) := by
  have hdecimal : seventeenDigits.decimal = ⟨90071992547409910, -1⟩ := by decide +kernel
  have hscaled : Json.scaled (.ofNat 90071992547409910) (-1) = some ⟨0x433ffffffffffffe⟩ := by
    rw [Json.scaled_of_neg (by decide) (by decide)]
    exact congrArg some (by decide +kernel)
  rw [Json.number?_eq (by rw [hdecimal]; decide) (by decide) (.inl (by decide)), hdecimal, Json.real?,
    hscaled]
  rfl

theorem number?_twoOff : twoOff.number? = some (.real ⟨0x173bc833326c1f1c⟩) := by
  have hdecimal : twoOff.decimal = ⟨9291521564727751, -212⟩ := by decide +kernel
  have hscaled : Json.scaled (.ofNat 9291521564727751) (-212) = some ⟨0x173bc833326c1f1c⟩ := by
    rw [Json.scaled_of_neg (by decide) (by decide)]
    exact congrArg some (by decide +kernel)
  rw [Json.number?_eq (by rw [hdecimal]; decide) (by decide +kernel) (.inl (by decide)), hdecimal,
    Json.real?, hscaled]
  rfl

/-- A number that is shown is not always read as itself, and not always as a neighbour of it. -/
theorem parse_shown_inexact :
    ((Value.real ⟨0x433fffffffffffff⟩).display = "9007199254740991.0" ∧
      parse "\x7b\"parameters\":[\x7b\"label\":\"a\",\"value\":9007199254740991.0\x7d]\x7d" =
        .ok ⟨none, [⟨none, some "a", .real ⟨0x433ffffffffffffe⟩⟩]⟩) ∧
    ((Value.real ⟨0x173bc833326c1f1a⟩).display = "9.291521564727751e-197" ∧
      parse "\x7b\"parameters\":[\x7b\"label\":\"a\",\"value\":9.291521564727751e-197\x7d]\x7d" =
        .ok ⟨none, [⟨none, some "a", .real ⟨0x173bc833326c1f1c⟩⟩]⟩) := by
  have hparse : ∀ {l : Literal} {y : Binary64}, l.number? = some (.real y) →
      parse (String.ofList ([] ++ (_ ++ []))) = .ok ⟨none, [⟨none, some "a", .real y⟩]⟩ :=
    fun {l y} h => parse_of_ofTree? Blank.nil (spells_single l) Blank.nil
      (ofTree?_single (by rw [Literal.value?, h]; rfl))
  refine ⟨⟨by decide +kernel, ?_⟩, by decide +kernel, ?_⟩
  · refine Eq.trans (congrArg parse ?_) (hparse number?_seventeenDigits)
    decide +kernel
  · refine Eq.trans (congrArg parse ?_) (hparse number?_twoOff)
    decide +kernel

end Case

end SolverDeck
