import SolverDeck.Proofs.Case.Faults
import SolverDeck.Proofs.Case.Spelling
import SolverDeck.Proofs.Json.Spelled

/-!
# How values are written

A value is read from a text just if the tree of the text says one (`parse_spells`). That settles every
spelling of a value at once: whichever escapes its texts are written with, and whichever blanks stand
between its tokens, the tree says the value, as long as no more lists are open inside each other than
may be (`Value.WrittenAs.value?`).

A tree says nothing if `null` or an object is in it, however deep (`Case.Unusable`), or if it is nested
too deep. The reader takes one level off for each list and each object, so that a tree which is nested
deeper than there are levels left has a member of the same kind one level down, and in the end a list
where no level is left (`Json.Tree.document?_of_nesting`).
-/

namespace SolverDeck

namespace Json

mutual

/-- How many lists and objects are open inside each other at most. -/
def Tree.nesting : Tree → Nat
  | .list items => deepestItem items + 1
  | .object entries => deepestEntry entries + 1
  | _ => 0

/-- The nesting of the item that is nested the most. -/
def Tree.deepestItem : List Tree → Nat
  | [] => 0
  | t :: ts => max t.nesting (deepestItem ts)

/-- The nesting of what is nested the most in the entries of an object. -/
def Tree.deepestEntry : List (List Piece × Tree) → Nat
  | [] => 0
  | (_, t) :: entries => max t.nesting (deepestEntry entries)

end

namespace Tree

variable {t : Tree} {levels : Nat}

theorem exists_of_lt_deepestItem {items : List Tree} (h : levels < deepestItem items) :
    ∃ t ∈ items, levels < t.nesting := by
  induction items with
  | nil => cases h
  | cons t items ih =>
      rw [deepestItem] at h
      by_cases hfirst : levels < t.nesting
      · exact ⟨t, by simp, hfirst⟩
      · obtain ⟨u, hu, hdeep⟩ := ih (by omega)
        exact ⟨u, by simp [hu], hdeep⟩

theorem exists_of_lt_deepestEntry {entries : List (List Piece × Tree)}
    (h : levels < deepestEntry entries) : ∃ entry ∈ entries, levels < entry.2.nesting := by
  induction entries with
  | nil => cases h
  | cons entry entries ih =>
      obtain ⟨key, t⟩ := entry
      rw [deepestEntry] at h
      by_cases hfirst : levels < t.nesting
      · exact ⟨(key, t), by simp, hfirst⟩
      · obtain ⟨other, hother, hdeep⟩ := ih (by omega)
        exact ⟨other, by simp [hother], hdeep⟩

/-- **Levels.** A tree that is nested deeper than may be says nothing. -/
theorem document?_of_nesting (h : levels < t.nesting) : t.document? levels = none := by
  induction levels generalizing t with
  | zero =>
      cases t with
      | list items => rfl
      | object entries => rfl
      | _ => cases h
  | succ levels ih =>
      cases t with
      | list items =>
          rw [nesting] at h
          obtain ⟨t, ht, hdeep⟩ := exists_of_lt_deepestItem (Nat.lt_of_succ_lt_succ h)
          rw [document?, Case.mapM_eq_none ht (ih hdeep), Option.map_none]
      | object entries =>
          rw [nesting] at h
          obtain ⟨entry, hentry, hdeep⟩ := exists_of_lt_deepestEntry (Nat.lt_of_succ_lt_succ h)
          rw [document?, Case.mapM_eq_none hentry, Option.map_none]
          simp [ih hdeep]
      | _ => cases h

theorem value?_of_nesting (h : levels < t.nesting) : t.value? levels = none := by
  rw [value?, document?_of_nesting h, Option.bind_none]

end Tree

end Json

namespace Value

open Json (Tree Blank Stops)

variable {v : Value} {t : Tree} {before cs after : List Char}

/-! ### Nesting -/

mutual

/-- A tree is nested as the value that it writes. -/
theorem WrittenAs.nesting_eq {v : Value} {t : Tree} (h : v.WrittenAs t) : t.nesting = v.nesting := by
  cases h with
  | bool b => rfl
  | int n => rfl
  | text written => rfl
  | list written => rw [Tree.nesting, nesting, deepestItem_eq written]

theorem deepestItem_eq {items : List Value} {ts : List Tree} (h : List.Forall₂ WrittenAs items ts) :
    Tree.deepestItem ts = deepest items := by
  cases h with
  | nil => rfl
  | cons hv hvs => rw [Tree.deepestItem, deepest, hv.nesting_eq, deepestItem_eq hvs]

end

/-! ### Reading -/

/-- **Values.** Reading a text with nothing but blanks around a tree gives what the tree says. -/
theorem parse_spells (hbefore : Blank before) (h : t.Spells cs) (hafter : Blank after) :
    (parse (String.ofList (before ++ (cs ++ after)))).toOption = t.value? Json.mostLevels := by
  have hstops : Stops after := by
    rw [← List.append_nil after]
    exact Json.stops_blank_append hafter Json.Stops.nil
  have hread := Case.readValue_spells Json.mostLevels hbefore h hstops
  rw [parse, Json.readWhole, String.toList_ofList]
  obtain ⟨failure, hfailure, hnone⟩ | ⟨v, hok, hsome⟩ := hread.refuses_or_reads
  · rw [hfailure, hnone]
    rfl
  · rw [hok, hsome]
    dsimp only
    rw [Case.expectEnd_blank hafter]
    rfl

theorem parse_of_value? (hv : t.value? Json.mostLevels = some v) (h : t.Spells cs)
    (hbefore : Blank before) (hafter : Blank after) :
    parse (String.ofList (before ++ (cs ++ after))) = .ok v := by
  have hparse := parse_spells hbefore h hafter
  rw [hv] at hparse
  cases hresult : parse (String.ofList (before ++ (cs ++ after))) with
  | error refusal =>
      rw [hresult] at hparse
      cases hparse
  | ok w =>
      rw [hresult] at hparse
      cases hparse
      rfl

theorem parse_refuses (hnone : t.value? Json.mostLevels = none) (h : t.Spells cs)
    (hbefore : Blank before) (hafter : Blank after) :
    ∃ refusal, parse (String.ofList (before ++ (cs ++ after))) = .error refusal := by
  have hparse := parse_spells hbefore h hafter
  rw [hnone] at hparse
  cases hresult : parse (String.ofList (before ++ (cs ++ after))) with
  | error refusal => exact ⟨refusal, rfl⟩
  | ok w =>
      rw [hresult] at hparse
      cases hparse

/-- **Spellings.** Every text that spells a value, made of truth values, integers, texts and lists up
to the limit of 127, is read as just that value. A text with `null` or an object in it is refused, and
so is one in which more are nested than that. An integer has one spelling only, for `-0` is none. -/
theorem parse_spelling :
    (∀ (v : Value) (t : Tree) (before cs after : List Char), v.WrittenAs t → v.nesting ≤ 127 →
      t.Spells cs → Blank before → Blank after →
        parse (String.ofList (before ++ (cs ++ after))) = .ok v) ∧
    ∀ (t : Tree) (before cs after : List Char), Case.Unusable t ∨ 128 ≤ t.nesting →
      t.Spells cs → Blank before → Blank after →
        ∃ refusal, parse (String.ofList (before ++ (cs ++ after))) = .error refusal := by
  constructor
  · intro v t before cs after hv hnesting hcs hbefore hafter
    exact parse_of_value? (hv.value? Json.mostLevels hnesting) hcs hbefore hafter
  · intro t before cs after hrefused hcs hbefore hafter
    have hnone : t.value? Json.mostLevels = none := by
      rcases hrefused with hunusable | hnesting
      · exact hunusable.value?_eq_none Json.mostLevels
      · exact Tree.value?_of_nesting hnesting
    exact parse_refuses hnone hcs hbefore hafter

/-! ### Lists at the limit -/

/-- So many lists around an empty one, and nothing else. -/
def bare : Nat → Value
  | 0 => .list []
  | n + 1 => .list [bare n]

/-- The tree of lists around an empty one. -/
def bareTree : Nat → Tree
  | 0 => .list []
  | n + 1 => .list [bareTree n]

/-- All brackets of lists around an empty one. -/
def brackets (n : Nat) : List Char :=
  List.replicate (n + 1) '[' ++ List.replicate (n + 1) ']'

theorem nesting_bare (n : Nat) : (bare n).nesting = n + 1 := by
  induction n with
  | zero => rfl
  | succ n ih => simp [bare, nesting, deepest, ih]

theorem writtenAs_bare (n : Nat) : (bare n).WrittenAs (bareTree n) := by
  induction n with
  | zero => exact .list .nil
  | succ n ih => exact .list (.cons ih .nil)

theorem spells_bareTree (n : Nat) : (bareTree n).Spells (brackets n) := by
  induction n with
  | zero => exact .list (.done Blank.nil)
  | succ n ih =>
      have hspells := Tree.Spells.list (.first Blank.nil ih (.done Blank.nil))
      have hbrackets : brackets (n + 1) = '[' :: ([] ++ brackets n ++ [] ++ [']']) := by
        simp [brackets, List.replicate_succ, ← List.replicate_succ']
      rw [hbrackets]
      exact hspells

/-- Escapes and blanks; an object in a list; 127 lists inside each other, and one more. -/
theorem parse_spelling_brackets :
    parse "[ [true,\"\\u00e9\\n\"],\t-7 ]\n" =
        .ok (.list [.list [.bool true, .text "é\n"], .int (-7)]) ∧
      (∃ refusal, parse "[1, \x7b\x7d]" = .error refusal) ∧
      parse (String.ofList (brackets 126)) = .ok (bare 126) ∧
      ∃ refusal, parse (String.ofList (brackets 127)) = .error refusal := by
  obtain ⟨hread, hrefused⟩ := parse_spelling
  have hnumber : ∀ n : Int64, Tree.Spells (.number (.ofInt n.toInt)) (toString n.toInt).toList := by
    intro n
    rw [← Json.Literal.chars_ofInt]
    exact .number _
  have hspace : Blank [' '] := by decide
  refine ⟨?_, ?_, ?_, ?_⟩
  · -- what is written, and how it is spelled
    have htext : Json.textOf? [.unit 233, .char '\n'] = some "é\n" := by decide
    have hescaped : Json.Written [.unit 233, .char '\n'] _ :=
      .cons (.unit (@Json.CodeUnit.digits 0 0 14 9 '0' '0' 'e' '9' (by decide) (by decide) (by decide)
        (by decide))) (.cons (@Json.Piece.Spells.short 'n' '\n' (by decide)) .nil)
    have hinner : Tree.Spells (.list [.bool true, .text [.unit 233, .char '\n']]) _ :=
      .list (.first Blank.nil .true (.next Blank.nil Blank.nil (.text hescaped) (.done Blank.nil)))
    have houter := Tree.Spells.list (.first hspace hinner
      (.next Blank.nil (show Blank ['\t'] by decide) (hnumber (-7)) (.done hspace)))
    have hwritten : WrittenAs (.list [.list [.bool true, .text "é\n"], .int (-7)]) _ :=
      .list (.cons (.list (.cons (.bool true) (.cons (.text htext) .nil)))
        (.cons (.int (-7)) .nil))
    refine Eq.trans (congrArg parse ?_)
      (hread _ _ [] _ ['\n'] hwritten (by decide) houter Blank.nil (by decide))
    decide +kernel
  · have hlist := Tree.Spells.list (.first Blank.nil (hnumber 1)
      (.next Blank.nil hspace (.object (.done Blank.nil)) (.done Blank.nil)))
    have hobject : Case.Unusable (.list [.number (.ofInt (1 : Int64).toInt), .object []]) :=
      .list (by simp) (.object [])
    exact hrefused _ [] _ [] (.inl hobject) hlist Blank.nil Blank.nil
  · have hnesting := nesting_bare 126
    have hok := hread _ _ [] _ [] (writtenAs_bare 126) (by omega) (spells_bareTree 126) Blank.nil
      Blank.nil
    rwa [List.append_nil, List.nil_append] at hok
  · have hnesting := (writtenAs_bare 127).nesting_eq
    rw [nesting_bare] at hnesting
    have hbad := hrefused _ [] _ [] (.inr (by omega)) (spells_bareTree 127) Blank.nil Blank.nil
    rwa [List.append_nil, List.nil_append] at hbad

end Value

end SolverDeck
