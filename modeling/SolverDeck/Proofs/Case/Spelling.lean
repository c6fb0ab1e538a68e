import Mathlib.Data.List.Forall2
import SolverDeck.Proofs.Case.Tree
import SolverDeck.Proofs.Json.Whole

/-!
# How cases are written

A case can be written in many ways: the keys of an object in any order, what is absent left out or
as `null`, texts with any escapes, blanks between any two tokens. `Case.WrittenAs` says which trees
write a case, given which trees write a value, and `Tree.Spells` which texts a tree has. Every such
text is read as just that case (`parse_written`).

The order of keys does not matter because two entries can always be taken in either order
(`PartialParameter.take?_comm`, `PartialCase.take?_comm`), so a run over entries is the same for
every permutation of them (`foldlM_perm`).
-/

namespace SolverDeck

open Json (Tree Piece Blank textOf?)

/-! ### Trees that write values and cases -/

mutual

/-- How many lists are open inside each other at most. -/
def Value.nesting : Value → Nat
  | .list items => deepest items + 1
  | _ => 0

/-- The nesting of the value that is nested the most. -/
def Value.deepest : List Value → Nat
  | [] => 0
  | v :: vs => max v.nesting (deepest vs)

end

/-- A value as a tree. There is no tree for floating-point numbers here. -/
inductive Value.WrittenAs : Value → Tree → Prop
  | bool (b : Bool) : WrittenAs (.bool b) (.bool b)
  | int (n : Int64) : WrittenAs (.int n) (.number (.ofInt n.toInt))
  | text {s : String} {ps : List Piece} (written : textOf? ps = some s) :
      WrittenAs (.text s) (.text ps)
  | list {items : List Value} {ts : List Tree} (written : List.Forall₂ WrittenAs items ts) :
      WrittenAs (.list items) (.list ts)

namespace Case

/-- The entries for a key that may be absent: none, or one that holds `null` or a text. -/
inductive OptionalWritten (key : String) : Option String → List (List Piece × Tree) → Prop
  | omitted : OptionalWritten key none []
  | null {ps : List Piece} (written : textOf? ps = some key) :
      OptionalWritten key none [(ps, .null)]
  | text {ps qs : List Piece} {s : String} (written : textOf? ps = some key)
      (held : textOf? qs = some s) : OptionalWritten key (some s) [(ps, .text qs)]

/-- A parameter as an object, its keys in any order, its value being written as `R` says. -/
inductive Parameter.WrittenAs (R : Value → Tree → Prop) : Parameter → Tree → Prop
  | object {p : Parameter} {field label entries : List (List Piece × Tree)} {ps : List Piece}
      {t : Tree} (fieldWritten : OptionalWritten "field" p.field field)
      (labelWritten : OptionalWritten "label" p.label label)
      (keyWritten : textOf? ps = some "value") (valueWritten : R p.value t)
      (order : entries.Perm (field ++ label ++ [(ps, t)])) : WrittenAs R p (.object entries)

/-- The entries for the parameters of a case: one that holds their list, or none if there are
none. -/
inductive ParametersWritten (R : Value → Tree → Prop) :
    List Parameter → List (List Piece × Tree) → Prop
  | omitted : ParametersWritten R [] []
  | list {parameters : List Parameter} {ps : List Piece} {ts : List Tree}
      (keyWritten : textOf? ps = some "parameters")
      (written : List.Forall₂ (Parameter.WrittenAs R) parameters ts) :
      ParametersWritten R parameters [(ps, .list ts)]

/-- A case as an object, its keys in any order, the values being written as `R` says. -/
inductive WrittenAs (R : Value → Tree → Prop) : Case → Tree → Prop
  | object {c : Case} {base parameters entries : List (List Piece × Tree)}
      (baseWritten : OptionalWritten "base" c.base base)
      (parametersWritten : ParametersWritten R c.parameters parameters)
      (order : entries.Perm (base ++ parameters)) : WrittenAs R c (.object entries)

end Case

/-! ### Values -/

theorem Value.nesting_le_deepest {v : Value} {items : List Value} (h : v ∈ items) :
    v.nesting ≤ deepest items := by
  induction items with
  | nil => cases h
  | cons w items ih =>
      rw [deepest]
      rcases List.mem_cons.mp h with rfl | h
      · exact Nat.le_max_left _ _
      · exact Nat.le_trans (ih h) (Nat.le_max_right _ _)

theorem mapM_of_forall₂ {f : β → Option α} {as : List α} {bs : List β}
    (h : List.Forall₂ (fun a b => f b = some a) as bs) : bs.mapM f = some as := by
  induction h with
  | nil => rfl
  | cons hab _ ih =>
      rw [List.mapM_cons, hab, ih]
      rfl

theorem Value.value?_int (n : Int64) (levels : Nat) :
    (Tree.number (.ofInt n.toInt)).value? levels = some (.int n) := by
  have hleast : -(2 ^ 63 : Int) ≤ n.toInt := Int64.le_toInt n
  have hmost : n.toInt < 2 ^ 63 := Int64.toInt_lt n
  have hlimit : Json.signedLimit = 2 ^ 63 := by decide
  have hsignificand : Json.mostSignificand = 2 ^ 64 - 1 := by decide
  have hnumber := Json.number?_ofInt (n := n.toInt) (by omega) (by omega)
  rw [Case.value?_number, Json.Literal.value?, hnumber, Option.map_some, Value.ofNumber,
    if_pos (by omega), Int64.ofInt_toInt]

/-- **Values.** A tree that writes a value says it, if not more lists are open than may be. -/
theorem Value.WrittenAs.value? (levels : Nat) {v : Value} {t : Tree} (h : v.WrittenAs t)
    (hnesting : v.nesting ≤ levels) : t.value? levels = some v := by
  cases h with
  | bool b => cases levels <;> rfl
  | int n => exact Value.value?_int n levels
  | @text s ps written =>
      have hdocument : (Tree.text ps).document? levels = some (.text s) := by
        cases levels <;> rw [Tree.document?, written] <;> rfl
      rw [Tree.value?, hdocument]
      rfl
  | @list items ts written =>
      rw [nesting] at hnesting
      obtain ⟨levels, rfl⟩ : ∃ n, levels = n + 1 := ⟨levels - 1, by omega⟩
      have hshallow : ∀ v ∈ items, v.nesting ≤ levels := fun v hv => by
        have := nesting_le_deepest hv
        omega
      have hitems := ((List.forall₂_and_left items ts).mpr ⟨hshallow, written⟩).imp
        fun v t h => WrittenAs.value? levels h.2 h.1
      rw [Case.value?_list, mapM_of_forall₂ hitems]
      rfl

/-! ### Entries in any order -/

namespace Case

/-- A run over entries does not depend on their order if two of them can be taken in either order. -/
theorem foldlM_perm {step? : σ → α → Option σ} {as bs : List α} (h : as.Perm bs)
    (hcomm : ∀ s a b, (step? s a).bind (step? · b) = (step? s b).bind (step? · a)) (s : σ) :
    as.foldlM step? s = bs.foldlM step? s := by
  induction h generalizing s with
  | nil => rfl
  | cons a _ ih =>
      rw [List.foldlM_cons, List.foldlM_cons]
      exact congrArg _ (funext ih)
  | swap a b as =>
      simp only [List.foldlM_cons, Option.bind_eq_bind]
      rw [← Option.bind_assoc, ← Option.bind_assoc, hcomm]
  | trans _ _ ih ih' => rw [ih, ih']

theorem PartialParameter.take?_swap {p q : PartialParameter} {a b : List Piece × Tree}
    (h : (p.take? a).bind (·.take? b) = some q) : (p.take? b).bind (·.take? a) = some q := by
  obtain ⟨p', ha, hb⟩ := Option.bind_eq_some_iff.mp h
  obtain ⟨akey, afree, v, av, rfl⟩ | ⟨akey, afree, v, av, rfl⟩ | ⟨akey, afree, v, av, rfl⟩ :=
    PartialParameter.take?_eq_some_iff.mp ha
  all_goals
    obtain ⟨bkey, bfree, w, bw, rfl⟩ | ⟨bkey, bfree, w, bw, rfl⟩ | ⟨bkey, bfree, w, bw, rfl⟩ :=
      PartialParameter.take?_eq_some_iff.mp hb
    all_goals simp_all [PartialParameter.take?, held?]

theorem PartialParameter.take?_comm (p : PartialParameter) (a b : List Piece × Tree) :
    (p.take? a).bind (·.take? b) = (p.take? b).bind (·.take? a) :=
  Option.ext fun _ => ⟨take?_swap, take?_swap⟩

theorem PartialCase.take?_swap {c d : PartialCase} {a b : List Piece × Tree}
    (h : (c.take? a).bind (·.take? b) = some d) : (c.take? b).bind (·.take? a) = some d := by
  obtain ⟨c', ha, hb⟩ := Option.bind_eq_some_iff.mp h
  obtain ⟨akey, afree, v, av, rfl⟩ | ⟨akey, afree, v, av, rfl⟩ :=
    PartialCase.take?_eq_some_iff.mp ha
  all_goals
    obtain ⟨bkey, bfree, w, bw, rfl⟩ | ⟨bkey, bfree, w, bw, rfl⟩ :=
      PartialCase.take?_eq_some_iff.mp hb
    all_goals simp_all [PartialCase.take?, held?]

theorem PartialCase.take?_comm (c : PartialCase) (a b : List Piece × Tree) :
    (c.take? a).bind (·.take? b) = (c.take? b).bind (·.take? a) :=
  Option.ext fun _ => ⟨take?_swap, take?_swap⟩

/-! ### Parameters -/

/-- Taking the entries for a key that may be absent: in the end the key holds what is meant. -/
theorem OptionalWritten.run {key : String} {v : Option String} {part : List (List Piece × Tree)}
    (h : OptionalWritten key v part) (step? : σ → List Piece × Tree → Option σ) {s : σ}
    (put : Option (Option String) → σ) (hnone : put none = s)
    (hstep : ∀ ps t w, textOf? ps = some key → t.optionalText? = some w →
      step? s (ps, t) = some (put (some w))) :
    ∃ held, held.join = v ∧ part.foldlM step? s = some (put held) := by
  cases h with
  | omitted => exact ⟨none, rfl, congrArg some hnone.symm⟩
  | @null ps written =>
      refine ⟨some none, rfl, ?_⟩
      rw [List.foldlM_cons, hstep ps .null none written rfl]
      rfl
  | @text ps qs s written held =>
      refine ⟨some (some s), rfl, ?_⟩
      rw [List.foldlM_cons, hstep ps (.text qs) (some s) written (by simp [Tree.optionalText?, held])]
      rfl

variable {R : Value → Tree → Prop}

/-- **Parameters.** An object that writes a parameter says it, if its value is said. -/
theorem Parameter.WrittenAs.parameter? {p : Parameter} {t : Tree} (h : p.WrittenAs R t)
    (hR : ∀ t, R p.value t → t.value? valueLevels = some p.value) : Case.parameter? t = some p := by
  cases h with
  | @object field label entries ps t fieldWritten labelWritten keyWritten valueWritten order =>
      obtain ⟨f, hf, hfield⟩ := fieldWritten.run PartialParameter.take?
        (fun f => { field := f }) rfl
        fun ps t w hkey hw => by simp [PartialParameter.take?, held?, hkey, hw]
      obtain ⟨l, hl, hlabel⟩ := labelWritten.run PartialParameter.take?
        (fun l => { field := f, label := l }) rfl
        fun ps t w hkey hw => by simp [PartialParameter.take?, held?, hkey, hw]
      have hvalue : PartialParameter.take? { field := f, label := l } (ps, t) =
          some { field := f, label := l, value := some p.value } := by
        simp [PartialParameter.take?, held?, keyWritten, hR t valueWritten]
      rw [Case.parameter?, foldlM_perm order PartialParameter.take?_comm]
      simp [List.foldlM_append, hfield, hlabel, hvalue, PartialParameter.finish?, hf, hl]

/-! ### Cases -/

theorem ParametersWritten.run {parameters : List Parameter} {part : List (List Piece × Tree)}
    (h : ParametersWritten R parameters part)
    (hR : ∀ p ∈ parameters, ∀ t, R p.value t → t.value? valueLevels = some p.value)
    (b : Option (Option String)) :
    ∃ held : Option (List Parameter), held.getD [] = parameters ∧
      part.foldlM PartialCase.take? { base := b } = some { base := b, parameters := held } := by
  cases h with
  | omitted => exact ⟨none, rfl, rfl⟩
  | @list parameters ps ts keyWritten written =>
      refine ⟨some parameters, rfl, ?_⟩
      have hitems := ((List.forall₂_and_left parameters ts).mpr ⟨hR, written⟩).imp
        fun p t h => h.2.parameter? h.1
      have hparameters : parameters? (.list ts) = some parameters := mapM_of_forall₂ hitems
      simp [PartialCase.take?, held?, keyWritten, hparameters]

/-- What the entries of an object that writes a case say. -/
theorem WrittenAs.ofEntries? {c : Case} {entries : List (List Piece × Tree)}
    (h : c.WrittenAs R (.object entries))
    (hR : ∀ p ∈ c.parameters, ∀ t, R p.value t → t.value? valueLevels = some p.value) :
    Case.ofEntries? entries = some c := by
  cases h with
  | @object base parameters entries baseWritten parametersWritten order =>
      obtain ⟨b, hb, hbase⟩ := baseWritten.run PartialCase.take? (fun b => { base := b }) rfl
        fun ps t w hkey hw => by simp [PartialCase.take?, held?, hkey, hw]
      obtain ⟨held, hheld, hparameters⟩ := parametersWritten.run hR b
      rw [Case.ofEntries?, foldlM_perm order PartialCase.take?_comm]
      simp [List.foldlM_append, hbase, hparameters, PartialCase.finish, hb, hheld]

theorem WrittenAs.parse {c : Case} {t : Tree} {before cs after : List Char} (hc : c.WrittenAs R t)
    (hR : ∀ p ∈ c.parameters, ∀ t, R p.value t → t.value? valueLevels = some p.value)
    (hcs : t.Spells cs) (hbefore : Blank before) (hafter : Blank after) :
    Case.parse (String.ofList (before ++ (cs ++ after))) = .ok c := by
  cases hc with
  | object baseWritten parametersWritten order =>
      exact parse_of_ofTree? hbefore hcs hafter
        ((WrittenAs.object baseWritten parametersWritten order).ofEntries? hR)

/-- **Every spelling of a case is read as that case.** -/
theorem parse_written {c : Case} {t : Tree} {before cs after : List Char}
    (hc : c.WrittenAs Value.WrittenAs t)
    (hnesting : ∀ p ∈ c.parameters, p.value.nesting ≤ valueLevels) (hcs : t.Spells cs)
    (hbefore : Blank before) (hafter : Blank after) :
    parse (String.ofList (before ++ (cs ++ after))) = .ok c :=
  hc.parse (fun p hp _ ht => ht.value? valueLevels (hnesting p hp)) hcs hbefore hafter

/-- Keys in another order than they are declared, an absent one as `null`, a pair of surrogates, a
list in a list, and blanks at both ends. -/
theorem parse_written_reordered :
    parse " \x7b\"parameters\":[\x7b\"value\":[-3,[]],\"label\":\"\\ud83d\\uDE00\",\"field\":null\x7d],\"base\":\"d\"\x7d\n" =
      .ok ⟨some "d", [⟨none, some "😀", .list [.int (-3), .list []]⟩]⟩ := by
  -- what is written
  have hvalue : Value.WrittenAs (.list [.int (-3), .list []])
      (.list [.number (.ofInt (-3 : Int64).toInt), .list []]) :=
    .list (.cons (.int (-3)) (.cons (.list .nil) .nil))
  have hparameter : Parameter.WrittenAs Value.WrittenAs ⟨none, some "😀", .list [.int (-3), .list []]⟩
      (.object [(Json.plain "value", .list [.number (.ofInt (-3 : Int64).toInt), .list []]),
        (Json.plain "label", .text [.unit 0xd83d, .unit 0xde00]), (Json.plain "field", .null)]) :=
    .object (.null (Json.textOf?_plain _)) (.text (Json.textOf?_plain _) rfl)
      (Json.textOf?_plain _) hvalue (List.reverse_perm [_, _, _])
  have hcase : WrittenAs Value.WrittenAs ⟨some "d", [⟨none, some "😀", .list [.int (-3), .list []]⟩]⟩
      (.object [(Json.plain "parameters", .list [_]),
        (Json.plain "base", .text (Json.plain "d"))]) :=
    .object (.text (Json.textOf?_plain _) (Json.textOf?_plain _))
      (.list (Json.textOf?_plain _) (.cons hparameter .nil)) (.swap _ _ _)
  -- how it is spelled
  have hnumber : Tree.Spells (.number (.ofInt (-3 : Int64).toInt)) ['-', '3'] := by
    have hchars : (Json.Literal.ofInt (-3 : Int64).toInt).chars = ['-', '3'] := by decide +kernel
    exact hchars ▸ .number _
  have hitems : Tree.Spells (.list [.number (.ofInt (-3 : Int64).toInt), .list []]) _ :=
    .list (.first Blank.nil hnumber
      (.next Blank.nil Blank.nil (.list (.done Blank.nil)) (.done Blank.nil)))
  have hpair : Json.Written [.unit 0xd83d, .unit 0xde00] _ :=
    .cons (.unit (@Json.CodeUnit.digits 13 8 3 13 'd' '8' '3' 'd' (by decide) (by decide)
        (by decide) (by decide)))
      (.cons (.unit (@Json.CodeUnit.digits 13 14 0 0 'D' 'E' '0' '0' (by decide) (by decide)
        (by decide) (by decide))) .nil)
  have hkey : ∀ s ∈ ["value", "label", "field", "parameters", "base", "d"],
      Json.Written (Json.plain s) s.toList := by
    intro s hs
    exact Json.written_plain (by revert s; decide)
  have hinner : Tree.Spells (.object
      [(Json.plain "value", .list [.number (.ofInt (-3 : Int64).toInt), .list []]),
        (Json.plain "label", .text [.unit 0xd83d, .unit 0xde00]), (Json.plain "field", .null)]) _ :=
    .object (.first Blank.nil (.entry (hkey _ (by decide)) Blank.nil Blank.nil hitems)
      (.next Blank.nil Blank.nil (.entry (hkey _ (by decide)) Blank.nil Blank.nil (.text hpair))
        (.next Blank.nil Blank.nil (.entry (hkey _ (by decide)) Blank.nil Blank.nil .null)
          (.done Blank.nil))))
  have houter : Tree.Spells (.object [(Json.plain "parameters", .list [_]),
        (Json.plain "base", .text (Json.plain "d"))]) _ :=
    .object (.first Blank.nil (.entry (hkey _ (by decide)) Blank.nil Blank.nil
        (.list (.first Blank.nil hinner (.done Blank.nil))))
      (.next Blank.nil Blank.nil (.entry (hkey _ (by decide)) Blank.nil Blank.nil
        (.text (hkey _ (by decide)))) (.done Blank.nil)))
  refine Eq.trans (congrArg parse ?_)
    (@parse_written _ _ [' '] _ ['\n'] hcase (by decide) houter (by decide) (by decide))
  decide +kernel

end Case

end SolverDeck
