import Mathlib.Data.List.Forall2
import SolverDeck.Proofs.Case.Tree
import SolverDeck.Proofs.Value.Leaves

/-!
# The numbers of a case

The numbers in the values of a case are those written in its text, one for one and in order
(`Case.readAs_ofTree?`): every entry of an object adds just the numbers that stand in it to what was
read before.
-/

namespace SolverDeck

open Json (Literal Piece Tree)

/-! ### Numbers of trees and of values -/

namespace Json

mutual

/-- The numbers that are written in a tree, in order. -/
def Tree.literals : Tree → List Literal
  | .number l => [l]
  | .list items => literalsOfItems items
  | .object entries => literalsOfEntries entries
  | _ => []

/-- The numbers that are written in several trees, one after the other. -/
def Tree.literalsOfItems : List Tree → List Literal
  | [] => []
  | t :: ts => t.literals ++ literalsOfItems ts

/-- The numbers that are written in the entries of an object; there are none in keys. -/
def Tree.literalsOfEntries : List (List Piece × Tree) → List Literal
  | [] => []
  | (_, t) :: entries => t.literals ++ literalsOfEntries entries

end

@[simp] theorem Tree.literalsOfItems_eq_flatMap (ts : List Tree) :
    literalsOfItems ts = ts.flatMap literals := by
  induction ts with
  | nil => rfl
  | cons t ts ih => rw [literalsOfItems, ih, List.flatMap_cons]

@[simp] theorem Tree.literalsOfEntries_eq_flatMap (entries : List (List Piece × Tree)) :
    literalsOfEntries entries = entries.flatMap fun entry => entry.2.literals := by
  induction entries with
  | nil => rfl
  | cons entry entries ih => rw [literalsOfEntries, ih, List.flatMap_cons]

/-- Numbers as they are written, and the values that they are read as. -/
def ReadAs : List Literal → List Value → Prop :=
  List.Forall₂ fun l v => l.value? = some v

theorem ReadAs.append {ls ls' : List Literal} {vs vs' : List Value} (h : ReadAs ls vs)
    (h' : ReadAs ls' vs') : ReadAs (ls ++ ls') (vs ++ vs') :=
  List.rel_append h h'

end Json

open Json (ReadAs)

theorem forall₂_of_mapM {f : α → Option β} {as : List α} {bs : List β} (h : as.mapM f = some bs) :
    List.Forall₂ (fun a b => f a = some b) as bs := by
  induction as generalizing bs with
  | nil =>
      cases h
      exact .nil
  | cons a as ih =>
      rw [List.mapM_cons] at h
      obtain ⟨b, hb, h⟩ := Option.bind_eq_some_iff.mp h
      obtain ⟨cs, hcs, h⟩ := Option.bind_eq_some_iff.mp h
      cases h
      exact .cons hb (ih hcs)

/-! ### Values -/

theorem Json.ReadAs.single {l : Literal} {v : Value} (h : l.value? = some v) :
    ReadAs [l] v.numbers := by
  obtain ⟨m, -, rfl⟩ := Option.map_eq_some_iff.mp h
  have hnumbers : (Value.ofNumber m).numbers = [Value.ofNumber m] := by
    cases m with
    | whole n =>
        rw [Value.ofNumber]
        split <;> rfl
    | real x => rfl
  rw [hnumbers]
  exact .cons h .nil

/-- **Values.** The induction is on the levels, for each list takes one. -/
theorem Value.readAs_value? {t : Tree} {v : Value} (levels : Nat) (h : t.value? levels = some v) :
    ReadAs t.literals v.numbers := by
  cases t with
  | number l =>
      rw [Case.value?_number] at h
      exact .single h
  | list items =>
      cases levels with
      | zero => cases h
      | succ levels =>
          rw [Case.value?_list] at h
          obtain ⟨vs, hvs, rfl⟩ := Option.map_eq_some_iff.mp h
          rw [Tree.literals, numbers, Tree.literalsOfItems_eq_flatMap, numbersOfItems_eq_flatMap]
          exact List.rel_flatMap (forall₂_of_mapM hvs) fun t v h => readAs_value? levels h
  | null => cases levels <;> cases h
  | bool b => cases levels <;> cases h <;> exact .nil
  | text ps =>
      rw [Tree.value?] at h
      obtain ⟨d, hd, h⟩ := Option.bind_eq_some_iff.mp h
      obtain ⟨s, rfl⟩ : ∃ s, d = .text s := by
        cases levels <;> exact (Option.map_eq_some_iff.mp hd).imp fun _ h => h.2.symm
      cases h
      exact .nil
  | object entries =>
      rw [Case.value?_object] at h
      cases h

theorem Json.Tree.literals_of_optionalText? {t : Tree} {s : Option String}
    (h : t.optionalText? = some s) : t.literals = [] := by
  cases t <;> first | rfl | cases h

theorem Json.ReadAs.text {t : Tree} {s : Option String} (h : t.optionalText? = some s) :
    ReadAs t.literals [] := by
  rw [Tree.literals_of_optionalText? h]
  exact .nil

namespace Case

/-! ### Entries -/

variable {entry : List Piece × Tree} {entries : List (List Piece × Tree)} {t : Tree}

/-- The numbers in what was read of a parameter. -/
def PartialParameter.numbers (p : PartialParameter) : List Value :=
  (p.value.map Value.numbers).getD []

/-- The numbers in the values of parameters. -/
def numbersOf (ps : List Parameter) : List Value :=
  ps.flatMap fun p => p.value.numbers

/-- The numbers in what was read of a case. -/
def PartialCase.numbers (c : PartialCase) : List Value :=
  numbersOf (c.parameters.getD [])

/-- An entry of a parameter adds the numbers that stand in it. -/
theorem PartialParameter.exists_numbers_take? {p q : PartialParameter}
    (h : p.take? entry = some q) :
    ∃ part, ReadAs entry.2.literals part ∧ q.numbers = p.numbers ++ part := by
  obtain ⟨-, -, v, hv, rfl⟩ | ⟨-, -, v, hv, rfl⟩ | ⟨-, hnone, v, hv, rfl⟩ :=
    take?_eq_some_iff.mp h
  · exact ⟨[], .text hv, (List.append_nil _).symm⟩
  · exact ⟨[], .text hv, (List.append_nil _).symm⟩
  · refine ⟨v.numbers, v.readAs_value? valueLevels hv, ?_⟩
    rw [numbers, numbers, hnone]
    rfl

/-- A run over entries adds the numbers that stand in them, if every step does. -/
theorem exists_numbers_foldlM {take? : σ → List Piece × Tree → Option σ} {numbers : σ → List Value}
    (htake : ∀ {s s' entry}, take? s entry = some s' →
      ∃ part, ReadAs (Json.Tree.literals entry.2) part ∧ numbers s' = numbers s ++ part)
    {s s' : σ} (h : entries.foldlM take? s = some s') :
    ∃ part, ReadAs (Tree.object entries).literals part ∧ numbers s' = numbers s ++ part := by
  induction entries generalizing s with
  | nil =>
      cases h
      exact ⟨[], .nil, (List.append_nil _).symm⟩
  | cons entry entries ih =>
      rw [List.foldlM_cons] at h
      obtain ⟨s₁, hfirst, hothers⟩ := Option.bind_eq_some_iff.mp h
      obtain ⟨part, hpart, hs₁⟩ := htake hfirst
      obtain ⟨more, hmore, hs'⟩ := ih hothers
      exact ⟨part ++ more, hpart.append hmore, by rw [hs', hs₁, List.append_assoc]⟩

/-! ### Parameters and cases -/

/-- **Parameters.** -/
theorem readAs_parameter? {p : Parameter} (h : parameter? t = some p) :
    ReadAs t.literals p.value.numbers := by
  unfold parameter? at h
  split at h
  case _ entries =>
      obtain ⟨q, hfold, hfinish⟩ := Option.bind_eq_some_iff.mp h
      obtain ⟨value, hvalue, rfl⟩ := Option.map_eq_some_iff.mp hfinish
      obtain ⟨part, hpart, hnumbers⟩ :=
        exists_numbers_foldlM PartialParameter.exists_numbers_take? hfold
      rw [PartialParameter.numbers, hvalue] at hnumbers
      obtain rfl : value.numbers = part := hnumbers
      exact hpart
  case _ field label value =>
      obtain ⟨f, hf, h⟩ := Option.bind_eq_some_iff.mp h
      obtain ⟨l, hl, h⟩ := Option.bind_eq_some_iff.mp h
      obtain ⟨v, hv, rfl⟩ := Option.map_eq_some_iff.mp h
      simp only [Tree.literals, Tree.literalsOfItems, Tree.literals_of_optionalText? hf,
        Tree.literals_of_optionalText? hl, List.nil_append, List.append_nil]
      exact v.readAs_value? valueLevels hv
  case _ => cases h

theorem readAs_parameters? {ps : List Parameter} (h : parameters? t = some ps) :
    ReadAs t.literals (numbersOf ps) := by
  unfold parameters? at h
  split at h
  case _ items =>
      rw [Tree.literals, Tree.literalsOfItems_eq_flatMap]
      exact List.rel_flatMap (forall₂_of_mapM h) fun t p h => readAs_parameter? h
  case _ => cases h

theorem PartialCase.exists_numbers_take? {c d : PartialCase} (h : c.take? entry = some d) :
    ∃ part, ReadAs entry.2.literals part ∧ d.numbers = c.numbers ++ part := by
  obtain ⟨-, -, v, hv, rfl⟩ | ⟨-, hnone, ps, hps, rfl⟩ := take?_eq_some_iff.mp h
  · exact ⟨[], .text hv, (List.append_nil _).symm⟩
  · refine ⟨numbersOf ps, readAs_parameters? hps, ?_⟩
    rw [numbers, numbers, hnone]
    rfl

/-- **Cases.** The numbers of a case are those that its tree writes. -/
theorem readAs_ofTree? {c : Case} (h : ofTree? t = some c) :
    ReadAs t.literals (numbersOf c.parameters) := by
  unfold ofTree? at h
  split at h
  case _ entries =>
      obtain ⟨d, hfold, rfl⟩ := Option.map_eq_some_iff.mp h
      obtain ⟨part, hpart, hnumbers⟩ := exists_numbers_foldlM PartialCase.exists_numbers_take? hfold
      obtain rfl : d.numbers = part := hnumbers
      exact hpart
  case _ =>
      cases h
      exact .nil
  case _ base =>
      obtain ⟨b, hb, rfl⟩ := Option.map_eq_some_iff.mp h
      simp only [Tree.literals, Tree.literalsOfItems, Tree.literals_of_optionalText? hb,
        List.append_nil]
      exact .nil
  case _ base parameters =>
      obtain ⟨b, hb, h⟩ := Option.bind_eq_some_iff.mp h
      obtain ⟨ps, hps, rfl⟩ := Option.map_eq_some_iff.mp h
      simp only [Tree.literals, Tree.literalsOfItems, Tree.literals_of_optionalText? hb,
        List.nil_append, List.append_nil]
      exact readAs_parameters? hps
  case _ => cases h

end Case

end SolverDeck
