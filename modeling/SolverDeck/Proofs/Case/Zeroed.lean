import SolverDeck.Proofs.Case.Literals
import SolverDeck.Proofs.Case.Spelling

/-!
# Cases with other numbers

Which numbers are written in a case file decides about the numbers of the case, and about nothing
else. To say so, all numbers are put to zero, in a tree and in a case alike; a tree without them
would be no case any more. If every number of a tree can be read, then it comes to the same whether
that is done before or after reading (`Case.ofTree?_zeroed`).

So two files that differ only in numbers are both cases or both none, unless a number in one of them
cannot be read, and the two cases differ only in numbers as well
(`Case.exists_ofTree?_of_zeroed_eq`).
-/

namespace SolverDeck

open Json (Literal Piece Tree textOf?)

/-! ### Zeros for all numbers -/

namespace Json

mutual

/-- The tree with a zero in place of every number. -/
def Tree.zeroed : Tree → Tree
  | .number _ => .number (.ofInt 0)
  | .list items => .list (zeroedItems items)
  | .object entries => .object (zeroedEntries entries)
  | t => t

/-- Several trees with a zero in place of every number. -/
def Tree.zeroedItems : List Tree → List Tree
  | [] => []
  | t :: ts => t.zeroed :: zeroedItems ts

/-- The entries of an object with a zero in place of every number; the keys are left as they are. -/
def Tree.zeroedEntries : List (List Piece × Tree) → List (List Piece × Tree)
  | [] => []
  | (key, t) :: entries => (key, t.zeroed) :: zeroedEntries entries

end

@[simp] theorem Tree.zeroedItems_eq_map (ts : List Tree) : zeroedItems ts = ts.map zeroed := by
  induction ts with
  | nil => rfl
  | cons t ts ih => rw [zeroedItems, ih, List.map_cons]

/-- An entry with a zero in place of every number. -/
def zeroedEntry (entry : List Piece × Tree) : List Piece × Tree :=
  (entry.1, entry.2.zeroed)

@[simp] theorem Tree.zeroedEntries_eq_map (entries : List (List Piece × Tree)) :
    zeroedEntries entries = entries.map zeroedEntry := by
  induction entries with
  | nil => rfl
  | cons entry entries ih =>
      rw [zeroedEntries, ih]
      rfl

/-- All numbers that are written in a tree can be read. -/
def Tree.Readable (t : Tree) : Prop :=
  ∀ l ∈ t.literals, l.number?.isSome

variable {t : Tree} {ts : List Tree} {entry : List Piece × Tree} {entries : List (List Piece × Tree)}

theorem Tree.Readable.of_item (h : (Tree.list ts).Readable) (ht : t ∈ ts) : t.Readable := by
  intro l hl
  refine h l ?_
  rw [literals, literalsOfItems_eq_flatMap]
  exact List.mem_flatMap.mpr ⟨t, ht, hl⟩

theorem Tree.Readable.of_entry (h : (Tree.object entries).Readable) (hentry : entry ∈ entries) :
    entry.2.Readable := by
  intro l hl
  refine h l ?_
  rw [literals, literalsOfEntries_eq_flatMap]
  exact List.mem_flatMap.mpr ⟨entry, hentry, hl⟩

end Json

mutual

/-- The value with a zero in place of every number. -/
def Value.zeroed : Value → Value
  | int _ => int 0
  | real _ => int 0
  | list items => list (zeroedItems items)
  | v => v

/-- Several values with a zero in place of every number. -/
def Value.zeroedItems : List Value → List Value
  | [] => []
  | v :: vs => v.zeroed :: zeroedItems vs

end

@[simp] theorem Value.zeroedItems_eq_map (vs : List Value) : zeroedItems vs = vs.map zeroed := by
  induction vs with
  | nil => rfl
  | cons v vs ih => rw [zeroedItems, ih, List.map_cons]

theorem Value.zeroed_ofNumber (m : Json.Number) : (ofNumber m).zeroed = int 0 := by
  cases m with
  | whole n =>
      rw [ofNumber]
      split <;> rfl
  | real x => rfl

namespace Case

/-- The parameter with a zero in place of every number. -/
def Parameter.zeroed (p : Parameter) : Parameter :=
  { p with value := p.value.zeroed }

/-- The case with a zero in place of every number. -/
def zeroed (c : Case) : Case :=
  { c with parameters := c.parameters.map Parameter.zeroed }

/-- What was read of a parameter, with a zero in place of every number. -/
def PartialParameter.zeroed (p : PartialParameter) : PartialParameter :=
  { p with value := p.value.map Value.zeroed }

/-- What was read of a case, with a zero in place of every number. -/
def PartialCase.zeroed (c : PartialCase) : PartialCase :=
  { c with parameters := c.parameters.map (List.map Parameter.zeroed) }

/-! ### Lists and runs -/

theorem mapM_map_of_comm {f : α → Option β} {f' : α' → Option β'} {g : α → α'} {k : β → β'}
    {as : List α} (h : ∀ a ∈ as, f' (g a) = (f a).map k) :
    (as.map g).mapM f' = (as.mapM f).map (List.map k) := by
  induction as with
  | nil => rfl
  | cons a as ih =>
      rw [List.map_cons, List.mapM_cons, List.mapM_cons, h a List.mem_cons_self,
        ih fun b hb => h b (List.mem_cons_of_mem a hb)]
      cases f a with
      | none => rfl
      | some b => cases as.mapM f <;> rfl

theorem foldlM_map_of_comm {step : σ → α → Option σ} {g : α → α} {k : σ → σ} {as : List α}
    (h : ∀ a ∈ as, ∀ s, step (k s) (g a) = (step s a).map k) (s : σ) :
    (as.map g).foldlM step (k s) = (as.foldlM step s).map k := by
  induction as generalizing s with
  | nil => rfl
  | cons a as ih =>
      rw [List.map_cons, List.foldlM_cons, List.foldlM_cons, h a List.mem_cons_self]
      cases step s a with
      | none => rfl
      | some s' => exact ih (fun b hb => h b (List.mem_cons_of_mem a hb)) s'

/-! ### Values -/

variable {t : Tree} {entry : List Piece × Tree}

theorem value?_zero (levels : Nat) : (Tree.number (.ofInt 0)).value? levels = some (.int 0) := by
  rw [← Int64.toInt_zero]
  exact Value.value?_int 0 levels

/-- **Values.** Each list takes one of the levels, so that the theorem is used for its items with one
level less. -/
theorem value?_zeroed {t : Tree} (levels : Nat) (h : t.Readable) :
    t.zeroed.value? levels = (t.value? levels).map Value.zeroed := by
  cases t with
  | number l =>
      obtain ⟨m, hm⟩ := Option.isSome_iff_exists.mp (h l (List.mem_singleton_self l))
      rw [Tree.zeroed, value?_zero, value?_number, Literal.value?, hm, Option.map_some,
        Option.map_some, Value.zeroed_ofNumber]
  | list items =>
      cases levels with
      | zero => rfl
      | succ levels =>
          have hitems : ∀ t ∈ items, t.zeroed.value? levels = (t.value? levels).map Value.zeroed :=
            fun t ht => value?_zeroed levels (h.of_item ht)
          rw [Tree.zeroed, Tree.zeroedItems_eq_map, value?_list, value?_list,
            mapM_map_of_comm hitems]
          cases items.mapM (Tree.value? levels) with
          | none => rfl
          | some vs => simp [Value.zeroed]
  | text ps =>
      have hsame : (Tree.text ps).zeroed = .text ps := rfl
      cases levels <;> (rw [hsame, Tree.value?, Tree.document?]; cases textOf? ps <;> rfl)
  | object entries => rw [Tree.zeroed, value?_object, value?_object, Option.map_none]
  | null => cases levels <;> rfl
  | bool b => cases levels <;> rfl

theorem optionalText?_zeroed (t : Tree) : t.zeroed.optionalText? = t.optionalText? := by
  cases t <;> rfl

/-! ### Parameters -/

theorem held?_map {already value? : Option α} (f : α → β) :
    held? (already.map f) (value?.map f) = (held? already value?).map f := by
  cases already <;> rfl

theorem PartialParameter.take?_zeroed (p : PartialParameter) (h : entry.2.Readable) :
    p.zeroed.take? (Json.zeroedEntry entry) = (p.take? entry).map zeroed := by
  rw [take?, take?, Json.zeroedEntry]
  cases textOf? entry.1 with
  | none => rfl
  | some key =>
      dsimp only [zeroed, Option.bind_some]
      rw [optionalText?_zeroed, value?_zeroed valueLevels h, held?_map]
      split_ifs
      · cases held? p.field entry.2.optionalText? <;> rfl
      · cases held? p.label entry.2.optionalText? <;> rfl
      · cases held? p.value (entry.2.value? valueLevels) <;> rfl
      · rfl

theorem PartialParameter.finish?_zeroed (p : PartialParameter) :
    p.zeroed.finish? = p.finish?.map Parameter.zeroed := by
  rw [finish?, finish?, Option.map_map, zeroed, Option.map_map]
  rfl

/-- **Parameters.** -/
theorem parameter?_zeroed (h : t.Readable) :
    parameter? t.zeroed = (parameter? t).map Parameter.zeroed := by
  cases t with
  | object entries =>
      have hfold : (entries.map Json.zeroedEntry).foldlM PartialParameter.take? {} =
          (entries.foldlM PartialParameter.take? {}).map PartialParameter.zeroed :=
        foldlM_map_of_comm (fun entry hentry p => PartialParameter.take?_zeroed p (h.of_entry hentry))
          ({} : PartialParameter)
      rw [Tree.zeroed, Tree.zeroedEntries_eq_map, parameter?, parameter?, hfold]
      cases entries.foldlM PartialParameter.take? {} with
      | none => rfl
      | some p => exact p.finish?_zeroed
  | list items =>
      rw [Tree.zeroed, Tree.zeroedItems_eq_map]
      rcases items with _ | ⟨field, _ | ⟨label, _ | ⟨value, _ | ⟨more, items⟩⟩⟩⟩
      · rfl
      · rfl
      · rfl
      · have hvalue := value?_zeroed valueLevels (h.of_item (t := value) (by simp))
        simp only [List.map_cons, List.map_nil, parameter?, optionalText?_zeroed, hvalue]
        cases field.optionalText? <;> cases label.optionalText? <;>
          cases value.value? valueLevels <;> rfl
      · rfl
  | _ => rfl

theorem parameters?_zeroed (h : t.Readable) :
    parameters? t.zeroed = (parameters? t).map (List.map Parameter.zeroed) := by
  cases t with
  | list items =>
      rw [Tree.zeroed, Tree.zeroedItems_eq_map]
      exact mapM_map_of_comm fun t ht => parameter?_zeroed (h.of_item ht)
  | _ => rfl

/-! ### Cases -/

theorem PartialCase.take?_zeroed (c : PartialCase) (h : entry.2.Readable) :
    c.zeroed.take? (Json.zeroedEntry entry) = (c.take? entry).map zeroed := by
  rw [take?, take?, Json.zeroedEntry]
  cases textOf? entry.1 with
  | none => rfl
  | some key =>
      dsimp only [zeroed, Option.bind_some]
      rw [optionalText?_zeroed, parameters?_zeroed h, held?_map]
      split_ifs
      · cases held? c.base entry.2.optionalText? <;> rfl
      · cases held? c.parameters (parameters? entry.2) <;> rfl
      · rfl

theorem PartialCase.finish_zeroed (c : PartialCase) : c.zeroed.finish = c.finish.zeroed := by
  rw [finish, finish, zeroed]
  cases c.parameters <;> rfl

/-- **Cases.** -/
theorem ofTree?_zeroed (h : t.Readable) : ofTree? t.zeroed = (ofTree? t).map zeroed := by
  cases t with
  | object entries =>
      have hfold : (entries.map Json.zeroedEntry).foldlM PartialCase.take? {} =
          (entries.foldlM PartialCase.take? {}).map PartialCase.zeroed :=
        foldlM_map_of_comm (fun entry hentry c => PartialCase.take?_zeroed c (h.of_entry hentry))
          ({} : PartialCase)
      rw [Tree.zeroed, Tree.zeroedEntries_eq_map, ofTree?, ofTree?, ofEntries?, ofEntries?, hfold]
      cases entries.foldlM PartialCase.take? {} with
      | none => rfl
      | some c => exact congrArg some c.finish_zeroed
  | list items =>
      rw [Tree.zeroed, Tree.zeroedItems_eq_map]
      rcases items with _ | ⟨base, _ | ⟨parameters, _ | ⟨more, items⟩⟩⟩
      · rfl
      · simp only [List.map_cons, List.map_nil, ofTree?, optionalText?_zeroed]
        cases base.optionalText? <;> rfl
      · have hparameters := parameters?_zeroed (h.of_item (t := parameters) (by simp))
        simp only [List.map_cons, List.map_nil, ofTree?, optionalText?_zeroed, hparameters]
        cases base.optionalText? <;> cases parameters? parameters <;> rfl
      · rfl
  | _ => rfl

/-! ### Two files -/

/-- The numbers of a tree that says a case can be read. -/
theorem readable_of_ofTree? {c : Case} (h : ofTree? t = some c) : t.Readable := by
  have hnumbers := (readAs_ofTree? h).imp fun l v hv => by
    obtain ⟨m, hm, -⟩ := Option.map_eq_some_iff.mp hv
    exact And.intro (Option.isSome_of_eq_some hm) hv
  exact ((List.forall₂_and_left _ _).mp hnumbers).1

/-- **Other numbers.** If a tree says a case, then so does every tree that differs from it only in
numbers, as long as these can be read; and the two cases differ only in numbers. -/
theorem exists_ofTree?_of_zeroed_eq {u : Tree} {d : Case} (hd : ofTree? u = some d)
    (hsame : t.zeroed = u.zeroed) (h : t.Readable) :
    ∃ c, ofTree? t = some c ∧ c.zeroed = d.zeroed := by
  have hzeroed : (ofTree? t).map zeroed = (ofTree? u).map zeroed := by
    rw [← ofTree?_zeroed h, ← ofTree?_zeroed (readable_of_ofTree? hd), hsame]
  rw [hd, Option.map_some] at hzeroed
  exact Option.map_eq_some_iff.mp hzeroed

end Case

end SolverDeck
