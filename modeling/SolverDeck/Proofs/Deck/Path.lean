import SolverDeck.Deck
import SolverDeck.Proofs.Files.Resolution

/-!
# Where decks are written

The name of a deck is put behind the base without anything between them, and the base
may hold separators or be absolute. Still the number of a deck is in the last name of its
path and in nothing else, so the decks of one plan are siblings: different files of one
directory (`Store.apart_plan`).
-/

namespace SolverDeck

namespace Deck

/-! ### Endings -/

/-- What the name of a deck adds to the base. -/
theorem fileName_eq_append (base : String) (index : Option Nat) :
    fileName base index = base ++ fileName "" index := by
  cases index with
  | none => simp [fileName]
  | some i => simp [fileName, String.append_assoc]

theorem isDigit_of_mem_toString {c : Char} {i : Nat} (h : c ∈ (toString i).toList) :
    c.isDigit = true := by
  have hlist : (toString i).toList = Nat.toDigits 10 i := Nat.toList_repr
  rw [hlist] at h
  exact Nat.isDigit_of_mem_toDigits (by decide) (by decide) h

theorem separator_not_mem_toString (i : Nat) : Path.separator ∉ (toString i).toList :=
  fun h => absurd (isDigit_of_mem_toString h) (by decide)

theorem toString_injective {i j : Nat} (h : toString i = toString j) : i = j := by
  have hdigits : Nat.toDigits 10 i = Nat.toDigits 10 j := by
    rw [← Nat.toList_repr, ← Nat.toList_repr]
    exact congrArg String.toList h
  rw [← Nat.ofDigitChars_ten_toDigits (n := i), hdigits, Nat.ofDigitChars_ten_toDigits]

/-- The characters of an ending. -/
theorem toList_fileName_some (i : Nat) :
    (fileName "" (some i)).toList = '-' :: ((toString i).toList ++ ending.toList) := by
  simp [fileName, String.toList_append]

theorem toList_fileName_none : (fileName "" none).toList = '.' :: "input".toList := by
  decide

theorem separator_not_mem_fileName (index : Option Nat) :
    Path.separator ∉ (fileName "" index).toList := by
  cases index with
  | none => decide
  | some i =>
      rw [toList_fileName_some, List.mem_cons, List.mem_append, not_or, not_or]
      exact ⟨by decide, separator_not_mem_toString i, by decide⟩

theorem isAbsolute_fileName (index : Option Nat) :
    Path.isAbsolute (fileName "" index) = false :=
  Path.isAbsolute_of_plain (separator_not_mem_fileName index)

theorem lt_length_fileName (index : Option Nat) : 2 < (fileName "" index).length := by
  rw [← String.length_toList]
  cases index with
  | none => decide
  | some i =>
      have hending : ending.toList.length = 6 := by decide
      rw [toList_fileName_some, List.length_cons, List.length_append, hending]
      omega

/-- Decks of different numbers have different endings. -/
theorem fileName_injective {i j : Option Nat} (h : fileName "" i = fileName "" j) : i = j := by
  have hlist := congrArg String.toList h
  cases i with
  | none =>
      cases j with
      | none => rfl
      | some j =>
          rw [toList_fileName_none, toList_fileName_some] at hlist
          exact absurd (List.cons.inj hlist).1 (by decide)
  | some i =>
      cases j with
      | none =>
          rw [toList_fileName_none, toList_fileName_some] at hlist
          exact absurd (List.cons.inj hlist).1 (by decide)
      | some j =>
          rw [toList_fileName_some, toList_fileName_some] at hlist
          have hdigits := List.append_cancel_right (List.cons.inj hlist).2
          rw [toString_injective (String.toList_inj.mp hdigits)]

/-! ### Paths -/

/-- Seen from a root, the path of a deck is a text that does not depend on its number,
and the ending. -/
theorem join_pathOf (root : Path) (base : String) (index : Option Nat) :
    root.join (pathOf base index) = root.join (directory.join base) ++ fileName "" index := by
  rw [pathOf, fileName_eq_append, Path.join_append directory base (isAbsolute_fileName index),
    Path.join_append root _ (isAbsolute_fileName index)]

/-- Decks of one base and different numbers are different files of one directory. -/
theorem siblings_pathOf (root : Path) (base : String) {i j : Option Nat} (h : i ≠ j) :
    Path.Siblings (root.join (pathOf base i)) (root.join (pathOf base j)) := by
  rw [join_pathOf, join_pathOf]
  exact Path.siblings_append _ (separator_not_mem_fileName i) (separator_not_mem_fileName j)
    (lt_length_fileName i) (lt_length_fileName j) fun e => h (fileName_injective e)

/-- A base keeps to the directory that it is put in: it is not absolute, and the way to its
last component is never further up than where it begins. -/
def keepsBelow (base : String) : Bool :=
  !Path.isAbsolute base && (Path.depth? 0 (Path.above base)).isSome

/-- From the directory of the decks on, the way is that of the name. -/
theorem resolve_pathOf {base : String} (hbase : Path.isAbsolute base = false) (tree : FileTree)
    (root : Path) (index : Option Nat) :
    tree.resolve (root.join (pathOf base index)) =
      (tree.resolve (root.join directory)).follow (Path.route (fileName base index)).steps := by
  have hname : Path.isAbsolute (fileName base index) = false := by
    rw [fileName_eq_append, Path.isAbsolute_append base (isAbsolute_fileName index), hbase]
  have hpath : Path.isAbsolute (pathOf base index) = false := by
    rw [pathOf, Path.isAbsolute_join directory hname]
    decide
  rw [tree.resolve_join root hpath, pathOf, Path.steps_join directory hname,
    Location.follow_append, tree.resolve_join root (by decide)]

theorem exists_steps_fileName (base : String) (index : Option Nat) :
    ∃ name, (Path.route (fileName base index)).steps = Path.above base ++ [.down name] := by
  rw [fileName_eq_append, Path.route_append base (separator_not_mem_fileName index)
    (lt_length_fileName index)]
  exact ⟨_, rfl⟩

/-- A deck with a base that keeps below leads to a place below the directory of the decks. -/
theorem below_resolve_pathOf {base : String} (h : keepsBelow base = true) (tree : FileTree)
    (root : Path) (index : Option Nat) :
    (tree.resolve (root.join (pathOf base index))).Below
      (tree.resolve (root.join directory)) := by
  rw [keepsBelow, Bool.and_eq_true, Bool.not_eq_true', Option.isSome_iff_exists] at h
  obtain ⟨hbase, depth, hdepth⟩ := h
  obtain ⟨name, hsteps⟩ := exists_steps_fileName base index
  obtain ⟨more, -, hmore⟩ : ∃ more : Location, more.length = depth ∧
      Location.follow ([] ++ tree.resolve (root.join directory)) (Path.above base) =
        more ++ tree.resolve (root.join directory) :=
    Location.follow_of_depth? _ hdepth
  refine ⟨name :: more, List.cons_ne_nil name more, ?_⟩
  rw [List.nil_append] at hmore
  rw [resolve_pathOf hbase, hsteps, Location.follow_append, hmore]
  rfl

/-- Decks that are all siblings of each other, seen from a root. -/
def Apart (root : Path) (decks : List Deck) : Prop :=
  decks.Pairwise fun d e => Path.Siblings (root.join d.path) (root.join e.path)

end Deck

theorem Store.exists_pathOf_of_mem_plan {store : Store} {base : String} {deck : Deck}
    (h : deck ∈ (store.plan base).decks) : ∃ index, deck.path = Deck.pathOf base index := by
  unfold Store.plan at h
  split at h
  case _ =>
      obtain rfl := List.mem_singleton.mp h
      exact ⟨none, rfl⟩
  case _ sweep _ =>
      obtain ⟨i, hi, rfl⟩ := List.mem_mapIdx.mp h
      exact ⟨some i, rfl⟩
  case _ => exact absurd h List.not_mem_nil

/-- The decks of a plan are siblings, from whatever root they are seen. -/
theorem Store.apart_plan (store : Store) (root : Path) (base : String) :
    Deck.Apart root (store.plan base).decks := by
  unfold Store.plan
  split
  case _ => exact List.pairwise_singleton _ _
  case _ sweep _ =>
      rw [Plan.decks, Deck.Apart, List.pairwise_iff_getElem]
      intro i j hi hj hij
      rw [List.getElem_mapIdx, List.getElem_mapIdx]
      exact Deck.siblings_pathOf root base fun e => Nat.ne_of_lt hij (Option.some.inj e)
  case _ => exact List.Pairwise.nil

end SolverDeck
