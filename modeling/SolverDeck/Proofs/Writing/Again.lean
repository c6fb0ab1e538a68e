import SolverDeck.Proofs.Writing.Decks
import SolverDeck.Proofs.Writing.Frame

/-!
# Writing twice

Writing the decks of a store a second time finds everything done: the directory is there, and
what is to be written to a path can be read from it already. So it comes to the same end and
leaves the tree as it is, down to the order of its entries (`Store.write_again`). This holds
also of a first time that was stopped by a deck. What was written before that deck is there,
and the deck is stopped by what stopped it before.

Nothing is said of a first time that was stopped at the directory.
-/

namespace SolverDeck

variable {root : Path} {tree grown after : FileTree} {decks : List Deck}

/-! ### Decks that are there -/

/-- Decks that can be read already can be written, which changes nothing. -/
theorem Deck.writes_of_readText
    (h : ∀ d ∈ decks, tree.readText (root.join d.path) = .ok d.content) :
    Deck.Writes root tree decks tree := by
  induction decks with
  | nil => exact .nil tree
  | cons deck decks ih =>
      obtain ⟨hdeck, hdecks⟩ := List.forall_mem_cons.mp h
      exact .cons (FileTree.writeText_of_readText hdeck) (ih hdecks)

theorem Deck.Writes.again (h : Deck.Writes root tree decks after) (ha : Deck.Apart root decks) :
    Deck.Writes root after decks after :=
  Deck.writes_of_readText (h.readText ha)

/-- **A plan.** Whether it was carried out or stopped by a deck, it fares the same again. -/
theorem Plan.write_twice {plan : Plan} (ha : Deck.Apart root plan.decks) (tree : FileTree) :
    tree.Keeps (plan.write FileTree.access root tree).2 ∧
      plan.write FileTree.access root (plan.write FileTree.access root tree).2 =
        plan.write FileTree.access root tree := by
  refine ⟨(plan.changes_write root tree).keeps, ?_⟩
  rcases plan.write_cases root tree with ⟨after, hwrites, hplan⟩ |
    ⟨done, failing, rest, after, e, hdecks, hwrites, hfails, hplan⟩
  · rw [hplan]
    exact Plan.write_of_writes (hwrites.again ha)
  · rw [hplan]
    rw [hdecks] at ha
    obtain ⟨hdone, -, -⟩ := List.pairwise_append.mp ha
    exact Plan.write_of_fails hdecks (hwrites.again hdone) hfails

/-! ### Stores -/

namespace Store

/-- Once the directory for the decks could be made, writing comes to the same again. -/
theorem write_of_ensured {store : Store} {base : String}
    (h : tree.ensureDirectory (root.join Deck.directory) = (.ok (), grown)) :
    store.write FileTree.access root base (store.write FileTree.access root base tree).2 =
      store.write FileTree.access root base tree := by
  obtain ⟨hkeeps, hagain⟩ := Plan.write_twice (store.apart_plan root base) grown
  rw [write_of_ensureDirectory_ok h,
    write_of_ensureDirectory_ok (FileTree.ensureDirectory_again h hkeeps), hagain]

/-- Writing that succeeded, or that was stopped by a deck, has the same result when it is
repeated, with the same events, and changes nothing more. -/
theorem write_again {store : Store} {root : Path} {base : String} {tree : FileTree}
    (h : (∃ outcome, (store.write FileTree.access root base tree).1.result = .ok outcome) ∨
      ∃ path e, (store.write FileTree.access root base tree).1.result =
        .error (.deckFile path e)) :
    store.write FileTree.access root base (store.write FileTree.access root base tree).2 =
      store.write FileTree.access root base tree := by
  rcases store.write_cases root base tree with ⟨e, grown, -, hwrite⟩ | ⟨grown, hensure, hwrite⟩
  · rw [hwrite] at h
    rcases h with ⟨outcome, hok⟩ | ⟨path, e, hstopped⟩
    · cases hok
    · cases hstopped
  · rw [hwrite]
    obtain ⟨hkeeps, hagain⟩ := Plan.write_twice (store.apart_plan root base) grown
    -- Nothing was lost since the directory was made, so it is found now.
    rw [write_of_ensureDirectory_ok (FileTree.ensureDirectory_again hensure hkeeps), hagain]

/-- A sweep whose second deck cannot be written, and one whose decks end up beside their
directory. -/
theorem write_again_blocked :
    (ofTwoDecks.write FileTree.access "" "b" blockedTree).1.result =
        .error (.deckFile "inputs/b-1.input" .isADirectory) ∧
      ofTwoDecks.write FileTree.access "" "b"
          (ofTwoDecks.write FileTree.access "" "b" blockedTree).2 =
        ofTwoDecks.write FileTree.access "" "b" blockedTree ∧
    (ofTwoDecks.write FileTree.access "" "../b-1" (.fresh ["w"])).1.result =
        .ok (.sweep "r" ["inputs/../b-1-0.input", "inputs/../b-1-1.input"]) ∧
      ofTwoDecks.write FileTree.access "" "../b-1"
          (ofTwoDecks.write FileTree.access "" "../b-1" (.fresh ["w"])).2 =
        ofTwoDecks.write FileTree.access "" "../b-1" (.fresh ["w"]) := by
  have hstopped : (ofTwoDecks.write FileTree.access "" "b" blockedTree).1.result =
      .error (.deckFile "inputs/b-1.input" .isADirectory) := by decide +kernel
  have hdone : (ofTwoDecks.write FileTree.access "" "../b-1" (.fresh ["w"])).1.result =
      .ok (.sweep "r" ["inputs/../b-1-0.input", "inputs/../b-1-1.input"]) := by decide +kernel
  exact ⟨hstopped, write_again (Or.inr ⟨_, _, hstopped⟩), hdone, write_again (Or.inl ⟨_, hdone⟩)⟩

end Store

end SolverDeck
