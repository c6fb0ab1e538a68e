import Mathlib.Tactic.Common
import SolverDeck.Proofs.Deck.Path
import SolverDeck.Proofs.Writing.Course

/-!
# The decks that writing leaves

The decks of one plan are siblings, so writing one of them is not seen through the path
of another. Hence decks that were written can all be read at the end, and whether a deck
can be written does not depend on those written before it.

* `Store.write_ok_eq_plan` — when writing succeeds, the files are the decks of the plan;
* `Store.write_sweep_in_order` — the decks of a sweep are written in full up to the first
  that cannot be written, and no further.
-/

namespace SolverDeck

namespace Deck

variable {root path : Path} {tree after : FileTree} {decks : List Deck}

/-! ### Decks and their siblings -/

theorem Writes.readBytes_sibling (h : Writes root tree decks after)
    (hs : ∀ d ∈ decks, Path.Siblings (root.join d.path) path) :
    after.readBytes path = tree.readBytes path := by
  induction h with
  | nil => rfl
  | cons first others ih =>
      rw [ih fun d hd => hs d (List.mem_cons_of_mem _ hd)]
      exact FileTree.readBytes_sibling (hs _ List.mem_cons_self) first

theorem Writes.writeText_sibling (h : Writes root tree decks after)
    (hs : ∀ d ∈ decks, Path.Siblings (root.join d.path) path) (text : String) :
    (after.writeText path text).1 = (tree.writeText path text).1 := by
  induction h with
  | nil => rfl
  | cons first others ih =>
      rw [ih fun d hd => hs d (List.mem_cons_of_mem _ hd)]
      exact FileTree.writeBytes_sibling (hs _ List.mem_cons_self) first _

/-- No deck overwrites another: each can be read in the end. -/
theorem Writes.readText (h : Writes root tree decks after) (ha : Apart root decks) :
    ∀ d ∈ decks, after.readText (root.join d.path) = .ok d.content := by
  induction h with
  | nil => exact fun d hd => absurd hd List.not_mem_nil
  | cons first others ih =>
      obtain ⟨hfirst, hothers⟩ := List.pairwise_cons.mp ha
      intro d hd
      rcases List.mem_cons.mp hd with rfl | hd
      · -- The decks after it are its siblings, so they leave it as it was written.
        refine FileTree.readText_of_readBytes ?_
        rw [others.readBytes_sibling fun e he => (hfirst e he).symm]
        exact FileTree.readBytes_of_writeBytes first
      · exact ih hothers d hd

/-- Each deck could have been written first. -/
theorem Writes.writeText_ok (h : Writes root tree decks after) (ha : Apart root decks) :
    ∀ d ∈ decks, (tree.writeText (root.join d.path) d.content).1 = .ok () := by
  induction h with
  | nil => exact fun d hd => absurd hd List.not_mem_nil
  | cons first others ih =>
      obtain ⟨hfirst, hothers⟩ := List.pairwise_cons.mp ha
      intro d hd
      rcases List.mem_cons.mp hd with rfl | hd
      · rw [first]
      · rw [← ih hothers d hd]
        exact (FileTree.writeBytes_sibling (hfirst d hd) first _).symm

/-- Nothing changes but where the decks are. -/
theorem Writes.find?_of_ne (h : Writes root tree decks after) (ha : Apart root decks)
    {location : Location} (hl : ∀ d ∈ decks, tree.locate (root.join d.path) ≠ .ok location) :
    after.find? location = tree.find? location := by
  induction h with
  | nil => rfl
  | @cons tree next after deck decks first others ih =>
      obtain ⟨hfirst, hothers⟩ := List.pairwise_cons.mp ha
      have hnext : next.find? location = tree.find? location := by
        obtain ⟨place, hplace, -, -, rfl⟩ := FileTree.writeBytes_ok first
        have hne : location ≠ place :=
          fun e => hl deck List.mem_cons_self (e ▸ hplace)
        exact FileTree.find?_put_of_ne hne
      rw [← hnext]
      -- The other decks lead where they led before the first was written.
      refine ih hothers fun d hd => ?_
      rw [(FileTree.locate_sibling (hfirst d hd) first).1]
      exact hl d (List.mem_cons_of_mem _ hd)

/-- What can come of writing decks in order: the result and the tree that is left.
Either all of them are written, or those before the first that cannot be. -/
inductive WrittenInOrder (root : Path) (label : String) (decks : List Deck) (tree : FileTree) :
    Except Fault Outcome → FileTree → Prop
  /-- Every deck was written in full, and can be read. -/
  | all {after : FileTree} (writes : Writes root tree decks after)
      (full : ∀ d ∈ decks, after.readText (root.join d.path) = .ok d.content) :
      WrittenInOrder root label decks tree
        (.ok (.sweep label (decks.map fun d => root.join d.path))) after
  /-- Deck number `k` cannot be written, and it is the first such. The decks before it
  were written in full. It and those after it are as they were, and so is every place
  where none of the decks before it is. -/
  | upTo {after : FileTree} (k : Nat) (deck : Deck) (e : FileError)
      (at_k : decks[k]? = some deck)
      (fails : (tree.writeText (root.join deck.path) deck.content).1 = .error e)
      (least : ∀ d ∈ decks.take k, (tree.writeText (root.join d.path) d.content).1 = .ok ())
      (writes : Writes root tree (decks.take k) after)
      (full : ∀ d ∈ decks.take k, after.readText (root.join d.path) = .ok d.content)
      (untouched : ∀ d ∈ decks.drop k,
        after.readBytes (root.join d.path) = tree.readBytes (root.join d.path))
      (frame : ∀ location, (∀ d ∈ decks.take k, tree.locate (root.join d.path) ≠ .ok location) →
        after.find? location = tree.find? location) :
      WrittenInOrder root label decks tree (.error (.deckFile (root.join deck.path) e)) after

/-- A deck that cannot be written after others could not have been written first, while these
could. -/
theorem Writes.writeText_of_fails {done rest : List Deck} {failing : Deck} {e : FileError}
    (h : Writes root tree done after) (ha : Apart root (done ++ failing :: rest))
    (hfails : after.writeText (root.join failing.path) failing.content = (.error e, after)) :
    (tree.writeText (root.join failing.path) failing.content).1 = .error e ∧
      ∀ d ∈ done, (tree.writeText (root.join d.path) d.content).1 = .ok () := by
  obtain ⟨hdone, -, hcross⟩ := List.pairwise_append.mp ha
  refine ⟨?_, h.writeText_ok hdone⟩
  rw [← h.writeText_sibling fun d hd => hcross d hd failing List.mem_cons_self, hfails]

/-- Decks written in full up to one that cannot be written then: the same deck could not
have been written first, and it is the first such. -/
theorem writtenInOrder_of_fails {label : String} {done rest : List Deck} {failing : Deck}
    {e : FileError} (ha : Apart root (done ++ failing :: rest)) (h : Writes root tree done after)
    (hfails : after.writeText (root.join failing.path) failing.content = (.error e, after)) :
    WrittenInOrder root label (done ++ failing :: rest) tree
      (.error (.deckFile (root.join failing.path) e)) after := by
  obtain ⟨hdone, -, hcross⟩ := List.pairwise_append.mp ha
  obtain ⟨hfirst, hbefore⟩ := h.writeText_of_fails ha hfails
  have htake : (done ++ failing :: rest).take done.length = done := List.take_left
  have hdrop : (done ++ failing :: rest).drop done.length = failing :: rest := List.drop_left
  refine .upTo done.length failing e ?_ hfirst ?_ ?_ ?_ ?_ ?_
  · rw [List.getElem?_append_right (Nat.le_refl _), Nat.sub_self]
    rfl
  · rw [htake]
    exact hbefore
  · rw [htake]
    exact h
  · rw [htake]
    exact h.readText hdone
  · rw [hdrop]
    exact fun d hd => h.readBytes_sibling fun c hc => hcross c hc d hd
  · rw [htake]
    exact fun location hl => h.find?_of_ne hdone hl

end Deck

/-! ### Stores -/

namespace Store

/-- **A store.** Writing is stopped by the directory or by a deck, or it comes to the outcome
of the plan, and then each deck can be read. -/
theorem write_comes_to (store : Store) (root : Path) (base : String) (tree : FileTree) :
    (∃ e, (store.write FileTree.access root base tree).1.result =
      .error (.deckDirectory (root.join Deck.directory) e)) ∨
    (∃ deck ∈ (store.plan base).decks, ∃ e,
      (store.write FileTree.access root base tree).1.result =
        .error (.deckFile (root.join deck.path) e)) ∨
    (store.write FileTree.access root base tree).1 =
        ⟨(store.plan base).events root, .ok ((store.plan base).outcome root)⟩ ∧
      ∀ deck ∈ (store.plan base).decks,
        (store.write FileTree.access root base tree).2.readText (root.join deck.path) =
          .ok deck.content := by
  rcases store.write_cases root base tree with ⟨e, grown, -, hwrite⟩ | ⟨grown, -, hwrite⟩
  · exact Or.inl ⟨e, by rw [hwrite]⟩
  · rcases (store.plan base).write_cases root grown with ⟨after, hwrites, hplan⟩ |
      ⟨done, failing, rest, after, e, hdecks, -, -, hplan⟩
    · refine Or.inr (Or.inr ?_)
      rw [hwrite, hplan]
      exact ⟨rfl, hwrites.readText (store.apart_plan root base)⟩
    · refine Or.inr (Or.inl ⟨failing, ?_, e, by rw [hwrite, hplan]⟩)
      rw [hdecks]
      exact List.mem_append_right _ List.mem_cons_self

/-- When writing succeeds, what is reported is what was planned: the same kind of outcome
under the same labels, and the paths of the decks in their order. These are different
paths, and at each of them the content of its deck can be read. -/
theorem write_ok_eq_plan {store : Store} {root : Path} {base : String} {tree : FileTree}
    {outcome : Outcome}
    (h : (store.write FileTree.access root base tree).1.result = .ok outcome) :
    outcome = (store.plan base).outcome root ∧
    outcome.paths = (store.plan base).decks.map (fun d => root.join d.path) ∧
    outcome.paths.Nodup ∧
    ∀ d ∈ (store.plan base).decks,
      (store.write FileTree.access root base tree).2.readText (root.join d.path) =
        .ok d.content := by
  have hapart := store.apart_plan root base
  rcases store.write_cases root base tree with ⟨e, grown, -, hwrite⟩ | ⟨grown, -, hwrite⟩
  · rw [hwrite] at h
    cases h
  · rw [hwrite] at h ⊢
    rcases (store.plan base).write_cases root grown with ⟨after, hwrites, hplan⟩ |
      ⟨_, _, _, _, _, _, _, _, hplan⟩
    · rw [hplan] at h ⊢
      obtain rfl := Except.ok.inj h
      have hpaths := Plan.paths_outcome root (store.plan base)
      refine ⟨rfl, hpaths, ?_, hwrites.readText hapart⟩
      rw [hpaths, List.Nodup, List.pairwise_map]
      exact hapart.imp Path.Siblings.ne
    · rw [hplan] at h
      cases h

/-- A store that makes two decks. -/
def ofTwoDecks : Store :=
  ⟨[⟨"g", .int 2⟩], [⟨"r", [.int 10, .list [.int 1, .text "x"]]⟩]⟩

/-- The base climbs out of the directory and looks like a numbered deck itself. -/
theorem write_ok_eq_plan_climbing :
    (ofTwoDecks.write FileTree.access "" "../b-1" (.fresh ["w"])).1.result =
      .ok (.sweep "r" ["inputs/../b-1-0.input", "inputs/../b-1-1.input"]) ∧
    ∀ d ∈ [Deck.mk "inputs/../b-1-0.input" "g = 2\nr = 10\n",
        Deck.mk "inputs/../b-1-1.input" "g = 2\nr = 1, x\n"],
      (ofTwoDecks.write FileTree.access "" "../b-1" (.fresh ["w"])).2.readText
        (Path.join "" d.path) = .ok d.content := by
  have hresult : (ofTwoDecks.write FileTree.access "" "../b-1" (.fresh ["w"])).1.result =
      .ok (.sweep "r" ["inputs/../b-1-0.input", "inputs/../b-1-1.input"]) := by decide +kernel
  have hdecks : (ofTwoDecks.plan "../b-1").decks =
      [⟨"inputs/../b-1-0.input", "g = 2\nr = 10\n"⟩,
        ⟨"inputs/../b-1-1.input", "g = 2\nr = 1, x\n"⟩] := by decide +kernel
  obtain ⟨-, -, -, hread⟩ := write_ok_eq_plan hresult
  rw [hdecks] at hread
  exact ⟨hresult, hread⟩

/-- The decks of a sweep are written in order. If one cannot be written, that ends it:
those before it are there in full, and it and those after it are as if nothing had been
tried. Making the directory first adds directories and nothing else. -/
theorem write_sweep_in_order {store : Store} {sweep : Sweep} {root : Path} {tree grown : FileTree}
    (hsweep : store.sweeps = [sweep])
    (hensure : tree.ensureDirectory (root.join Deck.directory) = (.ok (), grown))
    (base : String) :
    tree.Grows grown ∧
    Deck.WrittenInOrder root sweep.label (store.plan base).decks grown
      (store.write FileTree.access root base tree).1.result
      (store.write FileTree.access root base tree).2 ∧
    ∀ fault, (store.write FileTree.access root base tree).1.result = .error fault →
      fault.category = .ioSystem ∧ fault.placeholder = "IO.DECK_WRITE" := by
  have hapart := store.apart_plan root base
  have hgrows : tree.Grows grown := by
    have hany := FileTree.grows_ensureDirectory tree (root.join Deck.directory)
    rwa [hensure] at hany
  have houtcome : (store.plan base).outcome root =
      .sweep sweep.label ((store.plan base).decks.map fun d => root.join d.path) := by
    unfold plan
    rw [hsweep]
    rfl
  refine ⟨hgrows, ?_⟩
  rw [write_of_ensureDirectory_ok hensure]
  rcases (store.plan base).write_cases root grown with ⟨after, hwrites, hplan⟩ |
    ⟨done, failing, rest, after, e, hdecks, hwrites, hfails, hplan⟩
  · rw [hplan, houtcome]
    exact ⟨.all hwrites (hwrites.readText hapart), fun _ h => nomatch h⟩
  · rw [hplan, hdecks]
    rw [hdecks] at hapart
    refine ⟨Deck.writtenInOrder_of_fails hapart hwrites hfails, fun fault h => ?_⟩
    cases h
    exact ⟨rfl, rfl⟩

/-- A tree in which a directory stands where the second of two decks belongs. -/
def blockedTree : FileTree :=
  ⟨[(["b-1.input", "inputs"], .directory), (["inputs"], .directory)], []⟩

/-- The second deck of two cannot be written. -/
theorem write_sweep_in_order_blocked :
    ofTwoDecks.sweeps = [⟨"r", [.int 10, .list [.int 1, .text "x"]]⟩] ∧
    ∃ grown, blockedTree.ensureDirectory (Path.join "" Deck.directory) = (.ok (), grown) ∧
      Deck.WrittenInOrder "" "r" (ofTwoDecks.plan "b").decks grown
        (.error (.deckFile "inputs/b-1.input" .isADirectory))
        (ofTwoDecks.write FileTree.access "" "b" blockedTree).2 := by
  have hsweep : ofTwoDecks.sweeps = [⟨"r", [.int 10, .list [.int 1, .text "x"]]⟩] := rfl
  have hensure : (blockedTree.ensureDirectory (Path.join "" Deck.directory)).1 = .ok () := by
    decide +kernel
  have hresult : (ofTwoDecks.write FileTree.access "" "b" blockedTree).1.result =
      .error (.deckFile "inputs/b-1.input" .isADirectory) := by decide +kernel
  obtain ⟨-, hcourse, -⟩ := write_sweep_in_order hsweep (Prod.ext hensure rfl) "b"
  rw [hresult] at hcourse
  exact ⟨hsweep, _, Prod.ext hensure rfl, hcourse⟩

end Store

end SolverDeck
