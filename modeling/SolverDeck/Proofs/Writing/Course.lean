import SolverDeck.Proofs.Files.Directories
import SolverDeck.Writing

/-!
# The course of writing

What `Store.write` does to a tree, told once and for all, so that what follows from it
need not look into the program again.

* `Deck.Writes` — decks are written one after the other, and all of them can be;
* `Deck.writes_or_fails` — a list of decks can be written in full, or up to the first that
  cannot be written;
* `Plan.write_cases` — what that makes of a plan, with the outcome and the events;
* `Store.write_cases` — and for a store, where making the directory may fail before.
-/

namespace SolverDeck

/-! ### Several decks -/

/-- Decks written below a root one after the other. Each is written in the tree that
those before it left. -/
inductive Deck.Writes (root : Path) : FileTree → List Deck → FileTree → Prop
  | nil (tree : FileTree) : Writes root tree [] tree
  | cons {tree next after : FileTree} {deck : Deck} {decks : List Deck}
      (first : tree.writeText (root.join deck.path) deck.content = (.ok (), next))
      (others : Writes root next decks after) : Writes root tree (deck :: decks) after

/-- The event that a deck is about to be written. -/
def Deck.event (root : Path) (deck : Deck) : Log.Event :=
  .deck (root.join deck.path)

namespace Deck

variable {root : Path} {tree after : FileTree} {deck : Deck} {decks : List Deck}

theorem write_access_ok
    (h : tree.writeText (root.join deck.path) deck.content = (.ok (), after)) :
    deck.write FileTree.access root tree =
      (⟨[deck.event root], .ok (root.join deck.path)⟩, after) := by
  have haccess : FileTree.access.writeText (root.join deck.path) deck.content tree =
      (.ok (), after) := h
  simp only [Deck.write, bind, StateT.bind, haccess]
  rfl

theorem write_access_error {e : FileError}
    (h : tree.writeText (root.join deck.path) deck.content = (.error e, after)) :
    deck.write FileTree.access root tree =
      (⟨[deck.event root], .error (.deckFile (root.join deck.path) e)⟩, after) := by
  have haccess : FileTree.access.writeText (root.join deck.path) deck.content tree =
      (.error e, after) := h
  simp only [Deck.write, bind, StateT.bind, haccess]
  rfl

/-- **The loop.** Either all decks can be written, one after the other, or there is a first
that cannot when those before it are. -/
theorem writes_or_fails (root : Path) (decks : List Deck) (tree : FileTree) :
    (∃ after, Writes root tree decks after) ∨
    ∃ done failing rest after e, decks = done ++ failing :: rest ∧
      Writes root tree done after ∧
      after.writeText (root.join failing.path) failing.content = (.error e, after) := by
  induction decks generalizing tree with
  | nil => exact Or.inl ⟨tree, .nil tree⟩
  | cons deck decks ih =>
      cases hfirst : tree.writeText (root.join deck.path) deck.content with
      | mk result next =>
          cases result with
          | error e =>
              -- The first deck ends it, with nothing written.
              obtain rfl : next = tree := FileTree.writeBytes_error hfirst
              exact Or.inr ⟨[], deck, decks, next, e, rfl, .nil next, hfirst⟩
          | ok =>
              rcases ih next with ⟨after, hwrites⟩ | ⟨done, failing, rest, after, e, rfl, hwrites,
                hfails⟩
              · exact Or.inl ⟨after, .cons hfirst hwrites⟩
              · exact Or.inr ⟨deck :: done, failing, rest, after, e, rfl, .cons hfirst hwrites,
                  hfails⟩

theorem writeAll_of_writes (h : Writes root tree decks after) :
    Deck.writeAll FileTree.access root decks tree =
      (⟨decks.map (Deck.event root), .ok (decks.map fun d => root.join d.path)⟩, after) := by
  induction h with
  | nil => rfl
  | cons first others ih =>
      simp only [Deck.writeAll, bind, StateT.bind, write_access_ok first, ih]
      rfl

/-- A deck that cannot be written changes nothing, and those after it are not tried. -/
theorem writeAll_of_fails {done rest : List Deck} {failing : Deck} {e : FileError}
    (h : Writes root tree done after)
    (hfails : after.writeText (root.join failing.path) failing.content = (.error e, after)) :
    Deck.writeAll FileTree.access root (done ++ failing :: rest) tree =
      (⟨(done ++ [failing]).map (Deck.event root),
        .error (.deckFile (root.join failing.path) e)⟩, after) := by
  induction h with
  | nil =>
      simp only [List.nil_append, Deck.writeAll, bind, StateT.bind, write_access_error hfails]
      rfl
  | cons first others ih =>
      simp only [List.cons_append, Deck.writeAll, bind, StateT.bind, write_access_ok first,
        ih hfails]
      rfl

end Deck

/-! ### A plan -/

namespace Plan

/-- What becomes of a plan all of whose decks can be written. -/
def outcome (root : Path) : Plan → Outcome
  | single deck => .single (root.join deck.path)
  | sweep label decks => .sweep label (decks.map fun d => root.join d.path)
  | rejected labels => .rejected labels

/-- The events that such a plan raises. -/
def events (root : Path) : Plan → List Log.Event
  | single deck => [deck.event root]
  | sweep label [] => [.emptySweep label]
  | sweep _ decks => decks.map (Deck.event root)
  | rejected labels => [.severalSweeps .writer labels]

@[simp] theorem paths_outcome (root : Path) (plan : Plan) :
    (plan.outcome root).paths = plan.decks.map fun d => root.join d.path := by
  cases plan <;> rfl

theorem write_of_writes {plan : Plan} {root : Path} {tree after : FileTree}
    (h : Deck.Writes root tree plan.decks after) :
    plan.write FileTree.access root tree =
      (⟨plan.events root, .ok (plan.outcome root)⟩, after) := by
  cases plan with
  | single deck =>
      cases h with
      | cons first others =>
          cases others
          simp only [Plan.write, bind, StateT.bind, Deck.write_access_ok first]
          rfl
  | sweep label decks =>
      have hall := Deck.writeAll_of_writes (show Deck.Writes root tree decks after from h)
      simp only [Plan.write, bind, StateT.bind, hall]
      cases decks <;> rfl
  | rejected labels =>
      cases h
      rfl

theorem write_of_fails {plan : Plan} {root : Path} {tree after : FileTree}
    {done rest : List Deck} {failing : Deck} {e : FileError}
    (hdecks : plan.decks = done ++ failing :: rest) (h : Deck.Writes root tree done after)
    (hfails : after.writeText (root.join failing.path) failing.content = (.error e, after)) :
    plan.write FileTree.access root tree =
      (⟨(done ++ [failing]).map (Deck.event root),
        .error (.deckFile (root.join failing.path) e)⟩, after) := by
  cases plan with
  | single deck =>
      obtain ⟨rfl, hlast⟩ | ⟨_, hnil⟩ := List.append_eq_singleton_iff.mp hdecks.symm
      · obtain ⟨rfl, rfl⟩ := List.cons.inj hlast
        cases h
        simp only [Plan.write, bind, StateT.bind, Deck.write_access_error hfails]
        rfl
      · cases hnil
  | sweep label decks =>
      obtain rfl : decks = done ++ failing :: rest := hdecks
      have hnonempty : (done ++ failing :: rest).isEmpty = false := by simp
      simp only [Plan.write, bind, StateT.bind, Deck.writeAll_of_fails h hfails, hnonempty]
      rfl
  | rejected labels => simp [decks] at hdecks

/-- **A plan.** All its decks are written, which may be none, or those before the first
that cannot be written. -/
theorem write_cases (plan : Plan) (root : Path) (tree : FileTree) :
    (∃ after, Deck.Writes root tree plan.decks after ∧
      plan.write FileTree.access root tree =
        (⟨plan.events root, .ok (plan.outcome root)⟩, after)) ∨
    ∃ done failing rest after e, plan.decks = done ++ failing :: rest ∧
      Deck.Writes root tree done after ∧
      after.writeText (root.join failing.path) failing.content = (.error e, after) ∧
      plan.write FileTree.access root tree =
        (⟨(done ++ [failing]).map (Deck.event root),
          .error (.deckFile (root.join failing.path) e)⟩, after) := by
  rcases Deck.writes_or_fails root plan.decks tree with ⟨after, hwrites⟩ |
    ⟨done, failing, rest, after, e, hdecks, hwrites, hfails⟩
  · exact Or.inl ⟨after, hwrites, write_of_writes hwrites⟩
  · exact Or.inr ⟨done, failing, rest, after, e, hdecks, hwrites, hfails,
      write_of_fails hdecks hwrites hfails⟩

end Plan

/-! ### A store -/

namespace Store

theorem write_of_ensureDirectory_error {store : Store} {root : Path} {base : String}
    {tree grown : FileTree} {e : FileError}
    (h : tree.ensureDirectory (root.join Deck.directory) = (.error e, grown)) :
    store.write FileTree.access root base tree =
      (⟨[], .error (.deckDirectory (root.join Deck.directory) e)⟩, grown) := by
  have haccess : FileTree.access.ensureDirectory (root.join Deck.directory) tree =
      (.error e, grown) := h
  simp only [Store.write, bind, StateT.bind, haccess]
  rfl

theorem write_of_ensureDirectory_ok {store : Store} {root : Path} {base : String}
    {tree grown : FileTree}
    (h : tree.ensureDirectory (root.join Deck.directory) = (.ok (), grown)) :
    store.write FileTree.access root base tree =
      (store.plan base).write FileTree.access root grown := by
  have haccess : FileTree.access.ensureDirectory (root.join Deck.directory) tree =
      (.ok (), grown) := h
  simp only [Store.write, bind, StateT.bind, haccess]

/-- **A store.** Only when the directory is there the decks of the plan are written. -/
theorem write_cases (store : Store) (root : Path) (base : String) (tree : FileTree) :
    (∃ e grown, tree.ensureDirectory (root.join Deck.directory) = (.error e, grown) ∧
      store.write FileTree.access root base tree =
        (⟨[], .error (.deckDirectory (root.join Deck.directory) e)⟩, grown)) ∨
    ∃ grown, tree.ensureDirectory (root.join Deck.directory) = (.ok (), grown) ∧
      store.write FileTree.access root base tree =
        (store.plan base).write FileTree.access root grown := by
  cases h : tree.ensureDirectory (root.join Deck.directory) with
  | mk result grown =>
      cases result with
      | error e => exact Or.inl ⟨e, grown, rfl, write_of_ensureDirectory_error h⟩
      | ok => exact Or.inr ⟨grown, rfl, write_of_ensureDirectory_ok h⟩

end Store

end SolverDeck
