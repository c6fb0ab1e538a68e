import SolverDeck.Deck
import SolverDeck.Fault

/-!
# Writing decks

`Store.write` makes the directory for the decks and then the decks of the plan, in
order, up to the first that fails. What was written before a failure stays.

A store with several sweeps is refused only after the directory was made. That is an
outcome and no fault: it is reported as an event.

Writing is the same in every monad with access to files, and besides its result
collects the events it raises (`Written`).
-/

namespace SolverDeck

/-- What was made of a plan. -/
inductive Outcome where
  /-- One deck was written. -/
  | single (path : Path)
  /-- A deck was written for each value of the sweep of a label. -/
  | sweep (label : String) (paths : List Path)
  /-- Nothing was written, for there are several sweeps. -/
  | rejected (labels : List String)
deriving DecidableEq, Repr

namespace Outcome

/-- The paths of the decks that were written. -/
def paths : Outcome → List Path
  | single path => [path]
  | sweep _ paths => paths
  | rejected _ => []

/-- Was the plan refused? -/
def isRejected : Outcome → Bool
  | rejected _ => true
  | _ => false

end Outcome

/-- The result of writing, and the events it raised. -/
structure Written (α : Type) where
  events : List Log.Event
  /-- What came of it. -/
  result : Except Fault α

namespace Written

/-- Apply a function to the result. -/
def map (f : α → β) (w : Written α) : Written β :=
  ⟨w.events, w.result.map f⟩

/-- The same with events raised before. -/
def after (events : List Log.Event) (w : Written α) : Written α :=
  ⟨events ++ w.events, w.result⟩

end Written

/-! ### Decks -/

/-- Write a deck below `root`; gives the path it was written to. -/
def Deck.write [Monad m] (files : FileAccess m) (root : Path) (deck : Deck) :
    m (Written Path) := do
  let path := root.join deck.path
  match ← files.writeText path deck.content with
  | .ok () => return ⟨[.deck path], .ok path⟩
  | .error e => return ⟨[.deck path], .error (.deckFile path e)⟩

/-- Write decks in order, up to the first that fails. -/
def Deck.writeAll [Monad m] (files : FileAccess m) (root : Path) :
    List Deck → m (Written (List Path))
  | [] => return ⟨[], .ok []⟩
  | deck :: decks => do
      let first ← deck.write files root
      match first.result with
      | .error fault => return ⟨first.events, .error fault⟩
      | .ok path =>
          let others ← writeAll files root decks
          return (others.map (path :: ·)).after first.events

/-! ### Plans -/

/-- Write the decks of a plan. -/
def Plan.write [Monad m] (files : FileAccess m) (root : Path) : Plan → m (Written Outcome)
  | .single deck => return (← deck.write files root).map .single
  | .sweep label decks => do
      let written ← Deck.writeAll files root decks
      let warnings := if decks.isEmpty then [.emptySweep label] else []
      return (written.map (.sweep label)).after warnings
  | .rejected labels => return ⟨[.severalSweeps .writer labels], .ok (.rejected labels)⟩

/-- Write the decks of a store below `root`, in a directory that is made if it does
not exist. -/
def Store.write [Monad m] (files : FileAccess m) (store : Store) (root : Path)
    (base : String) : m (Written Outcome) := do
  let directory := root.join Deck.directory
  match ← files.ensureDirectory directory with
  | .error e => return ⟨[], .error (.deckDirectory directory e)⟩
  | .ok () => (store.plan base).write files root

end SolverDeck
