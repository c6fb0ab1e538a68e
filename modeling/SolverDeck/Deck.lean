import SolverDeck.Store

/-!
# Decks

A deck is a text file with one line per parameter: the label, an equals sign and the
value. All scalars come first, in their order, and the value of the sweep, if there
is one, comes last.

A `Plan` says which decks a store makes, without making them: one deck, or one for
each value of the only sweep, numbered from zero. A store with several sweeps makes
none.
-/

namespace SolverDeck

/-- A file to be written. -/
structure Deck where
  /-- Where it is written, seen from the root. -/
  path : Path
  content : String
deriving DecidableEq, Repr

namespace Deck

/-! ### Content -/

/-- The line of one parameter. -/
def line (label : String) (value : Value) : String :=
  label ++ " = " ++ value.display ++ "\n"

/-- The lines of several parameters. -/
def lines (entries : List (String × Value)) : List String :=
  entries.map fun entry => line entry.1 entry.2

/-- The content of a deck: a line for each scalar, and one for the value of a sweep. -/
def text (scalars : List Scalar) (swept : Option (String × Value)) : String :=
  String.join (lines (scalars.map (fun s => (s.label, s.value)) ++ swept.toList))

/-! ### Paths -/

/-- The directory that receives the decks, seen from the root. -/
def directory : Path := "inputs"

/-- The ending of a deck's name. -/
def ending : String := ".input"

/-- The name of a deck, with its number if it is one of several. -/
def fileName (base : String) : Option Nat → String
  | none => base ++ ending
  | some index => base ++ "-" ++ toString index ++ ending

/-- The path of a deck, seen from the root. -/
def pathOf (base : String) (index : Option Nat) : Path :=
  directory.join (fileName base index)

end Deck

/-- The decks that a store makes. -/
inductive Plan where
  /-- One deck, with the scalars alone. -/
  | single (deck : Deck)
  /-- One deck for each value of the sweep of a label. -/
  | sweep (label : String) (decks : List Deck)
  /-- None, for there are several sweeps, under these labels. -/
  | rejected (labels : List String)
deriving DecidableEq, Repr

/-- The decks of a plan. -/
def Plan.decks : Plan → List Deck
  | single deck => [deck]
  | sweep _ decks => decks
  | rejected _ => []

namespace Store

/-- The only deck of a store without sweeps. -/
def singleDeck (store : Store) (base : String) : Deck :=
  ⟨Deck.pathOf base none, Deck.text store.scalars none⟩

/-- The deck for one value of a sweep. -/
def sweepDeck (store : Store) (base label : String) (index : Nat) (value : Value) : Deck :=
  ⟨Deck.pathOf base (some index), Deck.text store.scalars (some (label, value))⟩

/-- The decks that a store makes, their names being formed from `base`. -/
def plan (store : Store) (base : String) : Plan :=
  match store.sweeps with
  | [] => .single (store.singleDeck base)
  | [sweep] => .sweep sweep.label (sweep.values.mapIdx (store.sweepDeck base sweep.label))
  | sweeps => .rejected (sweeps.map (·.label))

end Store

end SolverDeck
