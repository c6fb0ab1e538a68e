import SolverDeck.Path
import SolverDeck.Text.Quoted
import SolverDeck.Value

/-!
# Log events

What the program reports about its work while it works. An event is a cause, and
carries what it is about; level, message and fields are read off it. Which events a
user sees is decided elsewhere (`Log.Filter`), and no event has a way back into the
work it reports.

A line that shows an event begins with its level here: the time before it, and the
colours that a terminal gets, are left out.
-/

namespace SolverDeck.Log

/-- How much an event matters. -/
inductive Level where
  /-- Of interest when following the program step by step. -/
  | trace
  /-- Of interest when looking for a fault. -/
  | debug
  /-- Of interest in daily use. -/
  | info
  /-- Possibly not what the user meant. -/
  | warn
  | error
deriving DecidableEq, Repr

/-- The name of a level. -/
def Level.name : Level → String
  | trace => "TRACE"
  | debug => "DEBUG"
  | info => "INFO"
  | warn => "WARN"
  | error => "ERROR"

/-- Levels by how much they matter. -/
def Level.rank : Level → Nat
  | trace => 0
  | debug => 1
  | info => 2
  | warn => 3
  | error => 4

/-- The part of the program that reports an event. -/
inductive Origin where
  | store
  | writer
  | commands
deriving DecidableEq, Repr

/-- The name by which filters select an origin. -/
def Origin.target : Origin → String
  | store => "bartdeck_core::modules::store"
  | writer => "bartdeck_core::modules::writer"
  | commands => "bartdeck::cli::commands"

/-- Something worth reporting. -/
inductive Event where
  /-- A parameter gets a single value. -/
  | parameter (label : String) (value : Value)
  /-- A parameter gets a list of values. -/
  | sweep (label : String) (count : Nat)
  /-- A deck is about to be written. -/
  | deck (path : Path)
  /-- The only sweep has no values, so that there is no deck to write. -/
  | emptySweep (label : String)
  /-- There are several sweeps, which cannot be written. -/
  | severalSweeps (origin : Origin) (labels : List String)

namespace Event

/-- The event that a parameter is registered. -/
def registering (label : String) : Value → Event
  | .list values => .sweep label values.length
  | value => .parameter label value

/-- How much an event matters. -/
def level : Event → Level
  | parameter .. | sweep .. => .debug
  | deck _ => .info
  | emptySweep _ => .warn
  | severalSweeps .. => .error

/-- Which part of the program reports an event. -/
def origin : Event → Origin
  | parameter .. | sweep .. => .store
  | deck _ | emptySweep _ => .writer
  | severalSweeps origin _ => origin

/-- What an event says. -/
def message : Event → String
  | parameter .. => "registering parameter"
  | sweep .. => "registering sweep"
  | deck _ => "writing deck"
  | emptySweep _ => "sweep has no values; no decks written"
  | severalSweeps _ labels =>
      "only one parameter sweep is supported per deck set; found " ++ toString labels.length

/-- What an event is about: names with their texts, in order. -/
def fields : Event → List (String × String)
  | parameter label value => [("label", label), ("value", value.display)]
  | sweep label count => [("label", label), ("count", toString count)]
  | deck path => [("path", path)]
  | emptySweep label => [("label", label)]
  | severalSweeps _ labels => [("sweeps", Text.quotedList labels)]

/-- The line that shows an event. -/
def line (event : Event) : String :=
  " ".intercalate
    (event.level.name :: event.message :: event.fields.map fun (name, text) => name ++ "=" ++ text)

end Event

end SolverDeck.Log
