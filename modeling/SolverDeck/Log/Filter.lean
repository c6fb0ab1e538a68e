import SolverDeck.Log.Event

/-!
# Log filters

Which events a user sees. A filter is a list of directives, each of which sets a
threshold for the events it selects: by what their origin begins with, by a field they
have, or by neither. Of the directives that select an event the most specific decides:
the one with the longest target, of those the one with a field, of those the one whose
field comes last in the alphabet, and of those the last. An event that no directive
selects is not shown.

How filters are written is told in `Log.Filter.Reading`.
-/

namespace SolverDeck.Log

/-- From where on events are shown. -/
inductive Threshold where
  | off
  /-- Events of this level and of those that matter more are shown. -/
  | atLeast (level : Level)
deriving DecidableEq, Repr

/-- Does an event of this level pass? -/
def Threshold.admits (level : Level) : Threshold → Bool
  | off => false
  | atLeast least => least.rank ≤ level.rank

/-- A rule for some events. -/
structure Directive where
  /-- What their origin begins with; empty for all. -/
  target : List Char := []
  /-- A field they have, if that matters. -/
  field : Option String := none
  /-- Is the rule only about what happens within spans? No event here does. -/
  withinSpans : Bool := false
  /-- Which of the events are shown. -/
  threshold : Threshold := .atLeast .trace
deriving DecidableEq, Repr

namespace Directive

/-- Does a directive select an event? The message counts as a field. -/
def selects (d : Directive) (event : Event) : Bool :=
  !d.withinSpans && d.target.isPrefixOf event.origin.target.toList &&
    d.field.all fun name => ("message" :: event.fields.map (·.1)).contains name

/-- Is a directive more specific than another one that selects the same event? -/
def outranks (d other : Directive) : Bool :=
  if d.target.length = other.target.length then
    match d.field, other.field with
    | some name, some otherName => otherName < name
    | some _, none => true
    | none, _ => false
  else other.target.length < d.target.length

end Directive

/-- The rules for all events. -/
abbrev Filter := List Directive

namespace Filter

/-- The directive that decides about an event. -/
def deciding? (event : Event) : Filter → Option Directive
  | [] => none
  | d :: ds =>
      match deciding? event ds with
      | some later => if d.selects event && d.outranks later then some d else some later
      | none => if d.selects event then some d else none

/-- Is an event shown? -/
def admits (filter : Filter) (event : Event) : Bool :=
  match filter.deciding? event with
  | some d => d.threshold.admits event.level
  | none => false

/-- The lines of the events that are shown. -/
def lines (filter : Filter) (events : List Event) : List String :=
  (events.filter filter.admits).map Event.line

/-- The filter for a threshold on all events. -/
def global (threshold : Threshold) : Filter :=
  [{ threshold }]

end Filter

end SolverDeck.Log
