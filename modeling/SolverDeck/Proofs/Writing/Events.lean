import Mathlib.Data.List.Forall2
import SolverDeck.Proofs.Writing.Decks

/-!
# What writing reports

The event of a deck is raised before the deck is written. So a deck that cannot be written has an
event too, the last one, while it is not among those that were written; and a plan that makes no
deck has one event that says why, or none if it was never looked at.

`Store.Reports` puts the events beside the result and the files that are left, with one
constructor for each way in which writing can end, and `Store.write_reports` says that there is no
other.
-/

namespace SolverDeck

/-! ### Events -/

/-- An event of the writer, as a log shows it. -/
structure Log.Event.FromWriter (event : Log.Event) (level : Log.Level) (message : String)
    (fields : List (String × String)) : Prop where
  origin_eq : event.origin = .writer
  level_eq : event.level = level
  message_eq : event.message = message
  fields_eq : event.fields = fields

/-- Events that say of each of the paths, in order, that the deck there is being written. -/
def Log.Announced (paths : List Path) (events : List Log.Event) : Prop :=
  List.Forall₂ (fun path event => event.FromWriter .info "writing deck" [("path", path)]) paths
    events

theorem Deck.announced_map_event (root : Path) (decks : List Deck) :
    Log.Announced (decks.map fun d => root.join d.path) (decks.map (Deck.event root)) := by
  induction decks with
  | nil => exact .nil
  | cons deck decks ih => exact .cons ⟨rfl, rfl, rfl, rfl⟩ ih

/-- A plan that makes decks raises their events and no other. -/
theorem Plan.events_of_ne_nil {plan : Plan} (h : plan.decks ≠ []) (root : Path) :
    plan.events root = plan.decks.map (Deck.event root) := by
  cases plan with
  | single deck => rfl
  | sweep label decks =>
      cases decks with
      | nil => exact absurd rfl h
      | cons deck decks => rfl
  | rejected labels => exact absurd rfl h

/-! ### Plans that make no deck -/

namespace Store

variable {store : Store} {base : String}

theorem labels_of_plan_rejected {labels : List String} (h : store.plan base = .rejected labels) :
    labels = store.sweeps.map (·.label) ∧ 2 ≤ labels.length := by
  rcases hsweeps : store.sweeps with _ | ⟨sweep, _ | ⟨other, sweeps⟩⟩
  · simp [plan, hsweeps] at h
  · simp [plan, hsweeps] at h
  · simp only [plan, hsweeps, Plan.rejected.injEq] at h
    subst h
    simp

theorem sweeps_of_plan_sweep {label : String} (h : store.plan base = .sweep label []) :
    store.sweeps = [⟨label, []⟩] := by
  rcases hsweeps : store.sweeps with _ | ⟨⟨swept, values⟩, _ | ⟨other, sweeps⟩⟩
  · simp [plan, hsweeps] at h
  · simp only [plan, hsweeps, Plan.sweep.injEq, List.mapIdx_eq_nil_iff] at h
    rw [h.1, h.2]
  · simp [plan, hsweeps] at h

/-! ### Writing -/

/-- What writing can come to: its events and its result, and the tree that is left. -/
inductive Reports (store : Store) (root : Path) (base : String) (tree : FileTree) :
    Written Outcome → FileTree → Prop
  /-- There is no directory for the decks, and no event. -/
  | noDirectory {grown : FileTree} {e : FileError}
      (ensured : tree.ensureDirectory (root.join Deck.directory) = (.error e, grown)) :
      Reports store root base tree ⟨[], .error (.deckDirectory (root.join Deck.directory) e)⟩ grown
  /-- There are several sweeps, and one event that names and counts them. -/
  | refused {grown : FileTree} {labels : List String} {event : Log.Event}
      (ensured : tree.ensureDirectory (root.join Deck.directory) = (.ok (), grown))
      (planned : store.plan base = .rejected labels)
      (all : labels = store.sweeps.map (·.label)) (several : 2 ≤ labels.length)
      (told : event.FromWriter .error
        ("only one parameter sweep is supported per deck set; found " ++ toString labels.length)
        [("sweeps", Text.quotedList labels)]) :
      Reports store root base tree ⟨[event], .ok (.rejected labels)⟩ grown
  /-- The only sweep has no values, and one event says so. -/
  | nothing {grown : FileTree} {label : String} {event : Log.Event}
      (ensured : tree.ensureDirectory (root.join Deck.directory) = (.ok (), grown))
      (planned : store.plan base = .sweep label []) (empty : store.sweeps = [⟨label, []⟩])
      (told : event.FromWriter .warn "sweep has no values; no decks written" [("label", label)]) :
      Reports store root base tree ⟨[event], .ok (.sweep label [])⟩ grown
  /-- All decks were written, each with an event of its own. -/
  | all {grown after : FileTree} {outcome : Outcome} {events : List Log.Event}
      (ensured : tree.ensureDirectory (root.join Deck.directory) = (.ok (), grown))
      (makes : (store.plan base).decks ≠ [])
      (writes : Deck.Writes root grown (store.plan base).decks after)
      (full : ∀ d ∈ (store.plan base).decks,
        after.readText (root.join d.path) = .ok d.content)
      (paths : outcome.paths = (store.plan base).decks.map fun d => root.join d.path)
      (told : Log.Announced outcome.paths events) :
      Reports store root base tree ⟨events, .ok outcome⟩ after
  /-- A deck cannot be written. The events are of those before it, which were written, and of it;
  those behind it have none. -/
  | upTo {grown after : FileTree} {done rest : List Deck} {failing : Deck} {e : FileError}
      {events : List Log.Event}
      (ensured : tree.ensureDirectory (root.join Deck.directory) = (.ok (), grown))
      (decks : (store.plan base).decks = done ++ failing :: rest)
      (writes : Deck.Writes root grown done after)
      (full : ∀ d ∈ done, after.readText (root.join d.path) = .ok d.content)
      (fails : after.writeText (root.join failing.path) failing.content = (.error e, after))
      (told : Log.Announced
        ((done.map fun d => root.join d.path) ++ [root.join failing.path]) events) :
      Reports store root base tree ⟨events, .error (.deckFile (root.join failing.path) e)⟩ after

variable {root : Path} {tree grown after : FileTree}

/-- A plan without decks is refused, or it is that of an empty sweep. -/
theorem reports_of_no_decks
    (hensured : tree.ensureDirectory (root.join Deck.directory) = (.ok (), grown))
    (hnone : (store.plan base).decks = []) :
    store.Reports root base tree
      ⟨(store.plan base).events root, .ok ((store.plan base).outcome root)⟩ grown := by
  cases hplan : store.plan base with
  | single deck =>
      rw [hplan] at hnone
      cases hnone
  | sweep label decks =>
      obtain rfl : decks = [] := by rwa [hplan] at hnone
      exact .nothing hensured hplan (sweeps_of_plan_sweep hplan) ⟨rfl, rfl, rfl, rfl⟩
  | rejected labels =>
      obtain ⟨hall, hseveral⟩ := labels_of_plan_rejected hplan
      exact .refused hensured hplan hall hseveral ⟨rfl, rfl, rfl, rfl⟩

theorem reports_of_writes
    (hensured : tree.ensureDirectory (root.join Deck.directory) = (.ok (), grown))
    (hwrites : Deck.Writes root grown (store.plan base).decks after) :
    store.Reports root base tree
      ⟨(store.plan base).events root, .ok ((store.plan base).outcome root)⟩ after := by
  by_cases hnone : (store.plan base).decks = []
  · rw [hnone] at hwrites
    cases hwrites
    exact reports_of_no_decks hensured hnone
  · have hpaths := Plan.paths_outcome root (store.plan base)
    refine .all hensured hnone hwrites (hwrites.readText (store.apart_plan root base)) hpaths ?_
    rw [hpaths, Plan.events_of_ne_nil hnone]
    exact Deck.announced_map_event root _

theorem reports_of_fails {done rest : List Deck} {failing : Deck} {e : FileError}
    (hensured : tree.ensureDirectory (root.join Deck.directory) = (.ok (), grown))
    (hdecks : (store.plan base).decks = done ++ failing :: rest)
    (hwrites : Deck.Writes root grown done after)
    (hfails : after.writeText (root.join failing.path) failing.content = (.error e, after)) :
    store.Reports root base tree
      ⟨(done ++ [failing]).map (Deck.event root),
        .error (.deckFile (root.join failing.path) e)⟩ after := by
  have hapart := store.apart_plan root base
  rw [hdecks] at hapart
  obtain ⟨hdone, -, -⟩ := List.pairwise_append.mp hapart
  refine .upTo hensured hdecks hwrites (hwrites.readText hdone) hfails ?_
  have htold := Deck.announced_map_event root (done ++ [failing])
  rwa [List.map_append, List.map_singleton] at htold

/-- Writing reports what it does and nothing else: no event if the directory cannot be made; one
error for a plan that is refused, one warning for an empty sweep; and else one event for each deck
that it sets about, in order, the last being that of the deck that stopped it, if one did. -/
theorem write_reports (store : Store) (root : Path) (base : String) (tree : FileTree) :
    store.Reports root base tree (store.write FileTree.access root base tree).1
      (store.write FileTree.access root base tree).2 := by
  rcases store.write_cases root base tree with ⟨e, grown, hensured, hwrite⟩ |
    ⟨grown, hensured, hwrite⟩
  · rw [hwrite]
    exact .noDirectory hensured
  rw [hwrite]
  rcases (store.plan base).write_cases root grown with ⟨after, hwrites, hplan⟩ |
    ⟨done, failing, rest, after, e, hdecks, hwrites, hfails, hplan⟩
  · rw [hplan]
    exact reports_of_writes hensured hwrites
  · rw [hplan]
    exact reports_of_fails hensured hdecks hwrites hfails

/-- A deck that cannot be written has an event all the same. -/
example : (ofTwoDecks.write FileTree.access "" "b" blockedTree).1.events.map Log.Event.line =
    ["INFO writing deck path=inputs/b-0.input", "INFO writing deck path=inputs/b-1.input"] := by
  decide +kernel

end Store

end SolverDeck
