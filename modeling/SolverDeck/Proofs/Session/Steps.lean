import SolverDeck.Session

/-!
# Steps of a session

The own store and the shared one are reached in different ways, but what a step does is the same:
it acts on the store of its target if that can be had (`perform_on`), and else it is refused and
nothing happens (`perform_on_of_error`). What is proved about steps rests on these two and does
not look at the ways in.
-/

namespace SolverDeck

namespace SharedStore

theorem eq_usable_of_snapshot {shared : SharedStore} {store : Store}
    (h : shared.snapshot = .ok store) : shared = .usable store := by
  cases shared with
  | usable other =>
      cases h
      rfl
  | poisoned => cases h

theorem eq_poisoned_of_snapshot {shared : SharedStore} {fault : Fault}
    (h : shared.snapshot = .error fault) : shared = .poisoned ∧ fault = .poisonedStore := by
  cases shared with
  | usable store => cases h
  | poisoned =>
      cases h
      exact ⟨rfl, rfl⟩

end SharedStore

namespace Session

variable {s : Session} {target other : Target} {store : Store} {fault : Fault}

/-! ### Stores -/

@[simp] theorem storeOf_withStore (s : Session) (target : Target) (store : Store) :
    (s.withStore target store).storeOf target = .ok store := by
  cases target <;> rfl

theorem storeOf_withStore_of_ne (h : other ≠ target) (s : Session) (store : Store) :
    (s.withStore target store).storeOf other = s.storeOf other := by
  cases target with
  | own =>
      cases other with
      | own => exact absurd rfl h
      | shared => rfl
  | shared =>
      cases other with
      | own => rfl
      | shared => exact absurd rfl h

@[simp] theorem storeOf_withCopy (s : Session) (copy : Store) (target : Target) :
    storeOf { s with copy := copy } target = s.storeOf target := by
  cases target <;> rfl

@[simp] theorem storeOf_withFiles (s : Session) (files : FileTree) (target : Target) :
    storeOf { s with files := files } target = s.storeOf target := by
  cases target <;> rfl

/-! ### Single steps -/

/-- **A step on a store.** Whichever the target is, the step acts on its store. -/
theorem perform_on (hs : s.storeOf target = .ok store) (action : Action) :
    s.perform (.on target action) = s.act target store action := by
  cases target with
  | own =>
      cases hs
      rfl
  | shared =>
      obtain ⟨own, shared, copy, files⟩ := s
      obtain rfl := SharedStore.eq_usable_of_snapshot hs
      -- Every way in locks the store, and puts back what the action made of it.
      cases action <;> rfl

/-- **A refused step.** Without a store there is no action, no event and no change. -/
theorem perform_on_of_error (hs : s.storeOf target = .error fault) (action : Action) :
    s.perform (.on target action) = (s, ⟨.fault fault, []⟩) := by
  cases target with
  | own => cases hs
  | shared =>
      obtain ⟨own, shared, copy, files⟩ := s
      obtain ⟨rfl, rfl⟩ := SharedStore.eq_poisoned_of_snapshot hs
      -- Every way in asks for the lock first.
      cases action <;> rfl

/-! ### Runs -/

@[simp] theorem run_nil (s : Session) : s.run [] = (s, []) := rfl

theorem run_cons (s : Session) (step : Step) (steps : List Step) :
    s.run (step :: steps) =
      (((s.perform step).1.run steps).1,
        (s.perform step).2 :: ((s.perform step).1.run steps).2) := rfl

theorem run_append (s : Session) (first second : List Step) :
    s.run (first ++ second) =
      (((s.run first).1.run second).1, (s.run first).2 ++ ((s.run first).1.run second).2) := by
  induction first generalizing s with
  | nil => rfl
  | cons step first ih => rw [List.cons_append, run_cons, run_cons, ih, List.cons_append]

theorem length_replies (s : Session) (steps : List Step) :
    (s.run steps).2.length = steps.length := by
  induction steps generalizing s with
  | nil => rfl
  | cons step steps ih => rw [run_cons, List.length_cons, List.length_cons, ih]

end Session

end SolverDeck
