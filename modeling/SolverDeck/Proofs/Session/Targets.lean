import SolverDeck.Proofs.Session.Steps

/-!
# The two stores of a session

Steps on the own store of a session and steps on the shared one may take turns in any way. Either
store comes out as if the steps that change it had been the only ones, and the same steps done
to the one or to the other get the same replies and write the same files
(`Session.targets_apart_and_alike`).

The first half rests on a description of what a step makes of a store that does not look at the
rest of the session (`Step.result`), so that a run is a fold of these (`storeOf_run`). The second
is a simulation: one session has in its own store what another has in the shared one
(`Mirrors`). Both leave out breaking off, after which the shared store is gone; the saved copy
goes back and forth between the stores, so the first leaves that out too.
-/

namespace SolverDeck

namespace Session

/-! ### What steps do to a store -/

/-- Does an action use the saved copy? -/
def Action.usesCopy : Action → Bool
  | .saveCopy | .equalsCopy | .restoreCopy => true
  | _ => false

/-- Can an action change the store? -/
def Action.mutates : Action → Bool
  | .register .. | .set .. | .apply _ | .reset | .restoreCopy => true
  | _ => false

/-- What an action makes of a store, if it does not use the saved copy. -/
def Action.result : Action → Store → Store
  | .register label value, store => store.register label value
  | .set field value, store => store.set field value
  | .apply c, store => c.applyTo store
  | .reset, _ => .empty
  | _, store => store

/-- Does a step neither break off nor use the saved copy? -/
def Step.isPlain : Step → Bool
  | .on _ action => !action.usesCopy
  | .breakOff => false
  | _ => true

/-- Can a step change the store of a target? -/
def Step.mutates (target : Target) : Step → Bool
  | .on other action => decide (other = target) && action.mutates
  | _ => false

/-- What a plain step makes of the store of a target. -/
def Step.result (target : Target) : Step → Store → Store
  | .on other action => if other = target then action.result else id
  | _ => id

variable {s t : Session} {target other : Target} {store : Store} {action : Action} {step : Step}
  {steps : List Step}

theorem Action.result_of_not_mutates (h : action.mutates = false) : action.result = id := by
  cases action with
  | register | set | apply | reset | restoreCopy => cases h
  | dump | scalar | sweep | isEmpty | saveCopy | equalsCopy | plan | write => rfl

theorem Step.result_of_not_mutates (h : step.mutates target = false) : step.result target = id := by
  cases step with
  | on other action =>
      by_cases htarget : other = target
      · rw [Step.mutates, decide_eq_true htarget, Bool.true_and] at h
        rw [Step.result, if_pos htarget, Action.result_of_not_mutates h]
      · rw [Step.result, if_neg htarget]
  | breakOff | makeDirectory | makeFile | loadCase | listFiles => rfl

theorem map_result_of_not_mutates (h : step.mutates target = false) (e : Except Fault Store) :
    e.map (step.result target) = e := by
  rw [Step.result_of_not_mutates h, Except.map_id, id_eq]

theorem storeOf_act_self (hs : s.storeOf target = .ok store) (h : action.usesCopy = false) :
    (s.act target store action).1.storeOf target = .ok (action.result store) := by
  cases action with
  | register | set | apply | reset => exact storeOf_withStore ..
  | write => exact (storeOf_withFiles ..).trans hs
  | dump | scalar | sweep | isEmpty | plan => exact hs
  | saveCopy | equalsCopy | restoreCopy => cases h

theorem storeOf_act_of_ne (h : other ≠ target) (store : Store) (action : Action) :
    (s.act target store action).1.storeOf other = s.storeOf other := by
  cases action with
  | register | set | apply | reset | restoreCopy => exact storeOf_withStore_of_ne h ..
  | write => exact storeOf_withFiles ..
  | saveCopy => exact storeOf_withCopy ..
  | dump | scalar | sweep | isEmpty | equalsCopy | plan => rfl

/-- **One step.** What it makes of a store depends on nothing else in the session. -/
theorem storeOf_perform (h : step.isPlain = true) :
    (s.perform step).1.storeOf target = (s.storeOf target).map (step.result target) := by
  cases step with
  | on other action =>
      have hcopy : action.usesCopy = false := by simpa [Step.isPlain] using h
      by_cases htarget : other = target
      · subst htarget
        rw [Step.result, if_pos rfl]
        cases hs : s.storeOf other with
        | ok store =>
            rw [perform_on hs, storeOf_act_self hs hcopy]
            rfl
        | error fault =>
            rw [perform_on_of_error hs, hs]
            rfl
      · -- The step is on the other store, and may well be refused there.
        rw [map_result_of_not_mutates (by simp [Step.mutates, htarget])]
        cases hs : s.storeOf other with
        | ok store => rw [perform_on hs, storeOf_act_of_ne (Ne.symm htarget)]
        | error fault => rw [perform_on_of_error hs]
  | breakOff => cases h
  | makeDirectory | makeFile =>
      rw [map_result_of_not_mutates rfl]
      exact storeOf_withFiles ..
  | loadCase path =>
      rw [map_result_of_not_mutates rfl, perform]
      split <;> rfl
  | listFiles => exact (map_result_of_not_mutates rfl _).symm

theorem storeOf_perform_of_not_mutates (s : Session) (h : step.isPlain = true)
    (hmutates : step.mutates target = false) :
    (s.perform step).1.storeOf target = s.storeOf target := by
  rw [storeOf_perform h, map_result_of_not_mutates hmutates]

/-- **A run.** A store goes through the results of the steps, one after the other. -/
theorem storeOf_run (h : ∀ step ∈ steps, step.isPlain = true) :
    (s.run steps).1.storeOf target =
      (s.storeOf target).map fun store =>
        steps.foldl (fun st step => step.result target st) store := by
  induction steps generalizing s with
  | nil =>
      rw [run_nil]
      exact (congrFun Except.map_id _).symm
  | cons step steps ih =>
      rw [run_cons, ih fun other hother => h other (List.mem_cons_of_mem step hother),
        storeOf_perform (h step List.mem_cons_self)]
      cases s.storeOf target <;> rfl

theorem foldl_result_filter (target : Target) (steps : List Step) (store : Store) :
    (steps.filter (·.mutates target)).foldl (fun st step => step.result target st) store =
      steps.foldl (fun st step => step.result target st) store := by
  rw [List.foldl_filter]
  congr 1
  funext st step
  cases h : step.mutates target with
  | true => rfl
  | false =>
      rw [Step.result_of_not_mutates h]
      rfl

/-! ### The same steps on either store -/

/-- The step, done to the store of a target if it acts on a store. -/
def Step.onto (target : Target) : Step → Step
  | .on _ action => .on target action
  | step => step

/-- One session has in its own store what the other has in the shared one, and the same besides. -/
structure Mirrors (s t : Session) : Prop where
  shared : t.shared = .usable s.own
  copy : t.copy = s.copy
  files : t.files = s.files

theorem Mirrors.act (h : s.Mirrors t) (action : Action) :
    (s.act .own s.own action).2 = (t.act .shared s.own action).2 ∧
      (s.act .own s.own action).1.Mirrors (t.act .shared s.own action).1 := by
  obtain ⟨own, shared, copy, files⟩ := s
  obtain ⟨own', shared', copy', files'⟩ := t
  obtain ⟨hshared, hcopy, hfiles⟩ := h
  dsimp only at hshared hcopy hfiles
  subst hshared hcopy hfiles
  cases action <;> exact ⟨rfl, rfl, rfl, rfl⟩

/-- **One step on either.** It gets the same reply, and leaves sessions that mirror each other. -/
theorem Mirrors.perform (h : s.Mirrors t) (hstep : step ≠ .breakOff) :
    (s.perform (step.onto .own)).2 = (t.perform (step.onto .shared)).2 ∧
      (s.perform (step.onto .own)).1.Mirrors (t.perform (step.onto .shared)).1 := by
  cases step with
  | on other action =>
      have hs : s.storeOf .own = .ok s.own := rfl
      have ht : t.storeOf .shared = .ok s.own := by rw [storeOf, h.shared]; rfl
      rw [Step.onto, Step.onto, perform_on hs, perform_on ht]
      exact h.act action
  | breakOff => exact absurd rfl hstep
  | makeDirectory path =>
      simp only [Step.onto, Session.perform, h.files, true_and]
      exact ⟨h.shared, h.copy, rfl⟩
  | makeFile path content =>
      simp only [Step.onto, Session.perform, h.files, true_and]
      exact ⟨h.shared, h.copy, rfl⟩
  | loadCase path =>
      simp only [Step.onto, Session.perform, h.files]
      split <;> exact ⟨rfl, h⟩
  | listFiles =>
      simp only [Step.onto, Session.perform, h.files, true_and]
      exact h

/-- **All steps on either.** -/
theorem Mirrors.run (h : s.Mirrors t) (hsteps : ∀ step ∈ steps, step ≠ .breakOff) :
    (s.run (steps.map (·.onto .own))).2 = (t.run (steps.map (·.onto .shared))).2 ∧
      (s.run (steps.map (·.onto .own))).1.Mirrors (t.run (steps.map (·.onto .shared))).1 := by
  induction steps generalizing s t with
  | nil => exact ⟨rfl, h⟩
  | cons step steps ih =>
      obtain ⟨hreply, hnext⟩ := h.perform (hsteps step List.mem_cons_self)
      obtain ⟨hreplies, hlast⟩ :=
        ih hnext fun other hother => hsteps other (List.mem_cons_of_mem step hother)
      refine ⟨?_, hlast⟩
      rw [List.map_cons, List.map_cons, run_cons, run_cons, hreply, hreplies]

/-! ### Apart and alike -/

/-- After steps on both stores, in any turns, each store is what the steps that can change it make
of it when they are the only ones, in any session that begins with the same store; planning and
writing decks of a store changes neither. The same steps on the own store alone and on the shared
store alone, from the same store and files on, get the same replies with the same events, and
leave the same store and files. -/
theorem targets_apart_and_alike (s : Session) (plain : ∀ step ∈ steps, step.isPlain = true) :
    (∀ (target : Target) (t : Session), t.storeOf target = s.storeOf target →
      (s.run steps).1.storeOf target =
        (t.run (steps.filter (·.mutates target))).1.storeOf target) ∧
    (∀ (t : Session) (target other : Target) (root : Path) (base : String),
      (t.perform (.on other (.plan base))).1.storeOf target = t.storeOf target ∧
        (t.perform (.on other (.write root base))).1.storeOf target = t.storeOf target) ∧
    (s.shared = .usable s.own →
      (s.run (steps.map (·.onto .own))).2 = (s.run (steps.map (·.onto .shared))).2 ∧
        (s.run (steps.map (·.onto .shared))).1.shared =
          .usable (s.run (steps.map (·.onto .own))).1.own ∧
        (s.run (steps.map (·.onto .shared))).1.files =
          (s.run (steps.map (·.onto .own))).1.files) := by
  refine ⟨?_, ?_, ?_⟩
  · intro target t ht
    have hplain : ∀ step ∈ steps.filter (·.mutates target), step.isPlain = true := by
      intro step hstep
      exact plain step (List.mem_filter.mp hstep).1
    rw [storeOf_run plain, storeOf_run hplain, ht]
    simp only [foldl_result_filter]
  · intro t target other root base
    exact ⟨storeOf_perform_of_not_mutates t rfl (Bool.and_false _),
      storeOf_perform_of_not_mutates t rfl (Bool.and_false _)⟩
  · intro hstart
    have hmirrors : s.Mirrors s := ⟨hstart, rfl, rfl⟩
    have hsteps : ∀ step ∈ steps, step ≠ .breakOff := by
      rintro step hstep rfl
      exact absurd (plain _ hstep) Bool.false_ne_true
    obtain ⟨hreplies, hlast⟩ := hmirrors.run hsteps
    exact ⟨hreplies, hlast.shared, hlast.files⟩

/-- Steps on both stores in turns, one of which applies a case that is stopped halfway. -/
def stepsInTurns : List Step :=
  [.on .own (.register "a" (.int 1)),
    .on .shared (.register "a" (.list [.int 2, .int 3])),
    .on .own (.plan "d"),
    .on .shared (.apply ⟨none, [⟨none, some "c", .bool true⟩, ⟨none, none, .int 4⟩]⟩),
    .on .own (.write "" "d"),
    .on .own (.register "b" (.int 5)),
    .on .shared (.write "r" "d")]

/-- The stores after steps in turns, and the replies to all of them on one store. -/
theorem targets_apart_and_alike_turns :
    ((fresh (.fresh ["w"])).run stepsInTurns).1.storeOf .own =
        .ok ⟨[⟨"a", .int 1⟩, ⟨"b", .int 5⟩], []⟩ ∧
      ((fresh (.fresh ["w"])).run stepsInTurns).1.storeOf .shared =
        .ok ⟨[⟨"c", .bool true⟩], [⟨"a", [.int 2, .int 3]⟩]⟩ ∧
      ((fresh (.fresh ["w"])).run (stepsInTurns.map (·.onto .own))).2 =
        ((fresh (.fresh ["w"])).run (stepsInTurns.map (·.onto .shared))).2 := by
  have hplain : ∀ step ∈ stepsInTurns, step.isPlain = true := by decide
  obtain ⟨happart, -, halike⟩ := targets_apart_and_alike (fresh (.fresh ["w"])) hplain
  refine ⟨?_, ?_, (halike rfl).1⟩
  · rw [happart .own (fresh (.fresh ["w"])) rfl]
    rfl
  · rw [happart .shared (fresh (.fresh ["w"])) rfl]
    rfl

end Session

end SolverDeck
