import SolverDeck.Proofs.Session.Steps

/-!
# After an update broke off

An update of the shared store that breaks off poisons it, and no step mends that. From then on
every step on it is refused, before it reaches a parameter or a file, and leaves the whole session
as it was. So all other steps go on as if the refused ones were left out
(`Session.poisoned_for_good`).

The invariant is that the store is poisoned. It is kept because only steps on the shared store
touch that (`shared_perform`), and those are refused (`perform_of_usesShared`). The replies to a
run are therefore put together from the refusals and from the replies to the run without the
refused steps (`Refusing`), by one induction over the steps.
-/

namespace SolverDeck

namespace Session

/-- Does a step work with the shared store? An update that breaks off does. -/
def Step.usesShared : Step → Bool
  | .on .shared _ | .breakOff => true
  | _ => false

/-- Steps on a poisoned store among others: the replies to all of them, which are refusals and the
replies to the others, in the order of the steps. -/
inductive Refusing : List Step → (others replies : List Reply) → Prop
  | nil : Refusing [] [] []
  /-- A step on the shared store is refused, and raises no event. -/
  | onShared {action : Action} {steps : List Step} {others replies : List Reply}
      (rest : Refusing steps others replies) :
      Refusing (.on .shared action :: steps) others (⟨.fault .poisonedStore, []⟩ :: replies)
  /-- An update is refused before it can break off. -/
  | breakOff {steps : List Step} {others replies : List Reply}
      (rest : Refusing steps others replies) :
      Refusing (.breakOff :: steps) others (⟨.brokenOff false, []⟩ :: replies)
  | other {step : Step} {reply : Reply} {steps : List Step} {others replies : List Reply}
      (apart : step.usesShared = false) (rest : Refusing steps others replies) :
      Refusing (step :: steps) (reply :: others) (reply :: replies)

variable {s : Session} {step : Step}

/-! ### Single steps -/

theorem storeOf_shared_of_poisoned (h : s.shared = .poisoned) :
    s.storeOf .shared = .error .poisonedStore := by
  rw [storeOf, h]
  rfl

/-- However it was before, the shared store is poisoned by an update that breaks off. -/
theorem shared_perform_breakOff (s : Session) : (s.perform .breakOff).1.shared = .poisoned := by
  obtain ⟨own, shared, copy, files⟩ := s
  cases shared <;> rfl

theorem update_of_poisoned {α : Type} (h : s.shared = .poisoned)
    (change : Store → Written α × Store) :
    s.shared.update change = (⟨[], .error .poisonedStore⟩, s.shared) := by
  rw [h]
  rfl

theorem perform_breakOff_of_poisoned (h : s.shared = .poisoned) :
    s.perform .breakOff = (s, ⟨.brokenOff false, []⟩) := by
  rw [perform, h]

/-- **A refused step.** It leaves the session as it was, its files included. -/
theorem perform_of_usesShared (h : s.shared = .poisoned) (hstep : step.usesShared = true) :
    (s.perform step).1 = s := by
  cases step with
  | on target action =>
      cases target with
      | own => cases hstep
      | shared => rw [perform_on_of_error (storeOf_shared_of_poisoned h)]
  | breakOff => rw [perform_breakOff_of_poisoned h]
  | makeDirectory | makeFile | loadCase | listFiles => cases hstep

/-- **Any other step.** It does not touch the shared store. -/
theorem shared_perform (s : Session) (hstep : step.usesShared = false) :
    (s.perform step).1.shared = s.shared := by
  cases step with
  | on target action =>
      cases target with
      | own => cases action <;> rfl
      | shared => cases hstep
  | breakOff => cases hstep
  | makeDirectory | makeFile | listFiles => rfl
  | loadCase path =>
      rw [perform]
      split <;> rfl

/-! ### Runs -/

/-- The shared store stays poisoned. -/
theorem shared_run_of_poisoned (h : s.shared = .poisoned) (steps : List Step) :
    (s.run steps).1.shared = .poisoned := by
  induction steps generalizing s with
  | nil => exact h
  | cons step steps ih =>
      rw [run_cons]
      cases hstep : step.usesShared with
      | true => exact ih ((perform_of_usesShared h hstep).symm ▸ h)
      | false => exact ih ((s.shared_perform hstep).trans h)

/-- **All steps.** The run is the one without the refused steps, and the replies are its replies
with the refusals between them. -/
theorem run_of_poisoned (h : s.shared = .poisoned) (steps : List Step) :
    (s.run steps).1 = (s.run (steps.filter (!·.usesShared))).1 ∧
      Refusing steps (s.run (steps.filter (!·.usesShared))).2 (s.run steps).2 := by
  induction steps generalizing s with
  | nil => exact ⟨rfl, .nil⟩
  | cons step steps ih =>
      cases hstep : step.usesShared with
      | true =>
          -- The session is as before, so the rest of the run is too.
          have hsame := perform_of_usesShared h hstep
          obtain ⟨hlast, hreplies⟩ := ih h
          rw [List.filter_cons_of_neg (by simp [hstep]), run_cons, hsame]
          refine ⟨hlast, ?_⟩
          cases step with
          | on target action =>
              cases target with
              | own => cases hstep
              | shared =>
                  rw [perform_on_of_error (storeOf_shared_of_poisoned h)]
                  exact .onShared hreplies
          | breakOff =>
              rw [perform_breakOff_of_poisoned h]
              exact .breakOff hreplies
          | makeDirectory | makeFile | loadCase | listFiles => cases hstep
      | false =>
          obtain ⟨hlast, hreplies⟩ := ih ((s.shared_perform hstep).trans h)
          rw [List.filter_cons_of_pos (by simp [hstep]), run_cons, run_cons]
          exact ⟨hlast, .other hstep hreplies⟩

/-- After an update of the shared store broke off, and whatever steps came then, the store is out
of reach: everything done with it fails in the same way, raises no event and changes nothing, the
files included. No update gets as far as its change, be it one that would break off. The other
steps are replied to as in the run without the steps on the shared store, and come to the same
session. -/
theorem poisoned_for_good (s : Session) (before after : List Step) :
    (∀ action, (s.run (before ++ .breakOff :: after)).1.perform (.on .shared action) =
      ((s.run (before ++ .breakOff :: after)).1, ⟨.fault .poisonedStore, []⟩)) ∧
    (∀ {α : Type} (change : Store → Written α × Store),
      (s.run (before ++ .breakOff :: after)).1.shared.update change =
        (⟨[], .error .poisonedStore⟩, (s.run (before ++ .breakOff :: after)).1.shared)) ∧
    (s.run (before ++ .breakOff :: after)).1.perform .breakOff =
      ((s.run (before ++ .breakOff :: after)).1, ⟨.brokenOff false, []⟩) ∧
    Fault.poisonedStore.diagnostic = ⟨.internal, "SYS.GLOBAL_STORE",
      "process-wide parameter store is poisoned by an earlier panic"⟩ ∧
    (s.run (before ++ .breakOff :: after)).1 =
      (s.run (before ++ .breakOff :: after.filter (!·.usesShared))).1 ∧
    ∃ first others replies, first.length = before.length + 1 ∧
      (s.run (before ++ .breakOff :: after)).2 = first ++ replies ∧
      (s.run (before ++ .breakOff :: after.filter (!·.usesShared))).2 = first ++ others ∧
      Refusing after others replies := by
  have hrun : ∀ steps, s.run (before ++ .breakOff :: steps) =
      (((s.run (before ++ [.breakOff])).1.run steps).1,
        (s.run (before ++ [.breakOff])).2 ++ ((s.run (before ++ [.breakOff])).1.run steps).2) := by
    intro steps
    rw [List.append_cons, run_append]
  have hbroken : (s.run (before ++ [.breakOff])).1.shared = .poisoned := by
    rw [run_append]
    exact shared_perform_breakOff _
  rw [hrun after, hrun (after.filter _)]
  have hlater := shared_run_of_poisoned hbroken after
  obtain ⟨hlast, hreplies⟩ := run_of_poisoned hbroken after
  refine ⟨perform_on_of_error (storeOf_shared_of_poisoned hlater),
    update_of_poisoned hlater, perform_breakOff_of_poisoned hlater, rfl, hlast, ?_⟩
  refine ⟨(s.run (before ++ [.breakOff])).2, _, _, ?_, rfl, rfl, hreplies⟩
  rw [length_replies, List.length_append, List.length_singleton]

end Session

end SolverDeck
