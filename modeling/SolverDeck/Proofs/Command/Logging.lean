import SolverDeck.Proofs.Command.Course
import SolverDeck.Proofs.Command.Verbose
import SolverDeck.Proofs.Log.Filter

/-!
# Logging keeps the results

What a run does to the files and how it ends is settled by its task alone, before any event is
filtered. The log filter and the verbose flag only choose among the lines of the events that were
raised anyway (`Run.SameButLog`), and after these lines a run tells the same. So neither of them
has a way into the results (`logging_keeps_results`), whatever the files hold, whether the run ends
well, and whether the output takes what is printed.
-/

namespace SolverDeck.Command

/-- Two runs did the same work and show the same results. On the error output they tell the same,
after lines of events which may be others of those that were raised. -/
structure Run.SameButLog (run other : Run) : Prop where
  /-- The same events were raised, and the work ended alike. -/
  worked : run.worked = other.worked
  /-- The exit codes are the same. -/
  code : run.report.code = other.report.code
  /-- The same is printed. -/
  output : run.report.output = other.report.output
  /-- The same files are left. -/
  files : run.files = other.files
  /-- Only which events are shown may differ. -/
  errors : ∃ log otherLog last,
    run.report.errors = log ++ last ∧ other.report.errors = otherLog ++ last ∧
      log.Sublist (run.worked.events.map Log.Event.line) ∧
      otherLog.Sublist (run.worked.events.map Log.Event.line)

/-- Arguments that lead to the same work lead to the same results. -/
theorem Run.sameButLog_of_work {arguments others : List String} {tree : FileTree}
    (h : work FileTree.access others tree = work FileTree.access arguments tree)
    (broken : Option FileError) (setting filter : Option String) :
    (Run.through broken tree setting arguments).SameButLog
      (Run.through broken tree filter others) := by
  obtain ⟨code, output, last, hreport⟩ :=
    Run.report_after_log (work FileTree.access arguments tree).1.ending broken
  have hfirst := Run.report_through broken tree setting arguments
  have hsecond := Run.report_through broken tree filter others
  rw [hreport] at hfirst
  rw [h, hreport] at hsecond
  refine ⟨congrArg Prod.fst h.symm, ?_, ?_, congrArg Prod.snd h.symm, ?_⟩
  · rw [hfirst, hsecond]
  · rw [hfirst, hsecond]
  · rw [hfirst, hsecond]
    exact ⟨_, _, last, rfl, rfl, Log.Filter.lines_sublist _ _, Log.Filter.lines_sublist _ _⟩

/-- The log filter does not change the results of a task, and neither does a verbose flag beside
the subcommand. -/
theorem logging_keeps_results {arguments : List String} {verbose : Bool} {task : Task}
    (hreads : Request.read arguments = .ok (.run verbose task)) (broken : Option FileError)
    (tree : FileTree) (setting filter : Option String) :
    (Run.through broken tree setting arguments).SameButLog
        (Run.through broken tree filter arguments) ∧
      ∀ louder, verbose = false → MadeVerbose arguments louder →
        Request.read louder = .ok (.run true task) ∧
          (Run.through broken tree setting arguments).SameButLog
            (Run.through broken tree filter louder) := by
  refine ⟨Run.sameButLog_of_work rfl broken setting filter, ?_⟩
  intro louder hquiet hmade
  subst hquiet
  have hlouder := read_madeVerbose hreads hmade
  have hwork : work FileTree.access louder tree = work FileTree.access arguments tree := by
    rw [work_of_read hlouder, work_of_read hreads]
  exact ⟨hlouder, Run.sameButLog_of_work hwork broken setting filter⟩

/-- Decks that cannot be shown, because the output is full: the flag shows an event more. -/
theorem logging_keeps_results_full :
    Request.read ["preview", "c.json"] = .ok (.run false (.preview "c.json" none)) ∧
      MadeVerbose ["preview", "c.json"] ["preview", "--verbose", "c.json"] ∧
      (Run.through (some .noSpace) caseTree none ["preview", "c.json"]).report.errors =
        ["ERROR: [IO.CLI] failed to write to stdout: No space left on device (os error 28)",
          "FATAL EXIT CODE: 3"] ∧
      (Run.through (some .noSpace) caseTree none ["preview", "--verbose", "c.json"]).report.errors =
        ["DEBUG registering sweep label=g count=2",
          "ERROR: [IO.CLI] failed to write to stdout: No space left on device (os error 28)",
          "FATAL EXIT CODE: 3"] ∧
      (Run.through (some .noSpace) caseTree none ["preview", "c.json"]).SameButLog
        (Run.through (some .noSpace) caseTree none ["preview", "--verbose", "c.json"]) := by
  have hreads : Request.read ["preview", "c.json"] =
      .ok (.run false (.preview "c.json" none)) := by decide +kernel
  have hmade : MadeVerbose ["preview", "c.json"] ["preview", "--verbose", "c.json"] :=
    @MadeVerbose.behind [] ["c.json"] "preview" "--verbose" (by simp) (by decide) (by decide)
  refine ⟨hreads, hmade, by decide +kernel, by decide +kernel, ?_⟩
  exact ((logging_keeps_results hreads (some .noSpace) caseTree none none).2 _ rfl hmade).2

end SolverDeck.Command
