import Mathlib.Tactic.Common
import SolverDeck.Proofs.Command.Course

/-!
# Output that refuses

A run prints at its end, if at all, and then its output may refuse what is printed. Its work is
done by that time, so the files are the same whether or not the output takes it.

Where printing is guarded, as for the decks that are shown and the list of fields, the run fails
like any other, with a diagnostic of its own. What is printed about decks that were written, the
help and the version are printed bare. Refusing that breaks the run off with a code that no
diagnostic has (`report_of_refused_output`, `write_breaks_off`).
-/

namespace SolverDeck.Command

/-! ### How requests print -/

/-- How a request prints what it has to say. -/
def Request.printing : Request → Printing
  | run _ (.preview ..) | run _ .fields => .guarded
  | run _ (.write ..) | help _ | version => .bare

section

variable {tree : FileTree} {task : Task} {text : String} {printing : Printing}

theorem writtenEnding_eq_printed {result : Except Fault Outcome}
    (h : writtenEnding result = .printed text printing) : printing = .bare := by
  cases result with
  | error fault => cases h
  | ok outcome =>
      cases outcome with
      | rejected labels => cases h
      | _ =>
          cases h
          rfl

theorem shown_eq_printed {plan : Plan} (h : (shown plan).ending = .printed text printing) :
    printing = .guarded := by
  cases plan with
  | rejected labels => cases h
  | _ =>
      cases h
      rfl

/-- A task about a case prints only if there was no fault at its beginning. -/
theorem opened_of_printed {caseFile : Path} {given : Option String}
    (hsource : task.source? = some (caseFile, given))
    (h : (runTask FileTree.access task tree).1.ending = .printed text printing) :
    ∃ events base store, opened tree caseFile given = (events, .ok (base, store)) := by
  cases hopened : opened tree caseFile given with
  | mk events result =>
      cases result with
      | error fault =>
          rw [runTask_of_error hsource hopened] at h
          cases h
      | ok found => exact ⟨events, found.1, found.2, rfl⟩

/-- A task prints in one way, whatever it prints. -/
theorem printing_of_runTask (h : (runTask FileTree.access task tree).1.ending =
    .printed text printing) (verbose : Bool) : (Request.run verbose task).printing = printing := by
  cases task with
  | fields =>
      cases h
      rfl
  | write caseFile given root =>
      obtain ⟨events, base, store, hopened⟩ := opened_of_printed rfl h
      rw [runTask_write hopened root] at h
      exact (writtenEnding_eq_printed h).symm
  | preview caseFile given =>
      obtain ⟨events, base, store, hopened⟩ := opened_of_printed rfl h
      rw [runTask_preview hopened] at h
      exact (shown_eq_printed h).symm

theorem printing_of_work {arguments : List String}
    (h : (work FileTree.access arguments tree).1.ending = .printed text printing) :
    ∃ request, Request.read arguments = .ok request ∧ request.printing = printing := by
  unfold work at h
  cases hread : Request.read arguments with
  | error complaint =>
      rw [hread] at h
      cases h
  | ok request =>
      rw [hread] at h
      refine ⟨request, rfl, ?_⟩
      cases request with
      | run verbose task => exact printing_of_runTask h verbose
      | help topic =>
          cases h
          rfl
      | version =>
          cases h
          rfl

end

/-! ### Runs whose output refuses -/

/-- A code that some diagnostic ends a run with. -/
def Stable (code : Nat) : Prop :=
  ∃ category : Diagnostic.Category, category.exitCode = code

/-- The output failed, and that is reported like other failures of the system. -/
structure Report.TellsOutput (report : Report) (error : FileError) : Prop where
  /-- The exit code is that of the system. -/
  code : report.code = 3
  /-- Nothing was printed. -/
  output : report.output = ""
  /-- The failure is the last thing that is reported. -/
  errors : ∃ log, report.errors = log ++
    ["ERROR: [IO.CLI] failed to write to stdout: " ++ error.message, "FATAL EXIT CODE: 3"]

/-- The run broke off when the output failed, without a diagnostic. -/
structure Report.BreaksOff (report : Report) (error : FileError) : Prop where
  /-- The exit code is that of a run that breaks off. -/
  code : report.code = 101
  /-- Nothing was printed. -/
  output : report.output = ""
  /-- The reason is the last thing that is seen. -/
  errors : ∃ log, report.errors = log ++ ["failed printing to stdout: " ++ error.message]

/-- What the user sees when the output refuses, beside what is seen when it takes all. -/
inductive Refused (error : FileError) (request : Except Complaint Request)
    (taken refused : Report) : Prop
  /-- There is nothing to print, and no difference. -/
  | silent (output : taken.output = "") (same : refused = taken)
  /-- Printing is guarded, and the run fails. -/
  | guarded (r : Request) (output : taken.output ≠ "") (reads : request = .ok r)
      (printing : r.printing = .guarded) (tells : refused.TellsOutput error)
  /-- Printing is bare, and the run breaks off. -/
  | bare (r : Request) (output : taken.output ≠ "") (reads : request = .ok r)
      (printing : r.printing = .bare) (breaks : refused.BreaksOff error)

theorem not_stable_brokenOffCode : ¬ Stable 101 := by
  rintro ⟨category, hcode⟩
  cases category <;> cases hcode

theorem Ending.stable_report (ending : Ending) (log : List String) :
    Stable (ending.report log none).code := by
  cases ending with
  | printed text printing => exact ⟨.success, rfl⟩
  | rejected => exact ⟨.inputValidation, rfl⟩
  | failed failure => exact ⟨failure.diagnostic.category, rfl⟩

/-- What a run shows that has something to print: it is printed, or the output refuses it. -/
theorem Ending.report_printed_cases (text : String) (printing : Printing) (log : List String)
    (broken : Option FileError) :
    (printed text printing).report log broken = ⟨0, text, log⟩ ∨
      (∃ e, broken = some e ∧
        (printed text printing).report log broken = (Failure.output e).report log) ∨
      ∃ e : FileError, (printed text printing).report log broken =
        ⟨brokenOffCode, "", log ++ ["failed printing to stdout: " ++ e.message]⟩ := by
  cases broken with
  | none => exact Or.inl rfl
  | some e =>
      by_cases htext : text.isEmpty = true
      · refine Or.inl ?_
        cases printing <;> simp [Ending.report, htext]
      · cases printing with
        | guarded => exact Or.inr (Or.inl ⟨e, rfl, by simp [Ending.report, htext]⟩)
        | bare => exact Or.inr (Or.inr ⟨e, by simp [Ending.report, htext]⟩)

theorem tellsOutput_report (log : List String) (error : FileError) :
    ((Failure.output error).report log).TellsOutput error where
  code := rfl
  output := rfl
  errors := by
    have hline : (Failure.output error).diagnostic.line =
        "ERROR: [IO.CLI] failed to write to stdout: " ++ error.message := by
      simp only [Failure.diagnostic, Diagnostic.line, ← String.append_assoc]
      rfl
    have hexit : "FATAL EXIT CODE: " ++ toString (3 : Nat) = "FATAL EXIT CODE: 3" := by decide
    refine ⟨log, ?_⟩
    rw [Run.errors_report, hline, ← hexit]
    rfl

/-- What an ending shows to an output that refuses, by the way in which it prints. -/
theorem Ending.refused_report {request : Except Complaint Request} {ending : Ending}
    (hprinting : ∀ text printing, ending = .printed text printing →
      ∃ r, request = .ok r ∧ r.printing = printing)
    (error : FileError) (log : List String) :
    Refused error request (ending.report log none) (ending.report log (some error)) := by
  cases ending with
  | failed failure => exact .silent rfl rfl
  | rejected => exact .silent rfl rfl
  | printed text printing =>
      obtain ⟨r, hreads, hr⟩ := hprinting text printing rfl
      by_cases htext : text.isEmpty = true
      · refine .silent (String.isEmpty_iff.mp htext) ?_
        cases printing <;> simp only [Ending.report, htext, if_true]
      · have hspeaks : text ≠ "" := fun e => htext (String.isEmpty_iff.mpr e)
        cases printing with
        | guarded =>
            refine .guarded r hspeaks hreads hr ?_
            simp only [Ending.report, htext]
            exact tellsOutput_report log error
        | bare =>
            refine .bare r hspeaks hreads hr ?_
            simp only [Ending.report, htext]
            exact ⟨rfl, rfl, log, rfl⟩

/-- An output that takes all never keeps a run from one of the stable codes. One that refuses
changes nothing about the files, and nothing at all if there is nothing to print. Else it makes
a run fail whose printing is guarded, and breaks off one that prints bare. -/
theorem report_of_refused_output (error : FileError) (tree : FileTree) (setting : Option String)
    (arguments : List String) :
    (Run.through (some error) tree setting arguments).files =
        (Run.of tree setting arguments).files ∧
      Stable (Run.of tree setting arguments).report.code ∧
      Refused error (Request.read arguments) (Run.of tree setting arguments).report
        (Run.through (some error) tree setting arguments).report :=
  ⟨rfl, Ending.stable_report _ _, Ending.refused_report (fun _ _ => printing_of_work) error _⟩

/-- The decks were written, but the run breaks off with a code that is not stable. -/
theorem write_breaks_off :
    (Run.of caseTree none ["write", "c.json"]).report.output =
        "Wrote 2 deck file(s):\n  ./inputs/b-0.input\n  ./inputs/b-1.input\n" ∧
      (Run.through (some .noSpace) caseTree none ["write", "c.json"]).files.readText
        "inputs/b-1.input" = .ok "g = x\n" ∧
      (Run.through (some .noSpace) caseTree none ["write", "c.json"]).report.code = 101 ∧
      ¬ Stable (Run.through (some .noSpace) caseTree none ["write", "c.json"]).report.code := by
  have hcode :
      (Run.through (some .noSpace) caseTree none ["write", "c.json"]).report.code = 101 := by
    decide +kernel
  refine ⟨by decide +kernel, by decide +kernel, hcode, ?_⟩
  rw [hcode]
  exact not_stable_brokenOffCode

end SolverDeck.Command
