import SolverDeck.Command.Run
import SolverDeck.Proofs.Writing.Course

/-!
# The course of a run

Showing decks and writing them begin alike: the case is read, the base is found and the
store is filled (`opened`). A fault in that ends both (`runTask_of_error`). Only then one of
them shows the plan, and the other writes it (`runTask_preview`, `runTask_write`). With the
requests that need no case, these are all the ways in which a run can go (`course_of_work`).

`Run.of` puts the parts of a run together. What the user sees of it follows from how it
ended: `Run.fails_of_ending`, `Run.refuses_of_ending` and `Run.report_of_printed`.
-/

namespace SolverDeck.Command

/-! ### The common beginning -/

/-- The case that a file of a tree holds. -/
def loaded (tree : FileTree) (caseFile : Path) : Except Fault Case :=
  match tree.readText caseFile with
  | .error e => .error (.unreadableCase caseFile e)
  | .ok text => Case.parse text

/-- What is found before any deck is shown or written: the events of filling the store, and
the base with the store. -/
def opened (tree : FileTree) (caseFile : Path) (given : Option String) :
    List Log.Event × Except Fault (String × Store) :=
  match loaded tree caseFile with
  | .error fault => ([], .error fault)
  | .ok c => prepare given c

/-- The decks that a case makes. -/
def planned (tree : FileTree) (caseFile : Path) (given : Option String) : Except Fault Plan :=
  (opened tree caseFile given).2.map fun (base, store) => store.plan base

/-- Reading a case leaves the files alone. -/
theorem load_access (tree : FileTree) (caseFile : Path) :
    Case.load FileTree.access caseFile tree = (loaded tree caseFile, tree) := by
  have haccess : FileTree.access.readText caseFile tree = (tree.readText caseFile, tree) := rfl
  simp only [Case.load, loaded, bind, StateT.bind, haccess]
  cases tree.readText caseFile <;> rfl

/-- The case file that a task is about, and the base that is given with it. -/
def Task.source? : Task → Option (Path × Option String)
  | write caseFile given _ | preview caseFile given => some (caseFile, given)
  | fields => none

section

variable {tree : FileTree} {caseFile : Path} {given : Option String} {events : List Log.Event}
  {fault : Fault} {base : String} {store : Store}

/-- Either the case file holds no case, or what is found depends on the case alone. -/
theorem opened_cases {result : Except Fault (String × Store)}
    (h : opened tree caseFile given = (events, result)) :
    (∃ fault, loaded tree caseFile = .error fault ∧ events = [] ∧ result = .error fault) ∨
      ∃ c, loaded tree caseFile = .ok c ∧ prepare given c = (events, result) := by
  unfold opened at h
  cases hloaded : loaded tree caseFile with
  | error fault =>
      rw [hloaded] at h
      cases h
      exact Or.inl ⟨fault, rfl, rfl, rfl⟩
  | ok c =>
      rw [hloaded] at h
      exact Or.inr ⟨c, rfl, h⟩

/-- A fault at the beginning ends every task that is about a case, with the files as they
were. -/
theorem runTask_of_error {task : Task} (hsource : task.source? = some (caseFile, given))
    (h : opened tree caseFile given = (events, .error fault)) :
    runTask FileTree.access task tree = (⟨events, .failed (.fault fault)⟩, tree) := by
  rcases opened_cases h with ⟨_, hloaded, rfl, heq⟩ | ⟨c, hloaded, hprepare⟩
  · cases heq
    cases task <;> cases hsource <;>
      simp only [runTask, runPreview, runWrite, bind, StateT.bind, load_access, hloaded] <;> rfl
  · cases task <;> cases hsource <;>
      simp only [runTask, runPreview, runWrite, bind, StateT.bind, load_access, hloaded,
        hprepare] <;> rfl

theorem exists_loaded_of_opened_ok
    (h : opened tree caseFile given = (events, .ok (base, store))) :
    ∃ c, loaded tree caseFile = .ok c ∧ prepare given c = (events, .ok (base, store)) := by
  rcases opened_cases h with ⟨_, _, _, heq⟩ | hcase
  · cases heq
  · exact hcase

theorem runTask_preview (h : opened tree caseFile given = (events, .ok (base, store))) :
    runTask FileTree.access (.preview caseFile given) tree =
      (⟨events ++ (shown (store.plan base)).events, (shown (store.plan base)).ending⟩, tree) := by
  obtain ⟨c, hloaded, hprepare⟩ := exists_loaded_of_opened_ok h
  simp only [runTask, runPreview, bind, StateT.bind, load_access, hloaded, hprepare]
  rfl

theorem runTask_write (h : opened tree caseFile given = (events, .ok (base, store)))
    (root : Path) :
    runTask FileTree.access (.write caseFile given root) tree =
      (⟨events ++ (store.write FileTree.access root base tree).1.events,
        writtenEnding (store.write FileTree.access root base tree).1.result⟩,
      (store.write FileTree.access root base tree).2) := by
  obtain ⟨c, hloaded, hprepare⟩ := exists_loaded_of_opened_ok h
  simp only [runTask, runWrite, bind, StateT.bind, load_access, hloaded, hprepare]
  rfl

theorem planned_of_opened (h : opened tree caseFile given = (events, .ok (base, store))) :
    planned tree caseFile given = .ok (store.plan base) := by
  rw [planned, h]
  rfl

end

/-! ### The ways of a run -/

/-- How the work of a run goes on a tree, by what was asked for, and what it leaves. -/
inductive Course (tree : FileTree) : Except Complaint Request → Worked × FileTree → Prop
  /-- The arguments are at fault. -/
  | misused (complaint : Complaint) :
      Course tree (.error complaint) (⟨[], .failed (.misuse complaint)⟩, tree)
  | helped (topic : Topic) :
      Course tree (.ok (.help topic)) (⟨[], .printed topic.helpText .bare⟩, tree)
  | versioned : Course tree (.ok .version) (⟨[], .printed versionText .bare⟩, tree)
  | listed (verbose : Bool) :
      Course tree (.ok (.run verbose .fields)) (⟨[], .printed fieldsText .guarded⟩, tree)
  /-- A fault at the beginning ends a task that is about a case. -/
  | halted {verbose : Bool} {task : Task} {caseFile : Path} {given : Option String}
      {events : List Log.Event} {fault : Fault} (source : task.source? = some (caseFile, given))
      (opens : opened tree caseFile given = (events, .error fault)) :
      Course tree (.ok (.run verbose task)) (⟨events, .failed (.fault fault)⟩, tree)
  /-- The plan is shown. -/
  | showed {verbose : Bool} {caseFile : Path} {given : Option String} {events : List Log.Event}
      {base : String} {store : Store}
      (opens : opened tree caseFile given = (events, .ok (base, store))) :
      Course tree (.ok (.run verbose (.preview caseFile given)))
        (⟨events ++ (shown (store.plan base)).events, (shown (store.plan base)).ending⟩, tree)
  /-- The plan is written. -/
  | wrote {verbose : Bool} {caseFile : Path} {given : Option String} {events : List Log.Event}
      {base : String} {store : Store}
      (opens : opened tree caseFile given = (events, .ok (base, store))) (root : Path) :
      Course tree (.ok (.run verbose (.write caseFile given root)))
        (⟨events ++ (store.write FileTree.access root base tree).1.events,
          writtenEnding (store.write FileTree.access root base tree).1.result⟩,
        (store.write FileTree.access root base tree).2)

theorem course_of_runTask (verbose : Bool) (task : Task) (tree : FileTree) :
    Course tree (.ok (.run verbose task)) (runTask FileTree.access task tree) := by
  cases task with
  | fields => exact .listed verbose
  | preview caseFile given =>
      rcases hopened : opened tree caseFile given with ⟨events, fault | ⟨base, store⟩⟩
      · rw [runTask_of_error rfl hopened]
        exact .halted rfl hopened
      · rw [runTask_preview hopened]
        exact .showed hopened
  | write caseFile given root =>
      rcases hopened : opened tree caseFile given with ⟨events, fault | ⟨base, store⟩⟩
      · rw [runTask_of_error rfl hopened]
        exact .halted rfl hopened
      · rw [runTask_write hopened root]
        exact .wrote hopened root

/-- **A run.** Its work goes in one of these ways. -/
theorem course_of_work (arguments : List String) (tree : FileTree) :
    Course tree (Request.read arguments) (work FileTree.access arguments tree) := by
  unfold work
  cases Request.read arguments with
  | error complaint => exact .misused complaint
  | ok request =>
      cases request with
      | help topic => exact .helped topic
      | version => exact .versioned
      | run verbose task => exact course_of_runTask verbose task tree

/-! ### Plans that are carried out -/

/-- What is shown of a plan that is not refused. -/
theorem ending_shown {plan : Plan} (h : ∀ labels, plan ≠ .rejected labels) :
    (shown plan).ending =
      .printed (String.join (plan.decks.map fun deck =>
        "# " ++ deck.path ++ "\n" ++ deck.content)) .guarded := by
  cases plan with
  | rejected labels => exact absurd rfl (h labels)
  | _ => rfl

/-- What writing reports when it comes to the outcome of a plan. -/
theorem writtenEnding_outcome {plan : Plan} (h : ∀ labels, plan ≠ .rejected labels) (root : Path) :
    writtenEnding (.ok (plan.outcome root)) =
      .printed ("Wrote " ++ toString plan.decks.length ++ " deck file(s):\n" ++
        String.join (plan.decks.map fun deck => "  " ++ root.join deck.path ++ "\n")) .bare := by
  cases plan with
  | single deck => rfl
  | sweep label decks =>
      simp only [writtenEnding, writtenText, Plan.outcome, Outcome.paths,
        Plan.decks, List.map_map, List.length_map]
      rfl
  | rejected labels => exact absurd rfl (h labels)

/-! ### Runs -/

/-- A run of the program that came to its end. -/
structure Run where
  /-- The work that was done. -/
  worked : Worked
  /-- What the user sees. -/
  report : Report
  /-- The files that are left. -/
  files : FileTree

/-- The run with the given arguments on a tree, `setting` being the user's log filter. The
output fails with `broken` as soon as anything is printed, or takes all of it if there is no
such error. -/
def Run.through (broken : Option FileError) (tree : FileTree) (setting : Option String)
    (arguments : List String) : Run :=
  let (worked, files) := work FileTree.access arguments tree
  ⟨worked, reportOf arguments setting broken worked, files⟩

/-- The same run with an output that takes all that is printed. -/
def Run.of (tree : FileTree) (setting : Option String) (arguments : List String) : Run :=
  Run.through none tree setting arguments

theorem Run.through_none (tree : FileTree) (setting : Option String) (arguments : List String) :
    Run.through none tree setting arguments = Run.of tree setting arguments := rfl

/-- Arguments that ask for a task have it done, and are of no other use to the work. -/
theorem work_of_read {arguments : List String} {verbose : Bool} {task : Task}
    (h : Request.read arguments = .ok (.run verbose task)) (tree : FileTree) :
    work FileTree.access arguments tree = runTask FileTree.access task tree := by
  unfold work
  rw [h]

namespace Run

/-- A run fails: nothing is printed, and after some log lines comes the line of the failure,
and one with the exit code. -/
structure Fails (run : Run) (failure : Failure) : Prop where
  /-- That is how the work ended. -/
  ending : run.worked.ending = .failed failure
  /-- The exit code is that of the failure. -/
  code : run.report.code = failure.diagnostic.exitCode
  /-- Nothing is printed. -/
  output : run.report.output = ""
  /-- The failure is the last thing that is reported. -/
  errors : ∃ log, run.report.errors =
    log ++ [failure.diagnostic.line, "FATAL EXIT CODE: " ++ toString run.report.code]

/-- A run refuses to go on because there are several sweeps, under these labels. -/
structure Refuses (run : Run) (labels : List String) : Prop where
  /-- That is how the work ended. -/
  ending : run.worked.ending = .rejected
  /-- The last event tells the labels. -/
  event : ∃ before origin, run.worked.events = before ++ [.severalSweeps origin labels]
  /-- The exit code is that of faulty input. -/
  code : run.report.code = 2
  /-- Nothing is printed. -/
  output : run.report.output = ""

variable {tree : FileTree} {setting : Option String} {arguments : List String} {verbose : Bool}

/-- The arguments of a run ask for a task, and the task is done. -/
theorem of_read {task : Task} (h : Request.read arguments = .ok (.run verbose task))
    (tree : FileTree) (setting : Option String) :
    (Run.of tree setting arguments).worked = (runTask FileTree.access task tree).1 ∧
      (Run.of tree setting arguments).files = (runTask FileTree.access task tree).2 := by
  unfold Run.of Run.through
  rw [work_of_read h]
  exact ⟨rfl, rfl⟩

theorem isFatal_diagnostic (failure : Failure) :
    failure.diagnostic.category.isFatal = true := by
  cases failure with
  | misuse complaint => rfl
  | fault f => cases f <;> rfl
  | output e => rfl

theorem lines_diagnostic (failure : Failure) :
    failure.diagnostic.lines =
      [failure.diagnostic.line, "FATAL EXIT CODE: " ++ toString failure.diagnostic.exitCode] := by
  simp only [Diagnostic.lines, Diagnostic.exitLine?, isFatal_diagnostic, if_true,
    Option.toList_some]

theorem errors_report (log : List String) (failure : Failure) :
    (failure.report log).errors = log ++ [failure.diagnostic.line,
      "FATAL EXIT CODE: " ++ toString (failure.report log).code] := by
  simp only [Failure.report, lines_diagnostic]

/-- What the user sees is decided by the ending, the log lines apart. -/
theorem report_of (tree : FileTree) (setting : Option String) (arguments : List String) :
    ∃ log, (Run.of tree setting arguments).report =
      (Run.of tree setting arguments).worked.ending.report log none :=
  ⟨_, rfl⟩

/-- What was logged stands before all else that a run reports, and has no part in it. -/
theorem report_after_log (ending : Ending) (broken : Option FileError) :
    ∃ code output last, ∀ log, ending.report log broken = ⟨code, output, log ++ last⟩ := by
  cases ending with
  | failed failure => exact ⟨_, _, _, fun log => rfl⟩
  | rejected => exact ⟨rejectedCode, "", [], by simp [Ending.report]⟩
  | printed text printing =>
      cases broken with
      | none => exact ⟨0, text, [], by simp [Ending.report]⟩
      | some e =>
          by_cases htext : text.isEmpty = true
          · refine ⟨0, text, [], ?_⟩
            intro log
            cases printing <;> simp [Ending.report, htext]
          · cases printing with
            | guarded =>
                refine ⟨(Failure.output e).diagnostic.exitCode, "",
                  (Failure.output e).diagnostic.lines, ?_⟩
                simp [Ending.report, htext, Failure.report]
            | bare =>
                refine ⟨brokenOffCode, "", ["failed printing to stdout: " ++ e.message], ?_⟩
                simp [Ending.report, htext]

theorem report_through (broken : Option FileError) (tree : FileTree) (setting : Option String)
    (arguments : List String) :
    (Run.through broken tree setting arguments).report =
      (work FileTree.access arguments tree).1.ending.report
        ((Log.Filter.ofSetting setting (isVerbose arguments)).lines
          (work FileTree.access arguments tree).1.events) broken := rfl

/-- Runs that end alike show the same exit code and the same output. -/
theorem through_congr {other : FileTree} {more : List String} (broken : Option FileError)
    (setting filter : Option String)
    (h : (work FileTree.access arguments tree).1.ending =
      (work FileTree.access more other).1.ending) :
    (Run.through broken tree setting arguments).report.code =
        (Run.through broken other filter more).report.code ∧
      (Run.through broken tree setting arguments).report.output =
        (Run.through broken other filter more).report.output := by
  obtain ⟨code, output, last, hreport⟩ :=
    report_after_log (work FileTree.access more other).1.ending broken
  rw [report_through, report_through, h, hreport, hreport]
  exact ⟨rfl, rfl⟩

theorem fails_of_ending {failure : Failure}
    (h : (Run.of tree setting arguments).worked.ending = .failed failure) :
    (Run.of tree setting arguments).Fails failure := by
  obtain ⟨log, hreport⟩ := Run.report_of tree setting arguments
  rw [h] at hreport
  refine ⟨h, ?_, ?_, log, ?_⟩
  · rw [hreport]
    rfl
  · rw [hreport]
    rfl
  · rw [hreport]
    exact errors_report log failure

theorem Fails.code_ne_zero {run : Run} {failure : Failure} (h : run.Fails failure) :
    run.report.code ≠ 0 := by
  have hfatal := isFatal_diagnostic failure
  rw [h.code, Diagnostic.exitCode]
  cases hcategory : failure.diagnostic.category with
  | success =>
      rw [hcategory] at hfatal
      cases hfatal
  | _ => decide

theorem report_of_rejected (h : (Run.of tree setting arguments).worked.ending = .rejected) :
    (Run.of tree setting arguments).report.code = 2 ∧
      (Run.of tree setting arguments).report.output = "" := by
  obtain ⟨log, hreport⟩ := Run.report_of tree setting arguments
  rw [h] at hreport
  rw [hreport]
  exact ⟨rfl, rfl⟩

theorem refuses_of_ending (before : List Log.Event) (origin : Log.Origin) {labels : List String}
    (hevents : (Run.of tree setting arguments).worked.events =
      before ++ [.severalSweeps origin labels])
    (hending : (Run.of tree setting arguments).worked.ending = .rejected) :
    (Run.of tree setting arguments).Refuses labels := by
  obtain ⟨hcode, houtput⟩ := report_of_rejected hending
  exact ⟨hending, ⟨before, origin, hevents⟩, hcode, houtput⟩

theorem report_of_printed {text : String} {printing : Printing}
    (h : (Run.of tree setting arguments).worked.ending = .printed text printing) :
    (Run.of tree setting arguments).report.code = 0 ∧
      (Run.of tree setting arguments).report.output = text := by
  obtain ⟨log, hreport⟩ := Run.report_of tree setting arguments
  rw [h] at hreport
  rw [hreport]
  exact ⟨rfl, rfl⟩

end Run

/-- A tree with a case file in it. -/
def caseTree : FileTree :=
  ⟨[(["c.json", "w"], .file
    "\x7b\"base\":\"b\",\"parameters\":[\x7b\"label\":\"g\",\"value\":[2,\"x\"]\x7d]\x7d".toUTF8),
    (["w"], .directory)], ["w"]⟩

end SolverDeck.Command
