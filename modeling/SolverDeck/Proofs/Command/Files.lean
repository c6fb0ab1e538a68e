import SolverDeck.Proofs.Command.ExitCode
import SolverDeck.Proofs.Command.Lines
import SolverDeck.Proofs.Command.Output
import SolverDeck.Proofs.Writing.Frame

/-!
# What a run leaves of the files

What a run shows of itself tells its user what became of the files (`Run.spares_files`). Faults of
the arguments and of the case are found before anything is touched; several sweeps cost no more
than the directory for the decks; and if a deck cannot be written, those before it are there in
full, and nothing else was touched.

All of this rests on one inversion of a run, which says that it either leaves the tree as it was,
or comes to write the decks of a store (`Course.reads_or_writes`). The lines of a report are taken
apart by how they begin, so a log line is never mistaken for a diagnostic (`Ending.tells_report`).
-/

namespace SolverDeck

/-- The files are those there were, each with the content it had. -/
def FileTree.SameFiles (tree after : FileTree) : Prop :=
  ∀ location content, after.find? location = some (.file content) ↔
    tree.find? location = some (.file content)

/-- The first decks of a plan, but not all of them, are there in full, and no file is different
but those they lead to. -/
def Plan.PartlyWritten (plan : Plan) (root : Path) (tree after : FileTree) : Prop :=
  ∃ done rest, plan.decks = done ++ rest ∧ rest ≠ [] ∧
    (∀ deck ∈ done, after.readText (root.join deck.path) = .ok deck.content) ∧
    ∀ location, (∀ deck ∈ done, after.locate (root.join deck.path) ≠ .ok location) →
      ∀ content, after.find? location = some (.file content) ↔
        tree.find? location = some (.file content)

/-! ### Decks that were written before one that could not be -/

theorem Deck.Writes.find?_of_not_among {root : Path} {tree after : FileTree} {decks : List Deck}
    (h : Deck.Writes root tree decks after) {location : Location}
    (hl : ∀ deck ∈ decks, after.locate (root.join deck.path) ≠ .ok location) :
    after.find? location = tree.find? location := by
  rcases h.changes.find? location with hsame | ⟨-, -, hno⟩ | ⟨-, _, -, deck, hdeck, hlocate, -⟩
  · exact hsame
  · cases hno
  · exact absurd hlocate (hl deck hdeck)

/-- Writing that is stopped by a deck leaves its plan partly written. -/
theorem Store.partlyWritten_of_deckFile {store : Store} {root : Path} {base : String}
    {tree : FileTree} {path : Path} {e : FileError}
    (h : (store.write FileTree.access root base tree).1.result = .error (.deckFile path e)) :
    (store.plan base).PartlyWritten root tree (store.write FileTree.access root base tree).2 := by
  have hgrows := FileTree.grows_ensureDirectory tree (root.join Deck.directory)
  rcases store.write_cases root base tree with ⟨_, _, -, hwrite⟩ | ⟨grown, hensure, hwrite⟩
  · rw [hwrite] at h
    cases h
  rw [hensure] at hgrows
  rw [hwrite] at h ⊢
  rcases (store.plan base).write_cases root grown with ⟨_, -, hplan⟩ |
    ⟨done, failing, rest, after, _, hdecks, hwrites, -, hplan⟩
  · rw [hplan] at h
    cases h
  rw [hplan]
  have hapart := store.apart_plan root base
  rw [hdecks] at hapart
  obtain ⟨hdone, -, -⟩ := List.pairwise_append.mp hapart
  refine ⟨done, failing :: rest, hdecks, List.cons_ne_nil _ _, hwrites.readText hdone, ?_⟩
  intro location hl content
  rw [hwrites.find?_of_not_among hl]
  exact hgrows.find?_file location content

namespace Command

/-! ### What reports tell -/

/-- A report has the line of a diagnostic whose placeholder begins so. -/
def Report.Tells (report : Report) (beginning : String) : Prop :=
  ∃ d : Diagnostic, d.line ∈ report.errors ∧ beginning.toList <+: d.placeholder.toList

/-- Beyond the log lines, a report tells what its last lines do. -/
theorem Report.Tells.of_append {report : Report} {log last : List String} {beginning : String}
    (h : report.Tells beginning) (hlog : ∀ line ∈ log, ∀ d : Diagnostic, line ≠ d.line)
    (herrors : report.errors = log ++ last) :
    ∃ d : Diagnostic, d.line ∈ last ∧ beginning.toList <+: d.placeholder.toList := by
  obtain ⟨d, hmem, hbegins⟩ := h
  rw [herrors, List.mem_append] at hmem
  rcases hmem with hmem | hmem
  · exact absurd rfl (hlog d.line hmem d)
  · exact ⟨d, hmem, hbegins⟩

theorem Failure.tells_report {failure : Failure} {log : List String} {beginning : String}
    (hlog : ∀ line ∈ log, ∀ d : Diagnostic, line ≠ d.line)
    (h : (failure.report log).Tells beginning) :
    ¬ Forks beginning failure.diagnostic.placeholder := by
  intro hforks
  obtain ⟨d, hmem, hbegins⟩ := h.of_append hlog (Run.errors_report log failure)
  rcases List.mem_cons.mp hmem with hline | hmem
  · exact Diagnostic.not_forks_of_line_eq hline (hforks.longer hbegins)
  · exact Diagnostic.exitLine_ne_line _ d (List.mem_singleton.mp hmem).symm

/-- What a report tells is the failure it is about. -/
theorem Ending.tells_report {ending : Ending} {log : List String} {broken : Option FileError}
    {beginning : String} (hlog : ∀ line ∈ log, ∀ d : Diagnostic, line ≠ d.line)
    (h : (ending.report log broken).Tells beginning) :
    ∃ failure : Failure, (ending = .failed failure ∨ ∃ e, failure = .output e) ∧
      ¬ Forks beginning failure.diagnostic.placeholder := by
  cases ending with
  | failed failure => exact ⟨failure, Or.inl rfl, Failure.tells_report hlog h⟩
  | rejected =>
      obtain ⟨d, hmem, -⟩ := h.of_append hlog (List.append_nil log).symm
      exact absurd hmem List.not_mem_nil
  | printed text printing =>
      rcases Ending.report_printed_cases text printing log broken with hreport | ⟨e, -, hreport⟩ |
        ⟨e, hreport⟩
      · rw [hreport] at h
        obtain ⟨d, hmem, -⟩ := h.of_append hlog (List.append_nil log).symm
        exact absurd hmem List.not_mem_nil
      · rw [hreport] at h
        exact ⟨.output e, Or.inr ⟨e, rfl⟩, Failure.tells_report hlog h⟩
      · rw [hreport] at h
        obtain ⟨d, hmem, -⟩ := h.of_append hlog rfl
        exact absurd (List.mem_singleton.mp hmem).symm (Diagnostic.breakLine_ne_line _ d)

theorem Run.tells_through {broken : Option FileError} {tree : FileTree}
    {setting : Option String} {arguments : List String} {beginning : String}
    (h : (Run.through broken tree setting arguments).report.Tells beginning) :
    ∃ failure : Failure,
      ((work FileTree.access arguments tree).1.ending = .failed failure ∨
        ∃ e, failure = .output e) ∧
      ¬ Forks beginning failure.diagnostic.placeholder := by
  refine Ending.tells_report ?_ h
  intro line hline d
  obtain ⟨event, -, rfl⟩ := List.mem_map.mp hline
  exact event.line_ne_line d

/-! ### What a run does -/

/-- Before the decks are written, it is the case file or the input that is at fault. -/
theorem opened_error_cases {tree : FileTree} {caseFile : Path} {given : Option String}
    {events : List Log.Event} {fault : Fault}
    (h : opened tree caseFile given = (events, .error fault)) :
    (∃ e, fault = .unreadableCase caseFile e) ∨ fault.category = .inputValidation := by
  rcases opened_cases h with ⟨_, hloaded, -, heq⟩ | ⟨c, -, hprepare⟩
  · cases heq
    unfold loaded at hloaded
    split at hloaded
    case _ e _ =>
        cases hloaded
        exact Or.inl ⟨e, rfl⟩
    case _ =>
        obtain ⟨refusal, rfl⟩ := Case.exists_refusal_of_parse hloaded
        exact Or.inr rfl
  · refine Or.inr ?_
    rcases prepare_cases given c with ⟨hnone, -⟩ | ⟨_, -, -, ⟨_, hfails, hunresolvable⟩ | ⟨hok, -⟩⟩
    · rw [hnone] at hprepare
      cases hprepare
      rfl
    · rw [hfails] at hprepare
      cases hprepare
      exact hunresolvable.category
    · rw [hok] at hprepare
      cases hprepare

/-- The tree is as it was, and the run was not stopped by a deck. -/
def ReadsOnly (tree : FileTree) (done : Worked × FileTree) : Prop :=
  done.2 = tree ∧ ∀ path e, done.1.ending ≠ .failed (.fault (.deckFile path e))

theorem shown_ne_failed (plan : Plan) (failure : Failure) :
    (shown plan).ending ≠ .failed failure := by
  cases plan <;> nofun

/-- **A run.** It leaves the tree as it was, or it comes to write the decks of a store. -/
theorem Course.reads_or_writes {tree : FileTree} {request : Except Complaint Request}
    {done : Worked × FileTree} (h : Course tree request done) :
    ReadsOnly tree done ∨
    ∃ verbose caseFile given root base, ∃ store : Store,
      request = .ok (.run verbose (.write caseFile given root)) ∧
      planned tree caseFile given = .ok (store.plan base) ∧
      done.1.ending = writtenEnding (store.write FileTree.access root base tree).1.result ∧
      done.2 = (store.write FileTree.access root base tree).2 := by
  cases h with
  | halted source opens =>
      refine Or.inl ⟨rfl, ?_⟩
      intro path e hending
      cases hending
      rcases opened_error_cases opens with ⟨_, hread⟩ | hcategory
      · cases hread
      · cases hcategory
  | showed opens =>
      exact Or.inl ⟨rfl, fun path e => shown_ne_failed _ _⟩
  | wrote opens root =>
      exact Or.inr ⟨_, _, _, root, _, _, rfl, planned_of_opened opens, rfl, rfl⟩
  | _ => exact Or.inl ⟨rfl, nofun⟩

/-! ### The files by the report -/

/-- What a run leaves of the files of a tree, by what it shows of itself. -/
structure Run.Spares (run : Run) (tree : FileTree) (request : Except Complaint Request) :
    Prop where
  /-- If the input is at fault, the files are those there were. -/
  faulty : run.report.code = 2 → tree.SameFiles run.files
  /-- A run that is not to write decks leaves everything as it was. -/
  reading : (∀ verbose caseFile given root,
    request ≠ .ok (.run verbose (.write caseFile given root))) → run.files = tree
  /-- So does a run that reports a fault of the input, or of the case file: not even a
  directory is made. -/
  early : run.report.Tells "INPUT." ∨ run.report.Tells "IO.CASE_READ" → run.files = tree
  /-- A run that reports that a deck cannot be written has written those before it. -/
  stopped : run.report.Tells "IO.DECK_WRITE" → ∃ verbose caseFile given root plan,
    request = .ok (.run verbose (.write caseFile given root)) ∧
    planned tree caseFile given = .ok plan ∧ plan.PartlyWritten root tree run.files

/-- No placeholder but its own is mistaken for that of a deck that cannot be written. -/
theorem Failure.forks_of_ne_deckFile {failure : Failure}
    (h : ∀ path e, failure ≠ .fault (.deckFile path e)) :
    Forks "IO.DECK_WRITE" failure.diagnostic.placeholder := by
  cases failure with
  | misuse complaint =>
      dsimp only [Failure.diagnostic]
      decide
  | output e =>
      dsimp only [Failure.diagnostic]
      decide
  | fault f =>
      cases f with
      | deckFile path e => exact absurd rfl (h path e)
      | _ =>
          dsimp only [Failure.diagnostic, Fault.diagnostic, Fault.placeholder]
          decide

/-- Only a run that is stopped by a deck reports that a deck cannot be written. -/
theorem Run.exists_deckFile_of_tells {broken : Option FileError} {tree : FileTree}
    {setting : Option String} {arguments : List String}
    (h : (Run.through broken tree setting arguments).report.Tells "IO.DECK_WRITE") :
    ∃ path e, (work FileTree.access arguments tree).1.ending =
      .failed (.fault (.deckFile path e)) := by
  obtain ⟨failure, hfailure, hforks⟩ := Run.tells_through h
  by_cases hdeck : ∃ path e, failure = .fault (.deckFile path e)
  · obtain ⟨path, e, rfl⟩ := hdeck
    rcases hfailure with hending | ⟨_, houtput⟩
    · exact ⟨path, e, hending⟩
    · cases houtput
  · refine absurd (Failure.forks_of_ne_deckFile ?_) hforks
    intro path e heq
    exact hdeck ⟨path, e, heq⟩

/-- A report with the code of faulty input is about a failure with that code, or about several
sweeps. -/
theorem Ending.cases_of_code_two {ending : Ending} {log : List String}
    {broken : Option FileError} (h : (ending.report log broken).code = 2) :
    ending = .rejected ∨ ∃ failure, ending = .failed failure ∧ failure.diagnostic.exitCode = 2 := by
  cases ending with
  | failed failure => exact Or.inr ⟨failure, rfl, h⟩
  | rejected => exact Or.inl rfl
  | printed text printing =>
      rcases Ending.report_printed_cases text printing log broken with hreport | ⟨e, -, hreport⟩ |
        ⟨e, hreport⟩
      · rw [hreport] at h
        cases h
      · rw [hreport] at h
        cases h
      · rw [hreport] at h
        cases h

/-- Writing that ends with the code of faulty input has written no deck. -/
theorem sameFiles_of_code_two {store : Store} {root : Path} {base : String} {tree : FileTree}
    {log : List String} {broken : Option FileError}
    (h : ((writtenEnding (store.write FileTree.access root base tree).1.result).report
      log broken).code = 2) :
    tree.SameFiles (store.write FileTree.access root base tree).2 := by
  have hcases := Ending.cases_of_code_two h
  rcases store.write_comes_to root base tree with ⟨e, hresult⟩ | ⟨deck, -, e, hresult⟩ |
    ⟨hwritten, -⟩
  · rw [hresult] at hcases
    rcases hcases with hrejected | ⟨_, hfailed, hcode⟩
    · cases hrejected
    · cases hfailed
      cases hcode
  · rw [hresult] at hcases
    rcases hcases with hrejected | ⟨_, hfailed, hcode⟩
    · cases hrejected
    · cases hfailed
      cases hcode
  · rw [hwritten] at hcases
    refine (Store.grows_write_of_no_decks (Or.inl ?_)).find?_file
    cases hplan : store.plan base with
    | rejected labels => rfl
    | _ =>
        rw [hplan] at hcases
        rcases hcases with hrejected | ⟨_, hfailed, -⟩
        · cases hrejected
        · cases hfailed

theorem writtenEnding_eq_failed {result : Except Fault Outcome} {fault : Fault}
    (h : writtenEnding result = .failed (.fault fault)) : result = .error fault := by
  cases result with
  | error other =>
      cases h
      rfl
  | ok outcome => cases outcome <;> cases h

/-- Once decks are to be written, no fault of the input or of the case file is reported. -/
theorem forks_of_write_failed {store : Store} {root : Path} {base : String} {tree : FileTree}
    {failure : Failure} {beginning : String}
    (hdirectory : Forks beginning "IO.DECK_DIRECTORY") (hdeck : Forks beginning "IO.DECK_WRITE")
    (h : writtenEnding (store.write FileTree.access root base tree).1.result = .failed failure) :
    Forks beginning failure.diagnostic.placeholder := by
  rcases store.write_comes_to root base tree with ⟨e, hresult⟩ | ⟨deck, -, e, hresult⟩ |
    ⟨hwritten, -⟩
  · rw [hresult] at h
    cases h
    exact hdirectory
  · rw [hresult] at h
    cases h
    exact hdeck
  · rw [hwritten] at h
    cases hplan : store.plan base <;> rw [hplan] at h <;> cases h

/-- A run that leaves the tree as it was spares it in every way. -/
theorem Run.spares_of_readsOnly {broken : Option FileError} {tree : FileTree}
    {setting : Option String} {arguments : List String}
    (h : ReadsOnly tree (work FileTree.access arguments tree)) :
    (Run.through broken tree setting arguments).Spares tree (Request.read arguments) where
  faulty := by
    intro _ location content
    have hfiles : (Run.through broken tree setting arguments).files = tree := h.1
    rw [hfiles]
  reading := fun _ => h.1
  early := fun _ => h.1
  stopped := by
    intro htells
    obtain ⟨path, e, hending⟩ := Run.exists_deckFile_of_tells htells
    exact absurd hending (h.2 path e)

/-- A run that comes to write decks tells of no fault but those of the directory, of a deck and of
the output. -/
theorem Run.not_tells_of_writes {store : Store} {root : Path} {base : String} {tree : FileTree}
    {broken : Option FileError} {setting : Option String} {arguments : List String}
    {beginning : String}
    (hending : (work FileTree.access arguments tree).1.ending =
      writtenEnding (store.write FileTree.access root base tree).1.result)
    (hdirectory : Forks beginning "IO.DECK_DIRECTORY") (hdeck : Forks beginning "IO.DECK_WRITE")
    (houtput : Forks beginning "IO.CLI") :
    ¬ (Run.through broken tree setting arguments).report.Tells beginning := by
  intro htells
  obtain ⟨failure, hfailure, hforks⟩ := Run.tells_through htells
  rcases hfailure with hfailed | ⟨e, rfl⟩
  · rw [hending] at hfailed
    exact hforks (forks_of_write_failed hdirectory hdeck hfailed)
  · exact hforks houtput

/-- What a run shows tells what it leaves of the files, whatever the log filter and the output. -/
theorem Run.spares_files (broken : Option FileError) (tree : FileTree) (setting : Option String)
    (arguments : List String) :
    (Run.through broken tree setting arguments).Spares tree (Request.read arguments) := by
  rcases (course_of_work arguments tree).reads_or_writes with hreads |
    ⟨verbose, caseFile, given, root, base, store, hread, hplan, hending, hleft⟩
  · exact Run.spares_of_readsOnly hreads
  have hfiles : (Run.through broken tree setting arguments).files =
      (store.write FileTree.access root base tree).2 := hleft
  refine ⟨?_, ?_, ?_, ?_⟩
  · intro hcode
    rw [Run.report_through, hending] at hcode
    rw [hfiles]
    exact sameFiles_of_code_two hcode
  · intro hno
    exact absurd hread (hno verbose caseFile given root)
  · -- The faults that can still come are those of the directory, of a deck and of the output.
    rintro (htells | htells)
    · exact absurd htells (Run.not_tells_of_writes hending (by decide) (by decide) (by decide))
    · exact absurd htells (Run.not_tells_of_writes hending (by decide) (by decide) (by decide))
  · intro htells
    obtain ⟨path, e, hfailed⟩ := Run.exists_deckFile_of_tells htells
    rw [hending] at hfailed
    rw [hfiles]
    exact ⟨verbose, caseFile, given, root, store.plan base, hread, hplan,
      Store.partlyWritten_of_deckFile (writtenEnding_eq_failed hfailed)⟩

/-- A tree with a case file in it, and a directory where the second of its two decks belongs. -/
def stoppedTree : FileTree :=
  { caseTree with entries := caseTree.entries ++
      [(["inputs", "w"], .directory), (["b-1.input", "inputs", "w"], .directory)] }

/-- The first of two decks is written before the second cannot be. -/
theorem Run.spares_files_stopped :
    (Run.through none stoppedTree none ["write", "c.json"]).report.errors =
      ["INFO writing deck path=./inputs/b-0.input", "INFO writing deck path=./inputs/b-1.input",
        "ERROR: [IO.DECK_WRITE] failed to write deck './inputs/b-1.input': " ++
          "Is a directory (os error 21)", "FATAL EXIT CODE: 3"] ∧
    (Run.through none stoppedTree none ["write", "c.json"]).files.readText "inputs/b-0.input" =
      .ok "g = 2\n" ∧
    ∃ verbose caseFile given root plan,
      Request.read ["write", "c.json"] = .ok (.run verbose (.write caseFile given root)) ∧
      planned stoppedTree caseFile given = .ok plan ∧
      plan.PartlyWritten root stoppedTree
        (Run.through none stoppedTree none ["write", "c.json"]).files := by
  have herrors : (Run.through none stoppedTree none ["write", "c.json"]).report.errors =
      ["INFO writing deck path=./inputs/b-0.input", "INFO writing deck path=./inputs/b-1.input",
        "ERROR: [IO.DECK_WRITE] failed to write deck './inputs/b-1.input': " ++
          "Is a directory (os error 21)", "FATAL EXIT CODE: 3"] := by decide +kernel
  refine ⟨herrors, by decide +kernel, (Run.spares_files none stoppedTree none _).stopped ?_⟩
  refine ⟨(Fault.deckFile "./inputs/b-1.input" .isADirectory).diagnostic, ?_, by decide⟩
  rw [herrors]
  decide +kernel

end Command

end SolverDeck
