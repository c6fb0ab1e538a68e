import SolverDeck.Proofs.Command.Course
import SolverDeck.Proofs.Writing.Decks
import SolverDeck.Proofs.Writing.Frame

/-!
# Showing decks foretells writing them

Decks are shown and written by two commands that share only their beginning. Still, in the
same tree and for the same case and base, the one tells what the other does
(`preview_foretells_write`): it shows the decks that will be written, it fails where writing
would fail before any file is touched, and it refuses several sweeps as writing does. Only
the files can make a difference, that is, the directory for the decks or one of the decks.
-/

namespace SolverDeck.Command

variable {tree : FileTree} {caseFile root : Path} {given setting filter : Option String}
  {shows writes : List String} {verbose : Bool}

/-- The run is stopped by the files, at the directory for the decks or at one of them. -/
def Run.Blocked (run : Run) : Prop :=
  ∃ path e, run.Fails (.fault (.deckDirectory path e)) ∨ run.Fails (.fault (.deckFile path e))

/-- What a run that shows decks tells about a run that writes them below a root, in the same
tree. -/
structure Foretells (plan : Except Fault Plan) (root : Path) (tree : FileTree)
    (preview write : Run) : Prop where
  /-- Showing decks leaves the files alone. -/
  files : preview.files = tree
  /-- It ends in one of three ways. -/
  ends : preview.report.code = 0 ∨ (∃ failure, preview.Fails failure) ∨
    ∃ labels, preview.Refuses labels
  /-- If it does its work, it shows the decks of the plan, and just these are written, unless
  the files stand in the way. -/
  shown : preview.report.code = 0 → ∃ p, plan = .ok p ∧
    preview.report.output =
      String.join (p.decks.map fun deck => "# " ++ deck.path ++ "\n" ++ deck.content) ∧
    (write.report.code = 0 ∧
        write.report.output = "Wrote " ++ toString p.decks.length ++ " deck file(s):\n" ++
          String.join (p.decks.map fun deck => "  " ++ root.join deck.path ++ "\n") ∧
        (∀ deck ∈ p.decks, write.files.readText (root.join deck.path) = .ok deck.content) ∨
      write.report.code = 3 ∧ write.Blocked)
  /-- If it fails, writing fails in the same way and leaves the files alone. -/
  fails : ∀ failure, preview.Fails failure →
    write.Fails failure ∧ write.report.code = preview.report.code ∧ write.files = tree
  /-- If it refuses several sweeps, so does writing, unless the directory for the decks cannot
  be made. No file is made or changed. -/
  refuses : ∀ labels, preview.Refuses labels →
    (write.Refuses labels ∨
      write.report.code = 3 ∧ ∃ path e, write.Fails (.fault (.deckDirectory path e))) ∧
    ∀ location content, write.files.find? location = some (.file content) ↔
      tree.find? location = some (.file content)

/-! ### The ways in which showing decks ends -/

section

variable {plan : Except Fault Plan} {p : Plan} {preview write : Run} {failure : Failure}
  {labels : List String}

theorem Run.Fails.not_refuses {run : Run} (h : run.Fails failure) (hr : run.Refuses labels) :
    False := by
  have hending := h.ending
  rw [hr.ending] at hending
  cases hending

theorem foretells_of_fails (hfiles : preview.files = tree) (hleft : write.files = tree)
    (hpreview : preview.Fails failure) (hwrite : write.Fails failure) :
    Foretells plan root tree preview write where
  files := hfiles
  ends := Or.inr (Or.inl ⟨failure, hpreview⟩)
  shown := fun hcode => absurd hcode hpreview.code_ne_zero
  fails := by
    intro other hother
    have hsame := hother.ending
    rw [hpreview.ending] at hsame
    cases hsame
    exact ⟨hwrite, hwrite.code.trans hpreview.code.symm, hleft⟩
  refuses := fun labels hrefuses => (hpreview.not_refuses hrefuses).elim

theorem foretells_of_refuses (hfiles : preview.files = tree) (hgrows : tree.Grows write.files)
    (hpreview : preview.Refuses labels)
    (hwrite : write.Refuses labels ∨ ∃ path e, write.Fails (.fault (.deckDirectory path e))) :
    Foretells plan root tree preview write where
  files := hfiles
  ends := Or.inr (Or.inr ⟨labels, hpreview⟩)
  shown := by
    intro hcode
    rw [hpreview.code] at hcode
    cases hcode
  fails := fun failure hfails => (hfails.not_refuses hpreview).elim
  refuses := by
    intro other hother
    -- There is one last event, so the labels are the same.
    obtain ⟨before, origin, hevents⟩ := hpreview.event
    obtain ⟨before', origin', hevents'⟩ := hother.event
    rw [hevents] at hevents'
    obtain ⟨-, hlast⟩ := List.append_inj' hevents' rfl
    cases hlast
    refine ⟨hwrite.imp id ?_, hgrows.find?_file⟩
    rintro ⟨path, e, hfails⟩
    exact ⟨hfails.code, path, e, hfails⟩

theorem foretells_of_shown (hfiles : preview.files = tree) (hplan : plan = .ok p)
    (hcode : preview.report.code = 0)
    (houtput : preview.report.output =
      String.join (p.decks.map fun deck => "# " ++ deck.path ++ "\n" ++ deck.content))
    (hwrite : (write.report.code = 0 ∧
        write.report.output = "Wrote " ++ toString p.decks.length ++ " deck file(s):\n" ++
          String.join (p.decks.map fun deck => "  " ++ root.join deck.path ++ "\n") ∧
        ∀ deck ∈ p.decks, write.files.readText (root.join deck.path) = .ok deck.content) ∨
      write.Blocked) :
    Foretells plan root tree preview write where
  files := hfiles
  ends := Or.inl hcode
  shown := by
    intro _
    refine ⟨p, hplan, houtput, hwrite.imp id ?_⟩
    intro hblocked
    refine ⟨?_, hblocked⟩
    obtain ⟨path, e, hfails | hfails⟩ := hblocked
    · exact hfails.code
    · exact hfails.code
  fails := fun failure hfails => absurd hcode hfails.code_ne_zero
  refuses := by
    intro labels hrefuses
    rw [hrefuses.code] at hcode
    cases hcode

end

/-! ### Shown and written -/

section

variable {plan : Except Fault Plan} {base : String} {store : Store} {events : List Log.Event}

/-- A run that writes the decks of a store is stopped by the files, or it reports the outcome
of the plan, and leaves its decks. -/
theorem Run.write_comes_to
    (hwrite : (Run.of tree filter writes).worked =
        ⟨events ++ (store.write FileTree.access root base tree).1.events,
          writtenEnding (store.write FileTree.access root base tree).1.result⟩ ∧
      (Run.of tree filter writes).files = (store.write FileTree.access root base tree).2) :
    (∃ path e, (Run.of tree filter writes).Fails (.fault (.deckDirectory path e))) ∨
    (∃ deck ∈ (store.plan base).decks, ∃ path e,
      (Run.of tree filter writes).Fails (.fault (.deckFile path e))) ∨
    (Run.of tree filter writes).worked =
        ⟨events ++ (store.plan base).events root,
          writtenEnding (.ok ((store.plan base).outcome root))⟩ ∧
      ∀ deck ∈ (store.plan base).decks,
        (Run.of tree filter writes).files.readText (root.join deck.path) = .ok deck.content := by
  rw [hwrite.2]
  rcases store.write_comes_to root base tree with ⟨e, hresult⟩ | ⟨deck, hdeck, e, hresult⟩ |
    ⟨hwritten, hread⟩
  · refine Or.inl ⟨root.join Deck.directory, e, Run.fails_of_ending ?_⟩
    rw [hwrite.1, hresult]
    rfl
  · refine Or.inr (Or.inl ⟨deck, hdeck, root.join deck.path, e, Run.fails_of_ending ?_⟩)
    rw [hwrite.1, hresult]
    rfl
  · refine Or.inr (Or.inr ⟨?_, hread⟩)
    rw [hwrite.1, hwritten]

/-- The one run shows the plan of a store, and the other writes it. -/
theorem foretells_of_plan (hplan : plan = .ok (store.plan base))
    (hpreview : (Run.of tree setting shows).worked =
        ⟨events ++ (shown (store.plan base)).events, (shown (store.plan base)).ending⟩ ∧
      (Run.of tree setting shows).files = tree)
    (hwrite : (Run.of tree filter writes).worked =
        ⟨events ++ (store.write FileTree.access root base tree).1.events,
          writtenEnding (store.write FileTree.access root base tree).1.result⟩ ∧
      (Run.of tree filter writes).files = (store.write FileTree.access root base tree).2) :
    Foretells plan root tree (Run.of tree setting shows) (Run.of tree filter writes) := by
  have hcourse := Run.write_comes_to hwrite
  by_cases hrejected : ∃ labels, store.plan base = .rejected labels
  · obtain ⟨labels, hlabels⟩ := hrejected
    have hnone : (store.plan base).decks = [] := by
      rw [hlabels]
      rfl
    have hgrows : tree.Grows (Run.of tree filter writes).files := by
      rw [hwrite.2]
      exact Store.grows_write_of_no_decks (Or.inl hnone)
    rw [hlabels] at hpreview hcourse
    have hrefuses : (Run.of tree setting shows).Refuses labels :=
      Run.refuses_of_ending events .commands (by rw [hpreview.1]; rfl) (by rw [hpreview.1]; rfl)
    refine foretells_of_refuses hpreview.2 hgrows hrefuses ?_
    rcases hcourse with hdirectory | ⟨deck, hdeck, -⟩ | ⟨hwritten, -⟩
    · exact Or.inr hdirectory
    · exact absurd hdeck List.not_mem_nil
    · exact Or.inl (Run.refuses_of_ending events .writer (by rw [hwritten]; rfl)
        (by rw [hwritten]; rfl))
  · have hmade : ∀ labels, store.plan base ≠ .rejected labels := fun labels h =>
      hrejected ⟨labels, h⟩
    have hshown : (Run.of tree setting shows).worked.ending =
        .printed (String.join ((store.plan base).decks.map fun deck =>
          "# " ++ deck.path ++ "\n" ++ deck.content)) .guarded := by
      rw [hpreview.1]
      exact ending_shown hmade
    obtain ⟨hcode, houtput⟩ := Run.report_of_printed hshown
    refine foretells_of_shown hpreview.2 hplan hcode houtput ?_
    rcases hcourse with ⟨path, e, hfails⟩ | ⟨_, _, path, e, hfails⟩ | ⟨hwritten, hread⟩
    · exact Or.inr ⟨path, e, Or.inl hfails⟩
    · exact Or.inr ⟨path, e, Or.inr hfails⟩
    · have hending := (congrArg Worked.ending hwritten).trans (writtenEnding_outcome hmade root)
      obtain ⟨hdone, hreport⟩ := Run.report_of_printed hending
      exact Or.inl ⟨hdone, hreport, hread⟩

end

/-- In the same tree, showing the decks of a case tells what writing them will do. -/
theorem preview_foretells_write {loud : Bool}
    (hshows : Request.read shows = .ok (.run verbose (.preview caseFile given)))
    (hwrites : Request.read writes = .ok (.run loud (.write caseFile given root)))
    (tree : FileTree) (setting filter : Option String) :
    Foretells (planned tree caseFile given) root tree (Run.of tree setting shows)
      (Run.of tree filter writes) := by
  have hpreview := Run.of_read hshows tree setting
  have hwrite := Run.of_read hwrites tree filter
  cases hopened : opened tree caseFile given with
  | mk events result =>
      cases result with
      | error fault =>
          rw [runTask_of_error rfl hopened] at hpreview hwrite
          have hsame : (Run.of tree setting shows).Fails (.fault fault) :=
            Run.fails_of_ending (by rw [hpreview.1])
          have hfails : (Run.of tree filter writes).Fails (.fault fault) :=
            Run.fails_of_ending (by rw [hwrite.1])
          exact foretells_of_fails hpreview.2 hwrite.2 hsame hfails
      | ok found =>
          obtain ⟨base, store⟩ := found
          have hplan : planned tree caseFile given = .ok (store.plan base) := by
            rw [planned, hopened]
            rfl
          rw [runTask_preview hopened] at hpreview
          rw [runTask_write hopened] at hwrite
          exact foretells_of_plan hplan hpreview hwrite

/-- A sweep of two values, written below another root. -/
theorem preview_foretells_write_sweep :
    Request.read ["preview", "c.json"] = .ok (.run false (.preview "c.json" none)) ∧
    Request.read ["write", "--root=..", "c.json"] =
      .ok (.run false (.write "c.json" none "..")) ∧
    (Run.of caseTree none ["preview", "c.json"]).report.output =
      "# inputs/b-0.input\ng = 2\n# inputs/b-1.input\ng = x\n" ∧
    Foretells (planned caseTree "c.json" none) ".." caseTree
      (Run.of caseTree none ["preview", "c.json"])
      (Run.of caseTree none ["write", "--root=..", "c.json"]) := by
  have hshows : Request.read ["preview", "c.json"] = .ok (.run false (.preview "c.json" none)) := by
    decide +kernel
  have hwrites : Request.read ["write", "--root=..", "c.json"] =
      .ok (.run false (.write "c.json" none "..")) := by decide +kernel
  refine ⟨hshows, hwrites, ?_, preview_foretells_write hshows hwrites caseTree none none⟩
  decide +kernel

end SolverDeck.Command
