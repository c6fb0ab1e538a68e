import SolverDeck.Proofs.Command.Output
import SolverDeck.Proofs.Writing.Again

/-!
# Running a command again

A run that writes decks reads its case from the same tree that it writes to, and the paths of the
decks are in the hands of whoever wrote the case. So the second run of a command may find another
case than the first: the case file itself may be where a deck belongs (`write_overwrites_case`).
This is the only way. A case file that no deck leads to is left alone, and then a second run does
what the first did and changes nothing (`write_run_again`).
-/

namespace SolverDeck

variable {tree : FileTree} {root caseFile : Path} {base : String}

/-! ### The case file among the decks -/

/-- A deck leads to the file at a path, and has another content. -/
def Plan.Overwrites (plan : Plan) (root : Path) (tree after : FileTree) (path : Path) : Prop :=
  ∃ deck ∈ plan.decks, after.locate (root.join deck.path) = after.locate path ∧
    tree.readText path ≠ .ok deck.content

/-- A file that is read differently after writing was overwritten by a deck. -/
theorem Store.overwrites_of_readText_ne {store : Store} {content : String}
    (hread : tree.readText caseFile = .ok content)
    (h : (store.write FileTree.access root base tree).2.readText caseFile ≠ .ok content) :
    (store.plan base).Overwrites root tree (store.write FileTree.access root base tree).2
      caseFile := by
  have hchanges := store.changes_write root base tree
  have hbytes := FileTree.readBytes_of_readText hread
  rcases hchanges.readBytes hbytes with hsame |
    ⟨location, hlocate, _, hput, deck, hdeck, hleads, rfl⟩
  · exact absurd (FileTree.readText_of_readBytes hsame) h
  · refine ⟨deck, hdeck, hleads.trans hlocate.symm, ?_⟩
    have hnow := FileTree.readText_of_readBytes hput
    intro hcontent
    rw [hread] at hcontent
    cases hcontent
    exact h hnow

/-- Two paths that lead to the same place are read alike, if both name files. -/
theorem FileTree.readText_of_locate_eq {after : FileTree} {path other : Path}
    {text content : String} (hbefore : tree.readText path = .ok text)
    (hlocate : after.locate other = after.locate path)
    (hread : after.readText other = .ok content) : after.readText path = .ok content := by
  obtain ⟨_, -, -, honly⟩ := readBytes_eq_ok_iff.mp (readBytes_of_readText hbefore)
  obtain ⟨location, hother, hfind, -⟩ := readBytes_eq_ok_iff.mp (readBytes_of_readText hread)
  refine readText_of_readBytes (readBytes_eq_ok_iff.mpr ⟨location, ?_, hfind, honly⟩)
  rw [← hlocate, hother]

namespace Command

variable {given setting filter : Option String} {arguments : List String} {verbose : Bool}

/-! ### Runs that did their work -/

/-- A run that ends well has something to print. -/
theorem Run.exists_printed_of_code_zero (h : (Run.of tree setting arguments).report.code = 0) :
    ∃ text printing, (Run.of tree setting arguments).worked.ending = .printed text printing := by
  cases hending : (Run.of tree setting arguments).worked.ending with
  | printed text printing => exact ⟨text, printing, rfl⟩
  | rejected =>
      rw [(Run.report_of_rejected hending).1] at h
      cases h
  | failed failure => exact absurd h (Run.fails_of_ending hending).code_ne_zero

/-- What was read of the case file and what was done then, by a run that wrote decks. -/
theorem Run.exists_written_of_code_zero
    (hreads : Request.read arguments = .ok (.run verbose (.write caseFile given root)))
    (h : (Run.of tree setting arguments).report.code = 0) :
    ∃ content events base store,
      tree.readText caseFile = .ok content ∧
      opened tree caseFile given = (events, .ok (base, store)) ∧
      (Run.of tree setting arguments).files = (store.write FileTree.access root base tree).2 ∧
      (∃ grown, tree.ensureDirectory (root.join Deck.directory) = (.ok (), grown)) ∧
      ∀ deck ∈ (store.plan base).decks,
        (Run.of tree setting arguments).files.readText (root.join deck.path) =
          .ok deck.content := by
  have hrun := Run.of_read hreads tree setting
  obtain ⟨text, printing, hprinted⟩ := Run.exists_printed_of_code_zero h
  rw [hrun.1] at hprinted
  obtain ⟨events, base, store, hopened⟩ := opened_of_printed rfl hprinted
  rw [runTask_write hopened] at hprinted hrun
  obtain ⟨c, hloaded, -⟩ := exists_loaded_of_opened_ok hopened
  obtain ⟨content, hcontent⟩ : ∃ content, tree.readText caseFile = .ok content := by
    unfold loaded at hloaded
    split at hloaded
    case _ => cases hloaded
    case _ content hcontent => exact ⟨content, hcontent⟩
  refine ⟨content, events, base, store, hcontent, hopened, hrun.2, ?_, ?_⟩
  · rcases store.write_cases root base tree with ⟨e, grown, -, hwrite⟩ | ⟨grown, hensure, -⟩
    · rw [hwrite] at hprinted
      cases hprinted
    · exact ⟨grown, hensure⟩
  · rcases store.write_comes_to root base tree with ⟨e, hresult⟩ | ⟨deck, -, e, hresult⟩ |
      ⟨-, hread⟩
    · rw [hresult] at hprinted
      cases hprinted
    · rw [hresult] at hprinted
      cases hprinted
    · rw [hrun.2]
      exact hread

/-- A run that finds the same case and the same work done does that work again. -/
theorem Run.again_of_opened {events : List Log.Event} {store : Store} {grown : FileTree}
    (hreads : Request.read arguments = .ok (.run verbose (.write caseFile given root)))
    (hopened : opened tree caseFile given = (events, .ok (base, store)))
    (hagain : opened (store.write FileTree.access root base tree).2 caseFile given =
      (events, .ok (base, store)))
    (hensure : tree.ensureDirectory (root.join Deck.directory) = (.ok (), grown))
    (setting filter : Option String) :
    (Run.of (Run.of tree setting arguments).files filter arguments).worked =
        (Run.of tree setting arguments).worked ∧
      (Run.of (Run.of tree setting arguments).files filter arguments).files =
        (Run.of tree setting arguments).files := by
  have hfirst := Run.of_read hreads tree setting
  rw [runTask_write hopened] at hfirst
  have hsecond := Run.of_read hreads (Run.of tree setting arguments).files filter
  rw [hfirst.2, runTask_write hagain, Store.write_of_ensured hensure] at hsecond
  rw [hfirst.1, hfirst.2]
  exact hsecond

/-- The case file is altered just if a deck overwrites it. If none does, running the command
again ends well with the same output, and changes nothing. -/
theorem write_run_again
    (hreads : Request.read arguments = .ok (.run verbose (.write caseFile given root)))
    (hdone : (Run.of tree setting arguments).report.code = 0) (filter : Option String) :
    ∃ plan, planned tree caseFile given = .ok plan ∧
      ((Run.of tree setting arguments).files.readText caseFile ≠ tree.readText caseFile ↔
        plan.Overwrites root tree (Run.of tree setting arguments).files caseFile) ∧
      (¬ plan.Overwrites root tree (Run.of tree setting arguments).files caseFile →
        (Run.of (Run.of tree setting arguments).files filter arguments).report.code = 0 ∧
        (Run.of (Run.of tree setting arguments).files filter arguments).report.output =
          (Run.of tree setting arguments).report.output ∧
        (Run.of (Run.of tree setting arguments).files filter arguments).files =
          (Run.of tree setting arguments).files) := by
  obtain ⟨content, events, base, store, hcontent, hopened, hfiles, ⟨grown, hensure⟩, hdecks⟩ :=
    Run.exists_written_of_code_zero hreads hdone
  have hplan := planned_of_opened hopened
  have haltered : (Run.of tree setting arguments).files.readText caseFile ≠ .ok content ↔
      (store.plan base).Overwrites root tree (Run.of tree setting arguments).files caseFile := by
    constructor
    · intro hne
      rw [hfiles] at hne ⊢
      exact Store.overwrites_of_readText_ne hcontent hne
    · rintro ⟨deck, hdeck, hleads, hother⟩ hsame
      have hread := FileTree.readText_of_locate_eq hcontent hleads (hdecks deck hdeck)
      rw [hsame] at hread
      cases hread
      exact hother hcontent
  refine ⟨store.plan base, hplan, hcontent ▸ haltered, ?_⟩
  intro hkept
  have hstays : (Run.of tree setting arguments).files.readText caseFile = .ok content := by
    by_contra hne
    exact hkept (haltered.mp hne)
  -- The same text is the same case, so everything before the decks is found as it was.
  have hagain : opened (store.write FileTree.access root base tree).2 caseFile given =
      (events, .ok (base, store)) := by
    rw [← hfiles, ← hopened, opened, opened, loaded, loaded, hstays, hcontent]
  obtain ⟨hworked, hleft⟩ := Run.again_of_opened hreads hopened hagain hensure setting filter
  have hending : (Run.of (Run.of tree setting arguments).files filter arguments).worked.ending =
      (Run.of tree setting arguments).worked.ending := by rw [hworked]
  obtain ⟨hcode, houtput⟩ := Run.through_congr none filter setting hending
  rw [Run.through_none, Run.through_none] at hcode houtput
  exact ⟨hcode.trans hdone, houtput, hleft⟩

/-- A sweep, twice into another directory. -/
theorem write_run_again_elsewhere :
    Request.read ["write", "--root=out", "c.json"] =
        .ok (.run false (.write "c.json" none "out")) ∧
      (Run.of caseTree none ["write", "--root=out", "c.json"]).report.code = 0 ∧
    (Run.of (Run.of caseTree none ["write", "--root=out", "c.json"]).files (some "off")
        ["write", "--root=out", "c.json"]).report.output =
      "Wrote 2 deck file(s):\n  out/inputs/b-0.input\n  out/inputs/b-1.input\n" ∧
    (Run.of (Run.of caseTree none ["write", "--root=out", "c.json"]).files (some "off")
        ["write", "--root=out", "c.json"]).files =
      (Run.of caseTree none ["write", "--root=out", "c.json"]).files := by
  have hreads : Request.read ["write", "--root=out", "c.json"] =
      .ok (.run false (.write "c.json" none "out")) := by decide +kernel
  have hdone : (Run.of caseTree none ["write", "--root=out", "c.json"]).report.code = 0 := by
    decide +kernel
  have houtput : (Run.of caseTree none ["write", "--root=out", "c.json"]).report.output =
      "Wrote 2 deck file(s):\n  out/inputs/b-0.input\n  out/inputs/b-1.input\n" := by
    decide +kernel
  have hsame : (Run.of caseTree none ["write", "--root=out", "c.json"]).files.readText "c.json" =
      caseTree.readText "c.json" := by decide +kernel
  obtain ⟨plan, -, haltered, hagain⟩ := write_run_again hreads hdone (some "off")
  obtain ⟨-, hprints, hleft⟩ := hagain fun h => haltered.mpr h hsame
  exact ⟨hreads, hdone, hprints.trans houtput, hleft⟩

/-- A tree whose case file stands where its deck belongs. -/
def overwrittenTree : FileTree :=
  ⟨[(["b.input", "inputs", "w"], .file
    "\x7b\"base\":\"b\",\"parameters\":[\x7b\"label\":\"g\",\"value\":2\x7d]\x7d".toUTF8),
    (["inputs", "w"], .directory), (["w"], .directory)], ["w"]⟩

/-- The deck is put in place of the case, and the second run finds no case there. -/
theorem write_overwrites_case :
    (Run.of overwrittenTree none ["write", "inputs/b.input"]).report.code = 0 ∧
      (Run.of overwrittenTree none ["write", "inputs/b.input"]).files.readText "inputs/b.input" =
        .ok "g = 2\n" ∧
      overwrittenTree.readText "inputs/b.input" ≠ .ok "g = 2\n" ∧
      (Run.of (Run.of overwrittenTree none ["write", "inputs/b.input"]).files none
        ["write", "inputs/b.input"]).report.code = 2 := by
  refine ⟨?_, ?_, ?_, ?_⟩ <;> decide +kernel

end Command

end SolverDeck
