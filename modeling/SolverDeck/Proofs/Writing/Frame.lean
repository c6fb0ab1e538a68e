import Mathlib.Tactic.Common
import SolverDeck.Proofs.Deck.Path
import SolverDeck.Proofs.Files.Resolution
import SolverDeck.Proofs.Writing.Course

/-!
# What writing leaves alone

Whatever comes of writing the decks of a store, it changes a tree in two ways only: it makes
directories on the way to the directory of the decks, and it puts decks where their paths
lead (`Store.write_framed`).

The paths of decks are under the user's control, for the base is put into them as it is. A
base that keeps to its directory cannot lead out of it (`Store.write_below_directory`).
Nothing else is asked of a base, and one that climbs does lead out
(`Store.write_leaves_directory`).
-/

namespace SolverDeck

variable {root : Path} {tree after : FileTree} {decks : List Deck}

/-! ### The decks as changes -/

/-- One of these decks, seen from a root, leads to a location, and this is its content. -/
def Deck.Among (root : Path) (decks : List Deck) (tree : FileTree) (location : Location)
    (content : ByteArray) : Prop :=
  ∃ deck ∈ decks, tree.locate (root.join deck.path) = .ok location ∧
    content = deck.content.toUTF8

/-- **The loop.** Decks change a tree where their paths lead. -/
theorem Deck.Writes.changes (h : Writes root tree decks after) :
    tree.Changes after (fun _ => False) (Among root decks after) := by
  induction h with
  | nil tree => exact FileTree.Changes.refl tree
  | @cons tree next after deck decks first others ih =>
      have hfirst : tree.Changes next (fun _ => False) _ := FileTree.changes_writeBytes first
      refine (hfirst.imp (fun _ hno => hno) ?_).trans (ih.imp (fun _ hno => hno) ?_)
      · -- What the path of the first deck names, it still names in the end.
        rintro location content ⟨hlocate, rfl⟩
        exact ⟨deck, List.mem_cons_self, ih.keeps.locate hlocate, rfl⟩
      · rintro location content ⟨other, hother, hplace⟩
        exact ⟨other, List.mem_cons_of_mem _ hother, hplace⟩

/-- Part of the decks of a plan is written, or all of them, or none. -/
theorem Plan.changes_write (plan : Plan) (root : Path) (tree : FileTree) :
    tree.Changes (plan.write FileTree.access root tree).2 (fun _ => False)
      (Deck.Among root plan.decks (plan.write FileTree.access root tree).2) := by
  rcases plan.write_cases root tree with ⟨after, hwrites, hplan⟩ |
    ⟨done, failing, rest, after, e, hdecks, hwrites, -, hplan⟩
  · rw [hplan]
    exact hwrites.changes
  · rw [hplan]
    refine hwrites.changes.imp (fun _ hno => hno) ?_
    rintro location content ⟨deck, hdeck, hplace⟩
    exact ⟨deck, hdecks ▸ List.mem_append_left _ hdeck, hplace⟩

/-- **A store.** Directories come to be on the way to that of the decks, and files where the
paths of the decks lead. -/
theorem Store.changes_write (store : Store) (root : Path) (base : String) (tree : FileTree) :
    tree.Changes (store.write FileTree.access root base tree).2
      ((store.write FileTree.access root base tree).2.OnWay (root.join Deck.directory).route)
      (Deck.Among root (store.plan base).decks
        (store.write FileTree.access root base tree).2) := by
  have hmade := FileTree.changes_ensureDirectory tree (root.join Deck.directory)
  rcases store.write_cases root base tree with ⟨e, grown, hensure, hwrite⟩ |
    ⟨grown, hensure, hwrite⟩
  · rw [hwrite]
    rw [hensure] at hmade
    exact hmade.imp (fun _ hon => hon) fun _ _ hno => hno.elim
  · rw [hwrite]
    rw [hensure] at hmade
    have hput := (store.plan base).changes_write root grown
    refine (hmade.imp (fun _ hon => hput.keeps.onWay hon) fun _ _ hno => hno.elim).trans ?_
    exact hput.imp (fun _ hno => hno.elim) fun _ _ hamong => hamong

/-! ### The frame -/

/-- What writing the decks of a plan may do to a tree, be its result what it may. -/
structure Plan.Framed (plan : Plan) (root : Path) (tree : FileTree)
    (result : Except Fault Outcome) (after : FileTree) : Prop where
  /-- Directories stay. -/
  directories : ∀ location, tree.find? location = some .directory →
    after.find? location = some .directory
  /-- Files stay files, and keep their content unless a deck belongs there. -/
  files : ∀ location content, tree.find? location = some (.file content) →
    after.find? location = some (.file content) ∨
      ∃ other, after.find? location = some (.file other) ∧
        Deck.Among root plan.decks after location other
  /-- A new directory stands where nothing was, on the way to that of the decks. -/
  newDirectories : ∀ location, after.find? location = some .directory →
    tree.find? location = some .directory ∨
      tree.find? location = none ∧ after.OnWay (root.join Deck.directory).route location
  /-- A new file, or a file with a new content, is a deck. -/
  newFiles : ∀ location content, after.find? location = some (.file content) →
    tree.find? location = some (.file content) ∨
      Deck.Among root plan.decks after location content
  /-- If the plan is refused, or makes no deck, or if the directory cannot be made, the files
  are those there were. -/
  noFiles : ((∃ labels, plan = .rejected labels) ∨ (∃ label, plan = .sweep label []) ∨
      ∃ directory e, result = .error (.deckDirectory directory e)) →
    ∀ location content, after.find? location = some (.file content) ↔
      tree.find? location = some (.file content)

/-- A write that changes no file at all, if it ends with no deck written. -/
theorem Store.grows_write_of_no_decks {store : Store} {base : String}
    (h : (store.plan base).decks = [] ∨ ∃ directory e,
      (store.write FileTree.access root base tree).1.result =
        .error (.deckDirectory directory e)) :
    tree.Grows (store.write FileTree.access root base tree).2 := by
  have hgrows := FileTree.grows_ensureDirectory tree (root.join Deck.directory)
  rcases store.write_cases root base tree with ⟨e, grown, hensure, hwrite⟩ |
    ⟨grown, hensure, hwrite⟩
  · rw [hwrite]
    rwa [hensure] at hgrows
  · rw [hwrite] at h ⊢
    rw [hensure] at hgrows
    rcases (store.plan base).write_cases root grown with ⟨after, hwrites, hplan⟩ |
      ⟨done, failing, rest, after, e, hdecks, -, -, hplan⟩
    · rw [hplan] at h ⊢
      rcases h with hnone | ⟨directory, e, hresult⟩
      · rw [hnone] at hwrites
        cases hwrites
        exact hgrows
      · cases hresult
    · rw [hplan] at h
      rcases h with hnone | ⟨directory, e, hresult⟩
      · rw [hnone] at hdecks
        exact absurd hdecks.symm (by simp)
      · cases hresult

/-- Writing removes nothing, makes directories only on the way to that of the decks, and
changes files only where its decks belong, whatever comes of it. -/
theorem Store.write_framed (store : Store) (root : Path) (base : String) (tree : FileTree) :
    (store.plan base).Framed root tree (store.write FileTree.access root base tree).1.result
      (store.write FileTree.access root base tree).2 := by
  have hchanges := store.changes_write root base tree
  refine ⟨hchanges.keeps.directory, fun _ _ => hchanges.file, fun _ => hchanges.of_directory,
    fun _ _ => hchanges.of_file, fun hno => ?_⟩
  refine (grows_write_of_no_decks ?_).find?_file
  rcases hno with ⟨labels, hplan⟩ | ⟨label, hplan⟩ | hresult
  · exact Or.inl (by rw [hplan]; rfl)
  · exact Or.inl (by rw [hplan]; rfl)
  · exact Or.inr hresult

/-! ### The directory of the decks -/

/-- If the base keeps to the directory of the decks, so do all files that writing makes or
changes. -/
theorem Store.write_below_directory {base : String} (hbase : Deck.keepsBelow base = true)
    (store : Store) (root : Path) (tree : FileTree) :
    ∀ location content,
      (store.write FileTree.access root base tree).2.find? location = some (.file content) →
      tree.find? location ≠ some (.file content) →
      location.Below (tree.resolve (root.join Deck.directory)) := by
  intro location content hfile hnew
  have hchanges := store.changes_write root base tree
  obtain ⟨deck, hdeck, hlocate, -⟩ := (hchanges.of_file hfile).resolve_left hnew
  obtain ⟨index, hpath⟩ := Store.exists_pathOf_of_mem_plan hdeck
  -- Where relative paths begin has not changed, so neither has what a path resolves to.
  have hresolve : location = tree.resolve (root.join deck.path) := by
    rw [FileTree.locate_eq_resolve hlocate, FileTree.resolve, FileTree.resolve,
      hchanges.keeps.start]
  rw [hresolve, hpath]
  exact Deck.below_resolve_pathOf hbase tree root index

/-- A store with one parameter. -/
def Store.ofOneScalar : Store :=
  ⟨[⟨"a", .int 1⟩], []⟩

/-- A tree with a directory for decks that has a directory in it. -/
def nestedTree : FileTree :=
  ⟨[(["inputs"], .directory), (["s", "inputs"], .directory)], []⟩

/-- A base may go down and up again. -/
theorem Store.write_below_directory_nested :
    Deck.keepsBelow "s/../s/b" = true ∧
    (ofOneScalar.write FileTree.access "" "s/../s/b" nestedTree).2.readText "inputs/s/b.input" =
      .ok "a = 1\n" ∧
    ∀ location content,
      (ofOneScalar.write FileTree.access "" "s/../s/b" nestedTree).2.find? location =
        some (.file content) →
      nestedTree.find? location ≠ some (.file content) → location.Below ["inputs"] := by
  have hbase : Deck.keepsBelow "s/../s/b" = true := by decide +kernel
  have hplace : nestedTree.resolve (Path.join "" Deck.directory) = ["inputs"] := by decide +kernel
  refine ⟨hbase, by decide +kernel, ?_⟩
  rw [← hplace]
  exact write_below_directory hbase ofOneScalar "" nestedTree

/-- A base that climbs is put into the path as it is, and the deck ends up beside the
directory of the decks. -/
theorem Store.write_leaves_directory :
    ∃ location content,
      (ofOneScalar.write FileTree.access "r" "../x" (.fresh ["w"])).2.find? location =
        some (.file content) ∧
      (FileTree.fresh ["w"]).find? location ≠ some (.file content) ∧
      ¬ location.Below ((FileTree.fresh ["w"]).resolve (Path.join "r" Deck.directory)) := by
  have hplace : (FileTree.fresh ["w"]).resolve (Path.join "r" Deck.directory) =
      ["inputs", "r", "w"] := by decide +kernel
  refine ⟨["x.input", "r", "w"], "a = 1\n".toUTF8, ?_, ?_, ?_⟩
  · rfl
  · nofun
  · rw [hplace]
    rintro ⟨names, -, hnames⟩
    have hsuffix : ["inputs", "r", "w"] <:+ ["x.input", "r", "w"] := ⟨names, hnames.symm⟩
    exact absurd hsuffix (by decide)

end SolverDeck
