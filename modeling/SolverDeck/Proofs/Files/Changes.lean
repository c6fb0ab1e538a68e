import SolverDeck.Proofs.Files.Tree

/-!
# Where a tree changes

The program never removes anything: it makes directories where nothing was, and puts files
where no directory is. `Changes` says so of two trees, and bounds the places where it
happened. Bounds on two changes, one after the other, add up (`Changes.trans`), because what
is there after the first is still there after the second.
-/

namespace SolverDeck

namespace FileTree

variable {tree next after : FileTree} {location : Location}
  {directories dirs : Location → Prop} {files contents : Location → ByteArray → Prop}

/-- The one tree became the other by new directories, at the places of the first kind, and by
files whose content was put in, at the places and with the content of the second kind. -/
structure Changes (tree after : FileTree) (directories : Location → Prop)
    (files : Location → ByteArray → Prop) : Prop where
  /-- Relative paths begin where they began. -/
  workingDirectory : after.workingDirectory = tree.workingDirectory
  /-- At each location there is what was there, or a directory where nothing was, or a file
  where no directory was. -/
  find? : ∀ location, after.find? location = tree.find? location ∨
    (tree.find? location = none ∧ after.find? location = some .directory ∧
      directories location) ∨
    (tree.find? location ≠ some .directory ∧
      ∃ content, after.find? location = some (.file content) ∧ files location content)

theorem Changes.refl (tree : FileTree) : tree.Changes tree directories files :=
  ⟨rfl, fun _ => Or.inl rfl⟩

theorem Changes.imp (h : tree.Changes after directories files)
    (hdirs : ∀ location, directories location → dirs location)
    (hfiles : ∀ location content, files location content → contents location content) :
    tree.Changes after dirs contents where
  workingDirectory := h.workingDirectory
  find? := by
    intro location
    rcases h.find? location with hsame | ⟨hnone, hdir, hplace⟩ | ⟨hno, content, hfile, hplace⟩
    · exact Or.inl hsame
    · exact Or.inr (Or.inl ⟨hnone, hdir, hdirs _ hplace⟩)
    · exact Or.inr (Or.inr ⟨hno, content, hfile, hfiles _ _ hplace⟩)

theorem Changes.trans (h : tree.Changes next directories files)
    (k : next.Changes after directories files) : tree.Changes after directories files where
  workingDirectory := k.workingDirectory.trans h.workingDirectory
  find? := by
    intro location
    -- What the second change does decides, and the first says what it did that to.
    rcases k.find? location with hsame | ⟨hnone, hdir, hplace⟩ | ⟨hno, content, hfile, hplace⟩
    · rw [hsame]
      exact h.find? location
    · refine Or.inr (Or.inl ⟨?_, hdir, hplace⟩)
      rcases h.find? location with hbefore | ⟨hbefore, _, _⟩ | ⟨_, _, hput, _⟩
      · rw [← hbefore, hnone]
      · exact hbefore
      · rw [hput] at hnone
        cases hnone
    · refine Or.inr (Or.inr ⟨?_, content, hfile, hplace⟩)
      rcases h.find? location with hbefore | ⟨_, hmade, _⟩ | ⟨hbefore, _, _, _⟩
      · rwa [← hbefore]
      · exact absurd hmade hno
      · exact hbefore

theorem Changes.keeps (h : tree.Changes after directories files) : tree.Keeps after where
  workingDirectory := h.workingDirectory
  directory := by
    intro location hdir
    rcases h.find? location with hsame | ⟨hnone, _, _⟩ | ⟨hno, _, _, _⟩
    · rw [hsame, hdir]
    · rw [hdir] at hnone
      cases hnone
    · exact absurd hdir hno
  present := by
    intro location hpresent
    rcases h.find? location with hsame | ⟨hnone, _, _⟩ | ⟨_, _, hfile, _⟩
    · rwa [hsame]
    · exact absurd hnone hpresent
    · rw [hfile]
      nofun

/-! ### What is there afterwards -/

/-- A directory that is new was made, where nothing had been. -/
theorem Changes.of_directory (h : tree.Changes after directories files)
    (hdir : after.find? location = some .directory) :
    tree.find? location = some .directory ∨
      tree.find? location = none ∧ directories location := by
  rcases h.find? location with hsame | ⟨hnone, _, hplace⟩ | ⟨_, content, hfile, _⟩
  · exact Or.inl (hsame ▸ hdir)
  · exact Or.inr ⟨hnone, hplace⟩
  · rw [hfile] at hdir
    cases hdir

/-- A file whose content is new was put in. -/
theorem Changes.of_file (h : tree.Changes after directories files) {content : ByteArray}
    (hfile : after.find? location = some (.file content)) :
    tree.find? location = some (.file content) ∨ files location content := by
  rcases h.find? location with hsame | ⟨_, hdir, _⟩ | ⟨_, other, hput, hplace⟩
  · exact Or.inl (hsame ▸ hfile)
  · rw [hdir] at hfile
    cases hfile
  · rw [hput] at hfile
    cases hfile
    exact Or.inr hplace

/-- A file stays a file, if perhaps of another content, which was put in. -/
theorem Changes.file (h : tree.Changes after directories files) {content : ByteArray}
    (hfile : tree.find? location = some (.file content)) :
    after.find? location = some (.file content) ∨
      ∃ other, after.find? location = some (.file other) ∧ files location other := by
  rcases h.find? location with hsame | ⟨hnone, _, _⟩ | ⟨_, other, hput, hplace⟩
  · exact Or.inl (hsame.trans hfile)
  · rw [hfile] at hnone
    cases hnone
  · exact Or.inr ⟨other, hput, hplace⟩

/-! ### Single changes -/

/-- Making a directory where nothing is. -/
theorem changes_put_directory (hnone : tree.find? location = none) (hplace : directories location) :
    tree.Changes (tree.put location .directory) directories files where
  workingDirectory := rfl
  find? := by
    intro other
    by_cases heq : other = location
    · subst heq
      have hroot : other ≠ [] := ne_root_of_find? (by rw [hnone]; nofun)
      exact Or.inr (Or.inl ⟨hnone, find?_put_self hroot, hplace⟩)
    · exact Or.inl (find?_put_of_ne heq)

/-- Putting a file where no directory is. -/
theorem changes_put_file {content : ByteArray} (hno : tree.find? location ≠ some .directory)
    (hplace : files location content) :
    tree.Changes (tree.put location (.file content)) directories files where
  workingDirectory := rfl
  find? := by
    intro other
    by_cases heq : other = location
    · subst heq
      have hput : (tree.put other (.file content)).find? other = some (.file content) :=
        find?_put_self (ne_root_of_find? hno)
      exact Or.inr (Or.inr ⟨hno, content, hput, hplace⟩)
    · exact Or.inl (find?_put_of_ne heq)

/-- Writing a file changes the place that its path names, if any. -/
theorem changes_writeBytes {path : Path} {content : ByteArray} {result : Except FileError Unit}
    (h : tree.writeBytes path content = (result, after)) :
    tree.Changes after directories fun place put =>
      after.locate path = .ok place ∧ put = content := by
  have hkeeps := keeps_writeBytes h
  cases result with
  | error e => exact writeBytes_error h ▸ Changes.refl tree
  | ok =>
      obtain ⟨place, hplace, -, hdir, rfl⟩ := writeBytes_ok h
      exact changes_put_file (ne_directory_of_isDirectory hdir) ⟨hkeeps.locate hplace, rfl⟩

/-! ### Reading afterwards -/

/-- A file is read where its path leads. -/
theorem readBytes_eq_ok_iff {path : Path} {content : ByteArray} :
    tree.readBytes path = .ok content ↔ ∃ location, tree.locate path = .ok location ∧
      tree.find? location = some (.file content) ∧ path.route.directoryOnly = false := by
  unfold readBytes
  constructor
  · intro h
    split at h
    case _ => cases h
    case _ location hlocate =>
        split at h
        case _ => cases h
        case _ => cases h
        case _ found hfind =>
            split at h
            case isTrue => cases h
            case isFalse honly =>
                cases h
                exact ⟨location, hlocate, hfind, by simpa using honly⟩
  · rintro ⟨location, hlocate, hfind, honly⟩
    simp [hlocate, hfind, honly]

/-- A file that could be read can be read still, and has its content, unless something else was
put in where its path leads. -/
theorem Changes.readBytes (h : tree.Changes after directories files) {path : Path}
    {content : ByteArray} (hread : tree.readBytes path = .ok content) :
    after.readBytes path = .ok content ∨
      ∃ other, after.locate path = .ok other ∧
        ∃ put, after.readBytes path = .ok put ∧ files other put := by
  obtain ⟨location, hlocate, hfind, honly⟩ := readBytes_eq_ok_iff.mp hread
  have hstays := h.keeps.locate hlocate
  rcases h.file hfind with hsame | ⟨put, hput, hplace⟩
  · exact Or.inl (readBytes_eq_ok_iff.mpr ⟨location, hstays, hsame, honly⟩)
  · exact Or.inr ⟨location, hstays, put,
      readBytes_eq_ok_iff.mpr ⟨location, hstays, hput, honly⟩, hplace⟩

end FileTree

end SolverDeck
