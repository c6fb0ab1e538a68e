import SolverDeck.Proofs.Files.Changes

/-!
# Making directories

A directory is made from the innermost outwards: it is tried first, then what is above
it, and then it is tried again, so making may stop half way. Whatever comes of it, the
tree has only grown by directories where nothing was (`grows_ensureDirectory`), each at a
place that the path names when cut off after one of its steps (`changes_ensureDirectory`). No
file is touched.
-/

namespace SolverDeck

namespace FileTree

variable {tree grown after : FileTree} {location : Location} {directories : Location → Prop}

/-- The one tree is the other with directories added where nothing was. -/
structure Grows (tree grown : FileTree) : Prop where
  /-- Relative paths begin where they began. -/
  workingDirectory : grown.workingDirectory = tree.workingDirectory
  /-- At each location there is what was there, or else a new directory. -/
  find? : ∀ location, grown.find? location = tree.find? location ∨
    tree.find? location = none ∧ grown.find? location = some .directory

/-- A tree that changes by no file grows. -/
theorem Changes.grows (h : tree.Changes grown directories fun _ _ => False) :
    tree.Grows grown where
  workingDirectory := h.workingDirectory
  find? := by
    intro location
    rcases h.find? location with hsame | ⟨hnone, hdir, _⟩ | ⟨_, _, _, hno⟩
    · exact Or.inl hsame
    · exact Or.inr ⟨hnone, hdir⟩
    · cases hno

/-- The files are those there were. -/
theorem Grows.find?_file (h : tree.Grows grown) (location : Location) (content : ByteArray) :
    grown.find? location = some (.file content) ↔ tree.find? location = some (.file content) := by
  rcases h.find? location with heq | ⟨hnone, hdir⟩
  · rw [heq]
  · rw [hnone, hdir]
    constructor <;> nofun

/-! ### The places on a way -/

/-- A place to which a way leads, or would if it were cut off after some of its steps. -/
def OnWay (tree : FileTree) (route : Path.Route) (location : Location) : Prop :=
  ∃ steps, steps <+: route.steps ∧ tree.walk (tree.start route) steps = .ok location

theorem Keeps.onWay (h : tree.Keeps after) {route : Path.Route} (hon : tree.OnWay route location) :
    after.OnWay route location := by
  obtain ⟨steps, hsteps, hwalk⟩ := hon
  refine ⟨steps, hsteps, ?_⟩
  rw [h.start]
  exact h.walk hwalk

/-! ### One directory -/

theorem admitDirectory_cases (tree : FileTree) (route : Path.Route) :
    (∃ result, tree.admitDirectory route = (result, tree)) ∨
      ∃ location, tree.walk (tree.start route) route.steps = .ok location ∧
        tree.find? location = none ∧
        tree.admitDirectory route = (.ok (), tree.put location .directory) := by
  unfold admitDirectory
  split
  case _ e _ => exact Or.inl ⟨.error e, rfl⟩
  case _ location hwalk =>
      split
      case _ => exact Or.inl ⟨.ok (), rfl⟩
      case _ => exact Or.inl ⟨.error .alreadyExists, rfl⟩
      case _ hnone => exact Or.inr ⟨location, hwalk, hnone, rfl⟩

/-- **One directory.** It is made where the way leads, which may be the way to it or the
beginning of a longer one. -/
theorem changes_admitDirectory (tree : FileTree) (route part : Path.Route)
    (habsolute : part.absolute = route.absolute) (hsteps : part.steps <+: route.steps) :
    tree.Changes (tree.admitDirectory part).2 ((tree.admitDirectory part).2.OnWay route)
      fun _ _ => False := by
  rcases tree.admitDirectory_cases part with ⟨result, hsame⟩ | ⟨place, hwalk, hnone, hmade⟩
  · rw [hsame]
    exact Changes.refl tree
  · rw [hmade]
    have hkeeps : tree.Keeps (tree.put place .directory) := keeps_put fun _ => rfl
    have hstart : tree.start part = tree.start route := by
      unfold start
      rw [habsolute]
    exact changes_put_directory hnone (hkeeps.onWay ⟨part.steps, hsteps, hstart ▸ hwalk⟩)

/-! ### Several directories -/

/-- How directories are made in a tree: want of the one above calls for that first. -/
theorem ensureSteps_cons (absolute : Bool) (last : Path.Step) (above : List Path.Step)
    (tree : FileTree) :
    access.ensureSteps absolute (last :: above) tree =
      match tree.admitDirectory ⟨absolute, (last :: above).reverse, false⟩ with
      | (.error .notFound, tried) =>
          match access.ensureSteps absolute above tried with
          | (.ok (), grown) => grown.admitDirectory ⟨absolute, (last :: above).reverse, false⟩
          | (.error e, grown) => (.error e, grown)
      | (done, tried) => (done, tried) := by
  have hfirst : access.admitDirectory ⟨absolute, (last :: above).reverse, false⟩ tree =
      tree.admitDirectory ⟨absolute, (last :: above).reverse, false⟩ := rfl
  simp only [FileAccess.ensureSteps, bind, StateT.bind, hfirst]
  generalize tree.admitDirectory _ = first
  obtain ⟨result, tried⟩ := first
  cases result with
  | ok => rfl
  | error e =>
      cases e with
      | notFound =>
          simp only [StateT.bind]
          generalize access.ensureSteps absolute above tried = second
          obtain ⟨result, grown⟩ := second
          cases result <;> rfl
      | _ => rfl

theorem Changes.onWay_trans {next : FileTree} {route : Path.Route}
    (h : tree.Changes next (next.OnWay route) fun _ _ => False)
    (k : next.Changes after (after.OnWay route) fun _ _ => False) :
    tree.Changes after (after.OnWay route) fun _ _ => False :=
  (h.imp (fun _ => k.keeps.onWay) fun _ _ hno => hno).trans k

/-- **Several directories.** However far making them comes, it only adds directories on the
way. -/
theorem changes_ensureSteps (route : Path.Route) (reversed : List Path.Step)
    (hsteps : reversed.reverse <+: route.steps) (tree : FileTree) :
    tree.Changes (access.ensureSteps route.absolute reversed tree).2
      ((access.ensureSteps route.absolute reversed tree).2.OnWay route) fun _ _ => False := by
  induction reversed generalizing tree with
  | nil => exact Changes.refl tree
  | cons last above ih =>
      have habove : above.reverse <+: route.steps := by
        rw [List.reverse_cons] at hsteps
        exact (List.prefix_append _ _).trans hsteps
      have hfirst := changes_admitDirectory tree route
        ⟨route.absolute, (last :: above).reverse, false⟩ rfl hsteps
      rw [ensureSteps_cons]
      generalize tree.admitDirectory _ = first at hfirst ⊢
      obtain ⟨result, tried⟩ := first
      split
      case _ heq =>
          obtain ⟨-, rfl⟩ := Prod.mk.inj heq
          have hsecond := hfirst.onWay_trans (ih habove tried)
          split
          case _ grown hmade =>
              rw [hmade] at hsecond
              exact hsecond.onWay_trans (changes_admitDirectory grown route _ rfl hsteps)
          case _ hmade =>
              rw [hmade] at hsecond
              exact hsecond
      case _ heq =>
          obtain ⟨-, rfl⟩ := Prod.mk.inj heq
          exact hfirst

theorem changes_ensureDirectory (tree : FileTree) (path : Path) :
    tree.Changes (tree.ensureDirectory path).2 ((tree.ensureDirectory path).2.OnWay path.route)
      fun _ _ => False := by
  unfold ensureDirectory FileAccess.ensureDirectory
  cases path.fault? with
  | none =>
      have hall : path.route.steps.reverse.reverse <+: path.route.steps :=
        ⟨[], by rw [List.append_nil, List.reverse_reverse]⟩
      exact changes_ensureSteps path.route path.route.steps.reverse hall tree
  | some e => cases e <;> exact Changes.refl tree

theorem grows_ensureDirectory (tree : FileTree) (path : Path) :
    tree.Grows (tree.ensureDirectory path).2 :=
  (changes_ensureDirectory tree path).grows

/-! ### Making a directory again -/

variable {route : Path.Route}

/-- The directory that was made or found is there. -/
theorem admitDirectory_ok (h : tree.admitDirectory route = (.ok (), grown)) :
    ∃ location, grown.walk (grown.start route) route.steps = .ok location ∧
      grown.find? location = some .directory := by
  unfold admitDirectory at h
  split at h
  case _ => cases h
  case _ location hwalk =>
      split at h
      case _ hdir =>
          obtain rfl := (Prod.mk.inj h).2
          exact ⟨location, hwalk, hdir⟩
      case _ => cases h
      case _ hnone =>
          obtain rfl := (Prod.mk.inj h).2
          have hkeeps : tree.Keeps (tree.put location .directory) := keeps_put fun _ => rfl
          refine ⟨location, ?_, find?_put_self (ne_root_of_find? (by rw [hnone]; nofun))⟩
          rw [hkeeps.start]
          exact hkeeps.walk hwalk

theorem admitDirectory_again (h : tree.admitDirectory route = (.ok (), grown))
    (hk : grown.Keeps after) : after.admitDirectory route = (.ok (), after) := by
  obtain ⟨location, hwalk, hdir⟩ := admitDirectory_ok h
  simp only [admitDirectory, hk.start, hk.walk hwalk, hk.directory location hdir]

/-- However directories come to be made, the last thing done is to make the innermost. -/
theorem exists_admitDirectory_of_ensureSteps {absolute : Bool} {last : Path.Step}
    {above : List Path.Step}
    (h : access.ensureSteps absolute (last :: above) tree = (.ok (), grown)) :
    ∃ tried : FileTree,
      tried.admitDirectory ⟨absolute, (last :: above).reverse, false⟩ = (.ok (), grown) := by
  rw [ensureSteps_cons] at h
  split at h
  case _ =>
      split at h
      case _ made _ => exact ⟨made, h⟩
      case _ => cases h
  case _ heq => exact ⟨tree, heq.trans h⟩

theorem ensureSteps_again {absolute : Bool} {reversed : List Path.Step}
    (h : access.ensureSteps absolute reversed tree = (.ok (), grown)) (hk : grown.Keeps after) :
    access.ensureSteps absolute reversed after = (.ok (), after) := by
  cases reversed with
  | nil => rfl
  | cons last above =>
      obtain ⟨tried, hmade⟩ := exists_admitDirectory_of_ensureSteps h
      rw [ensureSteps_cons, admitDirectory_again hmade hk]

/-- A directory that was made once need not be made again, as long as nothing is lost. -/
theorem ensureDirectory_again {path : Path}
    (h : tree.ensureDirectory path = (.ok (), grown)) (hk : grown.Keeps after) :
    after.ensureDirectory path = (.ok (), after) := by
  unfold ensureDirectory FileAccess.ensureDirectory at h ⊢
  cases hfault : path.fault? with
  | none =>
      rw [hfault] at h
      exact ensureSteps_again h hk
  | some e =>
      rw [hfault] at h
      cases e with
      | notFound => rfl
      | _ => cases h

end FileTree

end SolverDeck
