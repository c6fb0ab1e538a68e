import SolverDeck.Files.Tree
import SolverDeck.Proofs.Path.Ending

/-!
# What writing does to a file tree

All that matters about a tree is what exists where (`FileTree.find?`) and where relative
paths begin. Putting something in changes that in one place. Because nothing is ever
taken out and no directory becomes a file, a path that could be walked can be walked
still, and leads to the same place (`Keeps.locate`).

A path that could not be walked may become one that can. Where that must not be, it is
asked for a *sibling* that could be written: then the directory of both was there before,
and writing the one is not seen through the other (`locate_sibling`, `find?_sibling`).
-/

namespace SolverDeck

namespace FileTree

variable {tree after : FileTree} {location other here there : Location} {entry : Entry}

/-! ### Putting something in -/

@[simp] theorem find?_root : tree.find? [] = some .directory := if_pos rfl

theorem ne_root_of_find? (h : tree.find? location ≠ some .directory) : location ≠ [] := by
  rintro rfl
  exact h find?_root

theorem find?_putEntry_self (es : List (Location × Entry)) :
    (putEntry location entry es).find? (fun e => e.1 == location) = some (location, entry) := by
  induction es with
  | nil => exact List.find?_cons_of_pos (beq_self_eq_true location)
  | cons e es ih =>
      rw [putEntry]
      split
      · exact List.find?_cons_of_pos (beq_self_eq_true location)
      · rename_i hne
        rw [List.find?_cons_of_neg (by simpa using hne), ih]

theorem find?_putEntry_of_ne (h : other ≠ location) (es : List (Location × Entry)) :
    (putEntry location entry es).find? (fun e => e.1 == other) =
      es.find? fun e => e.1 == other := by
  induction es with
  | nil => exact List.find?_cons_of_neg (by simpa using fun e => h e.symm)
  | cons e es ih =>
      rw [putEntry]
      split
      · rename_i heq
        rw [List.find?_cons_of_neg (by simpa using fun e => h e.symm),
          List.find?_cons_of_neg (by simpa [heq] using fun e => h e.symm)]
      · rw [List.find?_cons, List.find?_cons, ih]

theorem find?_put_self (h : location ≠ []) :
    (tree.put location entry).find? location = some entry := by
  rw [find?, if_neg h, put, find?_putEntry_self]
  rfl

theorem find?_put_of_ne (h : other ≠ location) :
    (tree.put location entry).find? other = tree.find? other := by
  rw [find?, find?, put, find?_putEntry_of_ne h]

theorem putEntry_eq_self {es : List (Location × Entry)}
    (h : es.find? (fun e => e.1 == location) = some (location, entry)) :
    putEntry location entry es = es := by
  induction es with
  | nil => cases h
  | cons e es ih =>
      rw [putEntry]
      split
      case isTrue heq =>
          rw [List.find?_cons_of_pos (by simpa using heq)] at h
          rw [Option.some.inj h]
      case isFalse hne =>
          rw [List.find?_cons_of_neg (by simpa using hne)] at h
          rw [ih h]

/-- Putting in what is there already changes nothing. -/
theorem put_eq_self (hroot : location ≠ []) (h : tree.find? location = some entry) :
    tree.put location entry = tree := by
  rw [find?, if_neg hroot, Option.map_eq_some_iff] at h
  obtain ⟨⟨place, found⟩, hfound, rfl⟩ := h
  obtain rfl : place = location := by simpa using List.find?_some hfound
  rw [put, putEntry_eq_self hfound]

theorem isDirectory_iff :
    tree.isDirectory location = true ↔ tree.find? location = some .directory := by
  unfold isDirectory
  split
  · simp_all
  · rename_i hne
    simpa using hne

/-! ### Nothing is lost -/

/-- What was there is there, and directories are directories. -/
structure Keeps (tree after : FileTree) : Prop where
  /-- Relative paths begin where they began. -/
  workingDirectory : after.workingDirectory = tree.workingDirectory
  /-- Directories stay. -/
  directory : ∀ location, tree.find? location = some .directory →
    after.find? location = some .directory
  /-- Nothing goes. -/
  present : ∀ location, tree.find? location ≠ none → after.find? location ≠ none

theorem Keeps.refl (tree : FileTree) : tree.Keeps tree :=
  ⟨rfl, fun _ h => h, fun _ h => h⟩

theorem Keeps.trans {first second third : FileTree} (h : first.Keeps second)
    (k : second.Keeps third) : first.Keeps third :=
  ⟨k.workingDirectory.trans h.workingDirectory, fun _ hd => k.directory _ (h.directory _ hd),
    fun _ hp => k.present _ (h.present _ hp)⟩

/-- Putting in what is no file in place of a directory loses nothing. -/
theorem keeps_put (h : tree.find? location = some .directory → entry = .directory) :
    tree.Keeps (tree.put location entry) where
  workingDirectory := rfl
  directory := by
    intro other hother
    by_cases heq : other = location
    · subst heq
      by_cases hroot : other = []
      · rw [hroot, find?_root]
      · rw [find?_put_self hroot, h hother]
    · rwa [find?_put_of_ne heq]
  present := by
    intro other hother
    by_cases heq : other = location
    · subst heq
      by_cases hroot : other = []
      · rw [hroot, find?_root]
        nofun
      · rw [find?_put_self hroot]
        nofun
    · rwa [find?_put_of_ne heq]

/-! ### Walking -/

/-- A step starts in a directory. -/
theorem isDirectory_of_step {step : Path.Step} (h : tree.step here step = .ok there) :
    tree.isDirectory here = true := by
  cases step with
  | up =>
      simp only [FileTree.step] at h
      split at h
      case isTrue hdir => exact hdir
      case isFalse => cases h
  | down name =>
      simp only [FileTree.step] at h
      split at h
      case isTrue => cases h
      case isFalse hdir => simpa using hdir

/-- All that a step asks of a tree is whether it starts in a directory. -/
theorem step_congr (h : after.isDirectory here = tree.isDirectory here) (step : Path.Step) :
    after.step here step = tree.step here step := by
  cases step with
  | up => simp only [FileTree.step, h]
  | down name => simp only [FileTree.step, h]

theorem Keeps.isDirectory (hk : tree.Keeps after) (h : tree.isDirectory location = true) :
    after.isDirectory location = true :=
  isDirectory_iff.mpr (hk.directory location (isDirectory_iff.mp h))

theorem Keeps.step (hk : tree.Keeps after) {step : Path.Step}
    (h : tree.step here step = .ok there) : after.step here step = .ok there := by
  have hdir := isDirectory_of_step h
  rw [step_congr ((hk.isDirectory hdir).trans hdir.symm), h]

/-- Walking to a place that exists, as all but the last step of a walk have to. -/
def descend (tree : FileTree) (here : Location) : List Path.Step → Except FileError Location
  | [] => .ok here
  | next :: steps =>
      match tree.step here next with
      | .error e => .error e
      | .ok there =>
          if (tree.find? there).isNone then .error .notFound else tree.descend there steps

/-- A walk descends to a place and takes one step there. -/
theorem walk_concat (tree : FileTree) (here : Location) (steps : List Path.Step)
    (last : Path.Step) :
    tree.walk here (steps ++ [last]) =
      match tree.descend here steps with
      | .error e => .error e
      | .ok there => tree.step there last := by
  induction steps generalizing here with
  | nil => rfl
  | cons next steps ih =>
      obtain ⟨second, more, hmore⟩ := List.exists_cons_of_ne_nil
        (List.append_ne_nil_of_right_ne_nil steps (List.cons_ne_nil last []))
      rw [List.cons_append, hmore]
      simp only [FileTree.walk, descend]
      rw [← hmore]
      cases tree.step here next with
      | error e => rfl
      | ok there =>
          dsimp only
          split
          · rfl
          · exact ih there

/-- Descending comes to the same place in a tree that keeps what was there. -/
theorem Keeps.descend (hk : tree.Keeps after) {steps : List Path.Step}
    (h : tree.descend here steps = .ok there) : after.descend here steps = .ok there := by
  induction steps generalizing here with
  | nil => exact h
  | cons next steps ih =>
      unfold FileTree.descend at h ⊢
      cases hstep : tree.step here next with
      | error e =>
          rw [hstep] at h
          cases h
      | ok middle =>
          rw [hstep] at h
          rw [hk.step hstep]
          dsimp only at h ⊢
          split at h
          case isTrue => cases h
          case isFalse hpresent =>
              have hstays : ¬ (after.find? middle).isNone = true := by
                simpa using hk.present middle (by simpa using hpresent)
              rw [if_neg hstays]
              exact ih h

theorem Keeps.walk (hk : tree.Keeps after) {steps : List Path.Step}
    (h : tree.walk here steps = .ok there) : after.walk here steps = .ok there := by
  rcases List.eq_nil_or_concat steps with rfl | ⟨above, last, rfl⟩
  · exact h
  · rw [List.concat_eq_append, walk_concat] at h ⊢
    cases hdescend : tree.descend here above with
    | error e =>
        rw [hdescend] at h
        cases h
    | ok middle =>
        rw [hdescend] at h
        rw [hk.descend hdescend]
        exact hk.step h

theorem Keeps.start (hk : tree.Keeps after) (route : Path.Route) :
    after.start route = tree.start route := by
  unfold FileTree.start
  rw [hk.workingDirectory]

/-- What a path named it names still. -/
theorem Keeps.locate (hk : tree.Keeps after) {path : Path}
    (h : tree.locate path = .ok location) : after.locate path = .ok location := by
  unfold FileTree.locate at h ⊢
  split at h
  case _ => cases h
  case _ =>
      rw [hk.start]
      exact hk.walk h

/-! ### Writing a file -/

/-- **One file.** Either writing fails and changes nothing, or the path names a place
where no directory is, and that is where the file is put. -/
theorem writeBytes_cases (tree : FileTree) (path : Path) (content : ByteArray) :
    (∃ e, tree.writeBytes path content = (.error e, tree)) ∨
      ∃ location, tree.locate path = .ok location ∧ path.route.directoryOnly = false ∧
        tree.isDirectory location = false ∧
        tree.writeBytes path content = (.ok (), tree.put location (.file content)) := by
  unfold writeBytes
  cases hlocate : tree.locate path with
  | error e => exact Or.inl ⟨e, rfl⟩
  | ok location =>
      dsimp only
      by_cases hdir : (path.route.directoryOnly || tree.isDirectory location) = true
      · exact Or.inl ⟨.isADirectory, by rw [if_pos hdir]⟩
      · rw [if_neg hdir]
        rw [Bool.or_eq_true, not_or, Bool.not_eq_true, Bool.not_eq_true] at hdir
        exact Or.inr ⟨location, rfl, hdir.1, hdir.2, rfl⟩

theorem writeBytes_error {path : Path} {content : ByteArray} {e : FileError}
    (h : tree.writeBytes path content = (.error e, after)) : after = tree := by
  rcases tree.writeBytes_cases path content with ⟨_, he⟩ | ⟨_, _, _, _, hok⟩
  · rw [he] at h
    exact (Prod.mk.inj h).2.symm
  · rw [hok] at h
    cases h

theorem writeBytes_ok {path : Path} {content : ByteArray}
    (h : tree.writeBytes path content = (.ok (), after)) :
    ∃ location, tree.locate path = .ok location ∧ path.route.directoryOnly = false ∧
      tree.isDirectory location = false ∧ after = tree.put location (.file content) := by
  rcases tree.writeBytes_cases path content with ⟨_, he⟩ | ⟨location, hloc, honly, hdir, hok⟩
  · rw [he] at h
    cases h
  · rw [hok] at h
    exact ⟨location, hloc, honly, hdir, (Prod.mk.inj h).2.symm⟩

theorem ne_directory_of_isDirectory (h : tree.isDirectory location = false) :
    tree.find? location ≠ some .directory := by
  intro hfind
  rw [isDirectory_iff.mpr hfind] at h
  cases h

/-- Writing a file loses nothing but the content of a file that was there. -/
theorem keeps_writeBytes {path : Path} {content : ByteArray} {result : Except FileError Unit}
    (h : tree.writeBytes path content = (result, after)) : tree.Keeps after := by
  cases result with
  | error e => exact writeBytes_error h ▸ Keeps.refl tree
  | ok =>
      obtain ⟨location, -, -, hdir, rfl⟩ := writeBytes_ok h
      exact keeps_put fun hfind => absurd hfind (ne_directory_of_isDirectory hdir)

/-- What was written is read. -/
theorem readBytes_of_writeBytes {path : Path} {content : ByteArray}
    (h : tree.writeBytes path content = (.ok (), after)) : after.readBytes path = .ok content := by
  have hkeeps := keeps_writeBytes h
  obtain ⟨location, hloc, honly, hdir, rfl⟩ := writeBytes_ok h
  have hfind : (tree.put location (.file content)).find? location = some (.file content) :=
    find?_put_self (ne_root_of_find? (ne_directory_of_isDirectory hdir))
  simp only [readBytes, hkeeps.locate hloc, hfind, honly, Bool.false_eq_true, if_false]

theorem readText_of_readBytes {path : Path} {content : String}
    (h : tree.readBytes path = .ok content.toUTF8) : tree.readText path = .ok content := by
  have hdecode : String.fromUTF8? content.toUTF8 = some content := by
    rw [String.fromUTF8?, String.toUTF8_eq_toByteArray, dif_pos content.isValidUTF8]
    rfl
  rw [readText, h]
  dsimp only
  rw [hdecode]

theorem readBytes_of_readText {path : Path} {content : String}
    (h : tree.readText path = .ok content) : tree.readBytes path = .ok content.toUTF8 := by
  unfold readText at h
  cases hbytes : tree.readBytes path with
  | error e =>
      rw [hbytes] at h
      cases h
  | ok bytes =>
      rw [hbytes] at h
      dsimp only [String.fromUTF8?] at h
      split at h
      case _ text hdecode =>
          obtain rfl := Except.ok.inj h
          obtain ⟨hvalid, htext⟩ := Option.dite_none_right_eq_some.mp hdecode
          rw [← Option.some.inj htext]
          rfl
      case _ => cases h

/-- Writing what can be read already changes nothing. -/
theorem writeBytes_of_readBytes {path : Path} {content : ByteArray}
    (h : tree.readBytes path = .ok content) : tree.writeBytes path content = (.ok (), tree) := by
  unfold readBytes at h
  cases hlocate : tree.locate path with
  | error e =>
      rw [hlocate] at h
      cases h
  | ok location =>
      rw [hlocate] at h
      dsimp only at h
      split at h
      case _ => cases h
      case _ => cases h
      case _ found hfind =>
          split at h
          case isTrue => cases h
          case isFalse honly =>
              obtain rfl := Except.ok.inj h
              have hno : tree.find? location ≠ some .directory := by rw [hfind]; nofun
              have hdir : tree.isDirectory location = false := by
                rw [← Bool.not_eq_true, isDirectory_iff]
                exact hno
              have hsame := put_eq_self (ne_root_of_find? hno) hfind
              simp only [writeBytes, hlocate, hdir, honly, Bool.or_self, Bool.false_eq_true,
                if_false, hsame]

theorem writeText_of_readText {path : Path} {content : String}
    (h : tree.readText path = .ok content) : tree.writeText path content = (.ok (), tree) :=
  writeBytes_of_readBytes (readBytes_of_readText h)

/-! ### Siblings -/

/-- Where a path goes that ends in a name: the name, in the place above it. -/
theorem locate_eq (tree : FileTree) {path : Path} {absolute : Bool} {above : List Path.Step}
    {name : String} (h : path.route = ⟨absolute, above ++ [.down name], false⟩) :
    tree.locate path =
      match path.fault? with
      | some e => .error e
      | none =>
          match tree.descend (tree.start path.route) above with
          | .error e => .error e
          | .ok there => tree.step there (.down name) := by
  unfold locate
  cases path.fault? with
  | some e => rfl
  | none =>
      have hsteps : path.route.steps = above ++ [.down name] := by rw [h]
      rw [hsteps, walk_concat]

theorem step_down_eq_ok {name : String} (h : tree.step here (.down name) = .ok there) :
    there = name :: here := by
  simp only [FileTree.step] at h
  split at h
  case isTrue => cases h
  case isFalse =>
      split at h
      case isTrue => cases h
      case isFalse => exact (Except.ok.inj h).symm

/-- **Siblings.** After a file was written, a sibling of its path leads where it led, be
that a place or an error, and nothing has changed there. -/
theorem locate_sibling {p q : Path} {content : ByteArray} (hpq : p.Siblings q)
    (h : tree.writeBytes p content = (.ok (), after)) :
    after.locate q = tree.locate q ∧
      ∀ location, tree.locate q = .ok location → after.find? location = tree.find? location := by
  have hkeeps := keeps_writeBytes h
  obtain ⟨absolute, above, name, other, hp, hq, hne⟩ := hpq
  obtain ⟨location, hloc, -, -, rfl⟩ := writeBytes_ok h
  -- The directory of both is known from writing the one.
  have hstart : tree.start p.route = tree.start q.route := by rw [hp, hq]; rfl
  rw [locate_eq tree hp, hstart] at hloc
  split at hloc
  case _ => cases hloc
  case _ =>
      split at hloc
      case _ => cases hloc
      case _ directory hdescend =>
          have hdir := isDirectory_of_step hloc
          have hsame : (tree.put location (.file content)).step directory (.down other) =
              tree.step directory (.down other) :=
            step_congr ((hkeeps.isDirectory hdir).trans hdir.symm) _
          constructor
          · rw [locate_eq _ hq, locate_eq _ hq, hkeeps.start, hkeeps.descend hdescend, hdescend]
            dsimp only
            rw [hsame]
          · intro place hplace
            rw [locate_eq tree hq, hdescend] at hplace
            split at hplace
            case _ => cases hplace
            case _ =>
                rw [step_down_eq_ok hplace, step_down_eq_ok hloc]
                exact find?_put_of_ne fun e => hne (List.cons.inj e).1.symm

theorem readBytes_sibling {p q : Path} {content : ByteArray} (hpq : p.Siblings q)
    (h : tree.writeBytes p content = (.ok (), after)) : after.readBytes q = tree.readBytes q := by
  obtain ⟨hlocate, hfind⟩ := locate_sibling hpq h
  unfold readBytes
  rw [hlocate]
  cases hq : tree.locate q with
  | error e => rfl
  | ok location =>
      dsimp only
      rw [hfind location hq]

/-- Whether and why a file cannot be written does not change with its siblings. -/
theorem writeBytes_sibling {p q : Path} {content : ByteArray} (hpq : p.Siblings q)
    (h : tree.writeBytes p content = (.ok (), after)) (bytes : ByteArray) :
    (after.writeBytes q bytes).1 = (tree.writeBytes q bytes).1 := by
  obtain ⟨hlocate, hfind⟩ := locate_sibling hpq h
  unfold writeBytes
  rw [hlocate]
  cases hq : tree.locate q with
  | error e => rfl
  | ok location =>
      have hdir : after.isDirectory location = tree.isDirectory location := by
        unfold isDirectory
        rw [hfind location hq]
      dsimp only
      rw [hdir]
      split <;> rfl

end FileTree

end SolverDeck
