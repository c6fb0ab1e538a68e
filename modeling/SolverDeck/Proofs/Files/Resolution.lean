import SolverDeck.Proofs.Files.Tree

/-!
# Where a path leads

A tree has no links, so the place that a path names is known from its steps and the place
where it begins: `FileTree.resolve`. What exists in the tree decides only whether the path
can be walked (`locate_eq_resolve`).

Following a joined path is following the one part and then the other (`resolve_join`). A way
that is never further up than where it began ends below that place (`follow_of_depth?`).
-/

namespace SolverDeck

/-! ### Following steps -/

/-- Where a step leads if nothing is in its way. -/
def Path.Step.leads (here : Location) : Path.Step → Location
  | .up => here.tail
  | .down name => name :: here

/-- Where steps lead, one after the other. -/
def Location.follow (here : Location) (steps : List Path.Step) : Location :=
  steps.foldl Path.Step.leads here

@[simp] theorem Location.follow_nil (here : Location) : here.follow [] = here := rfl

@[simp] theorem Location.follow_cons (here : Location) (step : Path.Step)
    (steps : List Path.Step) : here.follow (step :: steps) = (step.leads here).follow steps := rfl

theorem Location.follow_append (here : Location) (first second : List Path.Step) :
    here.follow (first ++ second) = (here.follow first).follow second :=
  List.foldl_append

namespace FileTree

variable {tree : FileTree} {here there location : Location}

theorem step_eq_leads {step : Path.Step} (h : tree.step here step = .ok there) :
    there = step.leads here := by
  cases step with
  | up =>
      simp only [FileTree.step] at h
      split at h
      case isTrue => exact (Except.ok.inj h).symm
      case isFalse => cases h
  | down name => exact step_down_eq_ok h

theorem walk_eq_follow {steps : List Path.Step} (h : tree.walk here steps = .ok there) :
    there = here.follow steps := by
  induction steps generalizing here with
  | nil => exact (Except.ok.inj h).symm
  | cons next steps ih =>
      cases steps with
      | nil => exact step_eq_leads h
      | cons second more =>
          simp only [FileTree.walk] at h
          cases hstep : tree.step here next with
          | error e =>
              rw [hstep] at h
              cases h
          | ok middle =>
              rw [hstep] at h
              dsimp only at h
              split at h
              case isTrue => cases h
              case isFalse =>
                  rw [Location.follow_cons, ← step_eq_leads hstep]
                  exact ih h

/-- The place to which a path leads, whatever exists on the way. -/
def resolve (tree : FileTree) (path : Path) : Location :=
  (tree.start path.route).follow path.route.steps

theorem locate_eq_resolve {path : Path} (h : tree.locate path = .ok location) :
    location = tree.resolve path := by
  unfold FileTree.locate at h
  split at h
  case _ => cases h
  case _ => exact walk_eq_follow h

end FileTree

/-! ### Joined paths -/

namespace Path

theorem components_append_separator (cs ds : List Char) :
    components (cs ++ separator :: ds) = components cs ++ components ds := by
  induction cs with
  | nil =>
      rw [List.nil_append]
      simp [components]
  | cons c cs ih =>
      rw [List.cons_append, components, components, ih]
      split
      case isTrue => rfl
      case isFalse =>
          cases hcs : components cs with
          | nil => exact absurd hcs (components_ne_nil cs)
          | cons first more => rfl

theorem steps_separated (first second : Path) :
    (first ++ "/" ++ second).route.steps = first.route.steps ++ second.route.steps := by
  have htext : (first ++ "/" ++ second).toList = first.toList ++ separator :: second.toList := by
    simp [String.toList_append, separator]
  simp only [route, htext, components_append_separator, List.filterMap_append]

/-- A separator at the end adds no step. -/
theorem steps_append_separator (path : Path) :
    (path ++ "/").route.steps = path.route.steps := by
  have hempty : route "" = ⟨false, [], true⟩ := by decide
  have h := steps_separated path ""
  rwa [String.append_empty, hempty, List.append_nil] at h

/-- A joined path takes the steps of the one part, and then those of the other. -/
theorem steps_join (root : Path) {path : Path} (h : path.isAbsolute = false) :
    (root.join path).route.steps = root.route.steps ++ path.route.steps := by
  unfold join
  rw [h, if_neg Bool.false_ne_true]
  split
  case isTrue hroot =>
      rw [String.isEmpty_iff.mp hroot]
      rfl
  case isFalse =>
      split
      case isTrue hlast =>
          obtain ⟨front, hfront⟩ := List.getLast?_eq_some_iff.mp hlast
          have hroot : root = String.ofList front ++ "/" := by
            rw [← String.toList_inj, hfront]
            simp [separator]
          rw [hroot, steps_separated, steps_append_separator]
      case isFalse => exact steps_separated root path

theorem isAbsolute_join (root : Path) {path : Path} (h : path.isAbsolute = false) :
    (root.join path).isAbsolute = root.isAbsolute := by
  unfold join
  rw [h, if_neg Bool.false_ne_true]
  split
  case isTrue hroot =>
      rw [String.isEmpty_iff.mp hroot, h]
      rfl
  case isFalse hroot =>
      have hne : root ≠ "" := fun e => hroot (String.isEmpty_iff.mpr e)
      split
      · exact isAbsolute_append_of_ne hne path
      · rw [String.append_assoc]
        exact isAbsolute_append_of_ne hne ("/" ++ path)

end Path

/-- A joined path leads on from where its first part leads. -/
theorem FileTree.resolve_join (tree : FileTree) (root : Path) {path : Path}
    (h : path.isAbsolute = false) :
    tree.resolve (root.join path) = (tree.resolve root).follow path.route.steps := by
  have hstart : tree.start (root.join path).route = tree.start root.route := by
    unfold start
    show (if (root.join path).isAbsolute then _ else _) = if root.isAbsolute then _ else _
    rw [Path.isAbsolute_join root h]
  unfold resolve
  rw [hstart, Path.steps_join root h, Location.follow_append]

/-! ### Staying below a place -/

/-- One place lies below another. -/
def Location.Below (location above : Location) : Prop :=
  ∃ names : List String, names ≠ [] ∧ location = names ++ above

/-- How far below the place where a way begins it ends, when it begins `depth` below that
place; nothing if it is ever further up. -/
def Path.depth? (depth : Nat) : List Path.Step → Option Nat
  | [] => some depth
  | .down _ :: steps => depth? (depth + 1) steps
  | .up :: steps =>
      match depth with
      | 0 => none
      | above + 1 => depth? above steps

/-- A way that is never further up than a place ends below it. -/
theorem Location.follow_of_depth? {names : Location} (place : Location) {steps : List Path.Step}
    {depth : Nat} (h : Path.depth? names.length steps = some depth) :
    ∃ more : Location, more.length = depth ∧
      Location.follow (names ++ place) steps = more ++ place := by
  induction steps generalizing names with
  | nil => exact ⟨names, Option.some.inj h, rfl⟩
  | cons step steps ih =>
      cases step with
      | down name => exact @ih (name :: names) h
      | up =>
          cases names with
          | nil => cases h
          | cons name names => exact ih h

end SolverDeck
