import SolverDeck.Path

/-!
# Paths with a common beginning

What is put behind a path as text, without a separator in it, only makes its last name
longer. So paths that differ in their endings lead to entries of different names in one
and the same directory, whatever stands before: separators, `.`, `..` or nothing at all.

* `join_append` — joining is not disturbed by an ending;
* `route_append` — the way that a path with an ending describes;
* `Siblings` — two paths that name different entries of one directory.
-/

namespace SolverDeck

namespace Path

/-! ### Joining -/

theorem isAbsolute_of_plain {path : Path} (h : separator ∉ path.toList) :
    path.isAbsolute = false := by
  unfold isAbsolute
  cases hpath : path.toList with
  | nil => rfl
  | cons c cs =>
      rw [hpath, List.mem_cons, not_or] at h
      simpa using fun e => h.1 e.symm

theorem isAbsolute_append_of_ne {path : Path} (h : path ≠ "") (more : Path) :
    isAbsolute (path ++ more) = path.isAbsolute := by
  unfold isAbsolute
  rw [String.toList_append]
  cases hpath : path.toList with
  | nil => exact absurd (String.toList_inj.mp hpath) h
  | cons c cs => rfl

/-- An ending changes the beginning of a path only if there was nothing. -/
theorem isAbsolute_append (path : Path) {ending : Path} (h : ending.isAbsolute = false) :
    isAbsolute (path ++ ending) = path.isAbsolute := by
  by_cases hpath : path = ""
  · rw [hpath]
    exact (congrArg isAbsolute String.empty_append).trans h
  · exact isAbsolute_append_of_ne hpath ending

/-- Joining a longer path is making the joined path longer. -/
theorem join_append (root path : Path) {ending : Path} (h : ending.isAbsolute = false) :
    root.join (path ++ ending) = root.join path ++ ending := by
  unfold join
  rw [isAbsolute_append path h]
  split
  · rfl
  · split
    · rfl
    · split
      · exact (String.append_assoc ..).symm
      · simp only [String.append_assoc]

/-! ### Components -/

theorem components_ne_nil (cs : List Char) : components cs ≠ [] := by
  cases cs with
  | nil => exact List.cons_ne_nil _ _
  | cons c cs =>
      unfold components
      split
      · exact List.cons_ne_nil _ _
      · split <;> exact List.cons_ne_nil _ _

/-- Text without a separator is one component. -/
theorem components_plain {cs : List Char} (h : separator ∉ cs) : components cs = [cs] := by
  induction cs with
  | nil => rfl
  | cons c cs ih =>
      rw [List.mem_cons, not_or] at h
      rw [components, if_neg fun e => h.1 e.symm, ih h.2]

/-- The last component of a path, which may be empty. -/
def lastPart (path : Path) : List Char :=
  (components path.toList).getLast (components_ne_nil _)

/-- The steps of a path before its last component. -/
def above (path : Path) : List Step :=
  (components path.toList).dropLast.filterMap stepOf?

/-- An ending without a separator becomes part of the last component. -/
theorem components_append {cs ending : List Char} {above : List (List Char)} {last : List Char}
    (h : components cs = above ++ [last]) (hplain : separator ∉ ending) :
    components (cs ++ ending) = above ++ [last ++ ending] := by
  induction cs generalizing above last with
  | nil =>
      obtain ⟨rfl, hlast⟩ := List.append_inj' (show [] ++ [[]] = above ++ [last] from h) rfl
      rw [← List.singleton_inj.mp hlast]
      exact components_plain hplain
  | cons c cs ih =>
      -- What is last in the rest is last in the whole, whether or not `c` begins it.
      obtain ⟨init, final, hcs⟩ : ∃ init final, components cs = init ++ [final] :=
        ⟨_, _, (List.dropLast_concat_getLast (components_ne_nil cs)).symm⟩
      have hmore := ih hcs
      unfold components at h
      rw [List.cons_append]
      unfold components
      split at h
      case isTrue hc =>
          rw [hcs, ← List.cons_append] at h
          obtain ⟨rfl, hlast⟩ := List.append_inj' h rfl
          rw [if_pos hc, hmore, ← List.singleton_inj.mp hlast, List.cons_append]
      case isFalse hc =>
          rw [if_neg hc, hmore]
          rw [hcs] at h
          cases init with
          | nil =>
              obtain ⟨rfl, hlast⟩ := List.append_inj' (show [] ++ [_] = above ++ [last] from h) rfl
              rw [← List.singleton_inj.mp hlast]
              rfl
          | cons first more =>
              obtain ⟨rfl, hlast⟩ := List.append_inj'
                (show ((c :: first) :: more) ++ [final] = above ++ [last] from h) rfl
              rw [← List.singleton_inj.mp hlast]
              rfl

/-- A component of three characters or more is a name. -/
theorem stepOf?_of_length {component : List Char} (h : 2 < component.length) :
    stepOf? component = some (.down (String.ofList component)) := by
  unfold stepOf?
  split
  · exact absurd h (Nat.not_lt_zero 2)
  · exact absurd h (by decide)
  · exact absurd h (by decide)
  · rfl

/-! ### Ways -/

/-- The way that a path with an ending describes. Its last step goes down to a name that
the ending is part of, and no other step depends on the ending. -/
theorem route_append (path : Path) {ending : String} (hplain : separator ∉ ending.toList)
    (hlong : 2 < ending.length) :
    route (path ++ ending) = ⟨path.isAbsolute,
      path.above ++ [.down (String.ofList (path.lastPart ++ ending.toList))], false⟩ := by
  have hparts := List.dropLast_concat_getLast (components_ne_nil path.toList)
  have hname : stepOf? (path.lastPart ++ ending.toList) =
      some (.down (String.ofList (path.lastPart ++ ending.toList))) := by
    refine stepOf?_of_length ?_
    rw [List.length_append, String.length_toList]
    exact Nat.lt_of_lt_of_le hlong (Nat.le_add_left _ _)
  have hmore : components (path ++ ending).toList =
      (components path.toList).dropLast ++ [path.lastPart ++ ending.toList] := by
    rw [String.toList_append, components_append hparts.symm hplain]
    rfl
  simp only [route, above, isAbsolute_append path (isAbsolute_of_plain hplain), hmore,
    List.filterMap_append, List.filterMap_cons, hname, List.filterMap_nil, List.getLast?_concat,
    Option.bind_some, Option.isNone_some]

/-- Two paths that lead to entries of different names in one directory, or would if there
were such a directory. -/
def Siblings (p q : Path) : Prop :=
  ∃ absolute above name other,
    p.route = ⟨absolute, above ++ [.down name], false⟩ ∧
    q.route = ⟨absolute, above ++ [.down other], false⟩ ∧ name ≠ other

theorem Siblings.symm {p q : Path} (h : p.Siblings q) : q.Siblings p := by
  obtain ⟨absolute, above, name, other, hp, hq, hne⟩ := h
  exact ⟨absolute, above, other, name, hq, hp, hne.symm⟩

theorem Siblings.ne {p q : Path} (h : p.Siblings q) : p ≠ q := by
  obtain ⟨absolute, above, name, other, hp, hq, hne⟩ := h
  rintro rfl
  rw [hp] at hq
  injection hq with _ hsteps _
  have hlast := List.append_cancel_left hsteps
  injection hlast with hdown _
  injection hdown with hname
  exact hne hname

/-- Different endings of one path make siblings. -/
theorem siblings_append (path : Path) {e f : String} (he : separator ∉ e.toList)
    (hf : separator ∉ f.toList) (helong : 2 < e.length) (hflong : 2 < f.length) (hne : e ≠ f) :
    Siblings (path ++ e) (path ++ f) := by
  refine ⟨_, path.above, _, _, route_append path he helong, route_append path hf hflong,
    fun h => ?_⟩
  have hlists := List.append_cancel_left (String.ofList_injective h)
  exact hne (String.toList_inj.mp hlists)

end Path

end SolverDeck
