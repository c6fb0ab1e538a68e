import SolverDeck.Value

/-!
# The leaves of a value

`Value.display` joins the items of every list by itself, level after level. All the same nothing
of the levels is left in the text: it is the leaf texts from left to right, joined once
(`Value.display_leaves`).

What makes the separators of different levels fall into one row is that no value is without a
leaf (`Value.leafTexts_ne_nil`). An empty list counts as one; if it had none, the separators on
both sides of it would still be shown, and there would be one too many.
-/

namespace SolverDeck.Value

/-! ### Leaf texts -/

@[simp] theorem leafTextsOfItems_eq_flatMap (vs : List Value) :
    leafTextsOfItems vs = vs.flatMap leafTexts := by
  induction vs with
  | nil => rfl
  | cons v vs ih => rw [leafTextsOfItems, ih, List.flatMap_cons]

theorem leafTexts_ne_nil : ∀ v : Value, v.leafTexts ≠ []
  | bool _ | int _ | real _ | text _ | list [] => List.cons_ne_nil _ _
  | list (v :: _) => List.append_ne_nil_of_left_ne_nil (leafTexts_ne_nil v) _

/-- The leaves of a list that is not empty are those of its items. -/
theorem leafTexts_list : ∀ {items : List Value}, items ≠ [] →
    (list items).leafTexts = items.flatMap leafTexts
  | v :: vs, _ => by rw [leafTexts, leafTextsOfItems_eq_flatMap, List.flatMap_cons]

theorem flatMap_leafTexts_ne_nil (v : Value) (vs : List Value) :
    (v :: vs).flatMap leafTexts ≠ [] := by
  rw [List.flatMap_cons]
  exact List.append_ne_nil_of_left_ne_nil v.leafTexts_ne_nil _

/-- A list among the items of another might as well be its items. -/
theorem leafTexts_regrouped (before items after : List Value) (v : Value) :
    (list (before ++ list (v :: items) :: after)).leafTexts =
      (list (before ++ (v :: items) ++ after)).leafTexts := by
  rw [leafTexts_list (by simp), leafTexts_list (by simp), List.flatMap_append, List.flatMap_append,
    List.flatMap_append, List.flatMap_cons, leafTexts_list (List.cons_ne_nil v items),
    List.append_assoc]

theorem leafTexts_nested (v : Value) (depth : Nat) : (v.nested depth).leafTexts = v.leafTexts := by
  induction depth with
  | zero => rfl
  | succ depth ih => rw [nested, leafTexts_list (List.cons_ne_nil _ _), List.flatMap_singleton, ih]

/-! ### Numbers -/

mutual

/-- The numbers among the leaves of a value, in order. -/
def numbers : Value → List Value
  | int n => [int n]
  | real x => [real x]
  | list items => numbersOfItems items
  | _ => []

/-- The numbers among the leaves of several values, one after the other. -/
def numbersOfItems : List Value → List Value
  | [] => []
  | v :: vs => v.numbers ++ numbersOfItems vs

end

@[simp] theorem numbersOfItems_eq_flatMap (vs : List Value) :
    numbersOfItems vs = vs.flatMap numbers := by
  induction vs with
  | nil => rfl
  | cons v vs ih => rw [numbersOfItems, ih, List.flatMap_cons]

/-! ### Display -/

mutual

/-- **Leaves.** A value shows its leaf texts with one separator between any two. -/
theorem display_eq_intercalate : ∀ v : Value, v.display = separator.intercalate v.leafTexts
  | bool _ | int _ | real _ | text _ => String.intercalate_singleton.symm
  | list [] => rfl
  | list (v :: vs) => by
      rw [display, leafTexts_list (List.cons_ne_nil v vs)]
      exact intercalate_displays (v :: vs)

/-- The separator between two items stands between the last leaf of the one and the first leaf of
the other. -/
theorem intercalate_displays : ∀ vs : List Value,
    separator.intercalate (displays vs) = separator.intercalate (vs.flatMap leafTexts)
  | [] => rfl
  | [v] => by
      rw [displays, displays, String.intercalate_singleton, List.flatMap_singleton]
      exact display_eq_intercalate v
  | v :: w :: vs => by
      have hfirst := display_eq_intercalate v
      have hothers := intercalate_displays (w :: vs)
      calc separator.intercalate (displays (v :: w :: vs))
          = v.display ++ separator ++ separator.intercalate (displays (w :: vs)) :=
            String.intercalate_cons_cons
        _ = separator.intercalate v.leafTexts ++ separator ++
              separator.intercalate ((w :: vs).flatMap leafTexts) := by rw [hfirst, hothers]
        _ = separator.intercalate (v.leafTexts ++ (w :: vs).flatMap leafTexts) :=
            (String.intercalate_append_of_ne_nil v.leafTexts_ne_nil
              (flatMap_leafTexts_ne_nil w vs)).symm

end

theorem display_congr {v w : Value} (h : v.leafTexts = w.leafTexts) : v.display = w.display := by
  rw [display_eq_intercalate v, display_eq_intercalate w, h]

/-- The text of a value is that of its leaves, joined once. So nothing is seen of how lists are
grouped: not which items share a list that is not empty, nor how many lists of one element are
around a value. Only an empty list is seen; it has the place of one item with an empty text. -/
theorem display_leaves :
    (∀ v : Value, v.display = separator.intercalate v.leafTexts) ∧
    (∀ v w : Value, v.leafTexts = w.leafTexts → v.display = w.display) ∧
    (∀ (before items after : List Value) (v : Value),
      (list (before ++ list (v :: items) :: after)).display =
        (list (before ++ (v :: items) ++ after)).display) ∧
    (∀ (v : Value) (depth : Nat), (v.nested depth).display = v.display) ∧
    ∀ before after : List Value, (list (before ++ list [] :: after)).display =
      separator.intercalate (before.flatMap leafTexts ++ "" :: after.flatMap leafTexts) := by
  refine ⟨display_eq_intercalate, fun v w => display_congr, ?_, ?_, ?_⟩
  · exact fun before items after v => display_congr (leafTexts_regrouped before items after v)
  · exact fun v depth => display_congr (leafTexts_nested v depth)
  · intro before after
    rw [display, intercalate_displays, List.flatMap_append, List.flatMap_cons]
    rfl

/-- Grouped one way and another, with empty lists inside and at the end. -/
theorem display_leaves_grouped :
    (list [int 1, list [text "a", list []], list []]).leafTexts =
        (list [list [list [int 1], text "a"], list [list []], list []]).leafTexts ∧
      (list [int 1, list [text "a", list []], list []]).display =
        (list [list [list [int 1], text "a"], list [list []], list []]).display := by
  have hleaves : (list [int 1, list [text "a", list []], list []]).leafTexts =
      (list [list [list [int 1], text "a"], list [list []], list []]).leafTexts := rfl
  exact ⟨hleaves, display_leaves.2.1 _ _ hleaves⟩

example : (list [int 1, list [text "a", list []], list []]).display = "1, a, , " := rfl

end SolverDeck.Value
