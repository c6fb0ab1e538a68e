import SolverDeck.Proofs.Decimal.Characters
import SolverDeck.Value

/-!
# Texts inside a value

A value shows the texts inside it as they are, at any depth, and nothing else of free choice: the
other kinds of values and the separator of lists are made of a few characters. So what is in none
of the texts is in the display of the value only if it is one of those characters; a line feed is
not (`Value.lineFeed_not_mem_display`).
-/

namespace SolverDeck.Value

mutual

/-- The texts inside a value, at any depth. -/
def texts : Value → List String
  | bool _ | int _ | real _ => []
  | text s => [s]
  | list items => textsOfItems items

/-- The texts inside several values. -/
def textsOfItems : List Value → List String
  | [] => []
  | v :: vs => v.texts ++ textsOfItems vs

end

theorem lineFeed_not_mem_toString (n : Int) : '\n' ∉ (toString n).toList := by
  intro h
  rw [Int.toString_eq_repr, Int.repr_eq_if] at h
  have hdigits (m : Nat) : '\n' ∉ m.repr.toList := by
    intro hm
    rw [Nat.toList_repr] at hm
    exact absurd (Nat.isDigit_of_mem_toDigits (by decide) (by decide) hm) (by decide)
  split at h
  · exact hdigits _ h
  · rw [String.toList_append, List.mem_append] at h
    rcases h with h | h
    · exact absurd h (by decide)
    · exact hdigits _ h

/-- What is joined has the characters of the separator and of the parts. -/
theorem mem_intercalate {sep : List Char} {parts : List (List Char)} {c : Char}
    (h : c ∈ sep.intercalate parts) : c ∈ sep ∨ ∃ part ∈ parts, c ∈ part := by
  induction parts with
  | nil => exact absurd h List.not_mem_nil
  | cons part parts ih =>
      cases parts with
      | nil =>
          rw [List.intercalate_singleton] at h
          exact Or.inr ⟨part, List.mem_cons_self, h⟩
      | cons next parts =>
          rw [List.intercalate_cons_cons, List.mem_append, List.mem_append] at h
          rcases h with (h | h) | h
          · exact Or.inr ⟨part, List.mem_cons_self, h⟩
          · exact Or.inl h
          · rcases ih h with h | ⟨other, hother, h⟩
            · exact Or.inl h
            · exact Or.inr ⟨other, List.mem_cons_of_mem part hother, h⟩

mutual

/-- A value whose texts have no line feed in them has none in its display. -/
theorem lineFeed_not_mem_display :
    ∀ (v : Value), (∀ s ∈ v.texts, '\n' ∉ s.toList) → '\n' ∉ v.display.toList
  | bool b, _ => by cases b <;> decide
  | int n, _ => lineFeed_not_mem_toString n.toInt
  | real x, _ => x.lineFeed_not_mem_text layout
  | text s, h => h s (List.mem_singleton.mpr rfl)
  | list items, h => by
      intro hmem
      rw [display, String.toList_intercalate, displays_eq_map, List.map_map] at hmem
      rcases mem_intercalate hmem with hmem | ⟨shown, hshown, hmem⟩
      · exact absurd hmem (by decide)
      · obtain ⟨v, hv, rfl⟩ := List.mem_map.mp hshown
        exact lineFeed_not_mem_display_of_mem items h v hv hmem

theorem lineFeed_not_mem_display_of_mem :
    ∀ (items : List Value), (∀ s ∈ textsOfItems items, '\n' ∉ s.toList) →
      ∀ v ∈ items, '\n' ∉ v.display.toList
  | [], _, _, hv => absurd hv List.not_mem_nil
  | first :: items, h, v, hv => by
      have hfirst := lineFeed_not_mem_display first fun s hs => h s (List.mem_append_left _ hs)
      have hitems := lineFeed_not_mem_display_of_mem items fun s hs =>
        h s (List.mem_append_right _ hs)
      rcases List.mem_cons.mp hv with heq | hv
      · exact heq ▸ hfirst
      · exact hitems v hv

end

end SolverDeck.Value
