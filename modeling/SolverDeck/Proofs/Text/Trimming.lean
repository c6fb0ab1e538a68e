import SolverDeck.Text.Blank

/-!
# Blanks at the ends of a text, and the case of its letters

`Trimmed` says what is left of a text without the blanks at its two ends: something between blanks
that has none at its own ends. There is always just one such thing, and it is what `trim` gives
(`trimmed_iff`).

The letters A to Z may be lowered before or after a text is trimmed, for no letter is a blank in
either case (`isBlank_toLower`).
-/

namespace SolverDeck.Text

variable {s t core before after : List Char} {c : Char}

/-! ### Trimming -/

/-- A text, and what is left of it without the blanks at its two ends. -/
structure Trimmed (s core : List Char) : Prop where
  between : ∃ before after, s = before ++ core ++ after ∧ (∀ c ∈ before, isBlank c = true) ∧
    ∀ c ∈ after, isBlank c = true
  /-- It does not begin with a blank. -/
  first : ∀ c ∈ core.head?, isBlank c = false
  /-- It does not end with a blank. -/
  last : ∀ c ∈ core.getLast?, isBlank c = false

/-- Only blanks are trimmed. -/
theorem exists_eq_append_trim (s : List Char) :
    ∃ before after, s = before ++ trim s ++ after ∧ (∀ c ∈ before, isBlank c = true) ∧
      ∀ c ∈ after, isBlank c = true := by
  refine ⟨s.takeWhile isBlank, ((s.dropWhile isBlank).reverse.takeWhile isBlank).reverse, ?_, ?_, ?_⟩
  · rw [trim, List.append_assoc, ← List.reverse_append, List.takeWhile_append_dropWhile,
      List.reverse_reverse, List.takeWhile_append_dropWhile]
  · exact fun c hc => List.all_eq_true.mp List.all_takeWhile c hc
  · exact fun c hc => List.all_eq_true.mp List.all_takeWhile c (List.mem_reverse.mp hc)

theorem not_isBlank_of_head?_dropWhile (h : c ∈ (s.dropWhile isBlank).head?) : isBlank c = false := by
  have hhead := List.head?_dropWhile_not isBlank s
  rw [Option.mem_def.mp h] at hhead
  exact hhead

theorem trimmed_trim (s : List Char) : Trimmed s (trim s) where
  between := exists_eq_append_trim s
  first := by
    intro c hc
    -- What is taken from the end leaves the beginning as it was.
    have hprefix : trim s <+: s.dropWhile isBlank := by
      rw [← List.reverse_suffix, trim, List.reverse_reverse]
      exact List.dropWhile_suffix isBlank
    obtain ⟨rest, hrest⟩ := hprefix
    apply not_isBlank_of_head?_dropWhile (s := s)
    rw [← hrest, List.head?_append, Option.mem_def.mp hc]
    rfl
  last := by
    intro c hc
    rw [trim, List.getLast?_reverse] at hc
    exact not_isBlank_of_head?_dropWhile hc

theorem dropWhile_isBlank_between (hbefore : ∀ c ∈ before, isBlank c = true)
    (hfirst : ∀ c ∈ core.head?, isBlank c = false) (hne : core ≠ []) (after : List Char) :
    (before ++ core ++ after).dropWhile isBlank = core ++ after := by
  obtain ⟨c, cs, rfl⟩ := List.exists_cons_of_ne_nil hne
  rw [List.append_assoc, List.dropWhile_append_of_pos hbefore]
  exact List.dropWhile_cons_of_neg (by simp [hfirst c rfl])

/-- Nothing else is left of a text. -/
theorem trimmed_iff : Trimmed s core ↔ core = trim s := by
  constructor
  · rintro ⟨⟨before, after, rfl, hbefore, hafter⟩, hfirst, hlast⟩
    by_cases hne : core = []
    · subst hne
      refine ((trim_eq_nil_iff _).mpr ?_).symm
      simp only [List.append_nil, List.all_append, Bool.and_eq_true, List.all_eq_true]
      exact ⟨hbefore, hafter⟩
    · have hback : (core ++ after).reverse.dropWhile isBlank = core.reverse := by
        have hend := @dropWhile_isBlank_between core.reverse after.reverse
          (by simpa using hafter) (by simpa using hlast) (by simpa using hne) []
        simpa using hend
      rw [trim, dropWhile_isBlank_between hbefore hfirst hne, hback, List.reverse_reverse]
  · rintro rfl
    exact trimmed_trim s

/-- Blanks around a text do not change what is left of it. -/
theorem trim_surrounded (hbefore : ∀ c ∈ before, isBlank c = true)
    (hafter : ∀ c ∈ after, isBlank c = true) (s : List Char) :
    trim (before ++ s ++ after) = trim s := by
  obtain ⟨⟨front, back, hs, hfront, hback⟩, hfirst, hlast⟩ := trimmed_trim s
  generalize trim s = core at hs hfirst hlast
  subst hs
  refine (trimmed_iff.mp ⟨⟨before ++ front, back ++ after, ?_, ?_, ?_⟩, hfirst, hlast⟩).symm
  · simp
  · intro c hc
    exact (List.mem_append.mp hc).elim (hbefore c) (hfront c)
  · intro c hc
    exact (List.mem_append.mp hc).elim (hback c) (hafter c)

/-! ### Letters -/

/-- Two texts are the same but for the case of the letters A to Z. -/
def alike (s t : List Char) : Bool :=
  s.map Char.toLower == t.map Char.toLower

theorem alike_iff : alike s t = true ↔ s.map Char.toLower = t.map Char.toLower := by
  simp [alike]

/-- Only the letters A to Z are lowered. -/
theorem toLower_of_not_letter (h : ¬ (65 ≤ c.toNat ∧ c.toNat ≤ 90)) : c.toLower = c :=
  dif_neg h

/-- No letter is a blank, in either case. -/
theorem isBlank_toLower (c : Char) : isBlank c.toLower = isBlank c := by
  by_cases hletter : 65 ≤ c.toNat ∧ c.toNat ≤ 90
  · have hall : ∀ k : Fin 26, isBlank (Char.ofNat (65 + k)) = false ∧
        isBlank (Char.ofNat (65 + k)).toLower = false := by decide
    have hc := hall ⟨c.toNat - 65, by omega⟩
    rw [show 65 + (c.toNat - 65) = c.toNat by omega, Char.ofNat_toNat] at hc
    rw [hc.1, hc.2]
  · rw [toLower_of_not_letter hletter]

theorem map_toLower_trim (s : List Char) :
    (trim s).map Char.toLower = trim (s.map Char.toLower) := by
  have hsame : isBlank ∘ Char.toLower = isBlank := funext isBlank_toLower
  simp only [trim, List.dropWhile_map, hsame, ← List.map_reverse]

end SolverDeck.Text
