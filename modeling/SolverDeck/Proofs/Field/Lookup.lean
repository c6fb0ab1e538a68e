import SolverDeck.Proofs.Field.Key

/-!
# Looking a field up

A key is looked up without the blanks around it and without regard to the case of the letters A to Z.
Which field that is does not depend on the order in which the fields are searched, for no two of them
fit the same text (`Field.find?_alike`). What is not ASCII is not lowered to anything that a key has
in it, so a text that keeps such a character means no field.
-/

namespace SolverDeck

namespace Field

variable {f : Field} {s t : String}

/-! ### The table of keys -/

theorem map_toLower_key (f : Field) : f.key.toList.map Char.toLower = f.key.toList := by
  have h : ∀ f ∈ all, f.key.toList.map Char.toLower = f.key.toList := by decide +kernel
  exact h f (mem_all f)

theorem ascii_key (f : Field) : ∀ c ∈ f.key.toList, c.toNat < 128 := by
  have h : ∀ f ∈ all, f.key.toList.all (·.toNat < 128) = true := by decide +kernel
  intro c hc
  simpa using List.all_eq_true.mp (h f (mem_all f)) c hc

/-! ### Searching -/

/-- A field is found in any list of all fields, by comparing both texts without regard to case. -/
theorem find?_alike {fields : List Field} (hall : ∀ f, f ∈ fields) (s : String) :
    fields.find? (fun f => Text.alike f.key.toList (Text.trim s.toList)) = ofKey? s := by
  have hfits : ∀ f : Field, Text.alike f.key.toList (Text.trim s.toList) = true ↔
      ofKey? s = some f := by
    intro f
    rw [Text.alike_iff, map_toLower_key, ofKey?_eq_some_iff_key, normalizedKey, eq_comm]
  cases hs : ofKey? s with
  | none =>
      rw [List.find?_eq_none]
      intro f _ hf
      rw [hfits, hs] at hf
      cases hf
  | some f =>
      -- Whatever is found first, it fits, and nothing but this field does.
      have hsome : (fields.find? fun f =>
          Text.alike f.key.toList (Text.trim s.toList)).isSome = true :=
        List.find?_isSome.mpr ⟨f, hall f, (hfits f).mpr hs⟩
      obtain ⟨g, hg⟩ := Option.isSome_iff_exists.mp hsome
      have hfit := @List.find?_some _ (fun f : Field =>
        Text.alike f.key.toList (Text.trim s.toList)) _ _ hg
      rw [hg, ← hs, (hfits g).mp hfit]

theorem ofKey?_of_alike (h : Text.alike s.toList t.toList = true) : ofKey? s = ofKey? t := by
  have hkey : normalizedKey s = normalizedKey t := by
    rw [normalizedKey, normalizedKey, Text.map_toLower_trim, Text.map_toLower_trim,
      Text.alike_iff.mp h]
  rw [ofKey?, ofKey?, hkey]

theorem ofKey?_surrounded {before after : String} (hbefore : Text.isBlankText before = true)
    (hafter : Text.isBlankText after = true) (s : String) :
    ofKey? (before ++ s ++ after) = ofKey? s := by
  have hkey : normalizedKey (before ++ s ++ after) = normalizedKey s := by
    rw [normalizedKey, normalizedKey, String.toList_append, String.toList_append,
      Text.trim_surrounded (List.all_eq_true.mp hbefore) (List.all_eq_true.mp hafter)]
  rw [ofKey?, ofKey?, hkey]

theorem ofKey?_of_not_ascii (h : ∃ c ∈ Text.trim s.toList, 128 ≤ c.toNat) : ofKey? s = none := by
  obtain ⟨c, hc, hlarge⟩ := h
  cases hs : ofKey? s with
  | none => rfl
  | some f =>
      have hkey := ofKey?_eq_some_iff_key.mp hs
      have hmem : c ∈ f.key.toList := by
        have hlowered := List.mem_map_of_mem (f := Char.toLower) hc
        rw [Text.toLower_of_not_letter (by omega)] at hlowered
        rw [← hkey]
        exact hlowered
      exact absurd (f.ascii_key c hmem) (by omega)

/-- **Looking a field up.** The answer is the field whose key is the text without the blanks at its
ends and with its letters A to Z lowered, and none if there is no such field. So any list of all
fields may be searched for the first that fits, the order being of no account; blanks around the
text and the case of its letters do not matter; and with a character in it that is not ASCII, once
the blanks are gone, the text means no field. -/
theorem ofKey?_trimmed :
    (∀ (s : String) (f : Field), ofKey? s = some f ↔
      ∃ core, Text.Trimmed s.toList core ∧ core.map Char.toLower = f.key.toList) ∧
    (∀ (s : String) (fields : List Field), (∀ f, f ∈ fields) →
      fields.find? (fun f => Text.alike f.key.toList (Text.trim s.toList)) = ofKey? s) ∧
    (∀ before s after : String, Text.isBlankText before = true → Text.isBlankText after = true →
      ofKey? (before ++ s ++ after) = ofKey? s) ∧
    (∀ s t : String, Text.alike s.toList t.toList = true → ofKey? s = ofKey? t) ∧
    ∀ (s : String) (core : List Char), Text.Trimmed s.toList core →
      (∃ c ∈ core, 128 ≤ c.toNat) → ofKey? s = none := by
  refine ⟨?_, ?_, ?_, ?_, ?_⟩
  · intro s f
    simp only [ofKey?_eq_some_iff_key, normalizedKey, Text.trimmed_iff, exists_eq_left]
  · intro s fields hall
    exact find?_alike hall s
  · intro before s after hbefore hafter
    exact ofKey?_surrounded hbefore hafter s
  · intro s t halike
    exact ofKey?_of_alike halike
  · intro s core hcore hlarge
    rw [Text.trimmed_iff.mp hcore] at hlarge
    exact ofKey?_of_not_ascii hlarge

/-- Blanks that are not ASCII go and letters of either case are the same, but the small i without its
dot is another letter. -/
theorem ofKey?_trimmed_dotless :
    ofKey? "\u2003Spatial_MAX\x85\n" = some spatialMax ∧ ofKey? "spat\u0131al_max " = none := by
  obtain ⟨hspelt, -, -, -, hother⟩ := ofKey?_trimmed
  have hmixed : Text.Trimmed "\u2003Spatial_MAX\x85\n".toList "Spatial_MAX".toList :=
    Text.trimmed_iff.mpr (by decide +kernel)
  have hdotless : Text.Trimmed "spat\u0131al_max ".toList "spat\u0131al_max".toList :=
    Text.trimmed_iff.mpr (by decide +kernel)
  constructor
  · exact (hspelt _ _).mpr ⟨_, hmixed, by decide +kernel⟩
  · exact hother _ _ hdotless ⟨'\u0131', by decide +kernel, by decide⟩

end Field

end SolverDeck
