import SolverDeck.Field
import SolverDeck.Proofs.Text.Trimming

/-!
# Spellings of a key

Users may write the key of a field with blanks around it and its letters in either case. `Spelt`
says which texts that makes, without a word on how a field is looked up. They are exactly the
texts that lead to the field (`Field.ofKey?_eq_some_iff`). This rests on two facts about the table
of keys: they are different, and they have no blanks in them, so that trimming leaves a key whole.

The setters are told apart in the same way: the one that is named for a key sets the field of that key
(`Field.ofSetterName?_setterName`).
-/

namespace SolverDeck

namespace Field

variable {f : Field} {s : String}

/-! ### The table of keys -/

theorem key_not_blank (f : Field) : ∀ c ∈ f.key.toList, Text.isBlank c = false := by
  have h : ∀ f ∈ all, f.key.toList.any Text.isBlank = false := by decide +kernel
  intro c hc
  simpa using List.any_eq_false.mp (h f (mem_all f)) c hc

theorem find?_key (f : Field) : all.find? (fun g => g.key == f.key) = some f := by
  have h : ∀ f ∈ all, all.find? (fun g => g.key == f.key) = some f := by decide +kernel
  exact h f (mem_all f)

/-! ### The table of setters -/

/-- The setter that is named for the key of a field sets just this field. -/
theorem ofSetterName?_setterName (f : Field) : ofSetterName? f.setterName = some f := by
  have h : ∀ f ∈ all, ofSetterName? f.setterName = some f := by decide +kernel
  exact h f (mem_all f)

/-! ### Spellings -/

/-- A text spells the key of a field: it is the key with letters of either case, and nothing but
blanks around it. -/
def Spelt (f : Field) (s : String) : Prop :=
  ∃ before word after, s.toList = before ++ word ++ after ∧
    (∀ c ∈ before, Text.isBlank c = true) ∧ (∀ c ∈ after, Text.isBlank c = true) ∧
    word.map Char.toLower = f.key.toList

theorem Spelt.normalizedKey (h : f.Spelt s) : normalizedKey s = f.key.toList := by
  obtain ⟨before, word, after, hs, hbefore, hafter, hword⟩ := h
  have hplain : ∀ c ∈ word, Text.isBlank c = false := by
    intro c hc
    rw [← Text.isBlank_toLower]
    exact f.key_not_blank c.toLower (hword ▸ List.mem_map_of_mem hc)
  have htrimmed : Text.Trimmed s.toList word :=
    ⟨⟨before, after, hs, hbefore, hafter⟩, fun c hc => hplain c (List.mem_of_mem_head? hc),
      fun c hc => hplain c (List.mem_of_mem_getLast? hc)⟩
  rw [Field.normalizedKey, ← Text.trimmed_iff.mp htrimmed, hword]

/-- A field is found just if its key is what the text is normalized to. -/
theorem ofKey?_eq_some_iff_key : ofKey? s = some f ↔ normalizedKey s = f.key.toList := by
  constructor
  · intro h
    have hkey : f.key.toList = normalizedKey s := by simpa using List.find?_some h
    exact hkey.symm
  · intro h
    have hsame : (fun g : Field => g.key.toList == f.key.toList) = fun g => g.key == f.key := by
      funext g
      rw [Bool.eq_iff_iff, beq_iff_eq, beq_iff_eq, String.toList_inj]
    rw [ofKey?, h, hsame]
    exact find?_key f

/-- A field is found by the spellings of its key. -/
theorem ofKey?_eq_some_iff : ofKey? s = some f ↔ f.Spelt s := by
  rw [ofKey?_eq_some_iff_key]
  constructor
  · intro h
    obtain ⟨before, after, hs, hbefore, hafter⟩ := Text.exists_eq_append_trim s.toList
    exact ⟨before, Text.trim s.toList, after, hs, hbefore, hafter, h⟩
  · intro h
    exact h.normalizedKey

end Field

end SolverDeck
