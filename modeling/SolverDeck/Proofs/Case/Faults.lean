import SolverDeck.Proofs.Case.Tree

/-!
# Faulty cases

Nothing that a case file says is passed over. A key that is not known, a key that comes again, a
parameter without a value, a value that is no parameter value: each of them makes the whole text
no case, wherever it stands and whatever stands around it (`faulty_case_refused`).

Both kinds of objects are gone through in the same way, so what follows from one entry for all of
them is said once: a step that takes a key finds it free and leaves it taken (`Takes`), hence a run
takes each key once and takes no other (`Takes.run`).
-/

namespace SolverDeck.Case

open Json (Tree Piece Blank EntryOf textOf?)

/-! ### Faults -/

/-- Trees that are no parameter values: `null`, objects, and lists with such a tree in them. -/
inductive Unusable : Tree → Prop
  | null : Unusable .null
  | object (entries : List (List Piece × Tree)) : Unusable (.object entries)
  | list {t : Tree} {items : List Tree} (member : t ∈ items) (unusable : Unusable t) :
      Unusable (.list items)

/-- Entries with a key that is none of `known`, or with a key that comes again. Keys are the same if
they are the same texts, however they are written. -/
inductive BadKeys (known : List String) (entries : List (List Piece × Tree)) : Prop
  | unknown {entry : List Piece × Tree} (member : entry ∈ entries)
      (other : ∀ key ∈ known, textOf? entry.1 ≠ some key)
  | repeated (again : ¬ (entries.map fun entry => textOf? entry.1).Nodup)

/-- Entries of an object that is no parameter. -/
inductive FaultyParameter (entries : List (List Piece × Tree)) : Prop
  | keys (bad : BadKeys parameterKeys entries)
  | noValue (missing : ∀ entry ∈ entries, textOf? entry.1 ≠ some "value")
  | value {entry : List Piece × Tree} (member : entry ∈ entries)
      (key : textOf? entry.1 = some "value") (unusable : Unusable entry.2)

/-- Entries of an object that is no case. -/
inductive FaultyCase (entries : List (List Piece × Tree)) : Prop
  | keys (bad : BadKeys caseKeys entries)
  | parameter {entry : List Piece × Tree} {items : List Tree} {inner : List (List Piece × Tree)}
      (member : entry ∈ entries) (key : textOf? entry.1 = some "parameters")
      (list : entry.2 = .list items) (item : .object inner ∈ items)
      (faulty : FaultyParameter inner)

/-! ### Runs over entries -/

theorem exists_of_mapM {f : α → Option β} {as : List α} {bs : List β} {a : α}
    (h : as.mapM f = some bs) (ha : a ∈ as) : ∃ b, f a = some b := by
  induction as generalizing bs with
  | nil => cases ha
  | cons c as ih =>
      rw [List.mapM_cons] at h
      obtain ⟨d, hd, h⟩ := Option.bind_eq_some_iff.mp h
      obtain ⟨ds, hds, -⟩ := Option.bind_eq_some_iff.mp h
      rcases List.mem_cons.mp ha with rfl | ha
      · exact ⟨d, hd⟩
      · exact ih hds ha

theorem mapM_eq_none {f : α → Option β} {as : List α} {a : α} (ha : a ∈ as) (h : f a = none) :
    as.mapM f = none := by
  cases has : as.mapM f with
  | none => rfl
  | some bs =>
      obtain ⟨b, hb⟩ := exists_of_mapM has ha
      rw [h] at hb
      cases hb

theorem exists_of_foldlM {step? : σ → α → Option σ} {as : List α} {s s' : σ} {a : α}
    (h : as.foldlM step? s = some s') (ha : a ∈ as) : ∃ t t', step? t a = some t' := by
  induction as generalizing s with
  | nil => cases ha
  | cons b as ih =>
      rw [List.foldlM_cons] at h
      obtain ⟨t, ht, h⟩ := Option.bind_eq_some_iff.mp h
      rcases List.mem_cons.mp ha with rfl | ha
      · exact ⟨s, t, ht⟩
      · exact ih h ha

/-- A step that takes a key: it finds the key free, and afterwards just that key more is held. -/
def Takes (holds : σ → κ → Prop) (key : α → κ) (step? : σ → α → Option σ) : Prop :=
  ∀ s a s', step? s a = some s' →
    ¬ holds s (key a) ∧ ∀ k, holds s' k ↔ holds s k ∨ k = key a

/-- **Keys.** A run over entries holds in the end just what it held before and the keys of the
entries, and each of them came once. -/
theorem Takes.run {holds : σ → κ → Prop} {key : α → κ} {step? : σ → α → Option σ} {as : List α}
    {s s' : σ} (h : Takes holds key step?) (hrun : as.foldlM step? s = some s') :
    (as.map key).Nodup ∧ (∀ k ∈ as.map key, ¬ holds s k) ∧
      ∀ k, holds s' k ↔ holds s k ∨ k ∈ as.map key := by
  induction as generalizing s with
  | nil =>
      obtain rfl : s = s' := Option.some.inj hrun
      simp
  | cons a as ih =>
      rw [List.foldlM_cons] at hrun
      obtain ⟨t, ht, hrun⟩ := Option.bind_eq_some_iff.mp hrun
      obtain ⟨hfree, hheld⟩ := h s a t ht
      obtain ⟨hnodup, hothers, hend⟩ := ih hrun
      have hnew : key a ∉ as.map key := fun hmem => hothers _ hmem ((hheld _).mpr (.inr rfl))
      refine ⟨List.nodup_cons.mpr ⟨hnew, hnodup⟩, ?_, ?_⟩
      · intro k hk
        rcases List.mem_cons.mp hk with rfl | hk
        · exact hfree
        · exact fun hs => hothers k hk ((hheld k).mpr (.inl hs))
      · intro k
        rw [hend k, hheld k, List.map_cons, List.mem_cons, or_assoc]

variable {entry : List Piece × Tree} {entries : List (List Piece × Tree)}

/-! ### Values -/

theorem Unusable.value?_eq_none {t : Tree} (h : Unusable t) (levels : Nat) :
    t.value? levels = none := by
  induction h generalizing levels with
  | null => cases levels <;> rfl
  | object entries => exact value?_object levels entries
  | @list t items member unusable ih =>
      cases levels with
      | zero => rfl
      | succ levels =>
          rw [value?_list, mapM_eq_none member (ih levels), Option.map_none]

/-! ### Parameters -/

/-- What is held already under a key of a parameter. -/
def PartialParameter.Holds (p : PartialParameter) (key : Option String) : Prop :=
  key = some "field" ∧ p.field.isSome ∨ key = some "label" ∧ p.label.isSome ∨
    key = some "value" ∧ p.value.isSome

theorem PartialParameter.takes :
    Takes PartialParameter.Holds (fun entry => textOf? entry.1) PartialParameter.take? := by
  intro p entry q h
  obtain ⟨hkey, hfree, v, -, rfl⟩ | ⟨hkey, hfree, v, -, rfl⟩ | ⟨hkey, hfree, v, -, rfl⟩ :=
    PartialParameter.take?_eq_some_iff.mp h
  all_goals
    refine ⟨by simp [PartialParameter.Holds, hkey, hfree], fun k => ?_⟩
    grind [PartialParameter.Holds]

theorem BadKeys.parameter_refused (h : BadKeys parameterKeys entries) :
    entries.foldlM PartialParameter.take? {} = none := by
  cases hrun : entries.foldlM PartialParameter.take? {} with
  | none => rfl
  | some q =>
      cases h with
      | unknown member other =>
          obtain ⟨p, p', hstep⟩ := exists_of_foldlM hrun member
          obtain ⟨hkey, -⟩ | ⟨hkey, -⟩ | ⟨hkey, -⟩ :=
            PartialParameter.take?_eq_some_iff.mp hstep
          · exact absurd hkey (other "field" (by decide))
          · exact absurd hkey (other "label" (by decide))
          · exact absurd hkey (other "value" (by decide))
      | repeated again => exact absurd (PartialParameter.takes.run hrun).1 again

theorem FaultyParameter.refused (h : FaultyParameter entries) :
    parameter? (.object entries) = none := by
  rw [parameter?]
  cases hrun : entries.foldlM PartialParameter.take? {} with
  | none => rfl
  | some q =>
      cases h with
      | keys bad =>
          rw [bad.parameter_refused] at hrun
          cases hrun
      | noValue missing =>
          obtain ⟨-, -, hend⟩ := PartialParameter.takes.run hrun
          have hvalue := hend (some "value")
          have hmissing : some "value" ∉ entries.map fun entry => textOf? entry.1 := by
            intro hmem
            obtain ⟨entry, hentry, hkey⟩ := List.mem_map.mp hmem
            exact missing entry hentry hkey
          cases hq : q.value with
          | none => rw [Option.bind_some, PartialParameter.finish?, hq]; rfl
          | some v => simp [PartialParameter.Holds, hq, hmissing] at hvalue
      | value member key unusable =>
          obtain ⟨p, p', hstep⟩ := exists_of_foldlM hrun member
          obtain ⟨hkey, -⟩ | ⟨hkey, -⟩ | ⟨-, -, v, hv, -⟩ :=
            PartialParameter.take?_eq_some_iff.mp hstep
          · exact absurd (key.symm.trans hkey) (by decide)
          · exact absurd (key.symm.trans hkey) (by decide)
          · rw [unusable.value?_eq_none] at hv
            cases hv

/-! ### Cases -/

/-- What is held already under a key of a case. -/
def PartialCase.Holds (c : PartialCase) (key : Option String) : Prop :=
  key = some "base" ∧ c.base.isSome ∨ key = some "parameters" ∧ c.parameters.isSome

theorem PartialCase.takes :
    Takes PartialCase.Holds (fun entry => textOf? entry.1) PartialCase.take? := by
  intro c entry d h
  obtain ⟨hkey, hfree, v, -, rfl⟩ | ⟨hkey, hfree, v, -, rfl⟩ := PartialCase.take?_eq_some_iff.mp h
  all_goals
    refine ⟨by simp [PartialCase.Holds, hkey, hfree], fun k => ?_⟩
    grind [PartialCase.Holds]

theorem FaultyCase.refused (h : FaultyCase entries) : ofEntries? entries = none := by
  rw [ofEntries?]
  cases hrun : entries.foldlM PartialCase.take? {} with
  | none => rfl
  | some d =>
      cases h with
      | keys bad =>
          cases bad with
          | unknown member other =>
              obtain ⟨c, c', hstep⟩ := exists_of_foldlM hrun member
              obtain ⟨hkey, -⟩ | ⟨hkey, -⟩ := PartialCase.take?_eq_some_iff.mp hstep
              · exact absurd hkey (other "base" (by decide))
              · exact absurd hkey (other "parameters" (by decide))
          | repeated again => exact absurd (PartialCase.takes.run hrun).1 again
      | parameter member key list item faulty =>
          obtain ⟨c, c', hstep⟩ := exists_of_foldlM hrun member
          obtain ⟨hkey, -⟩ | ⟨-, -, v, hv, -⟩ := PartialCase.take?_eq_some_iff.mp hstep
          · exact absurd (key.symm.trans hkey) (by decide)
          · rw [list, parameters?] at hv
            obtain ⟨p, hp⟩ := exists_of_mapM hv item
            rw [faulty.refused] at hp
            cases hp

/-- **Nothing is passed over.** A text whose object has a fault in it, or that goes on behind the
object, is refused as no case. -/
theorem faulty_case_refused {before cs after : List Char} (hbefore : Blank before)
    (h : (Tree.object entries).Spells cs) (hfault : FaultyCase entries ∨ ¬ Blank after) :
    ∃ fault, parse (String.ofList (before ++ (cs ++ after))) = .error fault ∧
      fault.diagnostic.placeholder = "INPUT.CASE_PARSE" := by
  obtain ⟨refusal, hparse⟩ :=
    parse_object_refuses hbefore h (hfault.imp_left FaultyCase.refused)
  exact ⟨_, hparse, rfl⟩

/-- A key that comes again behind an escape. -/
theorem faulty_case_refused_escaped :
    ∃ fault, parse "\x7b \"b\\u0061se\":null, \"base\":\"a\"\x7d" = .error fault ∧
      fault.diagnostic.placeholder = "INPUT.CASE_PARSE" := by
  have hescaped : Json.Written (.char 'b' :: .unit 97 :: Json.plain "se") _ :=
    .cons (.plain (by decide) (by decide) (by decide))
      (.cons (.unit (@Json.CodeUnit.digits 0 0 6 1 '0' '0' '6' '1' (by decide) (by decide) (by decide)
        (by decide))) (Json.written_plain (by decide)))
  have hfirst : EntryOf Tree.Spells (.char 'b' :: .unit 97 :: Json.plain "se", .null) _ :=
    .entry hescaped Blank.nil Blank.nil .null
  have hsecond : EntryOf Tree.Spells (Json.plain "base", .text (Json.plain "a")) _ :=
    .entry (Json.written_plain (by decide)) Blank.nil Blank.nil
      (.text (Json.written_plain (by decide)))
  have hspace : Blank [' '] := by decide
  have hobject := Tree.Spells.object
    (.first hspace hfirst (.next Blank.nil hspace hsecond (.done Blank.nil)))
  have hfault : FaultyCase [(.char 'b' :: .unit 97 :: Json.plain "se", Tree.null),
      (Json.plain "base", .text (Json.plain "a"))] :=
    .keys (.repeated (by decide))
  obtain ⟨fault, hparse, hplaceholder⟩ :=
    @faulty_case_refused _ [] _ [] Blank.nil hobject (.inl hfault)
  exact ⟨fault, hparse, hplaceholder⟩

end SolverDeck.Case
