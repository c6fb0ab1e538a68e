import Mathlib.Data.List.Nodup
import SolverDeck.Proofs.Deck.Path

/-!
# When deck paths coincide

A base and a number are put together without quoting, and the base may hold anything: dashes,
digits, separators, the ending itself. It may also be absolute, and then the directory is dropped.
Still a path tells which base and number it was made of, but for one confusion: a base that ends
like a numbered deck (`Deck.Mimics`). The number is what stands behind the last dash, as there
is no dash in a number (`append_dash_inj`).

From paths this goes on to plans. Which numbers a store gives its decks does not depend on the
base (`Store.indices`), so two plans have a path in common just if two of their numbers coincide
in this sense (`Deck.paths_coincide`).
-/

namespace SolverDeck

/-! ### Joining -/

/-- Different paths stay different when they are seen from a root that is not absolute. -/
theorem Path.join_injective {root p q : Path} (hroot : root.isAbsolute = false)
    (h : root.join p = root.join q) : p = q := by
  -- An absolute path stays absolute, and no other becomes so.
  have hjoin (path : Path) : (root.join path).isAbsolute = path.isAbsolute := by
    cases hpath : path.isAbsolute with
    | true => rw [join, if_pos hpath, hpath]
    | false => rw [isAbsolute_join root hpath, hroot]
  have habsolute : p.isAbsolute = q.isAbsolute := by rw [← hjoin p, ← hjoin q, h]
  unfold join at h
  rw [habsolute] at h
  split at h
  case isTrue => exact h
  case isFalse =>
    split at h
    case isTrue => exact h
    case isFalse =>
      split at h
      case isTrue => exact (String.append_right_inj _).mp h
      case isFalse => exact (String.append_right_inj _).mp h

namespace Deck

variable {b c : String} {i j : Option Nat}

/-! ### Names -/

/-- Nothing can be put before a dash if there is none behind it to take its place. -/
theorem eq_nil_of_dash {more behind behind' : List Char} (hbehind : '-' ∉ behind)
    (h : '-' :: behind = more ++ '-' :: behind') : more = [] := by
  cases more with
  | nil => rfl
  | cons d more =>
      refine absurd ?_ hbehind
      rw [(List.cons.inj h).2]
      exact List.mem_append_right more List.mem_cons_self

/-- A text has one last dash. -/
theorem append_dash_inj {before before' behind behind' : List Char} (hbehind : '-' ∉ behind)
    (hbehind' : '-' ∉ behind') (h : before ++ '-' :: behind = before' ++ '-' :: behind') :
    before = before' ∧ behind = behind' := by
  have hbefore : before = before' := by
    rcases List.append_eq_append_iff.mp h with ⟨more, rfl, hrest⟩ | ⟨more, rfl, hrest⟩
    · rw [eq_nil_of_dash hbehind hrest, List.append_nil]
    · rw [eq_nil_of_dash hbehind' hrest, List.append_nil]
  subst hbefore
  exact ⟨rfl, (List.cons.inj (List.append_cancel_left h)).2⟩

/-- A base with its number, if it has one. -/
def numbered (base : String) : Option Nat → String
  | none => base
  | some index => base ++ "-" ++ toString index

theorem fileName_eq_numbered (base : String) (index : Option Nat) :
    fileName base index = numbered base index ++ ending := by
  cases index <;> rfl

theorem toList_numbered_some (base : String) (n : Nat) :
    (numbered base (some n)).toList = base.toList ++ '-' :: (toString n).toList := by
  rw [numbered, String.toList_append, String.toList_append, List.append_assoc]
  rfl

theorem numbered_some_inj {m n : Nat} (h : numbered b (some m) = numbered c (some n)) :
    b = c ∧ m = n := by
  have hdash (k : Nat) : '-' ∉ (toString k).toList :=
    fun hmem => absurd (isDigit_of_mem_toString hmem) (by decide)
  have hlist := congrArg String.toList h
  rw [toList_numbered_some, toList_numbered_some] at hlist
  obtain ⟨hbase, hnumber⟩ := append_dash_inj (hdash m) (hdash n) hlist
  exact ⟨String.toList_inj.mp hbase, toString_injective (String.toList_inj.mp hnumber)⟩

/-- A base without a number that looks like another base with its number. -/
def Mimics (b : String) (i : Option Nat) (c : String) (j : Option Nat) : Prop :=
  i = none ∧ ∃ n, j = some n ∧ b = c ++ "-" ++ toString n

theorem numbered_eq_iff :
    numbered b i = numbered c j ↔ (b = c ∧ i = j) ∨ Mimics b i c j ∨ Mimics c j b i := by
  constructor
  · intro h
    cases i with
    | none =>
        cases j with
        | none => exact .inl ⟨h, rfl⟩
        | some n => exact .inr (.inl ⟨rfl, n, rfl, h⟩)
    | some m =>
        cases j with
        | none => exact .inr (.inr ⟨rfl, m, rfl, h.symm⟩)
        | some n =>
            obtain ⟨hbase, rfl⟩ := numbered_some_inj h
            exact .inl ⟨hbase, rfl⟩
  · rintro (⟨rfl, rfl⟩ | ⟨rfl, n, rfl, rfl⟩ | ⟨rfl, n, rfl, rfl⟩) <;> rfl

/-! ### Paths -/

/-- **Paths.** -/
theorem pathOf_eq_iff :
    pathOf b i = pathOf c j ↔ (b = c ∧ i = j) ∨ Mimics b i c j ∨ Mimics c j b i := by
  rw [← numbered_eq_iff]
  constructor
  · intro h
    have hname : fileName b i = fileName c j := Path.join_injective (by decide) h
    rw [fileName_eq_numbered, fileName_eq_numbered] at hname
    exact (String.append_left_inj _).mp hname
  · intro h
    rw [pathOf, pathOf, fileName_eq_numbered, fileName_eq_numbered, h]

theorem pathOf_injective (base : String) : Function.Injective (pathOf base) := by
  intro i j h
  have hname : fileName base i = fileName base j := Path.join_injective (by decide) h
  rw [fileName_eq_append base i, fileName_eq_append base j] at hname
  exact fileName_injective ((String.append_right_inj _).mp hname)

end Deck

/-! ### Plans -/

namespace Store

variable {s t : Store} {b c : String}

/-- The numbers of the decks that a store makes: none for a deck that is alone. -/
def indices (store : Store) : List (Option Nat) :=
  match store.sweeps with
  | [] => [none]
  | [sweep] => (List.range sweep.values.length).map some
  | _ => []

theorem map_path_plan (store : Store) (base : String) :
    (store.plan base).decks.map (·.path) = store.indices.map (Deck.pathOf base) := by
  rcases hsweeps : store.sweeps with _ | ⟨sweep, _ | ⟨other, sweeps⟩⟩
  · simp [plan, indices, hsweeps, Plan.decks, singleDeck]
  · simp only [plan, indices, hsweeps, Plan.decks]
    refine List.ext_getElem (by simp) fun n _ _ => ?_
    simp [sweepDeck]
  · simp [plan, indices, hsweeps, Plan.decks]

theorem nodup_indices (store : Store) : store.indices.Nodup := by
  unfold indices
  split
  case _ => exact List.nodup_singleton none
  case _ => exact List.nodup_range.map fun _ _ h => Option.some.inj h
  case _ => exact List.nodup_nil

theorem none_mem_indices : none ∈ s.indices ↔ s.sweeps = [] := by
  unfold indices
  split <;> simp_all

theorem some_mem_indices {n : Nat} :
    some n ∈ s.indices ↔ ∃ sweep, s.sweeps = [sweep] ∧ n < sweep.values.length := by
  unfold indices
  split <;> simp_all

theorem exists_path_plan {P : Path → Prop} :
    (∃ d ∈ (s.plan b).decks, P d.path) ↔ ∃ i ∈ s.indices, P (Deck.pathOf b i) := by
  have hpaths := s.map_path_plan b
  constructor
  · rintro ⟨d, hd, hP⟩
    have hpath := List.mem_map_of_mem (f := (·.path)) hd
    rw [hpaths] at hpath
    obtain ⟨i, hi, heq⟩ := List.mem_map.mp hpath
    exact ⟨i, hi, heq ▸ hP⟩
  · rintro ⟨i, hi, hP⟩
    have hpath := List.mem_map_of_mem (f := Deck.pathOf b) hi
    rw [← hpaths] at hpath
    obtain ⟨d, hd, heq⟩ := List.mem_map.mp hpath
    exact ⟨d, hd, heq ▸ hP⟩

/-- A store without a sweep, under a base that looks like one of the numbered decks that another
store makes of its sweep. -/
def MimicsSweep (s : Store) (b : String) (t : Store) (c : String) : Prop :=
  s.sweeps = [] ∧ ∃ sweep n, t.sweeps = [sweep] ∧ n < sweep.values.length ∧
    b = c ++ "-" ++ toString n

theorem mimicsSweep_iff :
    s.MimicsSweep b t c ↔ ∃ i ∈ s.indices, ∃ j ∈ t.indices, Deck.Mimics b i c j := by
  constructor
  · rintro ⟨hs, sweep, n, ht, hn, hbase⟩
    exact ⟨none, none_mem_indices.mpr hs, some n, some_mem_indices.mpr ⟨sweep, ht, hn⟩, rfl, n, rfl,
      hbase⟩
  · rintro ⟨i, hi, j, hj, rfl, n, rfl, hbase⟩
    obtain ⟨sweep, ht, hn⟩ := some_mem_indices.mp hj
    exact ⟨none_mem_indices.mp hi, sweep, n, ht, hn, hbase⟩

/-- **Plans.** -/
theorem plans_share_path_iff :
    (∃ d ∈ (s.plan b).decks, ∃ e ∈ (t.plan c).decks, d.path = e.path) ↔
      (b = c ∧ ∃ i ∈ s.indices, i ∈ t.indices) ∨ s.MimicsSweep b t c ∨ t.MimicsSweep c s b := by
  have hshare : (∃ d ∈ (s.plan b).decks, ∃ e ∈ (t.plan c).decks, d.path = e.path) ↔
      ∃ i ∈ s.indices, ∃ j ∈ t.indices, Deck.pathOf b i = Deck.pathOf c j := by
    rw [exists_path_plan (P := fun p => ∃ e ∈ (t.plan c).decks, p = e.path)]
    exact exists_congr fun i => and_congr_right fun _ => exists_path_plan
  rw [hshare, mimicsSweep_iff, mimicsSweep_iff]
  constructor
  · rintro ⟨i, hi, j, hj, hpath⟩
    rcases Deck.pathOf_eq_iff.mp hpath with ⟨hbase, rfl⟩ | hmimics | hmimics
    · exact .inl ⟨hbase, i, hi, hj⟩
    · exact .inr (.inl ⟨i, hi, j, hj, hmimics⟩)
    · exact .inr (.inr ⟨j, hj, i, hi, hmimics⟩)
  · rintro (⟨hbase, i, hi, hj⟩ | ⟨i, hi, j, hj, hmimics⟩ | ⟨j, hj, i, hi, hmimics⟩)
    · exact ⟨i, hi, i, hj, Deck.pathOf_eq_iff.mpr (.inl ⟨hbase, rfl⟩)⟩
    · exact ⟨i, hi, j, hj, Deck.pathOf_eq_iff.mpr (.inr (.inl hmimics))⟩
    · exact ⟨i, hi, j, hj, Deck.pathOf_eq_iff.mpr (.inr (.inr hmimics))⟩

end Store

/-- Deck paths coincide when base and number do, and otherwise only if a base without a number
looks like the other base with its number. So the decks of one plan all have paths of their own;
and plans under different bases have a path in common only if one of them is a single deck whose
base looks like a number of the other's sweep. -/
theorem Deck.paths_coincide :
    (∀ (b c : String) (i j : Option Nat), pathOf b i = pathOf c j ↔
      (b = c ∧ i = j) ∨ (i = none ∧ ∃ n, j = some n ∧ b = c ++ "-" ++ toString n) ∨
        (j = none ∧ ∃ n, i = some n ∧ c = b ++ "-" ++ toString n)) ∧
    (∀ (store : Store) (base : String), ((store.plan base).decks.map (·.path)).Nodup) ∧
    ∀ (s t : Store) (b c : String),
      (∃ d ∈ (s.plan b).decks, ∃ e ∈ (t.plan c).decks, d.path = e.path) ↔
        (b = c ∧ ∃ i ∈ s.indices, i ∈ t.indices) ∨ s.MimicsSweep b t c ∨ t.MimicsSweep c s b := by
  refine ⟨fun b c i j => pathOf_eq_iff, fun store base => ?_,
    fun s t b c => Store.plans_share_path_iff⟩
  rw [store.map_path_plan base]
  exact store.nodup_indices.map (pathOf_injective base)

/-- A single deck takes the path of the second deck of a sweep. -/
example : Deck.pathOf "/r/b-1" none = Deck.pathOf "/r/b" (some 1) := by decide

end SolverDeck
