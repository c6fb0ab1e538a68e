import Mathlib.Data.List.Nodup
import SolverDeck.Case
import SolverDeck.Deck

/-!
# Coherent stores

A label has at most one scalar, no label has both a scalar and a sweep, and no scalar
holds a list. `Store.Coherent` says so. Everything that happens to a store comes down to
registering values one after the other, so what matters is that registering keeps it
(`Coherent.register`).

A deck shows the scalars and one value of the only sweep. In a coherent store the labels
of its lines are therefore distinct (`Coherent.nodup_shown`), and no deck contradicts
itself.
-/

namespace SolverDeck

namespace Store

/-! ### Setting a scalar -/

/-- A label that was new stands at the end, and the others stay where they were. -/
theorem labels_setScalar (label : String) (value : Value) (ss : List Scalar) :
    (setScalar label value ss).map (·.label) =
      if label ∈ ss.map (·.label) then ss.map (·.label) else ss.map (·.label) ++ [label] := by
  induction ss with
  | nil => rfl
  | cons s ss ih =>
      by_cases h : s.label = label
      · simp [setScalar, h]
      · have hne : ¬ label = s.label := fun e => h e.symm
        simp only [setScalar, if_neg h, List.map_cons, ih, List.mem_cons, hne, false_or]
        split <;> rfl

/-- Nothing comes in but the scalar that was set. -/
theorem mem_setScalar {label : String} {value : Value} {ss : List Scalar} {s : Scalar}
    (h : s ∈ setScalar label value ss) : s = ⟨label, value⟩ ∨ s ∈ ss := by
  induction ss with
  | nil => exact Or.inl (List.mem_singleton.mp h)
  | cons t ss ih =>
      by_cases ht : t.label = label
      · rw [setScalar, if_pos ht] at h
        rcases List.mem_cons.mp h with h | h
        · exact Or.inl h
        · exact Or.inr (List.mem_cons_of_mem t h)
      · rw [setScalar, if_neg ht] at h
        rcases List.mem_cons.mp h with h | h
        · exact Or.inr (h ▸ List.mem_cons_self)
        · exact (ih h).imp_right (List.mem_cons_of_mem t)

/-- A label that is new gets its scalar at the end. -/
theorem setScalar_new {label : String} {ss : List Scalar} (h : label ∉ ss.map (·.label))
    (value : Value) : setScalar label value ss = ss ++ [⟨label, value⟩] := by
  induction ss with
  | nil => rfl
  | cons s ss ih =>
      rw [List.map_cons, List.mem_cons, not_or] at h
      rw [setScalar, if_neg (fun e => h.1 e.symm), ih h.2, List.cons_append]

/-- A label that has one scalar keeps it in place. -/
theorem setScalar_again {label : String} {ss : List Scalar} (hnodup : (ss.map (·.label)).Nodup)
    (h : label ∈ ss.map (·.label)) (value : Value) :
    setScalar label value ss = ss.map fun s => if s.label = label then ⟨label, value⟩ else s := by
  induction ss with
  | nil => exact absurd h List.not_mem_nil
  | cons s ss ih =>
      rw [List.map_cons, List.nodup_cons] at hnodup
      by_cases hs : s.label = label
      · subst hs
        have hrest : ∀ t ∈ ss, ¬ t.label = s.label :=
          fun t ht e => hnodup.1 (e ▸ List.mem_map_of_mem ht)
        rw [setScalar, if_pos rfl, List.map_cons, if_pos rfl,
          List.map_congr_left fun t ht => if_neg (hrest t ht), List.map_id']
      · have hmem : label ∈ ss.map (·.label) :=
          (List.mem_cons.mp h).resolve_left fun e => hs e.symm
        rw [setScalar, if_neg hs, ih hnodup.2 hmem, List.map_cons, if_neg hs]

/-! ### Registering by the kind of value -/

theorem register_single (store : Store) (label : String) {value : Value}
    (h : value.isList = false) : store.register label value = store.registerScalar label value := by
  cases value with
  | list values => cases h
  | bool | int | real | text => rfl

/-! ### Coherence -/

/-- The labels of a store are used without contradiction. -/
structure Coherent (store : Store) : Prop where
  /-- A label has at most one scalar. -/
  nodup : (store.scalars.map (·.label)).Nodup
  /-- No label has both a scalar and a sweep. -/
  apart : ∀ scalar ∈ store.scalars, ∀ sweep ∈ store.sweeps, scalar.label ≠ sweep.label
  /-- No scalar holds a list. -/
  single : ∀ scalar ∈ store.scalars, scalar.value.isList = false

theorem coherent_empty : Coherent .empty :=
  ⟨List.nodup_nil, fun _ h => absurd h List.not_mem_nil, fun _ h => absurd h List.not_mem_nil⟩

/-- A sweep drives the scalar of its label out. -/
theorem Coherent.registerSweep {store : Store} (h : store.Coherent) (label : String)
    (values : List Value) : (store.registerSweep label values).Coherent where
  nodup := h.nodup.sublist (List.filter_sublist.map _)
  apart := by
    intro scalar hscalar sweep hsweep
    obtain ⟨hmem, hne⟩ := List.mem_filter.mp hscalar
    rcases List.mem_append.mp hsweep with hsweep | hsweep
    · exact h.apart scalar hmem sweep hsweep
    · rw [List.mem_singleton.mp hsweep]
      simpa using hne
  single := fun scalar hscalar => h.single scalar (List.mem_filter.mp hscalar).1

/-- A scalar drives the sweeps of its label out. -/
theorem Coherent.registerScalar {store : Store} (h : store.Coherent) (label : String)
    {value : Value} (hv : value.isList = false) : (store.registerScalar label value).Coherent where
  nodup := by
    show ((setScalar label value store.scalars).map (·.label)).Nodup
    rw [labels_setScalar]
    split
    · exact h.nodup
    · rename_i hnew
      exact List.nodup_append.mpr ⟨h.nodup, List.nodup_singleton label,
        fun a ha b hb e => hnew (List.mem_singleton.mp hb ▸ e ▸ ha)⟩
  apart := by
    intro scalar hscalar sweep hsweep
    obtain ⟨hmem, hne⟩ := List.mem_filter.mp hsweep
    rcases mem_setScalar hscalar with rfl | hscalar
    · have hlabel : ¬ sweep.label = label := by simpa using hne
      exact fun e => hlabel e.symm
    · exact h.apart scalar hscalar sweep hmem
  single := by
    intro scalar hscalar
    rcases mem_setScalar hscalar with rfl | hscalar
    · exact hv
    · exact h.single scalar hscalar

theorem Coherent.register {store : Store} (h : store.Coherent) (label : String)
    (value : Value) : (store.register label value).Coherent := by
  cases hv : value.isList with
  | false => rw [register_single store label hv]; exact h.registerScalar label hv
  | true =>
      cases value with
      | list values => exact h.registerSweep label values
      | bool | int | real | text => cases hv

/-- A property of stores that registering keeps is kept by any number of registrations. -/
theorem registerAll_induction {motive : Store → Prop}
    (step : ∀ store label value, motive store → motive (store.register label value))
    {store : Store} (h : motive store) (entries : List (String × Value)) :
    motive (store.registerAll entries) := by
  induction entries generalizing store with
  | nil => exact h
  | cons entry entries ih => exact ih (step store entry.1 entry.2 h)

theorem Coherent.registerAll {store : Store} (h : store.Coherent)
    (entries : List (String × Value)) : (store.registerAll entries).Coherent :=
  registerAll_induction (fun _ label value hs => hs.register label value) h entries

/-! ### What a deck shows -/

/-- What a deck of the store can show behind the scalars: nothing if there are no
sweeps, and one of its values if there is one sweep. -/
inductive Swept (store : Store) : Option (String × Value) → Prop
  | none (h : store.sweeps = []) : Swept store none
  | value {sweep : Sweep} {value : Value} (h : store.sweeps = [sweep])
      (hv : value ∈ sweep.values) : Swept store (some (sweep.label, value))

/-- Each deck of the plan is the text of all scalars and of what is swept. -/
theorem exists_swept_of_mem_plan {store : Store} {base : String} {deck : Deck}
    (h : deck ∈ (store.plan base).decks) :
    ∃ swept, store.Swept swept ∧ deck.content = Deck.text store.scalars swept := by
  unfold plan at h
  split at h
  case _ hsweeps =>
      rw [Plan.decks, List.mem_singleton] at h
      exact ⟨none, .none hsweeps, by rw [h]; rfl⟩
  case _ sweep hsweeps =>
      obtain ⟨i, hi, rfl⟩ := List.mem_mapIdx.mp h
      exact ⟨_, .value hsweeps (List.getElem_mem hi), rfl⟩
  case _ => exact absurd h List.not_mem_nil

/-- The labels that a deck of a coherent store shows are distinct. -/
theorem Coherent.nodup_shown {store : Store} (h : store.Coherent) {swept : Option (String × Value)}
    (hs : store.Swept swept) :
    (store.scalars.map (·.label) ++ swept.toList.map (·.1)).Nodup := by
  cases hs with
  | none => simpa using h.nodup
  | @value sweep value hsweeps =>
      refine List.nodup_append.mpr ⟨h.nodup, List.nodup_singleton _, ?_⟩
      intro a ha b hb
      obtain ⟨scalar, hscalar, rfl⟩ := List.mem_map.mp ha
      rw [List.mem_singleton.mp hb]
      exact h.apart scalar hscalar sweep (hsweeps ▸ List.mem_singleton_self sweep)

end Store

end SolverDeck
