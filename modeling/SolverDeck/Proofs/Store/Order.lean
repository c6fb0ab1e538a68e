import Mathlib.Data.List.Forall2
import SolverDeck.Proofs.Store.History

/-!
# Registering in another order

Registrations of different labels do not commute as changes of a store: what is new comes last,
so the order of calls shows in the order of the scalars and of the sweeps. It shows in nothing
else. If two histories have the same registrations of each label, in the same order, the stores
that they leave differ in the order of their entries only, and so do the decks
(`Store.registerAll_reordered`). Callers that do not share labels may therefore take turns in
any way (`History.SameByLabel.of_callers`).

The induction is not over the ways to rearrange a history. What a store holds under one label,
`Store.under`, is changed by the registrations of that label and by nothing else, so it is what
these alone make of it (`Store.under_registerAll`). Stores that agree under each label have the
same entries.
-/

namespace SolverDeck

/-! ### Lists with labels -/

section

variable {α : Type} (label : α → String)

theorem filter_label_of_ne {a b : String} (h : a ≠ b) (xs : List α) :
    (xs.filter fun x => label x != a).filter (fun x => label x == b) =
      xs.filter fun x => label x == b := by
  rw [List.filter_filter]
  refine List.filter_congr fun x _ => ?_
  by_cases hx : label x = b
  · simp [hx, h.symm]
  · simp [hx]

/-- Lists that have the same elements of each label, in the same order, have the same elements. -/
theorem perm_of_filter_label {xs ys : List α}
    (h : ∀ l, xs.filter (fun x => label x == l) = ys.filter fun x => label x == l) :
    xs.Perm ys := by
  induction xs generalizing ys with
  | nil =>
      have hys : ys = [] := by
        rw [List.eq_nil_iff_forall_not_mem]
        intro y hy
        have hmem : y ∈ ys.filter fun x => label x == label y :=
          List.mem_filter.mpr ⟨hy, beq_self_eq_true _⟩
        rw [← h] at hmem
        exact absurd hmem List.not_mem_nil
      rw [hys]
  | cons x xs ih =>
      -- The first of `xs` is the first of its label in `ys`, behind others of other labels.
      have hx := h (label x)
      rw [List.filter_cons_of_pos (by simp)] at hx
      obtain ⟨before, after, rfl, hbefore, -, hafter⟩ := List.filter_eq_cons_iff.mp hx.symm
      have hrest : xs.Perm (before ++ after) := by
        apply ih
        intro l
        have hl := h l
        rw [List.filter_append] at hl ⊢
        by_cases hxl : label x = l
        · subst hxl
          have hnone : (before.filter fun y => label y == label x) = [] :=
            List.filter_eq_nil_iff.mpr hbefore
          rw [hnone, List.nil_append, hafter]
        · rwa [List.filter_cons_of_neg (by simpa using hxl),
            List.filter_cons_of_neg (by simpa using hxl)] at hl
      exact (hrest.cons x).trans List.perm_middle.symm

end

/-! ### Histories -/

namespace History

/-- What a history registers under one label. -/
def under (h : History) (label : String) : History :=
  h.filter fun entry => entry.1 == label

/-- Each label has the same registrations in both histories, in the same order. -/
def SameByLabel (h k : History) : Prop :=
  ∀ label, h.under label = k.under label

/-- Such histories differ in order only. -/
theorem SameByLabel.perm {h k : History} (same : h.SameByLabel k) : h.Perm k :=
  perm_of_filter_label (fun entry : String × Value => entry.1) same

/-- Callers to whom the labels belong may take turns in any way. -/
theorem SameByLabel.of_callers {κ : Type} [DecidableEq κ] (caller : String → κ) {h k : History}
    (same : ∀ c, h.filter (fun entry => caller entry.1 == c) =
      k.filter fun entry => caller entry.1 == c) : h.SameByLabel k := by
  intro label
  have hwithin : ∀ g : History,
      g.under label = under (g.filter fun entry => caller entry.1 == caller label) label := by
    intro g
    unfold under
    rw [List.filter_filter]
    refine List.filter_congr fun entry _ => ?_
    by_cases hlabel : entry.1 = label
    · simp [hlabel]
    · simp [hlabel]
  rw [hwithin h, hwithin k, same]

end History

namespace Store

/-! ### One label of a store -/

/-- What a store holds under one label. -/
def under (store : Store) (label : String) : Store where
  scalars := store.scalars.filter (·.label == label)
  sweeps := store.sweeps.filter (·.label == label)

theorem filter_setScalar_self (label : String) (value : Value) (ss : List Scalar) :
    (setScalar label value ss).filter (·.label == label) =
      setScalar label value (ss.filter (·.label == label)) := by
  induction ss with
  | nil => simp [setScalar]
  | cons s ss ih =>
      by_cases hs : s.label = label
      · simp [setScalar, hs]
      · simp [setScalar, hs, ih]

theorem filter_setScalar_of_ne {label other : String} (h : label ≠ other) (value : Value)
    (ss : List Scalar) :
    (setScalar label value ss).filter (·.label == other) = ss.filter (·.label == other) := by
  induction ss with
  | nil => simp [setScalar, h]
  | cons s ss ih =>
      by_cases hs : s.label = label
      · simp [setScalar, hs, h]
      · rw [setScalar, if_neg hs, List.filter_cons, List.filter_cons, ih]

theorem under_register_self (store : Store) (label : String) (value : Value) :
    (store.register label value).under label = (store.under label).register label value := by
  cases hv : value.isList with
  | false =>
      rw [register_single store label hv, register_single _ label hv]
      simp only [under, registerScalar, filter_setScalar_self, Store.mk.injEq, true_and]
      exact List.filter_comm _ _ _
  | true =>
      cases value with
      | list values =>
          simp only [under, register, registerSweep, List.filter_append, Store.mk.injEq]
          exact ⟨List.filter_comm _ _ _, by simp⟩
      | bool | int | real | text => cases hv

theorem under_register_of_ne (store : Store) {label other : String} (h : label ≠ other)
    (value : Value) : (store.register label value).under other = store.under other := by
  cases hv : value.isList with
  | false =>
      rw [register_single store label hv]
      simp only [under, registerScalar, filter_setScalar_of_ne h, Store.mk.injEq, true_and]
      exact filter_label_of_ne Sweep.label h store.sweeps
  | true =>
      cases value with
      | list values =>
          simp only [under, register, registerSweep, List.filter_append, Store.mk.injEq]
          exact ⟨filter_label_of_ne Scalar.label h store.scalars, by simp [h]⟩
      | bool | int | real | text => cases hv

/-- **One label.** What a store holds under a label after a history is what the registrations of
that label alone make of what it held under it before. -/
theorem under_registerAll (store : Store) (h : History) (label : String) :
    (store.registerAll h).under label = (store.under label).registerAll (h.under label) := by
  induction h generalizing store with
  | nil => rfl
  | cons entry h ih =>
      obtain ⟨other, value⟩ := entry
      rw [registerAll_cons, ih]
      by_cases hlabel : other = label
      · subst hlabel
        rw [under_register_self, History.under, History.under,
          List.filter_cons_of_pos (by simp), registerAll_cons]
      · rw [under_register_of_ne store hlabel, History.under, History.under,
          List.filter_cons_of_neg (by simpa using hlabel)]

theorem scalar?_under (store : Store) (label : String) :
    (store.under label).scalar? label = store.scalar? label := by
  simp only [scalar?, under, List.find?_filter, and_self, Bool.decide_eq_true]

end Store

/-! ### Decks -/

/-- Two decks at the same path show the same swept value, if any, behind scalars of two
stores. -/
structure Deck.Reordered (ss ts : List Scalar) (swept : Option (String × Value))
    (d e : Deck) : Prop where
  path : d.path = e.path
  content : d.content = Deck.text ss swept
  other_content : e.content = Deck.text ts swept

/-- Two plans are of the same kind, with decks that correspond to each other. -/
inductive Plan.Reordered (ss ts : List Scalar) : Plan → Plan → Prop
  | single {d e : Deck} (deck : Deck.Reordered ss ts none d e) :
      Reordered ss ts (.single d) (.single e)
  /-- They are decks of a sweep of the same label, one by one for the same values. -/
  | sweep {label : String} {ds es : List Deck}
      (decks : List.Forall₂ (fun d e => ∃ v, Deck.Reordered ss ts (some (label, v)) d e) ds es) :
      Reordered ss ts (.sweep label ds) (.sweep label es)
  | rejected {labels others : List String} (labels_perm : labels.Perm others) :
      Reordered ss ts (.rejected labels) (.rejected others)

namespace Store

/-- Two stores differ in the order of their entries only, and that in no label. -/
structure Reordered (a b : Store) : Prop where
  /-- Each label has the same scalar. -/
  scalar : ∀ label, a.scalar? label = b.scalar? label
  /-- Each label has the same sweeps, in the same order. -/
  sweeps : ∀ label, a.sweeps.filter (·.label == label) = b.sweeps.filter (·.label == label)
  /-- The scalars are the same. -/
  scalars_perm : a.scalars.Perm b.scalars
  /-- The sweeps are the same. -/
  sweeps_perm : a.sweeps.Perm b.sweeps
  /-- The decks show the same scalars, in the order of each store. -/
  plan : ∀ base, Plan.Reordered a.scalars b.scalars (a.plan base) (b.plan base)

variable {a b : Store}

/-- **Plans.** Their kind hangs on the number of sweeps, and only one sweep has an order. -/
theorem plan_reordered (h : a.sweeps.Perm b.sweeps) (base : String) :
    Plan.Reordered a.scalars b.scalars (a.plan base) (b.plan base) := by
  unfold plan
  match ha : a.sweeps with
  | [] =>
      rw [ha, List.nil_perm] at h
      rw [h]
      exact .single ⟨rfl, rfl, rfl⟩
  | [sweep] =>
      rw [ha, List.singleton_perm] at h
      rw [← h]
      refine .sweep (List.forall₂_iff_get.mpr ⟨by simp, ?_⟩)
      intro i hi hj
      simp only [List.get_eq_getElem, List.getElem_mapIdx]
      exact ⟨_, rfl, rfl, rfl⟩
  | s :: t :: others =>
      rw [ha] at h
      match hb : b.sweeps with
      | [] => exact absurd (hb ▸ h.length_eq) (by simp)
      | [sweep] => exact absurd (hb ▸ h.length_eq) (by simp)
      | s' :: t' :: others' => exact .rejected ((hb ▸ h).map _)

/-- Stores that agree under each label have the same entries. -/
theorem reordered_of_under (h : ∀ label, a.under label = b.under label) : a.Reordered b := by
  have hscalars : ∀ label, a.scalars.filter (·.label == label) =
      b.scalars.filter (·.label == label) := by
    intro label
    exact congrArg Store.scalars (h label)
  have hsweeps : ∀ label, a.sweeps.filter (·.label == label) =
      b.sweeps.filter (·.label == label) := by
    intro label
    exact congrArg Store.sweeps (h label)
  have hperm := perm_of_filter_label Sweep.label hsweeps
  refine ⟨?_, hsweeps, perm_of_filter_label Scalar.label hscalars, hperm, plan_reordered hperm⟩
  intro label
  rw [← a.scalar?_under, h, b.scalar?_under]

/-- From the same store on, histories that have the same registrations of each label in the same
order leave the same scalars and the same sweeps, and plans of the same kind whose decks show the
same lines, if perhaps in another order, with the value of the sweep last. -/
theorem registerAll_reordered (store : Store) {h k : History} (same : h.SameByLabel k) :
    (store.registerAll h).Reordered (store.registerAll k) := by
  apply reordered_of_under
  intro label
  rw [under_registerAll, under_registerAll, same label]

/-- Two callers, one of whom has the label of a scalar, make it a sweep and give another scalar
before it. They change the order of the scalars. -/
theorem registerAll_reordered_turns :
    (registerAll ⟨[⟨"a", .int 1⟩, ⟨"c", .int 2⟩], []⟩
        [("b", .int 3), ("a", .list [.int 4, .int 5]), ("d", .int 6)]).Reordered
      (registerAll ⟨[⟨"a", .int 1⟩, ⟨"c", .int 2⟩], []⟩
        [("d", .int 6), ("b", .int 3), ("a", .list [.int 4, .int 5])]) := by
  have hsame : History.SameByLabel
      [("b", .int 3), ("a", .list [.int 4, .int 5]), ("d", .int 6)]
      [("d", .int 6), ("b", .int 3), ("a", .list [.int 4, .int 5])] :=
    .of_callers (· == "d") fun c => by cases c <;> rfl
  exact registerAll_reordered _ hsame

end Store

end SolverDeck
