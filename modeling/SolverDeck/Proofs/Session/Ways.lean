import Mathlib.Data.List.Forall2
import SolverDeck.Proofs.Case.Applying
import SolverDeck.Proofs.Field.Key
import SolverDeck.Proofs.Session.Steps

/-!
# Ways of giving values to fields

A value can be given to a field by the field's own setter, by setting the field, by registering it
under the label of the field, and by a parameter of a case, which names the field by its key in
some spelling or by its label. All this can be done to a store of one's own and to the shared one.

`Session.Gives` says that steps give values to fields, each in one of these ways. Which way does
not matter, the store comes out the same (`Session.ways_agree`). The induction is over the steps,
from any store on, for a step may be a case that gives several values at once.
-/

namespace SolverDeck

/-- Values for fields, in the order in which they are given. -/
abbrev Assignment := List (Field × Value)

/-! ### Setting fields -/

/-- The store with values given to fields, one after the other. -/
def Store.setAll (store : Store) (given : Assignment) : Store :=
  given.foldl (fun s entry => s.set entry.1 entry.2) store

@[simp] theorem Store.setAll_nil (store : Store) : store.setAll [] = store := rfl

@[simp] theorem Store.setAll_cons (store : Store) (f : Field) (v : Value) (given : Assignment) :
    store.setAll ((f, v) :: given) = (store.set f v).setAll given := rfl

theorem Store.setAll_append (store : Store) (first second : Assignment) :
    store.setAll (first ++ second) = (store.setAll first).setAll second := by
  simp [setAll]

theorem Store.registerAll_labels (store : Store) (given : Assignment) :
    store.registerAll (given.map fun entry => (entry.1.label, entry.2)) = store.setAll given := by
  induction given generalizing store with
  | nil => rfl
  | cons entry given ih => exact ih (store.set entry.1 entry.2)

/-! ### Cases -/

namespace Case

/-- A parameter gives a value to a field. -/
inductive Parameter.Gives (f : Field) (v : Value) : Parameter → Prop
  /-- It has a spelling of the key of the field. -/
  | key {key : String} (spelt : f.Spelt key) : Gives f v ⟨some key, none, v⟩
  /-- It has the label of the field. -/
  | label : Gives f v ⟨none, some f.label, v⟩

/-- The parameters of a case give values to fields, one each. -/
def Gives (c : Case) (given : Assignment) : Prop :=
  List.Forall₂ (fun entry p => Parameter.Gives entry.1 entry.2 p) given c.parameters

variable {c : Case} {given : Assignment}

theorem Parameter.Gives.standsFor {f : Field} {v : Value} {p : Parameter} (h : p.Gives f v) :
    p.StandsFor (f.label, v) := by
  cases h with
  | key spelt => exact .field (Field.ofKey?_eq_some_iff.mpr spelt)
  | label => exact .label

/-- All parameters that give something are resolved. -/
theorem Gives.resolved (h : c.Gives given) :
    c.resolved = (given.map fun entry => (entry.1.label, entry.2), none) := by
  have good : List.Forall₂ Parameter.StandsFor c.parameters
      (given.map fun entry => (entry.1.label, entry.2)) := by
    rw [List.forall₂_map_right_iff]
    exact h.flip.imp fun p entry hp => hp.standsFor
  exact resolveFrom_of_good good 1

theorem Gives.applyTo (h : c.Gives given) (store : Store) :
    c.applyTo store = store.setAll given := by
  rw [Case.applyTo, h.resolved, store.registerAll_labels]

theorem Gives.toStore (h : c.Gives given) : c.toStore = .ok (Store.empty.setAll given) := by
  have hfault : c.fault? = none := by rw [fault?, h.resolved]
  rw [Case.toStore, hfault, h.applyTo]

end Case

/-! ### Steps -/

namespace Session

/-- Steps on a store give values to fields, each step in some way. -/
inductive Gives (target : Target) : Assignment → List Step → Prop
  /-- There is nothing to give. -/
  | nil : Gives target [] []
  /-- The setter that has the name of the field is called. -/
  | setter {f called : Field} {v : Value} {given : Assignment} {steps : List Step}
      (named : Field.ofSetterName? f.setterName = some called) (others : Gives target given steps) :
      Gives target ((f, v) :: given) (.on target (.set called v) :: steps)
  /-- The field is set. -/
  | set {f : Field} {v : Value} {given : Assignment} {steps : List Step}
      (others : Gives target given steps) :
      Gives target ((f, v) :: given) (.on target (.set f v) :: steps)
  /-- The value is registered under the label of the field. -/
  | register {f : Field} {v : Value} {given : Assignment} {steps : List Step}
      (others : Gives target given steps) :
      Gives target ((f, v) :: given) (.on target (.register f.label v) :: steps)
  /-- A case is applied that gives some of the values. -/
  | apply {c : Case} {first given : Assignment} {steps : List Step} (gives : c.Gives first)
      (others : Gives target given steps) :
      Gives target (first ++ given) (.on target (.apply c) :: steps)

variable {s : Session} {target : Target} {store : Store} {given : Assignment} {steps : List Step}

/-- A step that changes the store of a target leaves the others to start from that. -/
theorem run_on (hs : s.storeOf target = .ok store) {action : Action} {changed : Store}
    (hact : (s.act target store action).1 = s.withStore target changed) (steps : List Step) :
    (s.run (.on target action :: steps)).1 = ((s.withStore target changed).run steps).1 := by
  rw [run, perform_on hs, ← hact]

/-- **All steps.** Whatever the ways, the fields are set. -/
theorem Gives.storeOf_run (h : Gives target given steps) (hs : s.storeOf target = .ok store) :
    (s.run steps).1.storeOf target = .ok (store.setAll given) := by
  induction h generalizing s store with
  | nil => exact hs
  | @setter f called v given steps named others ih =>
      obtain rfl : f = called := Option.some.inj (f.ofSetterName?_setterName.symm.trans named)
      rw [run_on hs rfl]
      exact ih (storeOf_withStore ..)
  | set others ih =>
      rw [run_on hs rfl]
      exact ih (storeOf_withStore ..)
  | register others ih =>
      rw [run_on hs rfl]
      exact ih (storeOf_withStore ..)
  | apply gives others ih =>
      rw [run_on hs rfl, gives.applyTo, Store.setAll_append]
      exact ih (storeOf_withStore ..)

/-- Steps that give values to fields, from an empty store on, leave the store in which just these
fields were set in this order, and the decks of that store. So does a case by itself. -/
theorem ways_agree (h : Gives target given steps) (hs : s.storeOf target = .ok .empty) :
    (s.run steps).1.storeOf target = .ok (Store.empty.setAll given) ∧
      (∀ base, ((s.run steps).1.perform (.on target (.plan base))).2.answer =
        .plan ((Store.empty.setAll given).plan base)) ∧
      ∀ c : Case, c.Gives given → c.toStore = .ok (Store.empty.setAll given) := by
  have hstore := h.storeOf_run hs
  refine ⟨hstore, fun base => ?_, fun c hc => hc.toStore⟩
  rw [perform_on hstore]
  rfl

/-- A case with a spelling of a key, and with a label. -/
def caseOfTwoWays : Case :=
  ⟨none, [⟨some " N_Cells\t", none, .list [.int 1, .int 2]⟩, ⟨none, some "do nda", .bool true⟩]⟩

/-- A sweep and a scalar by a case, and another scalar in place of the sweep by a setter. -/
theorem ways_agree_mixed :
    ((fresh (.fresh ["w"])).run
      [.on .shared (.apply caseOfTwoWays), .on .shared (.set .nCells (.int 3))]).1.storeOf .shared =
        .ok (Store.empty.setAll
          [(.nCells, .list [.int 1, .int 2]), (.doNda, .bool true), (.nCells, .int 3)]) ∧
      Store.empty.setAll
          [(.nCells, .list [.int 1, .int 2]), (.doNda, .bool true), (.nCells, .int 3)] =
        ⟨[⟨"do nda", .bool true⟩, ⟨"number of cells for x, y, z directions", .int 3⟩], []⟩ := by
  have hspelt : Field.nCells.Spelt " N_Cells\t" :=
    ⟨[' '], "N_Cells".toList, ['\t'], by decide, List.forall_mem_singleton.mpr rfl,
      List.forall_mem_singleton.mpr rfl, by decide⟩
  have hlabel : Case.Parameter.Gives .doNda (.bool true) ⟨none, some "do nda", .bool true⟩ := .label
  have hcase : caseOfTwoWays.Gives [(.nCells, .list [.int 1, .int 2]), (.doNda, .bool true)] :=
    .cons (.key hspelt) (.cons hlabel .nil)
  have hsetter : Field.ofSetterName? Field.nCells.setterName = some .nCells :=
    Field.ofSetterName?_setterName .nCells
  have hgives : Gives .shared [(.nCells, .list [.int 1, .int 2]), (.doNda, .bool true),
      (.nCells, .int 3)]
      [.on .shared (.apply caseOfTwoWays), .on .shared (.set .nCells (.int 3))] :=
    .apply hcase (.setter hsetter .nil)
  have hstart : (fresh (.fresh ["w"])).storeOf .shared = .ok .empty := rfl
  exact ⟨(ways_agree hgives hstart).1, rfl⟩

end Session

end SolverDeck
