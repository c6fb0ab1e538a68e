import SolverDeck.Proofs.Session.Stores

/-!
# Sweeps as single runs

A sweep stands for several runs of the solver that differ in one parameter. One could as well
register its values one at a time under the label of the sweep, each time in the same store, and
make a single deck of it. That gives the same texts (`Session.sweep_eq_single_runs`).

The value is then a scalar, which drives the sweep out and stands behind all others. It would not
stand there if the label had a scalar already, so this takes a coherent store. A list among the
values has to be given as the text that a deck shows of it (`Value.alone`), for as a list it would
be a sweep again.
-/

namespace SolverDeck

/-! ### Values by themselves -/

/-- A value that is no list and shows in the same way. -/
def Value.alone : Value → Value
  | list items => text (list items).display
  | v => v

@[simp] theorem Value.isList_alone (v : Value) : v.alone.isList = false := by
  cases v <;> rfl

@[simp] theorem Value.display_alone (v : Value) : v.alone.display = v.display := by
  cases v with
  | list items => rw [alone, display]
  | bool | int | real | text => rfl

/-! ### Single decks -/

/-- What is swept shows as a scalar behind all others does. -/
theorem Deck.text_concat_alone (scalars : List Scalar) (label : String) (v : Value) :
    Deck.text (scalars ++ [⟨label, v.alone⟩]) none = Deck.text scalars (some (label, v)) := by
  simp [text, lines, line]

namespace Store

variable {store : Store} {sweep : Sweep}

theorem Coherent.label_not_mem (h : store.Coherent) (hsweep : sweep ∈ store.sweeps) :
    sweep.label ∉ store.scalars.map (·.label) := by
  intro hmem
  obtain ⟨scalar, hscalar, hlabel⟩ := List.mem_map.mp hmem
  exact h.apart scalar hscalar sweep hsweep hlabel

/-- A scalar in place of the only sweep comes last. -/
theorem Coherent.register_of_sweep (h : store.Coherent) (hsweep : store.sweeps = [sweep])
    {v : Value} (hv : v.isList = false) :
    store.register sweep.label v = ⟨store.scalars ++ [⟨sweep.label, v⟩], []⟩ := by
  have hnew : sweep.label ∉ store.scalars.map (·.label) :=
    h.label_not_mem (hsweep ▸ List.mem_singleton_self sweep)
  rw [register_single store sweep.label hv, Store.registerScalar, setScalar_new hnew, hsweep]
  simp

/-- **One value.** The deck of a value in a sweep is the single deck with that value. -/
theorem Coherent.text_sweepDeck (h : store.Coherent) (hsweep : store.sweeps = [sweep])
    (base : String) (i : Nat) (v : Value) :
    ∃ deck, (store.register sweep.label v.alone).plan base = .single deck ∧
      deck.content = (store.sweepDeck base sweep.label i v).content := by
  have hregister := h.register_of_sweep hsweep v.isList_alone
  refine ⟨(store.register sweep.label v.alone).singleDeck base, ?_, ?_⟩
  · rw [hregister]
    rfl
  · rw [hregister]
    exact Deck.text_concat_alone store.scalars sweep.label v

theorem decks_plan_of_sweep (hsweep : store.sweeps = [sweep]) (base : String) :
    (store.plan base).decks = sweep.values.mapIdx (store.sweepDeck base sweep.label) := by
  rw [plan, hsweep]
  rfl

end Store

/-! ### Sweeps of a session -/

namespace Session

/-- In every store of a session that has one sweep, whatever was done in the session, the decks
are as many as the values of the sweep, and each has the text of the single deck that the same
store makes once its value is registered by itself under the label of the sweep. -/
theorem sweep_eq_single_runs (files : FileTree) (steps : List Step) :
    ((fresh files).run steps).1.Everywhere fun store =>
      ∀ sweep, store.sweeps = [sweep] → ∀ base,
        (store.plan base).decks.length = sweep.values.length ∧
        ∀ (i : Nat) (v : Value), sweep.values[i]? = some v →
          ∃ deck single, (store.plan base).decks[i]? = some deck ∧
            (store.register sweep.label v.alone).plan base = .single single ∧
            deck.content = single.content := by
  have hcoherent : ((fresh files).run steps).1.Everywhere Store.Coherent :=
    everywhere_run Store.coherent_empty (fun _ label value h => h.register label value)
      (everywhere_fresh Store.coherent_empty files) steps
  refine hcoherent.imp fun store h sweep hsweep base => ?_
  rw [Store.decks_plan_of_sweep hsweep]
  refine ⟨List.length_mapIdx, fun i v hv => ?_⟩
  obtain ⟨single, hplan, hcontent⟩ := h.text_sweepDeck hsweep base i v
  refine ⟨store.sweepDeck base sweep.label i v, single, ?_, hplan, hcontent.symm⟩
  rw [List.getElem?_mapIdx, hv]
  rfl

/-- The steps that register a scalar, and a sweep with a list among its values. -/
def stepsOfSweep : List Step :=
  [.on .own (.register "g" (.int 2)),
    .on .own (.register "r" (.list [.int 10, .list [.int 1, .text "x"]]))]

/-- A list among the values of a sweep stands for its text. -/
theorem sweep_eq_single_runs_nested :
    ((fresh (.fresh ["w"])).run stepsOfSweep).1.own.sweeps =
        [⟨"r", [.int 10, .list [.int 1, .text "x"]]⟩] ∧
      ∃ deck single, (((fresh (.fresh ["w"])).run stepsOfSweep).1.own.plan "b").decks[1]? =
          some deck ∧
        (((fresh (.fresh ["w"])).run stepsOfSweep).1.own.register "r" (.text "1, x")).plan "b" =
          .single single ∧
        deck.content = single.content := by
  have hsweep : ((fresh (.fresh ["w"])).run stepsOfSweep).1.own.sweeps =
      [⟨"r", [.int 10, .list [.int 1, .text "x"]]⟩] := rfl
  have hdecks := ((sweep_eq_single_runs (.fresh ["w"]) stepsOfSweep).own _ hsweep "b").2
  exact ⟨hsweep, hdecks 1 _ rfl⟩

end Session

end SolverDeck
