import SolverDeck.Proofs.Session.Steps
import SolverDeck.Proofs.Store.Coherence

/-!
# The stores of a session

A session holds up to three stores: its own, the saved copy and, unless it is poisoned,
the shared one. Whatever the steps do, a store comes to be only as the empty store, as
another store of the session, or by registering one more value. So a property that the
empty store has and registering keeps holds of every store at every time
(`everywhere_run`).

That is applied to coherence: after any steps, every store of a session is coherent, and
no deck it makes shows a label twice.
-/

namespace SolverDeck

namespace Session

/-- A property holds of every store of a session. -/
structure Everywhere (P : Store → Prop) (s : Session) : Prop where
  /-- It holds of the session's own store. -/
  own : P s.own
  /-- It holds of the shared store, if that can be looked at. -/
  shared : ∀ store, s.shared.snapshot = .ok store → P store
  /-- It holds of the copy. -/
  copy : P s.copy

section

variable {P : Store → Prop}

theorem everywhere_fresh (h : P .empty) (files : FileTree) : (fresh files).Everywhere P where
  own := h
  shared := by
    intro store hstore
    cases hstore
    exact h
  copy := h

/-- A step acts on a store of the session. -/
theorem Everywhere.storeOf {s : Session} (h : s.Everywhere P) {target : Target} {store : Store}
    (hs : s.storeOf target = .ok store) : P store := by
  cases target with
  | own =>
      cases hs
      exact h.own
  | shared => exact h.shared store hs

theorem Everywhere.withStore {s : Session} (h : s.Everywhere P) (target : Target)
    {store : Store} (hs : P store) : (s.withStore target store).Everywhere P := by
  cases target with
  | own => exact ⟨hs, h.shared, h.copy⟩
  | shared =>
      refine ⟨h.own, ?_, h.copy⟩
      intro other hother
      cases hother
      exact hs

/-- The files do not matter to the stores. -/
theorem Everywhere.withFiles {s : Session} (h : s.Everywhere P) (files : FileTree) :
    Everywhere P { s with files := files } :=
  ⟨h.own, h.shared, h.copy⟩

/-- **One action.** Registering, in whatever form, is all that makes a new store. -/
theorem Everywhere.act (hempty : P .empty)
    (hregister : ∀ store label value, P store → P (store.register label value))
    {s : Session} (h : s.Everywhere P) (target : Target) {store : Store} (hs : P store)
    (action : Action) : (s.act target store action).1.Everywhere P := by
  cases action with
  | register label value => exact h.withStore target (hregister store label value hs)
  | set field value => exact h.withStore target (hregister store field.label value hs)
  | apply c => exact h.withStore target (Store.registerAll_induction hregister hs c.resolved.1)
  | reset => exact h.withStore target hempty
  | saveCopy => exact ⟨h.own, h.shared, hs⟩
  | restoreCopy => exact h.withStore target h.copy
  | write root base => exact h.withFiles _
  | dump | scalar | sweep | isEmpty | equalsCopy | plan => exact h

/-- **One step.** A poisoned store is no store any more, so breaking off is harmless. -/
theorem Everywhere.perform (hempty : P .empty)
    (hregister : ∀ store label value, P store → P (store.register label value))
    {s : Session} (h : s.Everywhere P) (step : Step) : (s.perform step).1.Everywhere P := by
  cases step with
  | on target action =>
      cases hs : s.storeOf target with
      | ok store =>
          rw [perform_on hs]
          exact h.act hempty hregister target (h.storeOf hs) action
      | error fault =>
          rw [perform_on_of_error hs]
          exact h
  | breakOff =>
      simp only [Session.perform]
      split
      · exact ⟨h.own, fun _ hstore => (nomatch hstore), h.copy⟩
      · exact h
  | makeDirectory path => exact h.withFiles _
  | makeFile path content => exact h.withFiles _
  | loadCase path =>
      simp only [Session.perform]
      split <;> exact h
  | listFiles => exact h

/-- What the empty store has and registering keeps holds everywhere after any steps. -/
theorem everywhere_run (hempty : P .empty)
    (hregister : ∀ store label value, P store → P (store.register label value))
    {s : Session} (h : s.Everywhere P) (steps : List Step) : (s.run steps).1.Everywhere P := by
  induction steps generalizing s with
  | nil => exact h
  | cons step steps ih => exact ih (h.perform hempty hregister step)

end

theorem Everywhere.imp {P Q : Store → Prop} {s : Session} (h : s.Everywhere P)
    (himp : ∀ store, P store → Q store) : s.Everywhere Q :=
  ⟨himp _ h.own, fun store hs => himp store (h.shared store hs), himp _ h.copy⟩

/-! ### Coherence -/

/-- Every store of a session is coherent, whatever was done in it, and so no deck that it
makes shows a label twice. -/
theorem coherent_run (files : FileTree) (steps : List Step) :
    ((fresh files).run steps).1.Everywhere fun store =>
      store.Coherent ∧
      ∀ base, ∀ deck ∈ (store.plan base).decks, ∃ swept, store.Swept swept ∧
        deck.content = Deck.text store.scalars swept ∧
        (store.scalars.map (·.label) ++ swept.toList.map (·.1)).Nodup := by
  have hcoherent : ((fresh files).run steps).1.Everywhere Store.Coherent :=
    everywhere_run Store.coherent_empty (fun _ label value h => h.register label value)
      (everywhere_fresh Store.coherent_empty files) steps
  refine hcoherent.imp fun store h => ⟨h, fun base deck hdeck => ?_⟩
  obtain ⟨swept, hswept, hcontent⟩ := Store.exists_swept_of_mem_plan hdeck
  exact ⟨swept, hswept, hcontent, h.nodup_shown hswept⟩

end Session

end SolverDeck
