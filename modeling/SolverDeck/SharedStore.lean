import SolverDeck.Writing

/-!
# The shared store

One store serves a whole process. Whoever works with it locks it for that time, so that
nobody sees it half changed. An update that breaks off may leave it so for good: from then
on it is *poisoned*, and nobody can lock it again.

Changing it, looking at it and writing its decks are separate ways in, and each of them
begins with the lock.
-/

namespace SolverDeck

/-- The store of a process. -/
inductive SharedStore where
  /-- Every update so far was completed. -/
  | usable (store : Store)
  /-- An update broke off. -/
  | poisoned
deriving Repr, Inhabited

namespace SharedStore

/-- The shared store of a new process. -/
def fresh : SharedStore := .usable .empty

/-- Lock the store to work with the parameters in it. -/
def lock : SharedStore → Except Fault Store
  | usable store => .ok store
  | poisoned => .error .poisonedStore

/-- The parameters in the shared store. -/
def snapshot (shared : SharedStore) : Except Fault Store :=
  shared.lock

/-- Do something to the parameters while they are locked: it raises events, comes to
something and leaves other parameters. -/
def update (shared : SharedStore) (change : Store → Written α × Store) :
    Written α × SharedStore :=
  match shared.lock with
  | .ok store =>
      let (done, changed) := change store
      (done, .usable changed)
  | .error fault => (⟨[], .error fault⟩, shared)

/-- Register a value under a label. -/
def register (shared : SharedStore) (label : String) (value : Value) :
    Written Unit × SharedStore :=
  shared.update fun store =>
    (⟨[.registering label value], .ok ()⟩, store.register label value)

/-- Register a value under the label of a field. -/
def set (shared : SharedStore) (field : Field) (value : Value) : Written Unit × SharedStore :=
  shared.update fun store => (⟨[.registering field.label value], .ok ()⟩, store.set field value)

/-- Write the decks of the parameters while they are locked. -/
def write [Monad m] (files : FileAccess m) (shared : SharedStore) (root : Path)
    (base : String) : m (Written Outcome) :=
  match shared.lock with
  | .ok store => store.write files root base
  | .error fault => return ⟨[], .error fault⟩

/-- The shared store after an update that breaks off. -/
def breakOff : SharedStore → SharedStore
  | _ => poisoned

end SharedStore

end SolverDeck
