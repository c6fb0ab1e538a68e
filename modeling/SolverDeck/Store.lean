import SolverDeck.Field
import SolverDeck.Log.Event

/-!
# The parameter store

The parameters of a solver run under their labels, in the order in which decks show
them. A single value is a *scalar*; a list of values is a *sweep*, of which each deck
shows one value.

* A label with a scalar keeps its place and takes a new value when it is registered
  again.
* A sweep takes the label away from the scalars, and a scalar takes it away from the
  sweeps.
* A label may have several sweeps. It is up to those who use the store to refuse them.
-/

namespace SolverDeck

/-- A parameter with a single value. -/
structure Scalar where
  label : String
  value : Value
deriving Repr, Inhabited

/-- A parameter with a list of values. -/
structure Sweep where
  label : String
  /-- The values, one for each deck. -/
  values : List Value
deriving Repr, Inhabited

instance : BEq Scalar := ⟨fun a b => a.label == b.label && a.value == b.value⟩

instance : BEq Sweep := ⟨fun a b => a.label == b.label && a.values == b.values⟩

/-- The parameters of a run. -/
structure Store where
  /-- The parameters with a single value. -/
  scalars : List Scalar
  /-- The parameters with a list of values. -/
  sweeps : List Sweep
deriving Repr, Inhabited

namespace Store

/-- The store without parameters. -/
def empty : Store := ⟨[], []⟩

/-- Has the store no parameter? -/
def isEmpty (store : Store) : Bool :=
  store.scalars.isEmpty && store.sweeps.isEmpty

/-! ### Registering -/

/-- Scalars with one set: in its place if there is one of that label, else at the
end. -/
def setScalar (label : String) (value : Value) : List Scalar → List Scalar
  | [] => [⟨label, value⟩]
  | s :: ss => if s.label = label then ⟨label, value⟩ :: ss else s :: setScalar label value ss

/-- The store with a single value registered. -/
def registerScalar (store : Store) (label : String) (value : Value) : Store where
  scalars := setScalar label value store.scalars
  sweeps := store.sweeps.filter (·.label != label)

/-- The store with a list of values registered. -/
def registerSweep (store : Store) (label : String) (values : List Value) : Store where
  scalars := store.scalars.filter (·.label != label)
  sweeps := store.sweeps ++ [⟨label, values⟩]

/-- The store with a value registered: a list makes a sweep, any other value a
scalar. -/
def register (store : Store) (label : String) : Value → Store
  | .list values => store.registerSweep label values
  | value => store.registerScalar label value

/-- The store with a value registered under the label of a field. -/
def set (store : Store) (field : Field) (value : Value) : Store :=
  store.register field.label value

/-- The store with several values registered, one after the other. -/
def registerAll (store : Store) (entries : List (String × Value)) : Store :=
  entries.foldl (fun s entry => s.register entry.1 entry.2) store

@[simp] theorem registerAll_nil (store : Store) : store.registerAll [] = store := rfl

@[simp] theorem registerAll_cons (store : Store) (entry : String × Value)
    (entries : List (String × Value)) :
    store.registerAll (entry :: entries) =
      (store.register entry.1 entry.2).registerAll entries := rfl

theorem registerAll_append (store : Store) (es fs : List (String × Value)) :
    store.registerAll (es ++ fs) = (store.registerAll es).registerAll fs := by
  simp [registerAll]

/-! ### Looking up -/

/-- The value of the first scalar of a label. -/
def scalar? (store : Store) (label : String) : Option Value :=
  (store.scalars.find? (·.label == label)).map (·.value)

/-- The values of the first sweep of a label. -/
def sweep? (store : Store) (label : String) : Option (List Value) :=
  (store.sweeps.find? (·.label == label)).map (·.values)

/-! ### Equality -/

/-- Equality of stores: the same labels in the same order, with equal values. -/
def equals (a b : Store) : Bool :=
  a.scalars == b.scalars && a.sweeps == b.sweeps

instance : BEq Store := ⟨equals⟩

end Store

end SolverDeck
