import SolverDeck.Fault
import SolverDeck.Store

/-!
# Cases

A case lists the parameters of a run for the command line. Each parameter names a
field by its key or gives a label itself; one of the two, not both.

Applying a case registers its parameters in order. The first one that cannot be
resolved ends it; those before stay registered. So a case amounts to a list of labels
with values and, possibly, a fault (`Case.resolved`).
-/

namespace SolverDeck

/-- One parameter of a case. -/
structure Case.Parameter where
  field : Option String
  label : Option String
  value : Value
deriving Repr, Inhabited

/-- A case. -/
structure Case where
  /-- What the names of the decks begin with. -/
  base : Option String
  /-- The parameters in order. -/
  parameters : List Case.Parameter
deriving Repr, Inhabited

namespace Case

/-- The label and value of a parameter, which stands at `position`. -/
def Parameter.resolve (position : Nat) (p : Parameter) : Except Fault (String × Value) :=
  match p.field, p.label with
  | some key, none =>
      match Field.ofKey? key with
      | some field => .ok (field.label, p.value)
      | none => .error (.unknownField position key)
  | none, some label => .ok (label, p.value)
  | some _, some _ => .error (.fieldAndLabel position)
  | none, none => .error (.noFieldOrLabel position)

/-- The labels and values of the parameters before the first that cannot be resolved,
and the fault of that one. The first of `ps` stands at `position`. -/
def resolveFrom (position : Nat) : List Parameter → List (String × Value) × Option Fault
  | [] => ([], none)
  | p :: ps =>
      match p.resolve position with
      | .error fault => ([], some fault)
      | .ok entry =>
          let (entries, fault) := resolveFrom (position + 1) ps
          (entry :: entries, fault)

/-- What a case registers, and what stops it. -/
def resolved (c : Case) : List (String × Value) × Option Fault :=
  resolveFrom 1 c.parameters

/-- The store after a case was applied to it. -/
def applyTo (c : Case) (store : Store) : Store :=
  store.registerAll c.resolved.1

/-- What stops a case from being applied in full. -/
def fault? (c : Case) : Option Fault :=
  c.resolved.2

/-- The events raised by applying a case. -/
def events (c : Case) : List Log.Event :=
  c.resolved.1.map fun entry => .registering entry.1 entry.2

/-- The store that a case describes. -/
def toStore (c : Case) : Except Fault Store :=
  match c.fault? with
  | some fault => .error fault
  | none => .ok (c.applyTo .empty)

end Case

end SolverDeck
