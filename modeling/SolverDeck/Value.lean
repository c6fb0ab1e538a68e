import SolverDeck.Decimal.Layout

/-!
# Parameter values

A parameter holds a truth value, a whole number, a floating-point number, a text,
or a list of values of any kinds and any nesting. This module says what a value
*is* and how it reads in a deck:

* `Value.display` — the text of a value; the items of a list are separated by a
  comma and a space, without brackets at any depth;
* `Value.leafTexts` — the same before joining: one text per leaf, an empty list
  counting as one empty leaf;
* `==` — equality of values, where floating-point numbers are compared as numbers
  and a whole number never equals one.
-/

namespace SolverDeck

/-- A parameter value. -/
inductive Value where
  | bool (b : Bool)
  /-- A whole number of 64 bits. -/
  | int (n : Int64)
  | real (x : Binary64)
  /-- A text, written as it is. -/
  | text (s : String)
  | list (items : List Value)
deriving Repr, Inhabited

namespace Value

/-- Is the value a list? -/
def isList : Value → Bool
  | list _ => true
  | _ => false

/-! ### Text -/

/-- How decks set floating-point numbers: plainly from 0.0001 up to, not including,
10^16, and otherwise with an exponent that is signed only if negative. -/
def layout : Layout :=
  ⟨-4, 15, false, .up⟩

/-- What stands between two items of a list. -/
def separator : String := ", "

mutual

/-- The text of a value, as a deck shows it. -/
def display : Value → String
  | bool b => if b then "true" else "false"
  | int n => toString n.toInt
  | real x => x.text layout
  | text s => s
  | list items => separator.intercalate (displays items)

/-- The texts of several values, in order. -/
def displays : List Value → List String
  | [] => []
  | v :: vs => v.display :: displays vs

end

mutual

/-- The texts of the leaves of a value from left to right: a value that is no list
is one leaf, and so is an empty list, with an empty text. -/
def leafTexts : Value → List String
  | list [] => [""]
  | list (v :: vs) => v.leafTexts ++ leafTextsOfItems vs
  | v => [v.display]

/-- The leaf texts of several values, one after the other. -/
def leafTextsOfItems : List Value → List String
  | [] => []
  | v :: vs => v.leafTexts ++ leafTextsOfItems vs

end

@[simp] theorem displays_eq_map (vs : List Value) : displays vs = vs.map display := by
  induction vs with
  | nil => rfl
  | cons v vs ih => simp [displays, ih]

/-- The value inside `depth` lists of one element. -/
def nested (inner : Value) : Nat → Value
  | 0 => inner
  | depth + 1 => list [nested inner depth]

/-! ### Equality -/

mutual

/-- Equality of values: of the same kind, floating-point numbers being equal as
numbers and lists item by item. -/
def equals : Value → Value → Bool
  | bool a, bool b => a == b
  | int a, int b => a == b
  | real a, real b => a == b
  | text a, text b => a == b
  | list as, list bs => equalItems as bs
  | _, _ => false

/-- Equality of lists of values: as many, and equal one by one. -/
def equalItems : List Value → List Value → Bool
  | [], [] => true
  | a :: as, b :: bs => a.equals b && equalItems as bs
  | _, _ => false

end

instance : BEq Value := ⟨equals⟩

end Value

end SolverDeck
