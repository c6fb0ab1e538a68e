import SolverDeck.Json.Document
import SolverDeck.Value

/-!
# Reading parameter values from JSON

A document is a parameter value if neither `null` nor an object occurs in it. Whole
numbers beyond the signed 64-bit range become floating-point numbers.

The whole document is read first, so a fault of the syntax wins over one in what the
document says.
-/

namespace SolverDeck.Value

open Json (Document Number Result Refusal Failure)

/-- A number as a parameter value. -/
def ofNumber : Number → Value
  | .whole n => if n < Json.signedLimit then int (.ofInt n) else real (.ofInt n)
  | .real x => real x

mutual

/-- A document as a parameter value. -/
def ofDocument? : Document → Option Value
  | .null => none
  | .bool b => some (bool b)
  | .number n => some (ofNumber n)
  | .text s => some (text s)
  | .list items => (ofDocuments? items).map list
  | .object _ => none

/-- Several documents as parameter values, if all are. -/
def ofDocuments? : List Document → Option (List Value)
  | [] => some []
  | d :: ds =>
      match ofDocument? d, ofDocuments? ds with
      | some v, some vs => some (v :: vs)
      | _, _ => none

end

/-- Take a parameter value that opens at most `levels` lists inside each other. -/
def read (levels : Nat) (cs : List Char) : Result Value :=
  match Json.readDocument levels cs with
  | .error failure => .error failure
  | .ok (document, rest) =>
      match ofDocument? document with
      | some value => .ok (value, rest)
      | none => .error (.pending .notAParameterValue rest)

/-- The parameter value that a JSON text writes. -/
def parse (text : String) : Except Refusal Value :=
  Json.readWhole (read Json.mostLevels) text

end SolverDeck.Value
