/-!
# Diagnostics

What the program tells its user when it ends: a category, which decides the exit
code, a placeholder, by which scripts recognize the kind of fault, and a message. The
wording around them is the same for all.
-/

namespace SolverDeck

/-- What kind of end a diagnostic reports. -/
inductive Diagnostic.Category where
  | success
  /-- The input is at fault. -/
  | inputValidation
  /-- The system is at fault. -/
  | ioSystem
  /-- The program is at fault. -/
  | internal
deriving DecidableEq, Repr, Inhabited

namespace Diagnostic.Category

/-- The name of a category. -/
def name : Category → String
  | success => "Success"
  | inputValidation => "InputValidationError"
  | ioSystem => "IoSystemError"
  | internal => "InternalError"

/-- The exit code of a run that ends this way. -/
def exitCode : Category → Nat
  | success => 0
  | inputValidation => 2
  | ioSystem => 3
  | internal => 5

/-- Does the run fail? -/
def isFatal : Category → Bool
  | success => false
  | _ => true

end Diagnostic.Category

/-- A report on how a run ended. -/
structure Diagnostic where
  /-- What kind of end it was. -/
  category : Diagnostic.Category
  /-- The fixed name of the fault. -/
  placeholder : String
  message : String
deriving DecidableEq, Repr, Inhabited

namespace Diagnostic

/-- The exit code of the run. -/
def exitCode (d : Diagnostic) : Nat :=
  d.category.exitCode

/-- The text of a diagnostic by itself. -/
def display (d : Diagnostic) : String :=
  d.category.name ++ " [" ++ d.placeholder ++ "] " ++ d.message

/-- The line that reports a diagnostic to the user. -/
def line (d : Diagnostic) : String :=
  (if d.category.isFatal then "ERROR" else "INFO") ++ ": [" ++ d.placeholder ++ "] " ++ d.message

/-- The line that announces the exit code of a failing run. -/
def exitLine? (d : Diagnostic) : Option String :=
  if d.category.isFatal then some ("FATAL EXIT CODE: " ++ toString d.exitCode) else none

/-- All lines that report a diagnostic. -/
def lines (d : Diagnostic) : List String :=
  d.line :: d.exitLine?.toList

end Diagnostic

end SolverDeck
