import SolverDeck.Diagnostic
import SolverDeck.Files.Access
import SolverDeck.Json.Problem

/-!
# Faults

Everything that can go wrong between a case file and its decks, as causes. The
placeholder, the category and the wording of each are given in one place, `diagnostic`.
-/

namespace SolverDeck

/-- Why the program could not do what it was asked. -/
inductive Fault where
  | unreadableCase (path : Path) (error : FileError)
  /-- A case file does not hold a case. -/
  | malformedCase (refusal : Json.Refusal)
  /-- No name was given from which to form the names of the decks. -/
  | noBase
  /-- A parameter, counted from one, names a field that does not exist. -/
  | unknownField (position : Nat) (key : String)
  /-- A parameter has both a field and a label. -/
  | fieldAndLabel (position : Nat)
  /-- A parameter has neither a field nor a label. -/
  | noFieldOrLabel (position : Nat)
  /-- The directory for the decks cannot be made. -/
  | deckDirectory (path : Path) (error : FileError)
  | deckFile (path : Path) (error : FileError)
  /-- The shared store was left in the middle of an update. -/
  | poisonedStore
deriving DecidableEq, Repr

namespace Fault

/-- What kind of fault it is. -/
def category : Fault → Diagnostic.Category
  | unreadableCase .. | deckDirectory .. | deckFile .. => .ioSystem
  | poisonedStore => .internal
  | _ => .inputValidation

/-- The fixed name of a fault. -/
def placeholder : Fault → String
  | unreadableCase .. => "IO.CASE_READ"
  | malformedCase _ => "INPUT.CASE_PARSE"
  | noBase => "INPUT.CASE_BASE"
  | unknownField .. => "INPUT.CASE_UNKNOWN_FIELD"
  | fieldAndLabel _ | noFieldOrLabel _ => "INPUT.CASE_PARAMETER"
  | deckDirectory .. => "IO.DECK_DIRECTORY"
  | deckFile .. => "IO.DECK_WRITE"
  | poisonedStore => "SYS.GLOBAL_STORE"

/-- The wording of a fault. -/
def message : Fault → String
  | unreadableCase path error => "failed to read case file '" ++ path ++ "': " ++ error.message
  | malformedCase refusal => "failed to parse case file: " ++ refusal.message
  | noBase => "no deck base name: set \"base\" in the case file or pass --base"
  | unknownField position key =>
      "parameter #" ++ toString position ++ " names unknown field '" ++ key ++ "'"
  | fieldAndLabel position =>
      "parameter #" ++ toString position ++ " sets both 'field' and 'label'; use exactly one"
  | noFieldOrLabel position =>
      "parameter #" ++ toString position ++ " needs a 'field' or a 'label'"
  | deckDirectory path error =>
      "failed to create deck directory '" ++ path ++ "': " ++ error.message
  | deckFile path error => "failed to write deck '" ++ path ++ "': " ++ error.message
  | poisonedStore => "process-wide parameter store is poisoned by an earlier panic"

/-- The report on a fault. -/
def diagnostic (fault : Fault) : Diagnostic :=
  ⟨fault.category, fault.placeholder, fault.message⟩

end Fault

end SolverDeck
