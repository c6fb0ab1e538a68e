import SolverDeck.Decimal.Layout
import SolverDeck.Text.Quoted

/-!
# What can be wrong with a JSON text

A reader that refuses a text says what is wrong and where:

* `Problem` — the cause: a fault of the syntax, or a well-formed part that is not
  what the reader was asked for;
* `Place` — where reading stood when the fault was noticed: what is left of the
  text, and how many bytes of that were looked at;
* `Position` — the same as a line and a column. Columns count bytes.

A fault of the syntax has its place at once (`Failure.at`). A fault in what the
text *says* is noticed between two tokens, so it stays open (`Failure.pending`)
until the list or object around it has been left.
-/

namespace SolverDeck.Json

/-! ### Causes -/

/-- A value that was found where another kind was expected. -/
inductive Found where
  | null
  | bool (b : Bool)
  | integer (n : Int)
  | real (x : Binary64)
  | text (s : String)
  /-- A list, known by its opening bracket. -/
  | list
  /-- An object, known by its opening brace. -/
  | object
deriving DecidableEq, Repr

/-- How descriptions set floating-point numbers: plainly from 0.00001 up to, not
including, 10^16, and otherwise with a signed exponent. -/
def layout : Layout :=
  ⟨-5, 15, true, .even⟩

/-- The kind of a value that was found, with its text if it has a short one. -/
def Found.description : Found → String
  | null => "null"
  | bool b => "boolean `" ++ (if b then "true" else "false") ++ "`"
  | integer n => "integer `" ++ toString n ++ "`"
  | real x => "floating point `" ++ x.text layout ++ "`"
  | text s => "string " ++ Text.quoted s
  | list => "sequence"
  | object => "map"

/-- What is wrong with a text. -/
inductive Problem where
  /-- The text ends where a value should begin or go on. -/
  | endInValue
  | endInList
  | endInObject
  /-- The text ends between quotes. -/
  | endInText
  /-- Something that begins no value stands where one should. -/
  | expectedValue
  /-- A word other than `true`, `false` and `null`. -/
  | expectedWord
  | expectedColon
  /-- A list item is followed neither by a comma nor by the closing bracket. -/
  | expectedCommaOrBracket
  /-- An object entry is followed neither by a comma nor by the closing brace. -/
  | expectedCommaOrBrace
  /-- An object entry does not begin with a quote. -/
  | keyNotText
  /-- A comma stands before a closing bracket or brace. -/
  | trailingComma
  /-- Something stands after the end. -/
  | trailing
  | invalidEscape
  /-- The second half of a surrogate pair without a first, or a first followed by
  an escape that is no second. -/
  | loneSurrogate
  /-- The first half of a surrogate pair that no escape follows. -/
  | incompleteSurrogate
  | controlCharacter
  | invalidNumber
  | numberTooLarge
  | tooDeep
  | wrongKind (found : Found) (expected : String)
  | unknownKey (key : String) (known : List String)
  | duplicateKey (key : String)
  | missingKey (key : String)
  /-- A list that stops after `count` items. -/
  | tooShort (count : Nat) (expected : String)
  /-- A value that no parameter can hold. -/
  | notAParameterValue
deriving DecidableEq, Repr

/-- Names of alternatives, as they are listed in a message. -/
def alternatives (names : List String) : String :=
  let marked := names.map fun name => "`" ++ name ++ "`"
  match marked with
  | [] => "there are no fields"
  | [one] => "expected " ++ one
  | [one, other] => "expected " ++ one ++ " or " ++ other
  | many => "expected one of " ++ ", ".intercalate many

/-- The wording of a cause. -/
def Problem.message : Problem → String
  | endInValue => "EOF while parsing a value"
  | endInList => "EOF while parsing a list"
  | endInObject => "EOF while parsing an object"
  | endInText => "EOF while parsing a string"
  | expectedValue => "expected value"
  | expectedWord => "expected ident"
  | expectedColon => "expected `:`"
  | expectedCommaOrBracket => "expected `,` or `]`"
  | expectedCommaOrBrace => "expected `,` or `\x7d`"
  | keyNotText => "key must be a string"
  | trailingComma => "trailing comma"
  | trailing => "trailing characters"
  | invalidEscape => "invalid escape"
  | loneSurrogate => "lone leading surrogate in hex escape"
  | incompleteSurrogate => "unexpected end of hex escape"
  | controlCharacter =>
      "control character (\\u0000-\\u001F) found while parsing a string"
  | invalidNumber => "invalid number"
  | numberTooLarge => "number out of range"
  | tooDeep => "recursion limit exceeded"
  | wrongKind found expected =>
      "invalid type: " ++ found.description ++ ", expected " ++ expected
  | unknownKey key known => "unknown field `" ++ key ++ "`, " ++ alternatives known
  | duplicateKey key => "duplicate field `" ++ key ++ "`"
  | missingKey key => "missing field `" ++ key ++ "`"
  | tooShort count expected =>
      "invalid length " ++ toString count ++ ", expected " ++ expected
  | notAParameterValue => "data did not match any variant of untagged enum ParamValue"

/-! ### Places -/

/-- Where reading stood: what was left of the text, and how many bytes of that had
been looked at. -/
structure Place where
  rest : List Char
  /-- How many bytes of it were looked at. -/
  ahead : Nat
deriving DecidableEq, Repr

/-- A line and a column. Lines count from one; the column is the number of bytes
on that line up to the fault. -/
structure Position where
  line : Nat
  column : Nat
deriving DecidableEq, Repr

/-- The UTF-8 encoding of characters. -/
def utf8 (cs : List Char) : List UInt8 :=
  cs.flatMap String.utf8EncodeChar

/-- The position after the given bytes. -/
def Position.after (bytes : List UInt8) : Position where
  line := bytes.count 10 + 1
  column := (bytes.reverse.takeWhile (· != 10)).length

/-- The position of a place in the text that was being read. -/
def Place.position (text : List Char) (place : Place) : Position :=
  let unread := utf8 place.rest
  let all := utf8 text
  .after (all.take (all.length - unread.length + min place.ahead unread.length))

/-! ### Failures -/

/-- A fault noticed while reading. -/
structure Failure where
  problem : Problem
  /-- Where reading stood. -/
  place : Place
  /-- Is the place final? -/
  settled : Bool
deriving DecidableEq, Repr

namespace Failure

/-- A fault noticed after everything up to `rest` was taken. -/
def here (problem : Problem) (rest : List Char) : Failure :=
  ⟨problem, ⟨rest, 0⟩, true⟩

/-- A fault noticed by looking at the next byte of `rest`. -/
def atNext (problem : Problem) (rest : List Char) : Failure :=
  ⟨problem, ⟨rest, 1⟩, true⟩

/-- A fault in what the text says, noticed with `rest` left; its place is where the
list or object around it is left. -/
def pending (problem : Problem) (rest : List Char) : Failure :=
  ⟨problem, ⟨rest, 0⟩, false⟩

end Failure

/-- Why a text was refused. The position is missing if the fault is in what a text
says that has no list or object around it. -/
structure Refusal where
  problem : Problem
  /-- Where it was noticed. -/
  position : Option Position
deriving DecidableEq, Repr

/-- The wording of a refusal. -/
def Refusal.message (r : Refusal) : String :=
  match r.position with
  | none => r.problem.message
  | some p =>
      r.problem.message ++ " at line " ++ toString p.line ++ " column " ++ toString p.column

/-- A failure as seen from the whole text. -/
def Failure.refusal (text : List Char) (f : Failure) : Refusal :=
  ⟨f.problem, if f.settled then some (f.place.position text) else none⟩

end SolverDeck.Json
