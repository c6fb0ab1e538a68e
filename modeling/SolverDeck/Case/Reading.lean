import SolverDeck.Case
import SolverDeck.Value.Reading

/-!
# Reading cases from JSON

A case is an object with the keys `base` and `parameters`, a parameter one with the
keys `field`, `label` and `value`; all but `value` may be left out or `null`, save
that `parameters` may not be `null`. Other keys and repeated keys are refused.

Both may also be written as lists of what the keys would hold, in that order. A case
so written may stop early; a parameter may not.

What a key says is judged as soon as the key is read, and what a value says once the
whole value is read. Such faults are pending: they get their place when the list or
object around them is left.
-/

namespace SolverDeck.Case

open Json (Document Failure Found Problem Result)

/-! ### Parts -/

/-- What a document is called where it should not stand. -/
def found : Document → Found
  | .null => .null
  | .bool b => .bool b
  | .number (.whole n) => .integer n
  | .number (.real x) => .real x
  | .text s => .text s
  | .list _ => .list
  | .object _ => .object

/-- What is wrong where something else than `expected` begins: words, numbers and
texts are read first, lists and objects are not. -/
def unexpected (expected : String) (cs : List Char) : Failure :=
  match cs with
  | '[' :: _ => .here (.wrongKind .list expected) cs
  | '\x7b' :: _ => .here (.wrongKind .object expected) cs
  | _ =>
      match Json.readLeaf cs with
      | .error failure => failure
      | .ok (document, rest) => .here (.wrongKind (found document) expected) rest

/-- Take a text or `null`. -/
def readOptionalText (cs : List Char) : Result (Option String) :=
  match Json.skipBlanks cs with
  | 'n' :: rest => Json.readWord none ['u', 'l', 'l'] rest
  | '"' :: rest => (Json.readText rest).map some
  | begun => .error (unexpected "a string" begun)

/-- Take the next item of a list, if there is one. -/
def readSlot (first : Bool) (item : List Char → Result α) (cs : List Char) :
    Result (Option α) :=
  match Json.nextItem first cs with
  | .error failure => .error failure
  | .ok (.finish rest) => .ok (none, rest)
  | .ok (.start begun) => (item begun).map some

/-- Take what a key holds, after the key: nothing may be held under it already. -/
def readHeld (key : String) (held : Option α) (value : List Char → Result α)
    (cs : List Char) : Result α :=
  if held.isSome then .error (.pending (.duplicateKey key) cs)
  else
    match Json.readColon cs with
    | .error failure => .error failure
    | .ok rest => value rest

/-! ### Parameters -/

/-- How many lists and objects may be open inside the value of a parameter: the case,
its parameters and the parameter itself are open already. -/
def valueLevels : Nat := Json.mostLevels - 3

/-- The keys of a parameter. -/
def parameterKeys : List String := ["field", "label", "value"]

/-- What was read of a parameter. -/
structure PartialParameter where
  /-- What the key `field` holds. -/
  field : Option (Option String) := none
  /-- What the key `label` holds. -/
  label : Option (Option String) := none
  /-- What the key `value` holds. -/
  value : Option Value := none

/-- Take one entry of a parameter, at the quote of its key. -/
def readParameterEntry (p : PartialParameter) (cs : List Char) : Result PartialParameter :=
  match Json.readText (cs.drop 1) with
  | .error failure => .error failure
  | .ok (key, rest) =>
      if key = "field" then
        (readHeld key p.field readOptionalText rest).map fun v => { p with field := some v }
      else if key = "label" then
        (readHeld key p.label readOptionalText rest).map fun v => { p with label := some v }
      else if key = "value" then
        (readHeld key p.value (Value.read valueLevels) rest).map fun v =>
          { p with value := some v }
      else .error (.pending (.unknownKey key parameterKeys) rest)

/-- The parameter written by the entries of an object, at its closing brace. -/
def finishParameter (p : PartialParameter) (rest : List Char) : Result Parameter :=
  match p.value with
  | none => .error (.pending (.missingKey "value") rest)
  | some value => .ok (⟨p.field.join, p.label.join, value⟩, rest)

/-- Take the entries of a parameter. -/
def readParameterEntries (cs : List Char) : Result Parameter :=
  match Json.readEntries readParameterEntry true cs.length {} cs with
  | .error failure => .error failure
  | .ok (p, rest) => finishParameter p rest

/-- Take the items of a parameter. -/
def readParameterItems (cs : List Char) : Result Parameter :=
  match readSlot true readOptionalText cs with
  | .error failure => .error failure
  | .ok (field, rest) =>
      match readSlot false readOptionalText rest with
      | .error failure => .error failure
      | .ok (label, rest) =>
          match readSlot false (Value.read valueLevels) rest with
          | .error failure => .error failure
          | .ok (none, rest) =>
              .error (.pending (.tooShort 2 "struct CaseParameter with 3 elements") rest)
          | .ok (some value, rest) => .ok (⟨field.join, label.join, value⟩, rest)

/-- Take a parameter. -/
def readParameter (cs : List Char) : Result Parameter :=
  match Json.skipBlanks cs with
  | '[' :: rest => Json.enclosed Json.closeList (readParameterItems rest)
  | '\x7b' :: rest => Json.enclosed Json.closeObject (readParameterEntries rest)
  | begun => .error (unexpected "struct CaseParameter" begun)

/-- Take a list of parameters. -/
def readParameters (cs : List Char) : Result (List Parameter) :=
  match Json.skipBlanks cs with
  | '[' :: rest =>
      Json.enclosed Json.closeList (Json.readItems readParameter true rest.length rest)
  | begun => .error (unexpected "a sequence" begun)

/-! ### Cases -/

/-- The keys of a case. -/
def caseKeys : List String := ["base", "parameters"]

/-- What was read of a case. -/
structure PartialCase where
  /-- What the key `base` holds. -/
  base : Option (Option String) := none
  /-- What the key `parameters` holds. -/
  parameters : Option (List Parameter) := none

/-- The case made of what was read. -/
def PartialCase.finish (c : PartialCase) : Case :=
  ⟨c.base.join, c.parameters.getD []⟩

/-- Take one entry of a case, at the quote of its key. -/
def readCaseEntry (c : PartialCase) (cs : List Char) : Result PartialCase :=
  match Json.readText (cs.drop 1) with
  | .error failure => .error failure
  | .ok (key, rest) =>
      if key = "base" then
        (readHeld key c.base readOptionalText rest).map fun v => { c with base := some v }
      else if key = "parameters" then
        (readHeld key c.parameters readParameters rest).map fun v =>
          { c with parameters := some v }
      else .error (.pending (.unknownKey key caseKeys) rest)

/-- Take the items of a case. -/
def readCaseItems (cs : List Char) : Result PartialCase :=
  match readSlot true readOptionalText cs with
  | .error failure => .error failure
  | .ok (base, rest) =>
      (readSlot false readParameters rest).map fun parameters => ⟨base, parameters⟩

/-- Take a case. -/
def read (cs : List Char) : Result Case :=
  match Json.skipBlanks cs with
  | '[' :: rest => (Json.enclosed Json.closeList (readCaseItems rest)).map PartialCase.finish
  | '\x7b' :: rest =>
      (Json.enclosed Json.closeObject
        (Json.readEntries readCaseEntry true rest.length {} rest)).map PartialCase.finish
  | begun => .error (unexpected "struct CaseFile" begun)

/-- The case that a JSON text writes. -/
def parse (text : String) : Except Fault Case :=
  match Json.readWhole read text with
  | .error refusal => .error (.malformedCase refusal)
  | .ok c => .ok c

/-- The case that a file holds. -/
def load [Monad m] (files : FileAccess m) (path : Path) : m (Except Fault Case) := do
  match ← files.readText path with
  | .error e => return .error (.unreadableCase path e)
  | .ok text => return parse text

end SolverDeck.Case
