import SolverDeck.Json.Number
import SolverDeck.Json.Text

/-!
# JSON documents

A `Document` is what a JSON text says, before anything is asked of it.

`readDocument levels` takes one value with everything in it; `levels` is how many
lists and objects may still be opened inside each other, so reading is structural
in it. `readWhole` runs a reader on a whole text, after which only blanks may follow.
-/

namespace SolverDeck.Json

/-- A JSON value. -/
inductive Document where
  /-- The word `null`. -/
  | null
  /-- A truth value. -/
  | bool (b : Bool)
  /-- A number. -/
  | number (n : Number)
  /-- A text. -/
  | text (s : String)
  /-- A list. -/
  | list (items : List Document)
  /-- An object: its entries in order, with repeated keys kept. -/
  | object (entries : List (String × Document))
deriving Repr, Inhabited

/-- How many lists and objects may be open inside each other. -/
def mostLevels : Nat := 127

/-- Apply a function to what was read. -/
def Result.map (f : α → β) : Result α → Result β
  | .error failure => .error failure
  | .ok (value, rest) => .ok (f value, rest)

/-- Take an object entry from its opening quote: a key, a colon, and what `value`
reads. -/
def readEntry (value : List Char → Result α) (cs : List Char) : Result (String × α) :=
  match readText (cs.drop 1) with
  | .error failure => .error failure
  | .ok (key, rest) =>
      match readColon rest with
      | .error failure => .error failure
      | .ok rest => (value rest).map fun v => (key, v)

/-- Take a value that is neither a list nor an object, at its first character. -/
def readLeaf (cs : List Char) : Result Document :=
  match cs with
  | [] => .error (.here .endInValue [])
  | 'n' :: rest => readWord .null ['u', 'l', 'l'] rest
  | 't' :: rest => readWord (.bool true) ['r', 'u', 'e'] rest
  | 'f' :: rest => readWord (.bool false) ['a', 'l', 's', 'e'] rest
  | '"' :: rest => (readText rest).map .text
  | c :: rest =>
      if c = '-' ∨ c.isDigit then (readNumber (c :: rest)).map .number
      else .error (.atNext .expectedValue (c :: rest))

/-- Take a value that opens at most `levels` lists and objects inside each other. -/
def readDocument : (levels : Nat) → List Char → Result Document
  | 0, cs =>
      match skipBlanks cs with
      | '[' :: rest => .error (.atNext .tooDeep ('[' :: rest))
      | '\x7b' :: rest => .error (.atNext .tooDeep ('\x7b' :: rest))
      | begun => readLeaf begun
  | levels + 1, cs =>
      match skipBlanks cs with
      | '[' :: rest =>
          enclosed closeList
            ((readItems (readDocument levels) true rest.length rest).map .list)
      | '\x7b' :: rest =>
          enclosed closeObject
            ((readEntries
              (fun entries begun =>
                (readEntry (readDocument levels) begun).map fun e => entries ++ [e])
              true rest.length [] rest).map .object)
      | begun => readLeaf begun

/-- Nothing but blanks may be left. -/
def expectEnd (cs : List Char) : Except Failure Unit :=
  match skipBlanks cs with
  | [] => .ok ()
  | rest => .error (.atNext .trailing rest)

/-- What a reader makes of a whole text. -/
def readWhole (read : List Char → Result α) (text : String) : Except Refusal α :=
  let cs := text.toList
  match read cs with
  | .error failure => .error (failure.refusal cs)
  | .ok (value, rest) =>
      match expectEnd rest with
      | .error failure => .error (failure.refusal cs)
      | .ok () => .ok value

end SolverDeck.Json
