import SolverDeck.Json.Problem

/-!
# Blanks, words and punctuation of JSON

The parts of a JSON reader that do not depend on what is read. A reader takes the
characters that are left and gives back what it read together with what is left
then, or a failure (`Result`).

* `readWord` — one of the fixed words;
* `nextItem`, `nextEntry` — step over the punctuation before the next list item or
  object entry, or find the end;
* `closeList`, `closeObject` — leave a list or an object;
* `enclosed` — run a reader inside brackets, giving a pending failure its place;
* `readItems`, `readEntries` — all items or entries, one after the other. Each takes
  at least one character, so the characters left bound the number of rounds.
-/

namespace SolverDeck.Json

/-- What reading gives: a result and the rest of the text, or a failure. -/
abbrev Result (α : Type) := Except Failure (α × List Char)

/-- Blanks between tokens: space, line feed, carriage return and tab. -/
def isBlank (c : Char) : Bool :=
  c == ' ' || c == '\n' || c == '\t' || c == '\r'

/-- The rest after the blanks. -/
def skipBlanks (cs : List Char) : List Char :=
  cs.dropWhile isBlank

/-- Take the letters of a word, and give `value`. -/
def readWord (value : α) : List Char → List Char → Result α
  | [], cs => .ok (value, cs)
  | _ :: _, [] => .error (.here .endInValue [])
  | w :: ws, c :: cs =>
      if c = w then readWord value ws cs else .error (.atNext .expectedWord (c :: cs))

/-! ### Between items and entries -/

/-- What stands behind the punctuation before an item or entry. -/
inductive Next where
  /-- The closing bracket or brace, not yet taken. -/
  | finish (rest : List Char)
  /-- Something else: an item or entry should begin here. -/
  | start (rest : List Char)
deriving DecidableEq, Repr

/-- Step to the next item of a list; `first` says that none was read yet. -/
def nextItem (first : Bool) (cs : List Char) : Except Failure Next :=
  match skipBlanks cs with
  | [] => .error (.here .endInList [])
  | ']' :: rest => .ok (.finish (']' :: rest))
  | c :: rest =>
      if first then .ok (.start (c :: rest))
      else if c = ',' then
        match skipBlanks rest with
        | [] => .error (.here .endInValue [])
        | ']' :: more => .error (.atNext .trailingComma (']' :: more))
        | more => .ok (.start more)
      else .error (.atNext .expectedCommaOrBracket (c :: rest))

/-- Step to the next entry of an object; it begins with a quote. -/
def nextEntry (first : Bool) (cs : List Char) : Except Failure Next :=
  match skipBlanks cs with
  | [] => .error (.here .endInObject [])
  | '\x7d' :: rest => .ok (.finish ('\x7d' :: rest))
  | c :: rest =>
      if first then
        if c = '"' then .ok (.start (c :: rest)) else .error (.atNext .keyNotText (c :: rest))
      else if c = ',' then
        match skipBlanks rest with
        | [] => .error (.here .endInValue [])
        | '\x7d' :: more => .error (.atNext .trailingComma ('\x7d' :: more))
        | '"' :: more => .ok (.start ('"' :: more))
        | more => .error (.atNext .keyNotText more)
      else .error (.atNext .expectedCommaOrBrace (c :: rest))

/-- Take the colon between a key and its value. -/
def readColon (cs : List Char) : Except Failure (List Char) :=
  match skipBlanks cs with
  | [] => .error (.here .endInObject [])
  | ':' :: rest => .ok rest
  | rest => .error (.atNext .expectedColon rest)

/-! ### Leaving lists and objects -/

/-- Leave a list: what is wrong, if anything, and where reading stands then. -/
def closeList (cs : List Char) : Option Problem × List Char :=
  match skipBlanks cs with
  | [] => (some .endInList, [])
  | ']' :: rest => (none, rest)
  | ',' :: rest =>
      match skipBlanks rest with
      | ']' :: more => (some .trailingComma, ']' :: more)
      | more => (some .trailing, more)
  | rest => (some .trailing, rest)

/-- Leave an object: what is wrong, if anything, and where reading stands then. -/
def closeObject (cs : List Char) : Option Problem × List Char :=
  match skipBlanks cs with
  | [] => (some .endInObject, [])
  | '\x7d' :: rest => (none, rest)
  | ',' :: rest => (some .trailingComma, ',' :: rest)
  | rest => (some .trailing, rest)

/-- What was read inside brackets, once they are left. A pending failure gets its
place here: where reading stands after the attempt to leave. -/
def enclosed (close : List Char → Option Problem × List Char) (inside : Result α) :
    Result α :=
  match inside with
  | .ok (value, rest) =>
      match close rest with
      | (none, after) => .ok (value, after)
      | (some problem, after) => .error (.atNext problem after)
  | .error failure =>
      if failure.settled then .error failure
      else .error (.here failure.problem (close failure.place.rest).2)

/-! ### Runs of items and entries -/

/-- The items of a list up to its closing bracket, in at most `rounds` rounds. -/
def readItems (item : List Char → Result α) (first : Bool) :
    (rounds : Nat) → List Char → Result (List α)
  | 0, cs => .error (.here .endInList cs)
  | rounds + 1, cs =>
      match nextItem first cs with
      | .error failure => .error failure
      | .ok (.finish rest) => .ok ([], rest)
      | .ok (.start begun) =>
          match item begun with
          | .error failure => .error failure
          | .ok (value, rest) =>
              match readItems item false rounds rest with
              | .error failure => .error failure
              | .ok (values, rest) => .ok (value :: values, rest)

/-- The entries of an object up to its closing brace, in at most `rounds` rounds.
An entry reader gets what the entries before it made, and starts at the quote. -/
def readEntries (entry : σ → List Char → Result σ) (first : Bool) :
    (rounds : Nat) → σ → List Char → Result σ
  | 0, _, cs => .error (.here .endInObject cs)
  | rounds + 1, state, cs =>
      match nextEntry first cs with
      | .error failure => .error failure
      | .ok (.finish rest) => .ok (state, rest)
      | .ok (.start begun) =>
          match entry state begun with
          | .error failure => .error failure
          | .ok (state, rest) => readEntries entry false rounds state rest

end SolverDeck.Json
