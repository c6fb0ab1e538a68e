import SolverDeck.Text.Blank

/-!
# Values of fields in log filters

A filter may ask for a field with a value, which is a number or a *pattern*, a regular
expression. Nothing is ever compared with it, as only events within spans are, and there
are none. But a filter with a value that cannot be read is no filter, so what can be read
is settled here (`isValue`).

A value stands between braces and commas. It has no comma and no closing brace, so a
pattern that needs one, like `a{2}`, cannot be read.

A pattern is read from left to right in a `Mode`, which the pattern can change for the
rest of the group it is in. Most patterns are about characters, some about bytes. A
pattern can be read if

* its brackets are closed, its repetitions have something to repeat, and its escapes,
  ranges, names of groups and mode changes are known ones;
* about characters: it does not ask for a kind of characters (`\d`), for the case of
  letters to be ignored, or for the ends of words, all of which take tables that are not
  at hand;
* about bytes: it matches whole characters only, so it does not ask for any byte, for a
  negated class, or for a byte above 127;
* no part of it is nested too deeply. The *height* of a part tells how deep nesting is
  within it.
-/

namespace SolverDeck.Log.Pattern

/-! ### Modes -/

/-- How a pattern is to be understood. -/
structure Mode where
  /-- Is the case of letters ignored? -/
  insensitive : Bool := false
  /-- Is the pattern about characters, and not about bytes? -/
  characters : Bool := true
  /-- Are blanks and comments between the parts ignored? -/
  spaced : Bool := false
deriving DecidableEq, Repr

namespace Mode

/-- The letters of modes. -/
def letters : List Char := ['i', 'm', 's', 'R', 'U', 'u', 'x']

/-- A mode with the part that a letter stands for switched. The other letters change
only what a pattern matches. -/
def switch (mode : Mode) (letter : Char) (on : Bool) : Mode :=
  match letter with
  | 'i' => { mode with insensitive := on }
  | 'u' => { mode with characters := on }
  | 'x' => { mode with spaced := on }
  | _ => mode

/-- What is left after the blanks and comments at the beginning of a text, which may
itself be the middle of a comment. A comment goes to the end of its line. -/
def afterBlanks (inComment : Bool) : List Char → List Char
  | [] => []
  | c :: cs =>
      if inComment then afterBlanks (c != '\n') cs
      else if Text.isBlank c then afterBlanks false cs
      else if c = '#' then afterBlanks true cs
      else c :: cs

/-- What is left of a text after what the mode ignores. -/
def skip (mode : Mode) (cs : List Char) : List Char :=
  if mode.spaced then afterBlanks false cs else cs

/-- The character that a reader who looks ahead sees first. It sees into a comment. -/
def glance? (mode : Mode) (cs : List Char) : Option Char :=
  if mode.spaced then
    match cs.dropWhile Text.isBlank with
    | '#' :: more => (more.dropWhile Text.isBlank).head?
    | more => more.head?
  else cs.head?

/-- Change a mode as the letters before a colon or a closing parenthesis tell; those
behind a minus sign switch off. Gives the mode, the letters, the character they end
with, and the rest. No letter comes twice, and a minus sign not last. -/
def change? (mode : Mode) (seen : List Char) :
    List Char → Option (Mode × List Char × Char × List Char)
  | [] => none
  | c :: cs =>
      if c = ':' ∨ c = ')' then
        if seen.head? = some '-' then none else some (mode, seen, c, cs)
      else if seen.contains c then none
      else if c = '-' then change? mode (c :: seen) cs
      else if letters.contains c then
        change? (mode.switch c (!seen.contains '-')) (c :: seen) cs
      else none

end Mode

/-! ### Atoms -/

/-- The smallest part of a pattern. -/
inductive Atom where
  /-- A character, possibly written as a byte. -/
  | letter (c : Char) (asByte : Bool)
  /-- Any character. -/
  | any
  /-- An end of a line or of the text. -/
  | lineEnd
  /-- An end of a word. -/
  | wordEnd
  /-- A kind of characters, or all others. -/
  | kind (negated : Bool)
deriving DecidableEq, Repr

/-- Is it an ASCII character? -/
def isAscii (c : Char) : Bool :=
  c.toNat < 128

namespace Atom

/-- Can an atom be read in a mode? -/
def isReadable (mode : Mode) : Atom → Bool
  | letter c asByte =>
      if mode.characters then !mode.insensitive else !asByte || isAscii c
  | any => mode.characters
  | lineEnd => true
  | wordEnd => !mode.characters
  | kind negated => !mode.characters && !negated

/-- Can an atom be read as a member of a class? -/
def isMember (mode : Mode) : Atom → Bool
  | letter c _ => if mode.characters then !mode.insensitive else isAscii c
  | kind negated => !mode.characters && !negated
  | _ => false

end Atom

/-- The number of a hexadecimal digit. -/
def hexDigit? (c : Char) : Option Nat :=
  if c.isDigit then some (c.toNat - '0'.toNat)
  else if 'a' ≤ c ∧ c ≤ 'f' then some (c.toNat - 'a'.toNat + 10)
  else if 'A' ≤ c ∧ c ≤ 'F' then some (c.toNat - 'A'.toNat + 10)
  else none

/-- The character whose code is written with so many hexadecimal digits, and the
rest. -/
def codePoint? (mode : Mode) (code : Nat) : Nat → List Char → Option (Char × List Char)
  | 0, cs => if code.isValidChar then some (Char.ofNat code, cs) else none
  | n + 1, cs =>
      match mode.skip cs with
      | [] => none
      | c :: rest => (hexDigit? c).bind fun d => codePoint? mode (code * 16 + d) n rest

/-- Does an escaped character stand for itself? -/
def isEscapable (c : Char) : Bool :=
  isAscii c && !c.isAlphanum && c != '<' && c != '>'

/-- The atom behind a backslash, and the rest. -/
def escape? (mode : Mode) : List Char → Option (Atom × List Char)
  | [] => none
  | c :: cs =>
      let letter (code : Char) := some (.letter code false, cs)
      match c with
      | 'x' => (codePoint? mode 0 2 cs).map fun (code, rest) => (.letter code true, rest)
      | 'u' => (codePoint? mode 0 4 cs).map fun (code, rest) => (.letter code false, rest)
      | 'U' => (codePoint? mode 0 8 cs).map fun (code, rest) => (.letter code false, rest)
      | 'd' | 's' | 'w' => some (.kind false, cs)
      | 'D' | 'S' | 'W' => some (.kind true, cs)
      | 'A' | 'z' => some (.lineEnd, cs)
      | 'b' | 'B' | '<' | '>' => some (.wordEnd, cs)
      | 'a' => letter '\x07'
      | 'f' => letter '\x0c'
      | 't' => letter '\t'
      | 'n' => letter '\n'
      | 'r' => letter '\r'
      | 'v' => letter '\x0b'
      | other => if isEscapable other then letter other else none

/-! ### Heights -/

/-- The greatest nesting there may be. -/
def heightLimit : Nat := 250

/-- The height of parts put together: several make a part of their own. -/
def joined : List Nat → Nat
  | [] => 0
  | [height] => height
  | heights => heights.foldl max 0 + 1

/-! ### Classes -/

/-- The names of classes of ASCII characters. -/
def classNames : List String :=
  ["alnum", "alpha", "ascii", "blank", "cntrl", "digit", "graph", "lower", "print", "punct",
    "space", "upper", "word", "xdigit"]

/-- What follows the opening bracket of a class with a name: is it negated, and what is
the rest? -/
def namedClass? : List Char → Option (Bool × List Char)
  | ':' :: cs =>
      let negated := cs.head? == some '^'
      let cs := if negated then cs.drop 1 else cs
      match cs.dropWhile (· != ':') with
      | ':' :: ']' :: rest =>
          if classNames.contains (String.ofList (cs.takeWhile (· != ':'))) then
            some (negated, rest)
          else none
      | _ => none
  | _ => none

/-- Can a class with a name be read in a mode? -/
def isNamedReadable (mode : Mode) (negated : Bool) : Bool :=
  if mode.characters then !mode.insensitive else !negated

/-- What follows an operation on sets: intersection, difference or symmetric
difference. -/
def afterOperation? : List Char → Option (List Char)
  | '&' :: '&' :: rest => some rest
  | '-' :: '-' :: rest => some rest
  | '~' :: '~' :: rest => some rest
  | _ => none

/-- The character or escape that a member of a class begins with, and the rest. -/
def member? (mode : Mode) : List Char → Option (Atom × List Char)
  | [] => none
  | '\\' :: cs => escape? mode cs
  | c :: cs => some (.letter c false, cs)

/-- What follows a member of a class, which may be a range. The ends of a range are
characters in order. A minus sign before the closing bracket or another minus sign makes
no range. -/
def afterMember? (mode : Mode) (cs : List Char) : Option (List Char) :=
  match member? mode cs with
  | none => none
  | some (low, rest) =>
      let single := if low.isMember mode then some (mode.skip rest) else none
      match mode.skip rest with
      | [] => none
      | '-' :: more =>
          if mode.glance? more = some ']' ∨ mode.glance? more = some '-' then single
          else
            match low, member? mode (mode.skip more) with
            | .letter a _, some (.letter b asByte, rest) =>
                if a ≤ b && low.isMember mode && (Atom.letter b asByte).isMember mode then some rest
                else none
            | _, _ => none
      | _ => single

/-- The height of the members of a class, `left` being that of the first operand if they
are the second one of an operation. -/
def operated (left : Option Nat) (members : List Nat) : Nat :=
  match left with
  | none => joined members
  | some height => max height (joined members) + 1

mutual

/-- The height of a class and the rest, from behind its opening bracket. -/
def class? (mode : Mode) : Nat → List Char → Option (Nat × List Char)
  | 0, _ => none
  | fuel + 1, cs =>
      match mode.skip cs with
      | '^' :: rest =>
          if mode.characters then
            (members? mode fuel true none [] rest).map fun (height, rest) => (height + 1, rest)
          else none
      | rest => (members? mode fuel true none [] rest).map fun (height, rest) => (height + 1, rest)

/-- The height of the members of a class and what follows its closing bracket. At the
beginning minus signs are members, and a closing bracket is one if it comes first of
all. -/
def members? (mode : Mode) : Nat → Bool → Option Nat → List Nat → List Char →
    Option (Nat × List Char)
  | 0, _, _, _, _ => none
  | fuel + 1, beginning, left, heights, cs =>
      match mode.skip cs with
      | [] => none
      | c :: rest =>
          if beginning && (c == '-' || c == ']' && heights.isEmpty) then
            if (Atom.letter c false).isMember mode then
              members? mode fuel (c == '-') left (0 :: heights) rest
            else none
          else if c = ']' then some (operated left heights, rest)
          else if c = '[' then
            match namedClass? rest with
            | some (negated, rest) =>
                if isNamedReadable mode negated then
                  members? mode fuel false left (0 :: heights) rest
                else none
            | none =>
                match class? mode fuel rest with
                | none => none
                | some (height, rest) => members? mode fuel false left (height :: heights) rest
          else
            match afterOperation? (c :: rest) with
            | some rest => members? mode fuel false (some (operated left heights)) [] rest
            | none =>
                match afterMember? mode (c :: rest) with
                | none => none
                | some rest => members? mode fuel false left (0 :: heights) rest

end

/-! ### Groups -/

/-- What an opening parenthesis begins. -/
inductive Opening where
  /-- A group with a mode, and a name if it is given one. -/
  | group (mode : Mode) (name : Option (List Char))
  /-- A change of the mode for the rest of the group around it. -/
  | change (mode : Mode)
deriving DecidableEq, Repr

/-- Can a group have this name? -/
def isGroupName : List Char → Bool
  | [] => false
  | c :: cs =>
      (c == '_' || CodePoints.isAlphabetic c) &&
        cs.all fun d => ['_', '.', '[', ']'].contains d || CodePoints.isAlphanumeric d

/-- A name up to its closing angle bracket, and the rest. -/
def groupName? (cs : List Char) : Option (List Char × List Char) :=
  match cs.dropWhile (· != '>') with
  | [] => none
  | _ :: rest =>
      let name := cs.takeWhile (· != '>')
      if isGroupName name then some (name, rest) else none

/-- What an opening parenthesis begins, and the rest. There is no looking around. -/
def opening? (mode : Mode) (cs : List Char) : Option (Opening × List Char) :=
  let named (cs : List Char) :=
    (groupName? cs).map fun (name, rest) => (.group mode (some name), rest)
  match mode.skip cs with
  | '?' :: '=' :: _ | '?' :: '!' :: _ | '?' :: '<' :: '=' :: _ | '?' :: '<' :: '!' :: _ => none
  | '?' :: 'P' :: '<' :: cs => named cs
  | '?' :: '<' :: cs => named cs
  | '?' :: cs =>
      match mode.change? [] cs with
      | some (_, [], ')', _) => none
      | some (changed, _, ')', rest) => some (.change changed, rest)
      | some (changed, _, _, rest) => some (.group changed none, rest)
      | none => none
  | cs => some (.group mode none, cs)

/-! ### Patterns -/

/-- A part that has been read. -/
structure Piece where
  /-- Its height. -/
  height : Nat
  /-- Can it be repeated? -/
  repeatable : Bool
deriving DecidableEq, Repr

/-- What has been read of a group, or of the whole pattern. -/
structure Level where
  /-- The heights of the alternatives that are complete. -/
  alternatives : List Nat := []
  /-- The parts of the last alternative, the last one first. -/
  pieces : List Piece := []
deriving DecidableEq, Repr

namespace Level

/-- A level with one more part. -/
def add (level : Level) (height : Nat) (repeatable : Bool) : Level :=
  { level with pieces := ⟨height, repeatable⟩ :: level.pieces }

/-- A level with its last alternative complete. -/
def next (level : Level) : Level :=
  ⟨joined (level.pieces.map (·.height)) :: level.alternatives, []⟩

/-- The height of a level. -/
def height (level : Level) : Nat :=
  joined level.next.alternatives

/-- A level with its last part repeated. -/
def repeated? (level : Level) : Option Level :=
  match level.pieces with
  | ⟨height, true⟩ :: pieces => some { level with pieces := ⟨height + 1, true⟩ :: pieces }
  | _ => none

end Level

/-- What a reader of a pattern knows. -/
structure Reader where
  /-- The mode. -/
  mode : Mode := {}
  /-- The names of groups so far. -/
  names : List (List Char) := []
  /-- The group that is being read, or the whole pattern. -/
  level : Level := {}
  /-- The groups around it, each with the mode that holds again after what is in it. -/
  outer : List (Level × Mode) := []
deriving DecidableEq, Repr

namespace Reader

/-- A reader that has read one more part. -/
def add (reader : Reader) (height : Nat) : Reader :=
  { reader with level := reader.level.add height true }

/-- A reader that has read one more atom. -/
def addAtom? (reader : Reader) (atom : Atom) : Option Reader :=
  if atom.isReadable reader.mode then some (reader.add 0) else none

/-- A reader after an opening parenthesis. No two groups have the same name. -/
def begin? (reader : Reader) : Opening → Option Reader
  | .change mode => some { reader with mode, level := reader.level.add 0 false }
  | .group mode name =>
      if name.any reader.names.contains then none
      else
        some { mode
               names := name.toList ++ reader.names
               level := {}
               outer := (reader.level, reader.mode) :: reader.outer }

/-- A reader after a closing parenthesis. -/
def finish? (reader : Reader) : Option Reader :=
  match reader.outer with
  | [] => none
  | (level, mode) :: outer =>
      some { reader with mode, outer, level := level.add (reader.level.height + 1) true }

/-- Read the next part of a pattern, which begins with `c`. -/
def step? (reader : Reader) (c : Char) (cs : List Char) : Option (Reader × List Char) :=
  let mode := reader.mode
  match c with
  | '(' => (opening? mode cs).bind fun (opening, rest) =>
      (reader.begin? opening).map fun reader => (reader, rest)
  | ')' => reader.finish?.map fun reader => (reader, cs)
  | '|' => some ({ reader with level := reader.level.next }, cs)
  | '[' => (class? mode (2 * cs.length + 2) cs).map fun (height, rest) => (reader.add height, rest)
  | '?' | '*' | '+' => reader.level.repeated?.map fun level =>
      ({ reader with level }, if cs.head? = some '?' then cs.drop 1 else cs)
  | '\x7b' => none
  | '\\' => (escape? mode cs).bind fun (atom, rest) =>
      (reader.addAtom? atom).map fun reader => (reader, rest)
  | '.' => (reader.addAtom? .any).map fun reader => (reader, cs)
  | '^' | '$' => (reader.addAtom? .lineEnd).map fun reader => (reader, cs)
  | other => (reader.addAtom? (.letter other false)).map fun reader => (reader, cs)

/-- The height of a pattern, if all of it can be read. Each step takes a character at
least. -/
def run? : Nat → Reader → List Char → Option Nat
  | 0, _, _ => none
  | fuel + 1, reader, cs =>
      match reader.mode.skip cs with
      | [] => if reader.outer.isEmpty then some reader.level.height else none
      | c :: rest =>
          match reader.step? c rest with
          | none => none
          | some (next, rest) => run? fuel next rest

end Reader

/-- Can a text be read as a pattern? -/
def isPattern (cs : List Char) : Bool :=
  (Reader.run? (cs.length + 1) {} cs).any (· ≤ heightLimit)

/-! ### Values -/

/-- A text without the sign at its beginning. -/
def unsigned : List Char → List Char
  | '+' :: cs => cs
  | '-' :: cs => cs
  | cs => cs

/-- Does a text consist of digits, one at least? -/
def isDigits (cs : List Char) : Bool :=
  !cs.isEmpty && cs.all Char.isDigit

/-- Is a text the decimal exponent of a number, or empty? -/
def isExponent : List Char → Bool
  | [] => true
  | c :: cs => (c == 'e' || c == 'E') && isDigits (unsigned cs)

/-- Is a text a number? It may have a sign, a fraction and an exponent, or be infinite or
no number at all. -/
def isNumber (cs : List Char) : Bool :=
  let body := unsigned cs
  let whole := body.takeWhile Char.isDigit
  let rest := body.dropWhile Char.isDigit
  let behindPoint := if rest.head? = some '.' then rest.drop 1 else []
  let fraction := behindPoint.takeWhile Char.isDigit
  let exponent := if rest.head? = some '.' then behindPoint.dropWhile Char.isDigit else rest
  ["inf", "infinity", "nan"].contains (String.ofList (body.map Char.toLower)) ||
    isDigits (whole ++ fraction) && isExponent exponent

/-- Can a text be read as the value of a field? -/
def isValue (cs : List Char) : Bool :=
  isNumber cs || isPattern cs

end SolverDeck.Log.Pattern
