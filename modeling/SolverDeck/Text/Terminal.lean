/-!
# Control sequences

Text that is shown on a terminal may hold sequences that do not show but act: they
set colours and titles or move the cursor. A text from outside must not act, so where
it is quoted to the user only its *visible* part is.

A sequence begins with the escape character. What follows it decides about the kind:

* `[` — a control sequence, up to a character from `@` to `~`;
* `]` — a command, up to the bell character;
* `P` — a device control, with a head like that of a control sequence and a string;
* `X`, `^`, `_` — a string;
* anything else from the space to `~` — an escape sequence, up to a character
  from `0` to `~`.

A string has no end of its own but the string terminator, a single byte that occurs
within some characters too. Every sequence is cut off by the escape character that
begins the next one, and by the characters for cancelling; those of the first and last
kind also by white space, which then shows. Outside of sequences the control characters
do not show either, white space excepted.

`visible` follows the text with a `State` of what the reader is in.
-/

namespace SolverDeck.Terminal

/-- What a reader of a text is in. -/
inductive State where
  /-- No sequence. -/
  | plain
  /-- The beginning of a sequence. -/
  | escape
  /-- The rest of an escape sequence. -/
  | intermediate
  /-- A control sequence. -/
  | control
  /-- A command. -/
  | command
  /-- The beginning of the head of a device control. -/
  | device
  /-- The parameters in that head. -/
  | deviceParameters
  /-- The intermediate characters in that head. -/
  | deviceIntermediate
  /-- A string. -/
  | string
deriving DecidableEq, Repr

/-- White space among the control characters. -/
def isSpacing (c : Char) : Bool :=
  c == '\t' || c == '\n' || c == '\x0c' || c == '\r'

/-- Is the character in a range? -/
def isWithin (low high c : Char) : Bool :=
  low ≤ c && c ≤ high

/-- Does the string terminator occur in the encoding of a character? -/
def holdsTerminator (c : Char) : Bool :=
  (String.utf8EncodeChar c).contains 0x9c

/-- Does a character show? -/
def State.shows (c : Char) : State → Bool
  | plain => (' ' ≤ c && c != '\x7f') || isSpacing c
  | escape | intermediate | control => isSpacing c
  | _ => false

/-- What the reader is in after a character that neither begins nor cancels a
sequence. -/
def State.within (c : Char) : State → State
  | plain => plain
  | escape =>
      if isSpacing c then plain
      else if c = '[' then control
      else if c = ']' then command
      else if c = 'P' then device
      else if c = 'X' ∨ c = '^' ∨ c = '_' then string
      else if isWithin ' ' '/' c then intermediate
      else if isWithin '0' '~' c then plain
      else escape
  | intermediate => if isSpacing c || isWithin '0' '~' c then plain else intermediate
  | control => if isSpacing c || isWithin '@' '~' c then plain else control
  | command => if c = '\x07' then plain else command
  | device =>
      if isWithin ' ' '/' c then deviceIntermediate
      else if isWithin '0' '?' c then deviceParameters
      else if isWithin '@' '~' c then string
      else device
  | deviceParameters =>
      if isWithin ' ' '/' c then deviceIntermediate
      else if isWithin '<' '~' c then string
      else deviceParameters
  | deviceIntermediate => if isWithin '0' '~' c then string else deviceIntermediate
  | string => if holdsTerminator c then plain else string

/-- What the reader is in after a character. -/
def State.next (c : Char) (state : State) : State :=
  if c = '\x1b' then escape
  else if c = '\x18' ∨ c = '\x1a' then plain
  else state.within c

/-- The characters of a text that show, read from within `state`. -/
def visibleFrom (state : State) : List Char → List Char
  | [] => []
  | c :: cs =>
      if state.shows c then c :: visibleFrom (state.next c) cs
      else visibleFrom (state.next c) cs

/-- The visible part of a text. -/
def visible (s : String) : String :=
  String.ofList (visibleFrom .plain s.toList)

end SolverDeck.Terminal
