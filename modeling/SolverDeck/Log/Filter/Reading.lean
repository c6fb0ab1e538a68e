import SolverDeck.Log.Filter
import SolverDeck.Log.Filter.Pattern

/-!
# Reading log filters

A filter is written as directives with commas between them; nothing between two commas
is no directive, so a filter may have none, and then shows nothing. A directive is a
level, or

    target[span{field}]=level

of which the target, the part in brackets, or the level may be missing, and within the
brackets the name of the span or the field. A directive without a level shows all it
selects. A field may have a value behind an `=`, up to another `=` (`Log.Filter.Pattern`).
A directive with a span or with a value is only about what happens within spans.

`Draft.step` follows the characters of a directive and notes what it has come to. It
passes over blanks at both ends, but the parts are cut out of the whole text at the
places so found, counted in bytes. So a blank at the end belongs to the last part, and
one at the beginning moves each cut.
-/

namespace SolverDeck.Log

/-! ### Levels -/

/-- The threshold with a number: from 0 for none to 5 for all events. -/
def Threshold.ofNumber? : Nat → Option Threshold
  | 0 => some .off
  | 1 => some (.atLeast .error)
  | 2 => some (.atLeast .warn)
  | 3 => some (.atLeast .info)
  | 4 => some (.atLeast .debug)
  | 5 => some (.atLeast .trace)
  | _ => none

/-- The number that decimal digits write, if there are any and nothing else. -/
def digitsValue? (cs : List Char) : Option Nat :=
  if !cs.isEmpty && cs.all Char.isDigit then
    some (cs.foldl (fun n c => n * 10 + (c.toNat - '0'.toNat)) 0)
  else none

/-- The number that a word writes. It may have a plus sign. -/
def number? : List Char → Option Nat
  | '+' :: cs => digitsValue? cs
  | cs => digitsValue? cs

/-- The threshold that a word names, by a number or in words. The case of letters does
not matter. -/
def Threshold.ofWord? (word : List Char) : Option Threshold :=
  match number? word with
  | some n => ofNumber? n
  | none =>
      match String.ofList (word.map Char.toLower) with
      | "off" => some .off
      | "error" => some (.atLeast .error)
      | "warn" => some (.atLeast .warn)
      | "info" => some (.atLeast .info)
      | "debug" => some (.atLeast .debug)
      | "trace" => some (.atLeast .trace)
      | _ => none

/-! ### Cutting -/

/-- How many bytes a text takes. -/
def byteSize : List Char → Nat
  | [] => 0
  | c :: cs => c.utf8Size + byteSize cs

/-- The parts of a text before and from the place that so many bytes lie before, if no
character lies across it. -/
def splitBytes? : Nat → List Char → Option (List Char × List Char)
  | 0, cs => some ([], cs)
  | _ + 1, [] => none
  | n + 1, c :: cs =>
      if c.utf8Size ≤ n + 1 then
        (splitBytes? (n + 1 - c.utf8Size) cs).map fun (before, rest) => (c :: before, rest)
      else none

/-- The part of a text between two places. -/
def cut? (low high : Nat) (cs : List Char) : Option (List Char) :=
  match splitBytes? high cs with
  | none => none
  | some (before, _) => (splitBytes? low before).map (·.2)

/-- The parts of a text between the places where `separator` stands. -/
def splitAtChar (separator : Char) : List Char → List (List Char)
  | [] => [[]]
  | c :: cs =>
      if c = separator then [] :: splitAtChar separator cs
      else
        match splitAtChar separator cs with
        | [] => [[c]]
        | first :: more => (c :: first) :: more

/-! ### Directives -/

/-- What the reader of a directive has come to. A place is where the part that is being
read begins. -/
inductive Stage where
  /-- The beginning. -/
  | start
  /-- A target, or a level. -/
  | word
  /-- The name of a span. -/
  | span (place : Nat)
  /-- A field. -/
  | field (place : Nat)
  /-- The end of the field. -/
  | fieldEnd
  /-- The end of what selects events. -/
  | selected
  /-- The level behind the `=`. -/
  | level (place : Nat)
deriving DecidableEq, Repr

/-- A directive that is being read. -/
structure Draft where
  /-- What the reader has come to. -/
  stage : Stage := .start
  /-- What is known of the directive. -/
  known : Directive := {}
deriving DecidableEq, Repr

/-- May a directive begin with this character, if not with a bracket? -/
def isWordStart (c : Char) : Bool :=
  CodePoints.isAlphanumeric c || c == '-' || c == ':' || c == '_'

namespace Draft

/-- The draft after the character at a place of `text`; none if it cannot stand there. -/
def step (text : List Char) (place : Nat) (c : Char) (draft : Draft) : Option Draft :=
  let known := draft.known
  match draft.stage with
  | .start =>
      if c = '[' then some { draft with stage := .span (place + 1) }
      else if isWordStart c then some { draft with stage := .word }
      else none
  | .word =>
      if c = '=' then
        (cut? 0 place text).map fun target => ⟨.level (place + 1), { known with target }⟩
      else if c = '[' then
        (cut? 0 place text).map fun target => ⟨.span (place + 1), { known with target }⟩
      else some draft
  | .span low =>
      if c = ']' then
        (cut? low place text).map fun _ => ⟨.selected, { known with withinSpans := true }⟩
      else if c = '\x7b' then
        (cut? low place text).map fun name =>
          ⟨.field (place + 1), { known with withinSpans := !name.isEmpty }⟩
      else some draft
  | .field low =>
      if c = '\x7d' then
        match cut? low place text with
        | none | some [] => none
        | some content =>
            match splitAtChar '=' content with
            | [] => none
            | [name] => some ⟨.fieldEnd, { known with field := some (String.ofList name) }⟩
            | name :: value :: _ =>
                if Pattern.isValue value then
                  some ⟨.fieldEnd,
                    { known with field := some (String.ofList name), withinSpans := true }⟩
                else none
      else some draft
  | .fieldEnd => if c = ']' then some { draft with stage := .selected } else none
  | .selected => if c = '=' then some { draft with stage := .level (place + 1) } else none
  | .level _ => some draft

/-- The draft after more characters, the first of them at a place of `text`. -/
def run (text : List Char) : Nat → List Char → Draft → Option Draft
  | _, [], draft => some draft
  | place, c :: cs, draft =>
      match draft.step text place c with
      | none => none
      | some next => run text (place + c.utf8Size) cs next

/-- The directive that a draft has become at the end of `text`. A word by itself is a
level if it names one. -/
def finish (text : List Char) (draft : Draft) : Option Directive :=
  match draft.stage with
  | .word =>
      match Threshold.ofWord? text with
      | some threshold => some { threshold }
      | none => some { target := text }
  | .level low =>
      match cut? low (byteSize text) text with
      | none => none
      | some [] => some draft.known
      | some word => (Threshold.ofWord? word).map fun threshold => { draft.known with threshold }
  | .selected => some draft.known
  | _ => none

end Draft

/-- The directive that a text writes. -/
def Directive.parse? (text : List Char) : Option Directive :=
  (Draft.run text 0 (Text.trim text) {}).bind (Draft.finish text)

/-! ### Filters -/

namespace Filter

/-- The filter that a text writes, if every directive in it can be read. -/
def parse? (text : String) : Option Filter :=
  ((splitAtChar ',' text.toList).filter (!·.isEmpty)).mapM Directive.parse?

/-- The filter of a run: the one the user set, if it can be read, and else one that
shows less or more of the work as the run is quiet or verbose. -/
def ofSetting (setting : Option String) (verbose : Bool) : Filter :=
  match setting.bind parse? with
  | some filter => filter
  | none => global (.atLeast (if verbose then .debug else .info))

end Filter

end SolverDeck.Log
