import SolverDeck.Command.Complaint
import SolverDeck.Text.Likeness

/-!
# Command line arguments

`Request.read` makes a request out of the arguments of a run, or complains about their
use.

* A value for an option or for the case file is first kept *pending*, and settled when
  the next option comes or the arguments end (`Gathered.settle`). So of two mistakes
  the one that shows first in this order is reported; an unknown argument is reported
  at once, whatever is pending.
* After `--` every argument is a value.
* What was gathered is kept in the order in which it came, for a complaint about an
  unknown argument shows how the command is used with the arguments before it.
* The verbose flag may stand before the subcommand, after it, or both.
* A complaint about an unknown name gives the known name most like it as a tip.
-/

namespace SolverDeck.Command

/-- Why reading arguments stops before their end. -/
inductive Stop where
  /-- A mistake. -/
  | misuse (m : Misuse) (advice : Advice)
  /-- Help or the version is all that is wanted. -/
  | asked (flag : Flag)
deriving DecidableEq, Repr

/-! ### Words -/

/-- What an argument looks like. -/
inductive Word where
  /-- `--`, after which only values come. -/
  | separator
  /-- A long option, with the value behind its `=` if there is one. -/
  | long (name : List Char) (value : Option (List Char))
  /-- A group of one-letter options. -/
  | short (letters : List Char)
  /-- Anything else. -/
  | plain
deriving DecidableEq, Repr

/-- What the characters of an argument look like. -/
def Word.of : List Char → Word
  | ['-', '-'] => .separator
  | '-' :: '-' :: more =>
      let name := more.takeWhile (· != '=')
      match more.dropWhile (· != '=') with
      | [] => .long name none
      | _ :: value => .long name (some value)
  | '-' :: letter :: more => .short (letter :: more)
  | _ => .plain

/-! ### Guesses -/

/-- The argument whose long name is most like a word, if one is like it at all. -/
def Grammar.nearest? (grammar : Grammar) (word : String) : Option Argument :=
  (Likeness.similar Argument.name word grammar.named).getLast?

/-- The first subcommand among the arguments that takes an argument with a name like a
word. -/
def nearestOfVerb? (word : String) (arguments : List String) : Option (Verb × Argument) :=
  arguments.findSome? fun argument =>
    (Verb.ofName? argument).bind fun verb =>
      (verb.grammar.nearest? word).map fun nearest => (verb, nearest)

/-- The tip that a word may be a value, where values are taken. -/
def Grammar.valueTips (grammar : Grammar) (shown : String) : List Tip :=
  if grammar.takesCase then [.value shown] else []

/-- The tip that a word may be a subcommand, if it is like one. -/
def subcommandTips (word : String) : List Tip :=
  match Likeness.similar id word subcommandNames with
  | [] => []
  | names => [.subcommands names]

/-- The reminder of a command after an unknown argument, when these were taken. -/
def Reminder.ofTaken : List Argument → Reminder
  | [] => .general
  | arguments => .withArguments arguments false

/-- The reminder of a command of which a flag was named, but not taken, when these were
taken. -/
def Grammar.reminderOf (grammar : Grammar) (taken : List Argument) (flag : Flag) : Reminder :=
  .withArguments (taken ++ [.flag flag]) (taken.any grammar.alternatives.contains)

/-! ### Gathering -/

/-- An argument that was settled. -/
inductive Given where
  /-- A slot, with its value. -/
  | slot (s : Slot) (value : String)
  /-- The verbose flag. -/
  | verbose
deriving DecidableEq, Repr

/-- What argument was settled. -/
def Given.argument : Given → Argument
  | slot s _ => .slot s
  | verbose => .flag .verbose

/-- What was gathered from the arguments so far. -/
structure Gathered where
  /-- What was settled, in the order in which it came. -/
  given : List Given := []
  /-- The slot to be settled next, with its value if that came already. -/
  pending : Option (Slot × Option String) := none
deriving DecidableEq, Repr

namespace Gathered

/-- What a slot holds. -/
def held (g : Gathered) (slot : Slot) : Option String :=
  g.given.findSome? fun
    | .slot s value => if s = slot then some value else none
    | .verbose => none

/-- Did the verbose flag come? -/
def verbose (g : Gathered) : Bool :=
  g.given.contains .verbose

/-- The arguments that were settled, in the order in which they came. -/
def settled (g : Gathered) : List Argument :=
  g.given.map Given.argument

/-- The arguments that were taken, if what is pending counts. It counts if it has a
value; but a slot that stands twice does not count at all. -/
def taken (g : Gathered) : List Argument :=
  match g.pending with
  | some (slot, some _) =>
      if (g.held slot).isSome then g.settled.filter (· != .slot slot)
      else g.settled ++ [.slot slot]
  | _ => g.settled

/-- The same with one argument more that is settled, and nothing pending. -/
def add (g : Gathered) (more : Given) : Gathered :=
  ⟨g.given ++ [more], none⟩

/-- Settle what is pending: it must have a value, its slot must be free, and a path
must not be empty. -/
def settle (g : Gathered) : Except Stop Gathered :=
  match g.pending with
  | none => .ok g
  | some (slot, none) => .error (.misuse (.missingValue slot) { reminder := .silent })
  | some (slot, some value) =>
      if (g.held slot).isSome then .error (.misuse (.repeated slot.usage) {})
      else if slot.holdsPath && value.isEmpty then
        .error (.misuse (.missingValue slot) { reminder := .silent })
      else .ok (g.add (.slot slot value))

/-- Is a value awaited? -/
def awaits (g : Gathered) : Bool :=
  match g.pending with
  | some (_, none) => true
  | _ => false

/-- Give the awaited value. -/
def give (g : Gathered) (value : String) : Gathered :=
  { g with pending := g.pending.map fun p => (p.1, some value) }

/-- Did a case file come, settled or not? -/
def hasCase (g : Gathered) : Bool :=
  (g.held .caseFile).isSome || g.pending.any fun p => p.1 == .caseFile

/-- Take a flag. -/
def takeFlag (g : Gathered) (flag : Flag) : Except Stop Gathered :=
  match g.settle with
  | .error stop => .error stop
  | .ok settled =>
      match flag with
      | .verbose =>
          if settled.verbose then .error (.misuse (.repeated flag.usage) {})
          else .ok (settled.add .verbose)
      | asked => .error (.asked asked)

/-- Take a group of one-letter options. -/
def takeLetters (grammar : Grammar) (g : Gathered) : List Char → Except Stop Gathered
  | [] => .ok g
  | letter :: letters =>
      match grammar.flagOfLetter? letter with
      | none =>
          let shown := String.ofList ['-', letter]
          .error (.misuse (.unknownArgument shown) { tips := grammar.valueTips shown })
      | some flag =>
          match g.takeFlag flag with
          | .error stop => .error stop
          | .ok taken => takeLetters grammar taken letters

/-- Take an option, with its value if that stands behind an `=`. -/
def takeOption (g : Gathered) (slot : Slot) (value : Option String) : Except Stop Gathered :=
  match g.settle with
  | .error stop => .error stop
  | .ok settled =>
      let begun := { settled with pending := some (slot, value) }
      if value.isSome then begun.settle else .ok begun

/-- What is told of a long option that is not known, `arguments` being those that
follow it. -/
def unknownLong (grammar : Grammar) (g : Gathered) (name : String) (arguments : List String) :
    Stop :=
  let shown := "--" ++ name
  let advice : Advice :=
    match grammar.nearest? name with
    | some nearest => ⟨[.argument nearest], .ofTaken (g.taken ++ [nearest])⟩
    | none =>
        let tips :=
          match nearestOfVerb? name (if grammar = .program then arguments else []) with
          | some (verb, nearest) => [.argumentOf verb nearest]
          | none => grammar.valueTips shown
        ⟨tips, .ofTaken g.taken⟩
  .misuse (.unknownArgument shown) advice

/-- Take a long option, `arguments` being those that follow it. -/
def takeLong (grammar : Grammar) (g : Gathered) (name : List Char)
    (value : Option (List Char)) (arguments : List String) : Except Stop Gathered :=
  match grammar.flagOfName? name, value with
  | some flag, none => g.takeFlag flag
  | some flag, some value =>
      .error (.misuse (.needlessValue flag (String.ofList value))
        { reminder := grammar.reminderOf g.settled flag })
  | none, value =>
      match grammar.optionOfName? name with
      | some slot => g.takeOption slot (value.map String.ofList)
      | none => .error (g.unknownLong grammar (String.ofList name) arguments)

/-- Take an argument that stands by itself: the case file, if none came yet. -/
def takeCase (grammar : Grammar) (g : Gathered) (argument : String) : Except Stop Gathered :=
  if grammar.takesCase && !g.hasCase then
    match g.settle with
    | .error stop => .error stop
    | .ok settled => .ok { settled with pending := some (.caseFile, some argument) }
  else .error (.misuse (.unknownArgument argument) {})

/-- Take the arguments after a `--`. -/
def takeValues (grammar : Grammar) (g : Gathered) : List String → Except Stop Gathered
  | [] => g.settle
  | argument :: arguments =>
      match g.takeCase grammar argument with
      | .error stop => .error stop
      | .ok taken => takeValues grammar taken arguments

/-- Take the arguments of a subcommand. -/
def take (grammar : Grammar) (g : Gathered) : List String → Except Stop Gathered
  | [] => g.settle
  | argument :: arguments =>
      match Word.of argument.toList with
      | .separator => g.takeValues grammar arguments
      | .long name value =>
          match g.takeLong grammar name value arguments with
          | .error stop => .error stop
          | .ok taken => take grammar taken arguments
      | .short letters =>
          match g.takeLetters grammar letters with
          | .error stop => .error stop
          | .ok taken => take grammar taken arguments
      | .plain =>
          if g.awaits then take grammar (g.give argument) arguments
          else
            match g.takeCase grammar argument with
            | .error stop => .error stop
            | .ok taken => take grammar taken arguments

end Gathered

/-! ### Subcommands -/

/-- The root if none is given: the working directory. -/
def defaultRoot : Path := "."

/-- The task of a subcommand, made of what was gathered. -/
def Verb.task (verb : Verb) (g : Gathered) : Except Stop Task :=
  match verb, g.held .caseFile with
  | write, some caseFile =>
      .ok (.write caseFile (g.held .base) ((g.held .root).getD defaultRoot))
  | preview, some caseFile => .ok (.preview caseFile (g.held .base))
  | fields, _ => .ok .fields
  | _, none =>
      .error (.misuse .missingCase
        { reminder := .withArguments (g.settled ++ [.slot .caseFile]) false })

/-- What comes of a stop among the arguments on a topic. -/
def Stop.request (topic : Topic) : Stop → Except Complaint Request
  | misuse m advice => .error (.mistake topic m advice)
  | asked .version => .ok .version
  | asked _ => .ok (.help topic)

/-- Read the arguments of a subcommand. -/
def readTask (verbose : Bool) (verb : Verb) (arguments : List String) :
    Except Complaint Request :=
  match Gathered.take verb.grammar {} arguments with
  | .error stop => stop.request (.verb verb)
  | .ok g =>
      match verb.task g with
      | .error stop => stop.request (.verb verb)
      | .ok task => .ok (.run (verbose || g.verbose) task)

/-- Read what help is wanted on: a subcommand, or none for the program. No subcommand
has subcommands of its own. -/
def readHelp : List String → Except Complaint Request
  | [] => .ok (.help .program)
  | name :: more =>
      match Topic.ofName? name with
      | none => .error (.mistake .program (.unknownSubcommand name) {})
      | some topic =>
          match more with
          | [] => .ok (.help topic)
          | other :: _ => .error (.mistake topic (.unknownSubcommand other) {})

/-- The complaint if no subcommand comes. -/
def lacking (verbose : Bool) : Complaint :=
  if verbose then .mistake .program .noSubcommand {} else .nothingAsked

/-- The complaint about a word where a subcommand should be. -/
def unknownSubcommand (word : String) : Complaint :=
  .mistake .program (.unknownSubcommand word) { tips := subcommandTips word }

/-- The complaint about arguments after a `--` that comes before any subcommand. -/
def stray (verbose : Bool) : List String → Complaint
  | [] => lacking verbose
  | argument :: _ =>
      if (Topic.ofName? argument).isSome then
        .mistake .program (.unknownArgument argument) { tips := [.noSeparator argument] }
      else unknownSubcommand argument

/-- Read the arguments from the beginning, or after some flags. -/
def readFrom (g : Gathered) : List String → Except Complaint Request
  | [] => .error (lacking g.verbose)
  | argument :: arguments =>
      if argument = helpName then readHelp arguments
      else
        match Verb.ofName? argument with
        | some verb => readTask g.verbose verb arguments
        | none =>
            match Word.of argument.toList with
            | .separator => .error (stray g.verbose arguments)
            | .long name value =>
                match g.takeLong .program name value arguments with
                | .error stop => stop.request .program
                | .ok taken => readFrom taken arguments
            | .short letters =>
                match g.takeLetters .program letters with
                | .error stop => stop.request .program
                | .ok taken => readFrom taken arguments
            | .plain => .error (unknownSubcommand argument)

/-- The request that the arguments of a run make. -/
def Request.read (arguments : List String) : Except Complaint Request :=
  readFrom {} arguments

end SolverDeck.Command
