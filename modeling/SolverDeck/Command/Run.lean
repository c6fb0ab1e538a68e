import SolverDeck.Case.Reading
import SolverDeck.Command.Arguments
import SolverDeck.Log.Filter.Reading
import SolverDeck.Writing

/-!
# Running commands

A run of the program is made in two parts. First the command does its work on the
files and comes to an `Ending`, collecting the events it raises. Then `Ending.report`
says what is printed, which lines go to the error output, and with which code the run
exits. The filter for log lines and the state of the output enter only there, so that
neither can change the work.

Several sweeps are not a fault but a way to end: the event that reports them is all
the user sees.

Printing is *guarded* where a failing output is reported like any other fault. Else it
breaks the run off.

Two things are taken for granted. Arguments are texts; one that is no Unicode does not
get here. And the error output takes every line, only the output itself may fail.
-/

namespace SolverDeck.Command

/-! ### Endings -/

/-- Why a run fails. -/
inductive Failure where
  /-- The program was used in a wrong way. -/
  | misuse (complaint : Complaint)
  /-- The work could not be done. -/
  | fault (f : Fault)
  /-- The output could not be written. -/
  | output (error : FileError)
deriving DecidableEq, Repr

/-- The report on a failure. -/
def Failure.diagnostic : Failure → Diagnostic
  | misuse complaint => ⟨.inputValidation, "INPUT.CLI_USAGE", complaint.message⟩
  | fault f => f.diagnostic
  | output error => ⟨.ioSystem, "IO.CLI", "failed to write to stdout: " ++ error.message⟩

/-- What becomes of a run whose output fails. -/
inductive Printing where
  /-- It fails. -/
  | guarded
  /-- It breaks off. -/
  | bare
deriving DecidableEq, Repr

/-- How the work of a run ends. -/
inductive Ending where
  /-- It is done, and a text is to be printed. -/
  | printed (text : String) (printing : Printing)
  /-- There are several sweeps. -/
  | rejected
  /-- It failed. -/
  | failed (failure : Failure)
deriving DecidableEq, Repr

/-- The work of a run: how it ended, and the events it raised. -/
structure Worked where
  /-- The events, in order. -/
  events : List Log.Event
  /-- How it ended. -/
  ending : Ending

/-! ### Cases -/

/-- The base for the names of the decks: the given one, or else that of the case. It
must have a character that is no blank. -/
def baseOf (given : Option String) (c : Case) : Except Fault String :=
  match given.or c.base with
  | none => .error .noBase
  | some base => if Text.isBlankText base then .error .noBase else .ok base

/-- What is read before any deck is made: the base, the store, and the events of
filling it. -/
def prepare (given : Option String) (c : Case) :
    List Log.Event × Except Fault (String × Store) :=
  match baseOf given c with
  | .error fault => ([], .error fault)
  | .ok base => (c.events, c.toStore.map fun store => (base, store))

/-! ### Commands -/

/-- What is printed about decks that were written. -/
def writtenText (paths : List Path) : String :=
  "Wrote " ++ toString paths.length ++ " deck file(s):\n" ++
    String.join (paths.map fun path => "  " ++ path ++ "\n")

/-- How writing ends. -/
def writtenEnding : Except Fault Outcome → Ending
  | .error fault => .failed (.fault fault)
  | .ok (.rejected _) => .rejected
  | .ok outcome => .printed (writtenText outcome.paths) .bare

/-- Write the decks of a case below a root. -/
def runWrite [Monad m] (files : FileAccess m) (caseFile : Path) (given : Option String)
    (root : Path) : m Worked := do
  match ← Case.load files caseFile with
  | .error fault => return ⟨[], .failed (.fault fault)⟩
  | .ok c =>
      match prepare given c with
      | (events, .error fault) => return ⟨events, .failed (.fault fault)⟩
      | (events, .ok (base, store)) =>
          let written ← store.write files root base
          return ⟨events ++ written.events, writtenEnding written.result⟩

/-- What is printed of decks that are shown. -/
def shownText (decks : List Deck) : String :=
  String.join (decks.map fun deck => "# " ++ deck.path ++ "\n" ++ deck.content)

/-- How showing a plan ends, and what event it raises. -/
def shown : Plan → Worked
  | .rejected labels => ⟨[.severalSweeps .commands labels], .rejected⟩
  | plan => ⟨[], .printed (shownText plan.decks) .guarded⟩

/-- Show the decks of a case. -/
def runPreview [Monad m] (files : FileAccess m) (caseFile : Path)
    (given : Option String) : m Worked := do
  match ← Case.load files caseFile with
  | .error fault => return ⟨[], .failed (.fault fault)⟩
  | .ok c =>
      match prepare given c with
      | (events, .error fault) => return ⟨events, .failed (.fault fault)⟩
      | (events, .ok (base, store)) =>
          let shown := shown (store.plan base)
          return ⟨events ++ shown.events, shown.ending⟩

/-- The width of the column of group names. -/
def groupWidth : Nat := 18

/-- The width of the column of keys: that of the longest. -/
def keyWidth : Nat :=
  (Field.all.map (·.key.length)).foldl max 0

/-- The line that lists a field. -/
def fieldLine (f : Field) : String :=
  Help.padded keyWidth f.key ++ "  " ++ Help.padded groupWidth f.group.name ++ "  " ++
    f.label ++ "\n"

/-- The list of all fields. -/
def fieldsText : String :=
  String.join (Field.all.map fieldLine)

/-- Run a command. -/
def runTask [Monad m] (files : FileAccess m) : Task → m Worked
  | .write caseFile base root => runWrite files caseFile base root
  | .preview caseFile base => runPreview files caseFile base
  | .fields => return ⟨[], .printed fieldsText .guarded⟩

/-- Do what the arguments of a run ask for. -/
def work [Monad m] (files : FileAccess m) (arguments : List String) : m Worked :=
  match Request.read arguments with
  | .error complaint => return ⟨[], .failed (.misuse complaint)⟩
  | .ok (.help topic) => return ⟨[], .printed topic.helpText .bare⟩
  | .ok .version => return ⟨[], .printed versionText .bare⟩
  | .ok (.run _ task) => runTask files task

/-- Do the arguments ask for more log lines? -/
def isVerbose (arguments : List String) : Bool :=
  match Request.read arguments with
  | .ok (.run verbose _) => verbose
  | _ => false

/-! ### Reports -/

/-- What a run shows of itself. -/
structure Report where
  /-- The exit code. -/
  code : Nat
  /-- The output. -/
  output : String
  /-- The lines of the error output. -/
  errors : List String
deriving DecidableEq, Repr

/-- The exit code of a run that was refused for its several sweeps. -/
def rejectedCode : Nat := Diagnostic.Category.exitCode .inputValidation

/-- The exit code of a run that broke off. -/
def brokenOffCode : Nat := 101

/-- What a failing run shows, after some log lines. -/
def Failure.report (log : List String) (failure : Failure) : Report :=
  ⟨failure.diagnostic.exitCode, "", log ++ failure.diagnostic.lines⟩

/-- What a run shows, after some log lines. The output may fail with `broken`; that
shows only if there is something to print. -/
def Ending.report (log : List String) (broken : Option FileError) : Ending → Report
  | failed failure => failure.report log
  | rejected => ⟨rejectedCode, "", log⟩
  | printed text printing =>
      match broken, printing with
      | none, _ => ⟨0, text, log⟩
      | some error, .guarded =>
          if text.isEmpty then ⟨0, text, log⟩ else (Failure.output error).report log
      | some error, .bare =>
          if text.isEmpty then ⟨0, text, log⟩
          else ⟨brokenOffCode, "", log ++ ["failed printing to stdout: " ++ error.message]⟩

/-- What a run shows: its log lines under a filter, and its ending. -/
def Worked.report (worked : Worked) (filter : Log.Filter) (broken : Option FileError) : Report :=
  worked.ending.report (filter.lines worked.events) broken

/-- What a run with the given arguments shows, `setting` being the user's log filter. -/
def reportOf (arguments : List String) (setting : Option String) (broken : Option FileError)
    (worked : Worked) : Report :=
  worked.report (Log.Filter.ofSetting setting (isVerbose arguments)) broken

end SolverDeck.Command
