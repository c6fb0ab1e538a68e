import SolverDeck.Path

/-!
# Requests

What the program can be asked for, and how one asks for it: the subcommands, and for
each of them its `Grammar`, the arguments that it takes.
-/

namespace SolverDeck.Command

/-! ### What is asked for -/

/-- What the program can do. -/
inductive Verb where
  | write
  | preview
  | fields
deriving DecidableEq, Repr

def Verb.all : List Verb := [write, preview, fields]

/-- The subcommand of a verb. -/
def Verb.name : Verb → String
  | write => "write"
  | preview => "preview"
  | fields => "fields"

/-- The verb of a subcommand. -/
def Verb.ofName? (name : String) : Option Verb :=
  all.find? (·.name == name)

/-- The subcommand that gives help. -/
def helpName : String := "help"

/-- The names of all subcommands. -/
def subcommandNames : List String :=
  Verb.all.map Verb.name ++ [helpName]

/-- What a user can get help on. -/
inductive Topic where
  | program
  | verb (v : Verb)
  | help
deriving DecidableEq, Repr

/-- The topic that a subcommand is. -/
def Topic.ofName? (name : String) : Option Topic :=
  if name = helpName then some .help else (Verb.ofName? name).map .verb

/-- A command to be run. -/
inductive Task where
  /-- Write the decks of a case below a root. -/
  | write (caseFile : Path) (base : Option String) (root : Path)
  /-- Show the decks of a case. -/
  | preview (caseFile : Path) (base : Option String)
  | fields
deriving DecidableEq, Repr

/-- What the user wants. -/
inductive Request where
  /-- Run a command, with more log lines if `verbose`. -/
  | run (verbose : Bool) (task : Task)
  | help (topic : Topic)
  | version
deriving DecidableEq, Repr

/-! ### Arguments -/

/-- A thing that takes a value. -/
inductive Slot where
  /-- The case file, which is given by itself. -/
  | caseFile
  | base
  | root
deriving DecidableEq, Repr

def Slot.all : List Slot := [caseFile, base, root]

/-- The long name of an option, without its dashes. -/
def Slot.name : Slot → String
  | caseFile => "case"
  | base => "base"
  | root => "root"

def Slot.usage : Slot → String
  | caseFile => "<CASE>"
  | base => "--base <BASE>"
  | root => "--root <ROOT>"

/-- Does the slot hold a path? A path is not empty. -/
def Slot.holdsPath : Slot → Bool
  | base => false
  | _ => true

inductive Flag where
  /-- Show more log lines. -/
  | verbose
  | help
  | version
deriving DecidableEq, Repr

/-- The long name of a flag, without its dashes. -/
def Flag.name : Flag → String
  | verbose => "verbose"
  | help => "help"
  | version => "version"

def Flag.letter : Flag → Char
  | verbose => 'v'
  | help => 'h'
  | version => 'V'

def Flag.usage (flag : Flag) : String :=
  "--" ++ flag.name

/-- An argument of any kind. -/
inductive Argument where
  | slot (s : Slot)
  | flag (f : Flag)
deriving DecidableEq, Repr

namespace Argument

/-- The long name, without its dashes. -/
def name : Argument → String
  | slot s => s.name
  | flag f => f.name

def usage : Argument → String
  | slot s => s.usage
  | flag f => f.usage

/-- How an argument is shown as one of several that can be given. -/
def alternative : Argument → String
  | slot .caseFile => "CASE"
  | other => other.usage

end Argument

/-! ### What a subcommand takes -/

/-- What the arguments of a subcommand, or those before one, may hold. -/
structure Grammar where
  /-- Is there a case file? -/
  takesCase : Bool
  /-- The slots that are options. -/
  options : List Slot
  flags : List Flag
  /-- The arguments that the usage shows as alternatives when one of them was given. -/
  alternatives : List Argument
deriving DecidableEq, Repr

namespace Grammar

/-- What may stand before a subcommand. -/
def program : Grammar := ⟨false, [], [.verbose, .help, .version], [.flag .verbose]⟩

/-- What the subcommand that writes decks takes. -/
def write : Grammar :=
  ⟨true, [.base, .root], [.verbose, .help], [.slot .caseFile, .slot .base, .slot .root]⟩

/-- What the subcommand that shows decks takes. -/
def preview : Grammar :=
  ⟨true, [.base], [.verbose, .help], [.slot .caseFile, .slot .base]⟩

/-- What the subcommand that lists fields takes. -/
def fields : Grammar := ⟨false, [], [.verbose, .help], []⟩

/-- What the subcommand that gives help takes besides the names of subcommands. -/
def help : Grammar := ⟨false, [], [], []⟩

def flagOfName? (g : Grammar) (name : List Char) : Option Flag :=
  g.flags.find? fun f => f.name.toList == name

def flagOfLetter? (g : Grammar) (letter : Char) : Option Flag :=
  g.flags.find? fun f => f.letter == letter

def optionOfName? (g : Grammar) (name : List Char) : Option Slot :=
  g.options.find? fun s => s.name.toList == name

/-- The arguments that have a long name. -/
def named (g : Grammar) : List Argument :=
  g.options.map .slot ++ g.flags.map .flag

end Grammar

/-- What a subcommand takes. -/
def Verb.grammar : Verb → Grammar
  | write => .write
  | preview => .preview
  | fields => .fields

/-- What the arguments on a topic may hold. -/
def Topic.grammar : Topic → Grammar
  | program => .program
  | verb v => v.grammar
  | help => .help

end SolverDeck.Command
