import SolverDeck.Command.Help
import SolverDeck.Text.Terminal

/-!
# Complaints

What the program says about a wrong use: what is wrong, tips on what may have been
meant, how the command is used, and where to find more. Of what the user wrote only
the visible part is quoted, so that it cannot act on the user's terminal.
-/

namespace SolverDeck.Command

/-- A wrong use of the program. -/
inductive Misuse where
  | noSubcommand
  | unknownSubcommand (name : String)
  /-- An argument that nothing takes. -/
  | unknownArgument (shown : String)
  | missingCase
  /-- A slot got no value, or an empty one that it cannot take. -/
  | missingValue (slot : Slot)
  | needlessValue (flag : Flag) (value : String)
  /-- A slot or flag stands twice, as it is shown here. -/
  | repeated (usage : String)
deriving DecidableEq, Repr

/-- A guess at what was meant. -/
inductive Tip where
  | subcommands (names : List String)
  | argument (a : Argument)
  | argumentOf (verb : Verb) (a : Argument)
  /-- A value, which may look like an option only after a `--`. -/
  | value (shown : String)
  /-- The subcommand of that name, which no `--` may come before. -/
  | noSeparator (name : String)
deriving DecidableEq, Repr

/-- What is told about the use of a command. -/
inductive Reminder where
  | silent
  | general
  /-- How it is used with some arguments. If `grouped`, those of its alternatives are
  shown together. -/
  | withArguments (arguments : List Argument) (grouped : Bool)
deriving DecidableEq, Repr

/-- What may help a user who made a mistake. -/
structure Advice where
  /-- Guesses at what was meant. -/
  tips : List Tip := []
  /-- What is told about the use of the command. -/
  reminder : Reminder := .general
deriving DecidableEq, Repr

/-- Why no request can be made out. -/
inductive Complaint where
  /-- There are no arguments at all. -/
  | nothingAsked
  /-- There is a mistake in the arguments on a topic. -/
  | mistake (topic : Topic) (misuse : Misuse) (advice : Advice)
deriving DecidableEq, Repr

/-! ### Wording -/

/-- A part of a text between single quotes. -/
def singleQuoted (text : String) : String :=
  "'" ++ text ++ "'"

def Misuse.wording : Misuse → String
  | noSubcommand =>
      singleQuoted programName ++ " requires a subcommand but one was not provided" ++
        "\n  [subcommands: " ++ ", ".intercalate subcommandNames ++ "]"
  | unknownSubcommand name =>
      "unrecognized subcommand " ++ singleQuoted (Terminal.visible name)
  | unknownArgument shown =>
      "unexpected argument " ++ singleQuoted (Terminal.visible shown) ++ " found"
  | missingCase =>
      "the following required arguments were not provided:\n  " ++ Slot.caseFile.usage
  | missingValue slot =>
      "a value is required for " ++ singleQuoted slot.usage ++ " but none was supplied"
  | needlessValue flag value =>
      "unexpected value " ++ singleQuoted (Terminal.visible value) ++ " for " ++
        singleQuoted flag.usage ++ " found; no more were expected"
  | repeated usage =>
      "the argument " ++ singleQuoted usage ++ " cannot be used multiple times"

def Tip.wording : Tip → String
  | subcommands [name] => "a similar subcommand exists: " ++ singleQuoted name
  | subcommands names =>
      "some similar subcommands exist: " ++ ", ".intercalate (names.map singleQuoted)
  | argument a => "a similar argument exists: " ++ singleQuoted ("--" ++ a.name)
  | argumentOf verb a => singleQuoted (verb.name ++ " --" ++ a.name) ++ " exists"
  | value shown =>
      "to pass " ++ singleQuoted (Terminal.visible shown) ++ " as a value, use " ++
        singleQuoted (Terminal.visible ("-- " ++ shown))
  | noSeparator name =>
      "subcommand " ++ singleQuoted name ++ " exists; to use it, remove the '--' before it"

def Tip.lines (tips : List Tip) : String :=
  if tips.isEmpty then ""
  else "\n" ++ String.join (tips.map fun tip => "\n  tip: " ++ tip.wording)

/-- The use of a command with some arguments: those that are options, in the order in
which they are given here, the alternatives if they are grouped, and what cannot be left
out. -/
def Topic.usageWith (topic : Topic) (arguments : List Argument) (grouped : Bool) : String :=
  let grammar := topic.grammar
  let apart := arguments.eraseDups.filter fun a =>
    a != .slot .caseFile && !(grouped && grammar.alternatives.contains a)
  topic.commandName ++ String.join (apart.map fun a => " " ++ a.usage) ++
    (if grouped then
      " <" ++ "|".intercalate (grammar.alternatives.map Argument.alternative) ++ ">"
    else if grammar.takesCase then " " ++ Slot.caseFile.usage else "") ++
    (if topic = .program then " <COMMAND>" else "")

/-- What a reminder tells about a topic. -/
def Reminder.wording (topic : Topic) : Reminder → Option String
  | silent => none
  | general => some (Help.page topic).usage
  | withArguments arguments grouped => some (topic.usageWith arguments grouped)

/-- Where more can be found on a topic. -/
def Topic.pointer : Topic → String
  | help => ""
  | _ => "\n\nFor more information, try '--help'."

/-- The text of a complaint. A user who asks for nothing gets the help on the
program. -/
def Complaint.message : Complaint → String
  | nothingAsked => Topic.program.helpText
  | mistake topic misuse advice =>
      "error: " ++ misuse.wording ++ Tip.lines advice.tips ++
        ((advice.reminder.wording topic).elim "" ("\n\nUsage: " ++ ·)) ++ topic.pointer ++ "\n"

end SolverDeck.Command
