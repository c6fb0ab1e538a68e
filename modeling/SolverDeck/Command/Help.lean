import SolverDeck.Command.Request

/-!
# Help texts

What the program says about itself and its subcommands. A page is given by its parts;
`Page.text` sets them, with the explanations of a section beginning in one column.
-/

namespace SolverDeck.Command

def programName : String := "bartdeck"

def programVersion : String := "0.1.0"

/-- The text that gives the version. -/
def versionText : String :=
  programName ++ " " ++ programVersion ++ "\n"

/-- How the command on a topic is called, without its arguments. -/
def Topic.commandName : Topic → String
  | program => programName
  | verb v => programName ++ " " ++ v.name
  | help => programName ++ " " ++ helpName

namespace Help

/-- One line of a section. -/
structure Row where
  /-- How something is written. -/
  form : String
  /-- What it does. -/
  explanation : String

/-- A section of a page. -/
structure Section where
  title : String
  rows : List Row

/-- A page of help. -/
structure Page where
  /-- What the page is about, in one line. -/
  about : String
  /-- How the program is called. -/
  usage : String
  sections : List Section

/-- A text filled up with spaces on its right. -/
def padded (width : Nat) (text : String) : String :=
  text ++ String.ofList (List.replicate (width - text.length) ' ')

/-- The text of a section. -/
def Section.text (s : Section) : String :=
  let width := (s.rows.map (·.form.length)).foldl max 0
  let lines := s.rows.map fun row =>
    "  " ++ padded width row.form ++ "  " ++ row.explanation ++ "\n"
  s.title ++ ":\n" ++ String.join lines

/-- The text of a page. -/
def Page.text (page : Page) : String :=
  page.about ++ "\n\nUsage: " ++ page.usage ++ "\n\n" ++
    "\n".intercalate (page.sections.map Section.text)

/-! ### Pages -/

def aboutVerb : Verb → String
  | .write => "Write input decks described by a JSON case file"
  | .preview => "Print the decks a case file would produce without writing them"
  | .fields => "List recognized fields with their deck labels"

/-- What the subcommand for help does. -/
def aboutHelp : String := "Print this message or the help of the given subcommand(s)"

def aboutProgram : String := "BART solver input deck generator"

def verboseRow : Row := ⟨"-v, --verbose", "Log parameter registration as well as written files"⟩

def helpRow : Row := ⟨"-h, --help", "Print help"⟩

def versionRow : Row := ⟨"-V, --version", "Print version"⟩

def baseRow : Row :=
  ⟨"    " ++ Slot.base.usage, "Deck base name (overrides \"base\" in the case file)"⟩

def rootRow : Row :=
  ⟨"    " ++ Slot.root.usage, "Directory that receives the inputs/ folder [default: .]"⟩

/-- The section on the case file. -/
def caseSection : Section :=
  ⟨"Arguments", [⟨Slot.caseFile.usage, "JSON case file listing the deck parameters"⟩]⟩

def verbRow (v : Verb) : Row := ⟨v.name, aboutVerb v⟩

/-- The page on a topic. -/
def page : Topic → Page
  | .program =>
      { about := aboutProgram
        usage := Topic.program.commandName ++ " [OPTIONS] <COMMAND>"
        sections :=
          [⟨"Commands",
            Verb.all.map verbRow ++ [⟨helpName, aboutHelp⟩]⟩,
           ⟨"Options", [verboseRow, helpRow, versionRow]⟩] }
  | .verb .write =>
      { about := aboutVerb .write
        usage := (Topic.verb .write).commandName ++ " [OPTIONS] <CASE>"
        sections := [caseSection, ⟨"Options", [baseRow, verboseRow, rootRow, helpRow]⟩] }
  | .verb .preview =>
      { about := aboutVerb .preview
        usage := (Topic.verb .preview).commandName ++ " [OPTIONS] <CASE>"
        sections := [caseSection, ⟨"Options", [baseRow, verboseRow, helpRow]⟩] }
  | .verb .fields =>
      { about := aboutVerb .fields
        usage := (Topic.verb .fields).commandName ++ " [OPTIONS]"
        sections := [⟨"Options", [verboseRow, helpRow]⟩] }
  | .help =>
      { about := aboutHelp
        usage := Topic.help.commandName ++ " [COMMAND]..."
        sections := [⟨"Arguments", [⟨"[COMMAND]...", "Print help for the subcommand(s)"⟩]⟩] }

end Help

/-- The help on a topic. -/
def Topic.helpText (topic : Topic) : String :=
  (Help.page topic).text

end SolverDeck.Command
