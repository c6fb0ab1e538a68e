/-!
# Paths

A path is a text. Joining two paths is an operation on their texts and normalizes
nothing, so that users see the paths they asked for.

Which file a path names is another question. For that a path is taken apart into
*steps*: down into a named entry, or up. Empty components and `.` are no steps.
-/

namespace SolverDeck

/-- The text of a path. -/
abbrev Path := String

/-- One step on the way to a file. -/
inductive Path.Step where
  /-- Down to an entry of the directory. -/
  | down (name : String)
  /-- Up to the directory that holds this one. -/
  | up
deriving DecidableEq, Repr

/-- The way that a path describes. -/
structure Path.Route where
  /-- Does it begin at the root rather than at the working directory? -/
  absolute : Bool
  /-- The steps in order. -/
  steps : List Path.Step
  /-- Can it name a directory only? So it is with a separator or a `.` at the end. -/
  directoryOnly : Bool
deriving DecidableEq, Repr

namespace Path

/-- What separates the components of a path. -/
def separator : Char := '/'

/-- Does the path begin at the root? -/
def isAbsolute (path : Path) : Bool :=
  path.toList.head? == some separator

/-- The path seen from `root`: an absolute path stays as it is, and no second
separator is put behind one. -/
def join (root path : Path) : Path :=
  if path.isAbsolute then path
  else if root.isEmpty then path
  else if root.toList.getLast? = some separator then root ++ path
  else root ++ "/" ++ path

/-- The components of a path: what stands between separators. -/
def components : List Char → List (List Char)
  | [] => [[]]
  | c :: cs =>
      if c = separator then [] :: components cs
      else
        match components cs with
        | [] => [[c]]
        | first :: more => (c :: first) :: more

/-- The step that a component stands for, if any. -/
def stepOf? (component : List Char) : Option Step :=
  match component with
  | [] => none
  | ['.'] => none
  | ['.', '.'] => some .up
  | name => some (.down (String.ofList name))

/-- A path taken apart. -/
def route (path : Path) : Route :=
  let parts := components path.toList
  { absolute := path.isAbsolute
    steps := parts.filterMap stepOf?
    directoryOnly := (parts.getLast?.bind stepOf?).isNone }

/-- How a step is written. -/
def Step.text : Step → String
  | down name => name
  | up => ".."

/-- A path that describes a way. -/
def Route.text (route : Route) : Path :=
  let below := "/".intercalate (route.steps.map Step.text)
  if route.absolute then "/" ++ below
  else if route.steps.isEmpty then "."
  else below

/-- Does the path hold a NUL character? No system call takes such a path. -/
def hasNul (path : Path) : Bool :=
  path.toList.contains '\x00'

end Path

end SolverDeck
