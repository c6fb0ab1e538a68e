import SolverDeck.Files.Access

/-!
# File trees

Directories and files as a value. A `FileTree` lists what exists, each entry with its
*location*: the names from the entry up to the root, innermost first. So the directory
of a location is its tail, and a location lies below another if it ends in it. The
root exists in every tree and is not listed.

* `find?` — what exists at a location: all that matters about a tree;
* `locate` — the location a path names, found by walking through directories that
  exist; the last name of the path need not exist;
* `admitDirectory`, `writeText`, `readText` — the operations of `FileAccess`; one that
  fails leaves the tree as it was.

Left out are links, special files and permissions: whatever exists can be read and
replaced by everyone. Room is left out too, so a write does not fail once it has begun;
on a full disk it could, the file being empty or cut short by then.
-/

namespace SolverDeck

/-- Where a file or directory is: the names up to the root, innermost first. -/
abbrev Location := List String

/-- What can exist at a location. -/
inductive Entry where
  /-- A directory. -/
  | directory
  /-- A file. -/
  | file (content : ByteArray)

/-- The files and directories that exist. -/
structure FileTree where
  /-- What exists, the root aside. -/
  entries : List (Location × Entry)
  /-- Where relative paths begin. -/
  workingDirectory : Location

namespace FileTree

/-- The longest name, in bytes. -/
def longestName : Nat := 255

/-! ### What exists -/

/-- What exists at a location. -/
def find? (tree : FileTree) (location : Location) : Option Entry :=
  if location = [] then some .directory
  else (tree.entries.find? fun e => e.1 == location).map (·.2)

/-- Is there a directory? -/
def isDirectory (tree : FileTree) (location : Location) : Bool :=
  match tree.find? location with
  | some .directory => true
  | _ => false

/-- Entries with one put in, in place of what was at its location. -/
def putEntry (location : Location) (entry : Entry) :
    List (Location × Entry) → List (Location × Entry)
  | [] => [(location, entry)]
  | e :: es =>
      if e.1 = location then (location, entry) :: es else e :: putEntry location entry es

/-- The tree with an entry put in. -/
def put (tree : FileTree) (location : Location) (entry : Entry) : FileTree :=
  { tree with entries := putEntry location entry tree.entries }

/-- The directories on the way down to a location, the root aside and the innermost
first. -/
def chain : Location → List (Location × Entry)
  | [] => []
  | name :: above => (name :: above, .directory) :: chain above

/-- An empty directory to work in at a location, and nothing else but the directories
it lies in. -/
def fresh (location : Location) : FileTree :=
  ⟨chain location, location⟩

/-! ### Walking -/

/-- The location one step on. The step starts in a directory; whether something
exists where it leads is not asked. -/
def step (tree : FileTree) (here : Location) : Path.Step → Except FileError Location
  | .up => if tree.isDirectory here then .ok here.tail else .error .notADirectory
  | .down name =>
      if !tree.isDirectory here then .error .notADirectory
      else if longestName < name.utf8ByteSize then .error .nameTooLong
      else .ok (name :: here)

/-- The location that steps lead to from `here`. All but the last must lead to
something that exists. -/
def walk (tree : FileTree) (here : Location) : List Path.Step → Except FileError Location
  | [] => .ok here
  | [last] => tree.step here last
  | next :: steps =>
      match tree.step here next with
      | .error e => .error e
      | .ok there => if (tree.find? there).isNone then .error .notFound else tree.walk there steps

/-- The location where a way begins. -/
def start (tree : FileTree) (route : Path.Route) : Location :=
  if route.absolute then [] else tree.workingDirectory

/-- The location that a path names. -/
def locate (tree : FileTree) (path : Path) : Except FileError Location :=
  match path.fault? with
  | some e => .error e
  | none => tree.walk (tree.start path.route) path.route.steps

/-! ### Directories -/

/-- Make one directory, in a directory that exists; it may exist itself. -/
def admitDirectory (tree : FileTree) (route : Path.Route) :
    Except FileError Unit × FileTree :=
  match tree.walk (tree.start route) route.steps with
  | .error e => (.error e, tree)
  | .ok location =>
      match tree.find? location with
      | some .directory => (.ok (), tree)
      | some (.file _) => (.error .alreadyExists, tree)
      | none => (.ok (), tree.put location .directory)

/-! ### Files -/

/-- Make a file with the given bytes, or replace those of one. -/
def writeBytes (tree : FileTree) (path : Path) (content : ByteArray) :
    Except FileError Unit × FileTree :=
  match tree.locate path with
  | .error e => (.error e, tree)
  | .ok location =>
      if path.route.directoryOnly || tree.isDirectory location then (.error .isADirectory, tree)
      else (.ok (), tree.put location (.file content))

/-- Make a file with the given text, or replace the content of one. -/
def writeText (tree : FileTree) (path : Path) (content : String) :
    Except FileError Unit × FileTree :=
  tree.writeBytes path content.toUTF8

/-- The bytes of a file. -/
def readBytes (tree : FileTree) (path : Path) : Except FileError ByteArray :=
  match tree.locate path with
  | .error e => .error e
  | .ok location =>
      match tree.find? location with
      | none => .error .notFound
      | some .directory => .error .isADirectory
      | some (.file content) =>
          if path.route.directoryOnly then .error .notADirectory else .ok content

/-- The content of a file that holds text. -/
def readText (tree : FileTree) (path : Path) : Except FileError String :=
  match tree.readBytes path with
  | .error e => .error e
  | .ok content =>
      match String.fromUTF8? content with
      | some text => .ok text
      | none => .error .notUtf8

/-- Access to the files of a tree. -/
def access : FileAccess (StateM FileTree) where
  readText path := fun tree => (tree.readText path, tree)
  writeText path content := fun tree => tree.writeText path content
  admitDirectory route := fun tree => tree.admitDirectory route

/-- Make a directory and those above it, unless they are there. -/
def ensureDirectory (tree : FileTree) (path : Path) : Except FileError Unit × FileTree :=
  access.ensureDirectory path tree

/-- Make a file with the given bytes together with the directories above it. -/
def install (tree : FileTree) (path : Path) (content : ByteArray) :
    Except FileError Unit × FileTree :=
  match access.ensureAbove path tree with
  | (.ok (), grown) => grown.writeBytes path content
  | failed => failed

/-! ### Listing -/

/-- The names from `above` down to a location, outermost first, if it is below. -/
def namesBelow? (above location : Location) : Option (List String) :=
  if location.length ≤ above.length then none
  else if location.drop (location.length - above.length) = above then
    some (location.take (location.length - above.length)).reverse
  else none

/-- A line of a listing: the path of an entry below the working directory, which ends
in a separator for a directory, and the content of a file. -/
def listed? (tree : FileTree) (entry : Location × Entry) : Option (Path × Option ByteArray) :=
  (namesBelow? tree.workingDirectory entry.1).map fun names =>
    let path := "/".intercalate names
    match entry.2 with
    | .directory => (path ++ "/", none)
    | .file content => (path, some content)

/-- All that exists below the working directory, ordered by path. -/
def listing (tree : FileTree) : List (Path × Option ByteArray) :=
  (tree.entries.filterMap tree.listed?).mergeSort fun a b => a.1 ≤ b.1

end FileTree

end SolverDeck
