import SolverDeck.Path

/-!
# Access to files

What the program asks of a file system, and how that can fail. The rest of the
program is written for any `FileAccess`: it is run on the real files, and reasoned
about on a `FileTree`. Only single steps are asked for. How missing directories are
made one inside the other is decided here (`ensureDirectory`): the innermost is tried
first, and those above it only if one is missing.
-/

namespace SolverDeck

/-- Why a file operation failed. -/
inductive FileError where
  | notFound
  | alreadyExists
  /-- A file stands where the path needs a directory. -/
  | notADirectory
  /-- A directory stands where the path needs a file. -/
  | isADirectory
  | noSpace
  /-- A name in the path, or the path itself, is too long. -/
  | nameTooLong
  | nulInPath
  | notUtf8
  /-- Another reason that the system gave, with its number. -/
  | other (reason : String) (code : Nat)
deriving DecidableEq, Repr

/-- A reason with the system's number for it. -/
def FileError.numbered (reason : String) (code : Nat) : String :=
  reason ++ " (os error " ++ toString code ++ ")"

/-- The wording of a failure. -/
def FileError.message : FileError → String
  | notFound => numbered "No such file or directory" 2
  | alreadyExists => numbered "File exists" 17
  | notADirectory => numbered "Not a directory" 20
  | isADirectory => numbered "Is a directory" 21
  | noSpace => numbered "No space left on device" 28
  | nameTooLong => numbered "File name too long" 36
  | nulInPath => "file name contained an unexpected NUL byte"
  | notUtf8 => "stream did not contain valid UTF-8"
  | other reason code => numbered reason code

/-- The longest path that the system takes, in bytes. -/
def longestPath : Nat := 4095

/-- What is wrong with the text of a path, before any file is looked at. -/
def Path.fault? (path : Path) : Option FileError :=
  if path.hasNul then some .nulInPath
  else if path.isEmpty then some .notFound
  else if longestPath < path.utf8ByteSize then some .nameTooLong
  else none

/-- The operations on files that the program uses, in a monad where they happen. -/
structure FileAccess (m : Type → Type) where
  /-- The content of a file that holds text. -/
  readText : Path → m (Except FileError String)
  /-- Make a file with the given content, or replace the content of one. -/
  writeText : Path → String → m (Except FileError Unit)
  /-- Make one directory, in a directory that exists; it may exist itself. -/
  admitDirectory : Path.Route → m (Except FileError Unit)

namespace FileAccess

/-- Make the directory to which steps lead, the steps in reverse. If that fails for
want of the directory above, that one is made first, and then this one is tried
again. -/
def ensureSteps [Monad m] (files : FileAccess m) (absolute : Bool) :
    (reversed : List Path.Step) → m (Except FileError Unit)
  | [] => return .ok ()
  | last :: above => do
      let route : Path.Route := ⟨absolute, (last :: above).reverse, false⟩
      match ← files.admitDirectory route with
      | .error .notFound =>
          match ← files.ensureSteps absolute above with
          | .ok () => files.admitDirectory route
          | .error e => return .error e
      | done => return done

/-- Make a directory and those above it, unless they are there. -/
def ensureDirectory [Monad m] (files : FileAccess m) (path : Path) :
    m (Except FileError Unit) :=
  match path.fault? with
  | some .notFound => return .ok ()
  | some e => return .error e
  | none => files.ensureSteps path.route.absolute path.route.steps.reverse

/-- Make the directories above a path. -/
def ensureAbove [Monad m] (files : FileAccess m) (path : Path) : m (Except FileError Unit) :=
  files.ensureSteps path.route.absolute (path.route.steps.reverse.drop 1)

end FileAccess

end SolverDeck
