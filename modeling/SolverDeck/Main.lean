import SolverDeck.Command.Run

/-!
# The program

Runs a command on the real files and prints its report. Nothing is decided here.
-/

namespace SolverDeck.Command

/-- The number that the system gave an error, and its words for it. -/
def systemError? : IO.Error → Option (Nat × String)
  | .otherError code details | .resourceBusy code details | .resourceVanished code details
  | .unsupportedOperation code details | .hardwareFault code details
  | .unsatisfiedConstraints code details | .illegalOperation code details
  | .protocolError code details | .timeExpired code details
  | .alreadyExists _ code details | .interrupted _ code details
  | .noFileOrDirectory _ code details | .invalidArgument _ code details
  | .permissionDenied _ code details | .resourceExhausted _ code details
  | .inappropriateType _ code details | .noSuchThing _ code details =>
      some (code.toNat, details)
  | .unexpectedEof | .userError _ => none

/-- An error of the system as the failure of a file operation. -/
def fileErrorOf (e : IO.Error) : FileError :=
  match systemError? e with
  | some (2, _) => .notFound
  | some (17, _) => .alreadyExists
  | some (20, _) => .notADirectory
  | some (21, _) => .isADirectory
  | some (28, _) => .noSpace
  | some (36, _) => .nameTooLong
  | some (code, details) => .other details code
  | none => .other (toString e) 0

/-- Run an action on a path, unless the path itself is at fault. -/
def attempt (path : Path) (action : IO α) : IO (Except FileError α) := do
  match path.fault? with
  | some e => return .error e
  | none =>
      try return .ok (← action)
      catch e => return .error (fileErrorOf e)

/-- Is there a directory? -/
def isRealDirectory (path : Path) : IO Bool := do
  try return (← (← IO.FS.realPath path).isDir)
  catch _ => return false

/-- Access to the real files. -/
def realFiles : FileAccess IO where
  readText path := do
    match ← attempt path (IO.FS.readBinFile path) with
    | .error e => return .error e
    | .ok content =>
        match String.fromUTF8? content with
        | some text => return .ok text
        | none => return .error .notUtf8
  writeText path content := attempt path (IO.FS.writeFile path content)
  admitDirectory route := do
    match ← attempt route.text (IO.FS.createDir route.text) with
    | .error .alreadyExists =>
        return if ← isRealDirectory route.text then .ok () else .error .alreadyExists
    | done => return done

/-- Print a text; gives the failure if that fails. -/
def printed (text : String) : IO (Option FileError) := do
  try
    let output ← IO.getStdout
    output.putStr text
    output.flush
    return none
  catch e => return some (fileErrorOf e)

/-- The variable that holds the user's log filter. -/
def settingName : String := "RUST_LOG"

/-- Run the program. -/
def run (arguments : List String) : IO UInt32 := do
  let setting ← IO.getEnv settingName
  let worked ← work realFiles arguments
  let broken ← printed (reportOf arguments setting none worked).output
  let report := reportOf arguments setting broken worked
  for line in report.errors do
    IO.eprintln line
  return UInt32.ofNat report.code

end SolverDeck.Command

/-- The program. -/
def main (arguments : List String) : IO UInt32 :=
  SolverDeck.Command.run arguments
