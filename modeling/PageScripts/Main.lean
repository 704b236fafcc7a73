import PageScripts.Command.Run
import PageScripts.Command.Terminal
import PageScripts.Markup.Reader
import Std.Time.DateTime.Timestamp

/-!
# The program

Reads the command line, the environment and the files that the command names, and carries the
command out.  The program has no driver for a database and none for the web, so connections are
refused and pages cannot be reached; what works on files works.
-/

open PageScripts

/-- The environment variables that matter. -/
def environmentNames : List String :=
  [ "PGHOST", "PGPORT", "PGDATABASE", "PGUSER", "PGPASSWORD",
    "PSA_SITE_URL", "PSA_CONTENT_URL", "PSA_CONTENT_DIR", "PSA_ABSPATH" ]

/-- The environment variables that are set. -/
def readEnvironment : IO (Listing String String) := do
  let entries ← environmentNames.mapM fun name => do
    return (← IO.getEnv name).map fun value => (name, value)
  return entries.reduceOption

/-- Why a file cannot be read. -/
def fileErrorOf : IO.Error → FileError
  | .noFileOrDirectory _ _ _ => .missing
  | .permissionDenied _ _ _ => .denied
  | .inappropriateType _ _ _ => .directory
  | error => .other 5 (toString error)

/-- The content of the file of a name. -/
def readContent (name : String) : IO (Except FileError (List UInt8)) := do
  try
    return .ok (← IO.FS.readBinFile name).toList
  catch error =>
    return .error (fileErrorOf error)

/-- What the command works with. -/
def readWorld (arguments : List String) : IO World := do
  let names :=
    match Command.parse arguments with
    | .ok command => command.inputFiles
    | .error _ => []
  let contents ← names.mapM fun name => do
    return (FilePath.ofText name, ← readContent name)
  let now ← Std.Time.Timestamp.now
  return {
    environment := ← readEnvironment
    contents := fun path => (Listing.value? path contents).getD (.error .missing)
    reader := Markup.reader
    now := now.toSecondsSinceUnixEpoch.val
  }

/-- Carries a command line out; a fault that went through ends the program with status one. -/
def main (arguments : List String) : IO UInt32 := do
  let (ending, desk) := Command.outcome (← readWorld arguments) arguments
  desk.lines.forM IO.println
  desk.written.forM fun file => IO.FS.writeFile file.path.text file.text
  match ending with
  | .error (.fault fault) => IO.eprintln fault.message
  | .error (.unshown _ why) => IO.eprintln why.fault.message
  | _ => pure ()
  return UInt32.ofNat ((Command.status? ending).getD 1)
