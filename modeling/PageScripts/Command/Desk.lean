import PageScripts.Command.Console
import PageScripts.Command.Database
import PageScripts.Command.World

/-!
# The desk

A command prints lines, connects to the database at most once, and may write a file.  The desk
keeps what it has done so far.  A command may end before its last step: with an exit status
after it has told why, with a fault that nobody has dealt with, or because the console does not
show what it was handed.

* `Desk.settle` decides which faults are told to the operator and which go through.
* `Desk.closing` closes the connection however a step ends.
-/

namespace PageScripts

/-- A connection to the database. -/
structure Connection where
  session : Session
  closed : Bool := false
  immediate : Bool := false
  statements : List String := []
  deriving DecidableEq

/-- A file that was written: by its parts, with its text. -/
structure WrittenFile where
  path : FilePath
  text : String
  deriving DecidableEq, Repr

/-- What a command has done so far. -/
structure Desk where
  lines : List String := []
  connection : Option Connection := none
  written : List WrittenFile := []
  deriving DecidableEq

/-- How a command ends before its last step. -/
inductive Ending
  | exit (status : Nat)
  | fault (fault : Fault)
  | unshown (shown : Shown) (why : Unshown)
  deriving DecidableEq

/-- A step of a command. -/
abbrev DeskAction := ExceptT Ending (StateM Desk)

namespace Desk

variable {α : Type}

/-! ## Printing -/

/-- Prints lines as they are. -/
def printLines (lines : List String) : DeskAction Unit :=
  modify fun desk => { desk with lines := desk.lines ++ lines }

/-- Lets the fault of a result through. -/
def expect (result : Except Fault α) : DeskAction α :=
  match result with
  | .ok value => return value
  | .error fault => throw (.fault fault)

/-- The word that is given; without one there is nothing to work with. -/
def requireWord (word : Option String) : DeskAction String :=
  expect
    (match word with
      | some word => .ok word
      | none => .error (.wrongKind .arr))

section Printing

variable [Console]

/-- Hands something to the console. -/
def display (shown : Shown) : DeskAction Unit :=
  match Console.render shown with
  | .ok lines => printLines lines
  | .error why => throw (.unshown shown why)

/-- Prints styled text. -/
def print (text : String) : DeskAction Unit :=
  display (.styled text)

/-- Prints text as it is. -/
def printLiteral (text : String) : DeskAction Unit :=
  display (.literal text)

/-- Prints a table. -/
def printTable
    (columns : List Table.Column)
    (rows : List (List Table.Cell)) :
    DeskAction Unit :=
  display (.table columns rows)

/-- Tells what went wrong, and ends the command. -/
def fail
    (what text : String) :
    DeskAction α := do
  print ("[red]Błąd " ++ what ++ ":[/red] " ++ text)
  throw (.exit 1)

/-- Prints styled text where faults of the expected sort are told to the operator: if it is not
shown and the fault of that is such, the operator is told. -/
def printOrFail
    (what : String)
    (expected : Fault → Bool)
    (text : String) :
    DeskAction Unit :=
  match Console.render (.styled text) with
  | .ok lines => printLines lines
  | .error why =>
      if expected why.fault then
        fail what why.fault.message
      else
        throw (.unshown (.styled text) why)

/-- Takes the value of a result.  A fault of the expected sort is told to the operator; any
other goes through. -/
def settle
    (what : String)
    (expected : Fault → Bool)
    (result : Except Fault α) :
    DeskAction α :=
  match result with
  | .ok value => return value
  | .error fault => if expected fault then fail what fault.message else throw (.fault fault)

end Printing

/-! ## The database -/

/-- Opens a connection to the database. -/
def connect
    [Console]
    (world : World) :
    DeskAction Unit := do
  let session := do
    let _ ← Database.ofEnvironment world.environment
    match world.database with
    | some session => .ok session
    | none => .error .connection
  let session ← settle "połączenia z bazą" (fun _ => true) session
  modify fun desk => { desk with connection := some { session } }

/-- The desk with its connection changed. -/
def withConnection
    (change : Connection → Connection)
    (desk : Desk) :
    Desk :=
  { desk with connection := desk.connection.map change }

/-- Closes the connection. -/
def disconnect : DeskAction Unit :=
  modify (withConnection fun connection => { connection with closed := true })

/-- A step after which the connection is closed, however the step ends. -/
def closing (step : DeskAction α) : DeskAction α :=
  ExceptT.mk do
    let result ← step.run
    modify (withConnection fun connection => { connection with closed := true })
    return result

/-- Works in the session of the connection, as far as the table carries it out. -/
def inCatalogs
    (world : World)
    (action : Action α) :
    DeskAction (Except Fault α) := do
  match (← get).connection with
  | none => return .error .connection
  | some connection =>
      let (result, session) :=
        Session.guard world.refuses connection.session (action.run connection.session)
      modify (withConnection fun connection => { connection with session })
      return result

/-! ## Files -/

section Input

variable [Console]

/-- The JSON value in a file that has to be there. -/
def readJson
    (world : World)
    (what name : String) :
    DeskAction Json := do
  let path := FilePath.ofText name
  match world.octets name with
  | .error fault =>
      if fault.isAbsence then
        fail what ("brak pliku " ++ path.text)
      else
        throw (.fault fault)
  | .ok octets =>
      match Input.value octets with
      | .ok value => return value
      | .error fault =>
          if fault.isMalformedJson then
            fail what (path.name ++ ": " ++ fault.message)
          else
            throw (.fault fault)

/-- Takes what was loaded from a file; the file may be missing or hold something else. -/
def settleInput (result : Except Fault α) : DeskAction α :=
  settle "wczytywania" (fun fault => fault.isFileError || fault.isBadValue) result

end Input

/-- Writes a file. -/
def writeFile
    (world : World)
    (name text : String) :
    DeskAction Unit := do
  let path := FilePath.ofText name
  match world.saves path text with
  | some error => throw (.fault (error.fault path))
  | none => modify fun desk => { desk with written := desk.written ++ [{ path, text }] }

end Desk
end PageScripts
