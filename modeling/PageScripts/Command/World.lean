import PageScripts.Catalog.Discovery
import PageScripts.Input
import PageScripts.Page

/-!
# What commands work with

The environment variables, the files, the pages of the web and what reads scripts off them, the
database with the options, and the clock.  What is outside the program answers as it likes: a file
may be there and not be readable, a file may not be written, a request may fail in many ways, and
the database may refuse a write.
-/

namespace PageScripts

/-- Why a text is not saved in a file. -/
inductive SaveError
  | unencodable
  | file (what : FileError)
  deriving DecidableEq, Repr

/-- The fault of a text that is not saved under a path. -/
def SaveError.fault
    (path : FilePath) :
    SaveError → Fault
  | unencodable => .unencodable
  | file what => .file what path.text

/-- What a command works with.  Without a session the database refuses connections. -/
structure World where
  environment : Listing String String := []
  files : SiteFiles := .empty
  contents : FilePath → Except FileError (List UInt8) := fun _ => .error .missing
  saves : FilePath → String → Option SaveError := fun _ _ => none
  web : String → Except NoAnswer Page.Answer := fun _ => .error (.unreached "no route")
  reader : Page.Reader := fun _ => .ok []
  database : Option Session := none
  refuses : Access → Option TableError := fun _ => none
  now : Int := 0

namespace World

/-- The site that the environment describes, with the files. -/
def site (world : World) : Site :=
  { layout := SiteLayout.ofEnvironment world.environment, files := world.files }

/-- The content of the file of a name. -/
def octets
    (world : World)
    (name : String) :
    Except Fault (List UInt8) :=
  let path := FilePath.ofText name
  if name.toList.contains '\x00' then
    .error .nulInPath
  else
    match world.contents path with
    | .ok octets => .ok octets
    | .error what => .error (.file what path.text)

/-- The text of a file. -/
def text
    (world : World)
    (name : String) :
    Except Fault String := do
  Input.text (← world.octets name)

/-- The JSON value in a file. -/
def json
    (world : World)
    (name : String) :
    Except Fault Json := do
  Input.value (← world.octets name)

/-- The request that a file describes. -/
def request
    (world : World)
    (name : String) :
    Except Fault Request := do
  Input.request (FilePath.ofText name).name (← world.json name)

/-- The rules in a file. -/
def rules
    (world : World)
    (name : String) :
    Except Fault (Option RuleSet) := do
  Input.rules (← world.json name)

end World
end PageScripts
