import PageScripts.Fault
import PageScripts.Json.Writer

/-!
# The option store

The catalogs are kept as options, a JSON value under a name.  A store is either in memory or a
table of a database.  A session works on one store; every access that the store carries out is
noted, and so are the notices that the operator should see.  An action that fails leaves the
session as it was when the fault arose.

A table gives the value of an option back either decoded or as its JSON text, which is read
again.  As the two cannot be told apart when they come, a decoded value that is a text is read
as JSON once more.

A store keeps all that is written to it.  A table may refuse a write all the same: which ones it
refuses is not known here, and `Session.guard` says what becomes of work that meets such a write.
-/

namespace PageScripts

/-- Where the options are kept. -/
inductive Medium
  | memory
  | table
  | textTable
  | brokenTable
  deriving DecidableEq, Repr

namespace Medium

/-- Whether the options are in memory. -/
def isMemory : Medium → Bool
  | memory => true
  | _ => false

/-- The value of an option as it comes back from the store. -/
def readBack
    (medium : Medium)
    (value : Json) :
    Except Fault Json :=
  match medium, value with
  | table, .str text => Json.read text
  | _, value => .ok value

end Medium

/-- An access to a store of options. -/
inductive Access
  | select (name : String)
  | upsert (name : String) (value : Json)
  | delete (name : String)
  deriving DecidableEq

namespace Access

/-- Whether the access changes the store. -/
def isWrite : Access → Bool
  | select _ => false
  | _ => true

/-- The statement for a table, and the texts for its places. -/
def statement : Access → String × List String
  | select name => ("SELECT value FROM option WHERE name = %s", [name])
  | upsert name value =>
      ("INSERT INTO option (name, value, updated_at) VALUES (%s, %s::jsonb, now()) "
          ++ "ON CONFLICT (name) DO UPDATE SET value = EXCLUDED.value, "
          ++ "updated_at = EXCLUDED.updated_at",
        [name, value.compact])
  | delete name => ("DELETE FROM option WHERE name = %s", [name])

/-- The options after an access. -/
def apply
    (options : Listing String Json) :
    Access → Listing String Json
  | select _ => options
  | upsert name value => options.put name value
  | delete name => options.without name

end Access

/-- Why a table refuses a write: what is written cannot be encoded, or the table has its own
words for it. -/
inductive TableError
  | unencodable
  | data (words : String)
  deriving DecidableEq, Repr

/-- The fault of a write that is refused. -/
def TableError.fault : TableError → Fault
  | unencodable => .unencodable
  | data words => .refusedValue words

/-- What the operator should know although the work goes on. -/
inductive Notice
  | damagedRecord (catalog : CatalogName) (handle : String) (found : Kind)
  | blankHandle (src : String)
  | refusedSource (handle : String) (src : String)
  deriving DecidableEq, Repr

/-- The notice in words. -/
def Notice.message : Notice → String
  | damagedRecord catalog handle found =>
      "Pominięto uszkodzony rekord " ++ catalog.option ++ "/" ++ handle
        ++ " (" ++ found.name ++ ")"
  | blankHandle src => "Pominięto skrypt ręczny bez handle: " ++ Text.quote src
  | refusedSource handle src =>
      "Pominięto skrypt ręczny " ++ handle ++ ": nieprawidłowy adres " ++ Text.quote src

/-- A store at work. -/
structure Session where
  options : Listing String Json := []
  medium : Medium := .memory
  accesses : List Access := []
  notices : List Notice := []
  deriving DecidableEq

namespace Session

/-- The session after accesses to the store and notices to the operator. -/
def advance
    (session : Session)
    (accesses : List Access)
    (notices : List Notice) :
    Session :=
  { session with
    options := accesses.foldl Access.apply session.options
    accesses := session.accesses ++ accesses
    notices := session.notices ++ notices }

/-- The accesses that a table carries out, up to the first write that it refuses. -/
def carriedOut (refuses : Access → Option TableError) :
    List Access → List Access × Option TableError
  | [] => ([], none)
  | access :: rest =>
      match if access.isWrite then refuses access else none with
      | some error => ([], some error)
      | none =>
          let (more, error) := carriedOut refuses rest
          (access :: more, error)

/-- What work in a session comes to if its table refuses some writes: it ends at the first of
them, and the writes before it are kept. -/
def guard
    {α : Type}
    (refuses : Access → Option TableError)
    (before : Session)
    (work : Except Fault α × Session) :
    Except Fault α × Session :=
  match carriedOut refuses (work.2.accesses.drop before.accesses.length) with
  | (_, none) => work
  | (done, some error) =>
      (.error error.fault, before.advance done (work.2.notices.drop before.notices.length))

end Session

/-- Work in a session that may fail. -/
abbrev Action := ExceptT Fault (StateM Session)

namespace Store

/-- Notes an access; a broken table refuses it. -/
def touch (access : Access) : Action Unit := do
  let session ← get
  if session.medium = .brokenTable then
    throw .statement
  else
    set { session with accesses := session.accesses ++ [access] }

/-- Tells the operator something. -/
def notify (notice : Notice) : Action Unit :=
  modify fun session => { session with notices := session.notices ++ [notice] }

/-- The value of an option, or the given one if there is no such option. -/
def read
    (name : String)
    (missing : Json) :
    Action Json := do
  touch (.select name)
  let session ← get
  match session.options.value? name with
  | none => return missing
  | some value => session.medium.readBack value

/-- Writes the value of an option. -/
def write
    (name : String)
    (value : Json) :
    Action Unit := do
  touch (.upsert name value)
  modify fun session => { session with options := session.options.put name value }

/-- Leaves an option out. -/
def delete (name : String) : Action Unit := do
  touch (.delete name)
  modify fun session => { session with options := session.options.without name }

end Store
end PageScripts
