import PageScripts.Script.Record

/-!
# Discovered scripts

A discovered script is described as it was first seen in the render queue: its source,
version, dependencies, place and strategy, size and modification time if its file is a local
one, and the time of discovery.
-/

namespace PageScripts

/-- A script as it was first seen in the render queue. -/
structure DiscoveredScript where
  handle : String
  src : String
  version : Option String := none
  deps : List String := []
  inFooter : Bool := false
  strategy : LoadStrategy := .plain
  size : Option Int := none
  mtime : Option Int := none
  found : Int := 0
  deriving DecidableEq, Repr

namespace DiscoveredScript

open Record

/-- The stored record. -/
def toRecord (script : DiscoveredScript) : Fields :=
  [ ("src", .str script.src),
    ("ver", .str (script.version.getD "")),
    ("deps", .arr (script.deps.map Json.str)),
    ("in_footer", .bool script.inFooter),
    ("strategy", .str script.strategy.word),
    ("size", numberJson script.size),
    ("mtime", numberJson script.mtime),
    ("found", .int script.found) ]

/-- Reads a record from its fields. -/
def ofFields
    (handle : String)
    (record : Fields) :
    Except Fault DiscoveredScript := do
  let size ← wholeNumber (field "size" record)
  let mtime ← wholeNumber (field "mtime" record)
  let found ← timeField "found" record
  return {
    handle
    src := textField "src" record
    version := versionField "ver" record
    deps := parseDependencies (field "deps" record)
    inFooter := flagField "in_footer" record
    strategy := .ofJson (field "strategy" record)
    size
    mtime
    found
  }

/-- Reads a stored record. -/
def ofRecord
    (handle : String)
    (record : Json) :
    Except Fault DiscoveredScript := do
  ofFields handle (← requireObject handle record)

end DiscoveredScript
end PageScripts
