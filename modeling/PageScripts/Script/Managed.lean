import PageScripts.Rule.RuleSet
import PageScripts.Script.Record

/-!
# Managed scripts

A managed script is in the catalog of removed or of manual scripts.  Besides what a page needs
to load it, its record holds its rules, if it has any, and the time at which it came into the
catalog.  All other fields are kept as they are.
-/

namespace PageScripts

/-- A script that is removed or added under rules. -/
structure ManagedScript where
  handle : String
  catalog : ManagedCatalog
  src : String
  version : Option String := none
  deps : Dependencies := .text ""
  inFooter : Bool := false
  strategy : LoadStrategy := .plain
  rules : Option RuleSet := none
  transition : Int := 0
  extra : Fields := []
  deriving DecidableEq

namespace ManagedScript

open Record

/-- The fields of a record that are not kept as they are. -/
def knownFields (catalog : ManagedCatalog) : List String :=
  ["src", "ver", "deps", "in_footer", "strategy", "rules", catalog.timeKey]

/-- The rules that a record holds.  Null and an empty list mean none; what is no object is a
rule set without conditions. -/
def rulesOf (value : Json) : Option RuleSet :=
  match value with
  | .null => none
  | .arr [] => none
  | .obj fields => some (RuleSet.ofFields fields)
  | _ => some {}

/-- The handles that the script depends on. -/
def dependencyList (script : ManagedScript) : List String :=
  script.deps.handles

/-- The stored record. -/
def toRecord (script : ManagedScript) : Fields :=
  let record :=
    script.extra.putAll
      [ ("src", .str script.src),
        ("ver", versionJson script.version),
        ("deps", script.deps.toJson),
        ("in_footer", .bool script.inFooter),
        ("strategy", .str script.strategy.word),
        (script.catalog.timeKey, .int script.transition) ]
  match script.rules with
  | some rules => record.put "rules" (.obj rules.wire)
  | none => record.without "rules"

/-- Reads a record from its fields. -/
def ofFields
    (handle : String)
    (catalog : ManagedCatalog)
    (record : Fields) :
    Except Fault ManagedScript := do
  let transition ← timeField catalog.timeKey record
  return {
    handle
    catalog
    src := textField "src" record
    version := versionField "ver" record
    deps := .ofJson ((record.value? "deps").getD (.str ""))
    inFooter := flagField "in_footer" record
    strategy := .ofJson (field "strategy" record)
    rules := rulesOf (field "rules" record)
    transition
    extra := record.filter fun entry => !(knownFields catalog).contains entry.1
  }

/-- Reads a stored record. -/
def ofRecord
    (handle : String)
    (record : Json)
    (catalog : ManagedCatalog) :
    Except Fault ManagedScript := do
  ofFields handle catalog (← requireObject handle record)

/-- Reads a stored record of a catalog that has to be a managed one. -/
def ofNamed
    (handle : String)
    (record : Json)
    (name : CatalogName) :
    Except Fault ManagedScript := do
  let fields ← requireObject handle record
  match name.managed? with
  | some catalog => ofFields handle catalog fields
  | none => throw (.missingMember name.option)

end ManagedScript
end PageScripts
