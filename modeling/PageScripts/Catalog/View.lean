import PageScripts.Catalog.Store
import PageScripts.Script.Discovered
import PageScripts.Script.Managed

/-!
# Reading and writing catalogs

A catalog is an object with a record for each handle.  A missing option, null and an empty
list mean an empty catalog; anything else that is no object is a corrupt catalog.  A single
record that is no object is passed over with a notice, so that it does not block the others.
-/

namespace PageScripts
namespace Catalog

/-- The records that the value of an option means. -/
def recordsOf
    (name : CatalogName)
    (value : Json) :
    Except Fault Fields :=
  match value with
  | .null => .ok []
  | .arr [] => .ok []
  | .obj records => .ok records
  | other => .error (.corruptCatalog name other.kind)

/-- The records of a catalog, whatever they hold. -/
def raw (name : CatalogName) : Action Fields := do
  recordsOf name (← Store.read name.option .null)

/-- The records that are objects. -/
def soundRecords (records : Fields) : Listing String Fields :=
  records.filterMap fun entry => entry.2.fields?.map fun fields => (entry.1, fields)

/-- The notices on the records that are no objects. -/
def damageNotices
    (name : CatalogName)
    (records : Fields) :
    List Notice :=
  (records.filter fun entry => entry.2.fields?.isNone).map fun entry =>
    .damagedRecord name entry.1 entry.2.kind

/-- The records of a catalog that are objects. -/
def records (name : CatalogName) : Action (Listing String Fields) := do
  let all ← raw name
  (damageNotices name all).forM Store.notify
  return soundRecords all

/-- Replaces the records of a catalog. -/
def write
    (name : CatalogName)
    (records : Fields) :
    Action Unit :=
  Store.write name.option (.obj records)

/-- Leaves a catalog out of the store. -/
def drop (name : CatalogName) : Action Unit :=
  Store.delete name.option

/-- The discovered scripts. -/
def discovered : Action (Listing String DiscoveredScript) := do
  (← records .discovered).mapM fun entry => do
    return (entry.1, ← DiscoveredScript.ofFields entry.1 entry.2)

/-- The scripts of a managed catalog. -/
def managed (catalog : ManagedCatalog) : Action (Listing String ManagedScript) := do
  (← records catalog.name).mapM fun entry => do
    return (entry.1, ← ManagedScript.ofFields entry.1 catalog entry.2)

/-- The scripts of a catalog that has to be a managed one. -/
def managedOf (name : CatalogName) : Action (Listing String ManagedScript) :=
  match name.managed? with
  | some catalog => managed catalog
  | none => throw .unmanagedCatalog

/-- The first of some catalogs that has a handle. -/
def ownerAmong
    (handle : String) :
    List CatalogName → Action (Option CatalogName)
  | [] => return none
  | name :: rest => do
      if (← raw name).has handle then
        return some name
      else
        ownerAmong handle rest

/-- The catalog that has a handle. -/
def ownerOf (handle : String) : Action (Option CatalogName) :=
  ownerAmong handle CatalogName.all

/-- The handles of all catalogs. -/
def allHandles : Action (List String) := do
  let catalogs ← CatalogName.all.mapM raw
  return (catalogs.flatMap Listing.keys).eraseDups

/-- The records of all catalogs, each catalog under the key that it is given. -/
def contents (key : CatalogName → String) : Action Fields :=
  CatalogName.all.mapM fun name => do
    return (key name, .obj (← raw name))

end Catalog
end PageScripts
