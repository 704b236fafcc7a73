import PageScripts.Catalog.View
import PageScripts.Queue
import PageScripts.Rule.Check
import PageScripts.Script.Manual
import PageScripts.Vocabulary

/-!
# Changing catalogs

The operator moves discovered scripts to the removed ones, takes scripts out of a catalog,
adds and edits manual scripts, and sets or clears the rules of managed scripts.  Every change
reads the catalogs it needs, works the new ones out, and only then writes them; so one that
fails has written nothing.
-/

namespace PageScripts
namespace Catalog

/-- The handles in a value that lists them.  What is no text names no script. -/
def handlesIn (value : Json) : Except Fault (List String) := do
  let items ← value.elements
  match items.find? fun item => !item.isHashable with
  | some item => throw (.wrongKind item.kind)
  | none => return items.filterMap Json.text?

/-! ## Moving and taking out -/

/-- The rules that a removed script gets at first: it is removed on the pages of visitors. -/
def defaultRules : Fields :=
  [(Vocabulary.frontendName, .bool true)]

/-- The record of a discovered script when it is moved to the removed ones. -/
def movedRecord
    (now : Int)
    (record : Fields) :
    Fields :=
  (record.put ManagedCatalog.removed.timeKey (.int now)).put "rules" (.obj defaultRules)

/-- The record of a handle, if it is an object. -/
def sound?
    (records : Fields)
    (handle : String) :
    Option Fields :=
  (records.value? handle).bind Json.fields?

/-- Moves records from one catalog to another; the handles that were moved come with the two
catalogs. -/
def moveAll
    (now : Int) :
    List String → Fields → Fields → Fields × Fields × List String
  | [], found, removed => (found, removed, [])
  | handle :: rest, found, removed =>
      match sound? found handle with
      | none => moveAll now rest found removed
      | some record =>
          let (found, removed, moved) :=
            moveAll now rest (found.without handle)
              (removed.put handle (.obj (movedRecord now record)))
          (found, removed, handle :: moved)

/-- Moves discovered scripts to the removed ones; unknown handles are passed over. -/
def dequeue
    (handles : Json)
    (now : Int) :
    Action (List String) := do
  let found ← raw .discovered
  let removed ← raw .removed
  let (found, removed, moved) := moveAll now (← handlesIn handles) found removed
  if moved.isEmpty then
    return []
  else do
    write .discovered found
    write .removed removed
    return moved

/-- Takes records out of a catalog.  Null records are taken out too, but not counted among the
handles that were taken out. -/
def takeOut : List String → Fields → Fields × List String
  | [], records => (records, [])
  | handle :: rest, records =>
      match records.value? handle with
      | none => takeOut rest records
      | some record =>
          let (left, taken) := takeOut rest (records.without handle)
          (left, if record = .null then taken else handle :: taken)

/-- Takes scripts out of a catalog. -/
def deleteFrom
    (name : CatalogName)
    (handles : Json) :
    Action (List String) := do
  let all ← raw name
  let (left, taken) := takeOut (← handlesIn handles) all
  if taken.isEmpty then
    return []
  else do
    write name left
    return taken

/-- Stops removing scripts. -/
def restore (handles : Json) : Action (List String) :=
  deleteFrom .removed handles

/-- Forgets discovered scripts. -/
def forget (handles : Json) : Action (List String) :=
  deleteFrom .discovered handles

/-- Takes manual scripts out. -/
def removeManual (handles : Json) : Action (List String) :=
  deleteFrom .manual handles

/-- Forgets all discovered scripts. -/
def clearDiscovered : Action Unit :=
  drop .discovered

/-! ## Manual scripts -/

/-- The fields of a manual script that the operator may edit. -/
def manualFields : List String :=
  ["src", "ver", "deps", "in_footer", "strategy"]

/-- The editable fields of a record, in their fixed order. -/
def editable (record : Fields) : Fields :=
  manualFields.filterMap fun name => (record.value? name).map fun value => (name, value)

/-- The normal form of the data of a manual script, which have to be valid. -/
def validManual (data : Json) : Action Fields := do
  let report ← Manual.check data
  if report.isValid then
    return report.normalized.getD []
  else
    throw (.invalidData report)

/-- Refuses a handle that is taken, be it in a catalog or in the queue. -/
def requireFree
    (handle : String)
    (queue : Option RenderQueue) :
    Action Unit := do
  match ← ownerOf handle with
  | some name => throw (.duplicateHandle handle (.catalog name))
  | none =>
      if queue.any (·.has handle) then
        throw (.duplicateHandle handle .queue)
      else
        return ()

/-- Adds a manual script.  It has no rules, so it is loaded everywhere until it gets some. -/
def registerManual
    (data : Json)
    (queue : Option RenderQueue)
    (now : Int) :
    Action String := do
  let data ← validManual data
  let handle := (Record.field "handle" data).display
  requireFree handle queue
  let manual ← raw .manual
  let record := (editable data).put ManagedCatalog.manual.timeKey (.int now)
  write .manual (manual.put handle (.obj record))
  return handle

/-- The record of an edited manual script: its rules and its time of addition are kept. -/
def editedRecord
    (current data : Fields)
    (now : Int) :
    Fields :=
  let record := editable data
  let record :=
    match current.value? "rules" with
    | some rules => record.put "rules" rules
    | none => record
  let key := ManagedCatalog.manual.timeKey
  let record := record.put key ((current.value? key).getD (.int now))
  record.put "updated_on" (.int now)

/-- Edits a manual script; the record is the result. -/
def updateManual
    (handle : String)
    (fields : Fields)
    (now : Int) :
    Action Fields := do
  let unknown := fields.keys.filter fun name => !manualFields.contains name
  if !unknown.isEmpty then
    throw (.unknownFields (sortTexts unknown))
  else do
    let manual ← raw .manual
    match sound? manual handle with
    | none => throw (.unknownHandle handle .manual)
    | some current => do
        let merged := ((editable current).putAll fields).put "handle" (.str handle)
        let data ← validManual (.obj merged)
        let record := editedRecord current data now
        write .manual (manual.put handle (.obj record))
        return record

/-! ## Rules -/

/-- The managed catalog of a name. -/
def requireManaged (name : CatalogName) : Action ManagedCatalog :=
  match name.managed? with
  | some catalog => return catalog
  | none => throw .unmanagedRules

/-- The records of a catalog and, among them, the one of a handle. -/
def managedRecord
    (catalog : ManagedCatalog)
    (handle : String) :
    Action (Fields × Fields) := do
  let all ← raw catalog.name
  match sound? all handle with
  | none => throw (.unknownHandle handle catalog.name)
  | some record => return (all, record)

/-- The rules of a script. -/
def getRules
    (name : CatalogName)
    (handle : String) :
    Action (Option RuleSet) := do
  let catalog ← requireManaged name
  let (_, record) ← managedRecord catalog handle
  let script ← ManagedScript.ofFields handle catalog record
  return script.rules

/-- Sets the rules of a script, if a registry finds no flaw in them.

After the write the rules in words are put down for debugging.  That is left out: it comes to nothing
here, and can only fail at a number of more digits than a text of JSON may have. -/
def setRules
    {m : Type → Type}
    {γ : Type}
    (registry : Registry m γ)
    (name : CatalogName)
    (handle : String)
    (payload : Json) :
    Action RuleSet := do
  let catalog ← requireManaged name
  let (all, record) ← managedRecord catalog handle
  let report := checkRules registry payload
  if report.isValid then do
    let rules := RuleSet.ofFields (report.normalized.getD [])
    write catalog.name (all.put handle (.obj (record.put "rules" (.obj rules.wire))))
    return rules
  else
    throw (.invalidData report)

/-- Clears the rules of a script, so that it is treated like one that never had any. -/
def clearRules
    (name : CatalogName)
    (handle : String) :
    Action Unit := do
  let catalog ← requireManaged name
  let (all, record) ← managedRecord catalog handle
  write catalog.name (all.put handle (.obj (record.without "rules")))

end Catalog
end PageScripts
