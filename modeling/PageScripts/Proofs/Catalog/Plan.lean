import PageScripts.Catalog.Transitions
import PageScripts.Proofs.Action
import PageScripts.Render

/-!
# The plans of the operations

Every operation on the catalogs follows a plan: from the shelves it works out a result and the
changes that it makes.  A plan says all that an operation does, faults included; laws about
operations are laws about plans.
-/

namespace PageScripts

open PageScripts.Action

namespace Shelves

/-- The first of some catalogs that has a handle. -/
def ownerAmong
    (shelves : Shelves)
    (handle : String) :
    List CatalogName → Except Fault (Option CatalogName)
  | [] => .ok none
  | name :: rest => do
      if (← shelves name).has handle then
        return some name
      else
        shelves.ownerAmong handle rest

/-- The catalog that has a handle. -/
def ownerOf
    (shelves : Shelves)
    (handle : String) :
    Except Fault (Option CatalogName) :=
  shelves.ownerAmong handle CatalogName.all

/-- The handles of all catalogs. -/
def allHandles (shelves : Shelves) : Except Fault (List String) := do
  let catalogs ← CatalogName.all.mapM shelves
  return (catalogs.flatMap Listing.keys).eraseDups

/-- The scripts of a managed catalog. -/
def managed
    (shelves : Shelves)
    (catalog : ManagedCatalog) :
    Except Fault (Listing String ManagedScript) := do
  let all ← shelves catalog.name
  (Catalog.soundRecords all).mapM fun entry => do
    return (entry.1, ← ManagedScript.ofFields entry.1 catalog entry.2)

end Shelves

namespace Catalog

theorem reads_ownerAmong
    (handle : String)
    (names : List CatalogName) :
    Reads (ownerAmong handle names) (fun shelves => shelves.ownerAmong handle names) := by
  induction names with
  | nil =>
      exact Reads.pure none
  | cons name rest ih =>
      exact (Reads.raw name).bind fun records => (Reads.pure (some name)).ite ih

theorem reads_ownerOf (handle : String) :
    Reads (ownerOf handle) (fun shelves => shelves.ownerOf handle) :=
  reads_ownerAmong handle CatalogName.all

theorem reads_allHandles :
    Reads allHandles (fun shelves => shelves.allHandles) :=
  (Reads.mapM Reads.raw CatalogName.all).bind fun catalogs =>
    Reads.pure (catalogs.flatMap Listing.keys).eraseDups

theorem reads_records (name : CatalogName) :
    Reads (records name) (fun shelves => shelves name >>= fun all => .ok (soundRecords all)) :=
  (Reads.raw name).bind fun all =>
    (Reads.notifyAll _).bind fun _ => Reads.pure (soundRecords all)

/-- The records of a catalog that are objects are read one by one. -/
theorem reads_scripts
    {α : Type}
    (name : CatalogName)
    (read : String → Fields → Except Fault α) :
    Reads
      (do
        (← records name).mapM fun entry => do
          return (entry.1, ← read entry.1 entry.2))
      (fun shelves => do
        let all ← shelves name
        (soundRecords all).mapM fun entry => do
          return (entry.1, ← read entry.1 entry.2)) := by
  have hscripts (sound : Listing String Fields) := Reads.mapM
    (fun entry : String × Fields =>
      (Reads.lift (read entry.1 entry.2)).bind fun script =>
        Reads.pure (entry.1, script)) sound
  intro session
  obtain ⟨reads, notices, hreads, hrun⟩ := ((reads_records name).bind hscripts) session
  refine ⟨reads, notices, hreads, hrun.trans ?_⟩
  dsimp only
  cases session.shelves name <;> rfl

theorem reads_managed (catalog : ManagedCatalog) :
    Reads (managed catalog) (fun shelves => shelves.managed catalog) :=
  reads_scripts catalog.name fun handle => ManagedScript.ofFields handle catalog

/-! ## Discovery -/

/-- The plan of `recordIfNew`. -/
def recordIfNewPlan
    (script : DiscoveredScript)
    (now : Int)
    (shelves : Shelves) :
    Except Fault (Outcome Bool) := do
  match ← shelves.ownerOf script.handle with
  | some _ => return (false, [])
  | none => do
      let found ← shelves .discovered
      let record := Json.obj { script with found := now }.toRecord
      return (true, [.replace .discovered (found.put script.handle record)])

theorem follows_recordIfNew
    (script : DiscoveredScript)
    (now : Int) :
    Follows (recordIfNew script now) (recordIfNewPlan script now) := by
  refine (reads_ownerOf script.handle).bind_follows fun owner => ?_
  cases owner with
  | some name =>
      exact (Writes.pure false).follows
  | none =>
      refine (Reads.raw .discovered).bind_follows fun found => ?_
      exact ((Writes.pure true).write_bind .discovered _).follows

/-- The plan of `crawlHandles`. -/
def crawlHandlesPlan
    (site : Site)
    (queue : RenderQueue)
    (queued : List String)
    (now : Int)
    (shelves : Shelves) :
    Except Fault (Outcome (List String)) := do
  let known ← shelves.allHandles
  let found ← shelves .discovered
  let (found, added) ← sightAll site queue known now queued found
  if added.isEmpty then
    return ([], [])
  else
    return (added, [.replace .discovered found])

theorem follows_crawlHandles
    (site : Site)
    (queue : RenderQueue)
    (queued : List String)
    (now : Int) :
    Follows (crawlHandles site queue queued now) (crawlHandlesPlan site queue queued now) := by
  refine reads_allHandles.bind_follows fun known => ?_
  refine (Reads.raw .discovered).bind_follows fun found => ?_
  refine (Reads.lift (sightAll site queue known now queued found)).bind_follows fun sighted => ?_
  obtain ⟨found, added⟩ := sighted
  exact (Writes.pure []).follows.ite ((Writes.pure added).write_bind .discovered found).follows

/-- The plan of `crawl`. -/
def crawlPlan
    (site : Site)
    (request : Request)
    (canManage : Option Bool)
    (now : Int)
    (queue : RenderQueue)
    (shelves : Shelves) :
    Except Fault (Outcome (List String)) :=
  if request.isFrontend && canManage.getD request.canManage then
    crawlHandlesPlan site queue queue.queued now shelves
  else
    return ([], [])

theorem follows_crawl
    (site : Site)
    (request : Request)
    (canManage : Option Bool)
    (now : Int)
    (queue : RenderQueue) :
    Follows (crawl site request canManage now queue)
      (crawlPlan site request canManage now queue) :=
  (follows_crawlHandles site queue queue.queued now).ite (Writes.pure []).follows

/-! ## Moving and taking out -/

/-- The plan of `dequeue`. -/
def dequeuePlan
    (handles : Json)
    (now : Int)
    (shelves : Shelves) :
    Except Fault (Outcome (List String)) := do
  let found ← shelves .discovered
  let removed ← shelves .removed
  let (found, removed, moved) := moveAll now (← handlesIn handles) found removed
  if moved.isEmpty then
    return ([], [])
  else
    return (moved, [.replace .discovered found, .replace .removed removed])

theorem follows_dequeue
    (handles : Json)
    (now : Int) :
    Follows (dequeue handles now) (dequeuePlan handles now) := by
  refine (Reads.raw .discovered).bind_follows fun found => ?_
  refine (Reads.raw .removed).bind_follows fun removed => ?_
  refine (Reads.lift (handlesIn handles)).bind_follows fun named => ?_
  obtain ⟨left, grown, moved⟩ := moveAll now named found removed
  exact (Writes.pure []).follows.ite
    (((Writes.pure moved).write_bind .removed grown).write_bind .discovered left).follows

/-- The plan of `deleteFrom`. -/
def deletePlan
    (name : CatalogName)
    (handles : Json)
    (shelves : Shelves) :
    Except Fault (Outcome (List String)) := do
  let all ← shelves name
  let (left, taken) := takeOut (← handlesIn handles) all
  if taken.isEmpty then
    return ([], [])
  else
    return (taken, [.replace name left])

theorem follows_deleteFrom
    (name : CatalogName)
    (handles : Json) :
    Follows (deleteFrom name handles) (deletePlan name handles) := by
  refine (Reads.raw name).bind_follows fun all => ?_
  refine (Reads.lift (handlesIn handles)).bind_follows fun named => ?_
  obtain ⟨left, taken⟩ := takeOut named all
  exact (Writes.pure []).follows.ite ((Writes.pure taken).write_bind name left).follows

theorem follows_clearDiscovered :
    Follows clearDiscovered (fun _ => .ok ((), [.drop .discovered])) :=
  (Writes.drop .discovered).follows

/-! ## Manual scripts -/

/-- The normal form of valid data. -/
def validForm (data : Json) : Except Fault Fields := do
  let report ← Manual.check data
  if report.isValid then
    return report.normalized.getD []
  else
    throw (.invalidData report)

theorem reads_validManual (data : Json) :
    Reads (validManual data) (fun _ => validForm data) :=
  (Reads.lift (Manual.check data)).bind fun report =>
    (Reads.pure (report.normalized.getD [])).ite (Reads.throw (.invalidData report))

/-- The view of `requireFree`. -/
def freeView
    (handle : String)
    (queue : Option RenderQueue)
    (shelves : Shelves) :
    Except Fault Unit := do
  match ← shelves.ownerOf handle with
  | some name => throw (.duplicateHandle handle (.catalog name))
  | none =>
      if queue.any (·.has handle) then
        throw (.duplicateHandle handle .queue)
      else
        return ()

theorem reads_requireFree
    (handle : String)
    (queue : Option RenderQueue) :
    Reads (requireFree handle queue) (freeView handle queue) := by
  refine (reads_ownerOf handle).bind fun owner => ?_
  cases owner with
  | some name =>
      exact Reads.throw _
  | none =>
      exact (Reads.throw _).ite (Reads.pure ())

/-- The record of a manual script that is added. -/
def addedRecord
    (data : Fields)
    (now : Int) :
    Fields :=
  (editable data).put ManagedCatalog.manual.timeKey (.int now)

/-- The plan of `registerManual`. -/
def registerManualPlan
    (data : Json)
    (queue : Option RenderQueue)
    (now : Int)
    (shelves : Shelves) :
    Except Fault (Outcome String) := do
  let data ← validForm data
  let handle := (Record.field "handle" data).display
  freeView handle queue shelves
  let manual ← shelves .manual
  return (handle, [.replace .manual (manual.put handle (.obj (addedRecord data now)))])

theorem follows_registerManual
    (data : Json)
    (queue : Option RenderQueue)
    (now : Int) :
    Follows (registerManual data queue now) (registerManualPlan data queue now) := by
  refine (reads_validManual data).bind_follows fun data => ?_
  refine (reads_requireFree _ queue).bind_follows fun _ => ?_
  refine (Reads.raw .manual).bind_follows fun manual => ?_
  exact ((Writes.pure _).write_bind .manual _).follows

/-- The plan of `updateManual`. -/
def updateManualPlan
    (handle : String)
    (fields : Fields)
    (now : Int)
    (shelves : Shelves) :
    Except Fault (Outcome Fields) :=
  let unknown := fields.keys.filter fun name => !manualFields.contains name
  if !unknown.isEmpty then
    throw (.unknownFields (sortTexts unknown))
  else do
    let manual ← shelves .manual
    match sound? manual handle with
    | none => throw (.unknownHandle handle .manual)
    | some current => do
        let merged := ((editable current).putAll fields).put "handle" (.str handle)
        let data ← validForm (.obj merged)
        let record := editedRecord current data now
        return (record, [.replace .manual (manual.put handle (.obj record))])

theorem follows_updateManual
    (handle : String)
    (fields : Fields)
    (now : Int) :
    Follows (updateManual handle fields now) (updateManualPlan handle fields now) := by
  refine Follows.ite ((Reads.throw _).follows) ?_
  refine (Reads.raw .manual).bind_follows fun manual => ?_
  cases sound? manual handle with
  | none =>
      exact (Reads.throw _).follows
  | some current =>
      refine (reads_validManual _).bind_follows fun data => ?_
      exact ((Writes.pure _).write_bind .manual _).follows

/-! ## Rules -/

/-- The view of `managedRecord`. -/
def managedRecordView
    (catalog : ManagedCatalog)
    (handle : String)
    (shelves : Shelves) :
    Except Fault (Fields × Fields) := do
  let all ← shelves catalog.name
  match sound? all handle with
  | none => throw (.unknownHandle handle catalog.name)
  | some record => return (all, record)

theorem reads_managedRecord
    (catalog : ManagedCatalog)
    (handle : String) :
    Reads (managedRecord catalog handle) (managedRecordView catalog handle) := by
  refine (Reads.raw catalog.name).bind fun all => ?_
  cases sound? all handle with
  | none =>
      exact Reads.throw _
  | some record =>
      exact Reads.pure (all, record)

/-- The managed catalog of a name. -/
def managedName (name : CatalogName) : Except Fault ManagedCatalog :=
  match name.managed? with
  | some catalog => return catalog
  | none => throw .unmanagedRules

theorem reads_requireManaged (name : CatalogName) :
    Reads (requireManaged name) (fun _ => managedName name) := by
  unfold requireManaged managedName
  cases name.managed? with
  | none =>
      exact Reads.throw _
  | some catalog =>
      exact Reads.pure catalog

/-- The plan of `setRules`. -/
def setRulesPlan
    {m : Type → Type}
    {γ : Type}
    (registry : Registry m γ)
    (name : CatalogName)
    (handle : String)
    (payload : Json)
    (shelves : Shelves) :
    Except Fault (Outcome RuleSet) := do
  let catalog ← managedName name
  let (all, record) ← managedRecordView catalog handle shelves
  let report := checkRules registry payload
  if report.isValid then
    let rules := RuleSet.ofFields (report.normalized.getD [])
    let ruled := record.put "rules" (.obj rules.wire)
    return (rules, [.replace catalog.name (all.put handle (.obj ruled))])
  else
    throw (.invalidData report)

theorem follows_setRules
    {m : Type → Type}
    {γ : Type}
    (registry : Registry m γ)
    (name : CatalogName)
    (handle : String)
    (payload : Json) :
    Follows (setRules registry name handle payload)
      (setRulesPlan registry name handle payload) := by
  refine (reads_requireManaged name).bind_follows fun catalog => ?_
  refine (reads_managedRecord catalog handle).bind_follows fun found => ?_
  exact ((Writes.pure _).write_bind catalog.name _).follows.ite (Reads.throw _).follows

/-- The plan of `clearRules`. -/
def clearRulesPlan
    (name : CatalogName)
    (handle : String)
    (shelves : Shelves) :
    Except Fault (Outcome Unit) := do
  let catalog ← managedName name
  let (all, record) ← managedRecordView catalog handle shelves
  return ((), [.replace catalog.name (all.put handle (.obj (record.without "rules")))])

theorem follows_clearRules
    (name : CatalogName)
    (handle : String) :
    Follows (clearRules name handle) (clearRulesPlan name handle) := by
  refine (reads_requireManaged name).bind_follows fun catalog => ?_
  refine (reads_managedRecord catalog handle).bind_follows fun found => ?_
  exact (Writes.write catalog.name _).follows

end Catalog
end PageScripts
