import PageScripts.Catalog.View
import PageScripts.Queue
import PageScripts.Request
import PageScripts.Site.Layout

/-!
# Discovering scripts

Scripts in the render queue that no catalog knows are written down as discovered.  The first
sight counts: a record that is there is never refreshed.  Only the pages of the site count, and
only when they are requested by someone who may manage it.
-/

namespace PageScripts

/-- A site: where its files are, and which there are. -/
structure Site where
  layout : SiteLayout := {}
  files : SiteFiles := .empty

namespace Catalog

/-- Writes down a discovered script, unless a catalog knows its handle; says whether it was
written down. -/
def recordIfNew
    (script : DiscoveredScript)
    (now : Int) :
    Action Bool := do
  match ← ownerOf script.handle with
  | some _ => return false
  | none => do
      let found ← raw .discovered
      let stamped := { script with found := now }
      write .discovered (found.put script.handle (.obj stamped.toRecord))
      return true

/-- A registered script as it is written down, with the metadata of its file. -/
def sighting
    (handle : String)
    (script : RegisteredScript)
    (file : Option SiteFile)
    (now : Int) :
    DiscoveredScript :=
  { handle
    src := script.src
    version := script.version
    deps := script.deps
    inFooter := script.inFooter
    strategy := script.strategy
    size := file.map SiteFile.size
    mtime := file.map SiteFile.mtime
    found := now }

/-- Adds the unknown ones of some queued scripts to the discovered ones; the handles that were
added come with the records. -/
def sightAll
    (site : Site)
    (queue : RenderQueue)
    (known : List String)
    (now : Int) :
    List String → Fields → Except Fault (Fields × List String)
  | [], found => .ok (found, [])
  | handle :: rest, found =>
      if known.contains handle || found.has handle then
        sightAll site queue known now rest found
      else
        match queue.script? handle with
        | none => sightAll site queue known now rest found
        | some script =>
            match site.layout.localFile? site.files script.src with
            | .error e => .error (.address e)
            | .ok file => do
                let record := (sighting handle script (file.map Prod.snd) now).toRecord
                let (found, added) ←
                  sightAll site queue known now rest (found.put handle (.obj record))
                return (found, handle :: added)

/-- Writes down the unknown ones of some queued scripts in one go; their handles are the
result. -/
def crawlHandles
    (site : Site)
    (queue : RenderQueue)
    (queued : List String)
    (now : Int) :
    Action (List String) := do
  let known ← allHandles
  let found ← raw .discovered
  let (found, added) ← sightAll site queue known now queued found
  if added.isEmpty then
    return []
  else do
    write .discovered found
    return added

/-- Writes down the unknown scripts of a render queue, if the request is one that counts.
Whether its maker may manage the site can be said apart from the request. -/
def crawl
    (site : Site)
    (request : Request)
    (canManage : Option Bool)
    (now : Int)
    (queue : RenderQueue) :
    Action (List String) :=
  if request.isFrontend && canManage.getD request.canManage then
    crawlHandles site queue queue.queued now
  else
    return []

end Catalog
end PageScripts
