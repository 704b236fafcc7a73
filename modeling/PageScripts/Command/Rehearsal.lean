import PageScripts.Command.Catalogs
import PageScripts.Command.Usage
import PageScripts.Render

/-!
# Rehearsing a render pass

A queue and a request are loaded from files and a page is rendered with them.  The catalogs are
those of a state file or those of the database; unless they are to be changed, the pass works on
a copy of them.
-/

namespace PageScripts
namespace Desk

open Table (Column Cell)

/-! ## Showing a page -/

/-- The columns of a queue. -/
def queueColumns : List Column :=
  [⟨"HANDLE", none⟩, ⟨"SRC", some 60⟩, ⟨"POS", none⟩, ⟨"STRATEGY", none⟩, ⟨"STATUS", none⟩]

/-- What a pass did about a handle in the queue. -/
def statusWord
    (report : RenderReport)
    (handle : String) :
    String :=
  if report.added.contains handle then "dodany"
  else if report.discovered.contains handle then "odkryty"
  else ""

/-- The row of a handle in the queue. -/
def queueRow
    (queue : RenderQueue)
    (report : RenderReport)
    (handle : String) :
    List Cell :=
  let script := queue.script? handle
  [ .styled handle,
    .styled ((script.map RegisteredScript.src).getD ""),
    .styled (positionWord (script.any RegisteredScript.inFooter)),
    .styled ((script.map fun script => script.strategy.word).getD ""),
    .literal (statusWord report handle) ]

/-- Prints a rendered page. -/
def printPage
    [Console]
    (queue : RenderQueue)
    (report : RenderReport)
    (persist : Bool) :
    DeskAction Unit := do
  printLiteral ""
  printTable queueColumns (queue.queued.map (queueRow queue report))
  report.removed.forM fun handle => print ("  [red]usunięty:[/red] " ++ handle)
  print ("  [dim]" ++ toString queue.queued.length ++ " w kolejce · dodano "
    ++ toString report.added.length ++ " · usunięto " ++ toString report.removed.length
    ++ " · odkryto " ++ toString report.discovered.length
    ++ (if persist then "" else " (bez zapisu)") ++ "[/dim]\n")

/-! ## The catalogs of a state file -/

/-- The catalog that a state file means by a name. -/
def stateCatalog? (name : String) : Option CatalogName :=
  match CatalogName.ofOption? name with
  | some catalog => some catalog
  | none => CatalogName.ofLabel? name

/-- The options that the members of a state file describe. -/
def stateOptions : Fields → Except Fault (List (String × Json))
  | [] => .ok []
  | (name, value) :: rest =>
      match stateCatalog? name with
      | none => .error (.unknownCatalog (.str name))
      | some catalog => do
          return (catalog.option, value) :: (← stateOptions rest)

/-- A session in memory on the catalogs of a state file. -/
def stateSession
    [Console]
    (world : World)
    (name : String) :
    DeskAction Session := do
  match ← readJson world "pliku stanu" name with
  | .obj fields => do
      let options ← settle "pliku stanu" (fun _ => true) (stateOptions fields)
      return { options := Listing.ofEntries options }
  | _ => fail "pliku stanu" "oczekiwano obiektu JSON"

/-- Writes the catalogs of a session into a state file. -/
def writeState
    (world : World)
    (name : String)
    (session : Session) :
    DeskAction Unit := do
  let contents ← expect ((Catalog.contents CatalogName.label).run session).1
  writeFile world name (Json.obj contents).indented

/-! ## Rehearsing -/

/-- What is rendered, and with what. -/
structure Rehearsal where
  queue : RenderQueue
  request : Request
  discover : Bool

/-- Renders the page of a rehearsal in a session. -/
def Rehearsal.render
    (rehearsal : Rehearsal)
    (world : World)
    (session : Session) :
    Except Fault RenderReport × Rendering :=
  let pass :=
    renderPass Vocabulary.registry world.site rehearsal.request rehearsal.discover world.now
  pass.run { queue := rehearsal.queue, session }

/-- Renders the page of a rehearsal in the session of a database, as far as its table carries the
writes out. -/
def Rehearsal.renderLive
    (rehearsal : Rehearsal)
    (world : World)
    (session : Session) :
    Except Fault RenderReport × Rendering :=
  let (result, page) := rehearsal.render world session
  let (result, session) := Session.guard world.refuses session (result, page.session)
  (result, { page with session })

/-- Loads what is to be rendered. -/
def loadRehearsal
    [Console]
    (world : World)
    (queue context : Wording)
    (discover : Bool) :
    DeskAction Rehearsal := do
  match ← readJson world "pliku kolejki" (← requireWord queue) with
  | .arr items => do
      let queue ← settleInput (RenderQueue.ofItems (.arr items))
      let request ← settleInput (world.request (← requireWord context))
      return { queue, request, discover }
  | _ => fail "pliku kolejki" "oczekiwano listy"

/-- Renders with the catalogs of a state file. -/
def rehearseState
    [Console]
    (world : World)
    (rehearsal : Rehearsal)
    (state : String)
    (persist : Bool) :
    DeskAction Unit := do
  let session ← stateSession world state
  let (result, page) := rehearsal.render world session
  let report ← settleCatalog result
  if persist then
    writeState world state page.session
  printPage page.queue report persist

/-- Renders with the catalogs of the database and changes them. -/
def rehearseInPlace
    [Console]
    (world : World)
    (rehearsal : Rehearsal) :
    DeskAction Unit := do
  connect world
  let (report, queue) ← closing do
    let session := ((← get).connection.map Connection.session).getD {}
    let (result, page) := rehearsal.renderLive world session
    modify (withConnection fun connection => { connection with session := page.session })
    return (← settleCatalog result, page.queue)
  printPage queue report true

/-- Renders with a copy of the catalogs of the database. -/
def rehearseCopy
    [Console]
    (world : World)
    (rehearsal : Rehearsal) :
    DeskAction Unit := do
  connect world
  let options ← expect (← inCatalogs world (Catalog.contents CatalogName.option))
  let (result, page) := rehearsal.render world { options }
  let report ← closing (settleCatalog result)
  printPage page.queue report false

/-- Renders a page, and shows its queue and what was done. -/
def simulate
    [Console]
    (world : World)
    (queue context : Wording)
    (state : Option String)
    (persist discover : Bool) :
    DeskAction Unit := do
  let rehearsal ← loadRehearsal world queue context discover
  match state with
  | some state => rehearseState world rehearsal state persist
  | none =>
      if persist then rehearseInPlace world rehearsal else rehearseCopy world rehearsal

end Desk
end PageScripts
