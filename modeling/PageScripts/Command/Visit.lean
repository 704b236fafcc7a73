import PageScripts.Command.Catalogs

/-!
# Visiting a page

A page is fetched, its scripts are listed, and the unknown ones among them are written down as
discovered.
-/

namespace PageScripts
namespace Desk

open Table (Column Cell)

/-- The columns of the scripts of a page. -/
def pageColumns : List Column :=
  [⟨"HANDLE", none⟩, ⟨"SRC", some 70⟩, ⟨"VER", none⟩, ⟨"POS", none⟩, ⟨"STRATEGY", none⟩]

/-- The row of a script of a page. -/
def pageRow
    (handle : String)
    (script : RegisteredScript) :
    List Cell :=
  let version := script.version.getD ""
  [ .styled handle,
    .styled script.src,
    .styled (if version = "" then Figure.dash else version),
    .styled (positionWord script.inFooter),
    .styled script.strategy.word ]

/-- The rows of the scripts of a page. -/
def pageRows (queue : RenderQueue) : List (List Cell) :=
  queue.queued.filterMap fun handle => (queue.script? handle).map (pageRow handle)

/-- The site of a visit: an address that is given for it counts instead of those that the
environment has. -/
def visitedSite
    (world : World)
    (siteUrl : Option String) :
    Site :=
  match siteUrl with
  | none => world.site
  | some url =>
      let url := Text.trimEnd '/' url
      let contentUrl := url ++ "/" ++ SiteLayout.contentName
      { world.site with layout := { world.site.layout with siteUrl := url, contentUrl } }

/-- The request of a visit. -/
def visitRequest (url : String) : Request :=
  { canManage := true, url }

/-- Visits a page; unless it is a trial, unknown scripts are written down. -/
def crawl
    [Console]
    (world : World)
    (url : String)
    (trial : Bool)
    (siteUrl : Option String) :
    DeskAction Unit := do
  let queue ← settle "pobierania strony" Fault.isFetchError (Page.fetch world.reader world.web url)
  printLiteral ""
  printTable pageColumns (pageRows queue)
  let count := toString queue.queued.length
  if trial then
    print ("  [dim]" ++ count ++ " skrypt(ów) — bez zapisu (--dry-run)[/dim]\n")
  else do
    connect world
    let found ← closing do
      settleCatalog (← inCatalogs world
        (Catalog.crawl (visitedSite world siteUrl) (visitRequest url) none world.now queue))
    found.forM fun handle => print ("[green]Odkryto:[/green] [bold]" ++ handle ++ "[/bold]")
    print ("  [dim]" ++ toString found.length ++ " nowych z " ++ count
      ++ " skryptów na stronie[/dim]\n")

end Desk
end PageScripts
