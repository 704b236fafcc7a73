import PageScripts.Catalog.Transitions
import PageScripts.Command.Desk
import PageScripts.Figure
import PageScripts.Rule.Describe

/-!
# Commands on catalogs

Listing a catalog, moving scripts from one to another, taking scripts out, and clearing whole
catalogs.
-/

namespace PageScripts
namespace Desk

open Table (Column Cell)

/-- Where on the page a script is. -/
def positionWord (inFooter : Bool) : String :=
  if inFooter then "footer" else "header"

/-- Prints the closing line of a command that changes something. -/
def printDone [Console] : DeskAction Unit :=
  print "[dim]Gotowe.[/dim]"

/-- Takes the result of work on catalogs; a corrupt one is told to the operator. -/
def settleCatalog
    [Console]
    {α : Type}
    (result : Except Fault α) :
    DeskAction α :=
  settle "katalogu" Fault.isCorruptCatalog result

/-! ## Listing -/

/-- The columns of a catalog. -/
def scriptColumns (name : CatalogName) : List Column :=
  let start : List Column :=
    [⟨"HANDLE", none⟩, ⟨"SRC", some 60⟩, ⟨"VER", none⟩, ⟨"POS", none⟩, ⟨"STRATEGY", none⟩,
      ⟨"DEPS", some 30⟩]
  match name with
  | .discovered => start ++ [⟨"SIZE", none⟩, ⟨"MTIME", none⟩, ⟨"DATE", none⟩]
  | _ => start ++ [⟨"DATE", none⟩, ⟨"RULES", some 50⟩]

/-- A field as a text, or what stands for one that does not count as true. -/
def fieldOr
    (name missing : String)
    (record : Fields) :
    String :=
  let value := Record.field name record
  if value.truth then value.display else missing

/-- The rules of a script in a list. -/
def listedRules : Option RuleSet → String
  | none => "(brak — domyślne)"
  | some rules => if rules.describe = "" then "(puste — nigdy)" else rules.describe

/-- The cells that all catalogs show of a script. -/
def commonCells
    (handle : String)
    (record : Fields) :
    List Cell :=
  [ .styled handle,
    .styled (fieldOr "src" "" record),
    .styled (fieldOr "ver" Figure.dash record),
    .styled (positionWord (Record.flagField "in_footer" record)),
    .literal (fieldOr "strategy" LoadStrategy.plain.word record),
    .styled (", ".intercalate (parseDependencies (Record.field "deps" record))) ]

/-- The row of a script. -/
def scriptRow
    (name : CatalogName)
    (handle : String)
    (record : Fields) :
    Except Fault (List Cell) := do
  match name.managed? with
  | none =>
      let size ← Figure.size (Record.field "size" record)
      let mtime ← Figure.time (Record.field "mtime" record)
      let date ← Figure.time (Record.field "found" record)
      return commonCells handle record ++ [.styled size, .styled mtime, .styled date]
  | some catalog =>
      let date ← Figure.time (Record.field catalog.timeKey record)
      let script ← ManagedScript.ofFields handle catalog record
      return commonCells handle record ++ [.styled date, .literal (listedRules script.rules)]

/-- Lists a catalog, or the part of it in one position. -/
def listScripts
    [Console]
    (world : World)
    (name : CatalogName)
    (inFooter : Option Bool) :
    DeskAction Unit := do
  connect world
  let records ← settleCatalog (← inCatalogs world (Catalog.records name))
  disconnect
  let shown := records.filter fun entry =>
    inFooter.all (· == Record.flagField "in_footer" entry.2)
  if shown.isEmpty then
    print ("[yellow]Katalog [bold]" ++ name.label ++ "[/bold] jest pusty.[/yellow]")
  else do
    let sorted := shown.mergeSort fun a b => decide (a.1 ≤ b.1)
    let rows ← expect (sorted.mapM fun entry => scriptRow name entry.1 entry.2)
    printLiteral ""
    printTable (scriptColumns name) rows
    print ("  [dim]" ++ toString shown.length ++ " skrypt(ów) w katalogu " ++ name.label
      ++ "[/dim]\n")

/-! ## Moving and taking out -/

/-- The handles given on the command line, as a value. -/
def handleList (handles : List String) : Json :=
  .arr (handles.map Json.str)

/-- The handles that nothing was done about, each once. -/
def passedOver
    (handles done : List String) :
    List String :=
  sortTexts ((handles.filter fun handle => !done.contains handle).eraseDups)

/-- Does something about scripts, and tells of which it was done. -/
def changeScripts
    [Console]
    (world : World)
    (change : Json → Action (List String))
    (handles : List String)
    (doneText passedText : String) :
    DeskAction Unit := do
  connect world
  let done ← closing do settleCatalog (← inCatalogs world (change (handleList handles)))
  done.forM fun handle =>
    print ("[green]" ++ doneText ++ ":[/green] [bold]" ++ handle ++ "[/bold]")
  (passedOver handles done).forM fun handle =>
    print ("[yellow]" ++ passedText ++ " — pominięto:[/yellow] " ++ handle)
  printDone

/-- Moves discovered scripts to the removed ones. -/
def dequeue
    [Console]
    (world : World)
    (handles : List String) :
    DeskAction Unit :=
  changeScripts world (Catalog.dequeue · world.now) handles
    "Przeniesiono do usuwanych" "Brak w katalogu found"

/-- Stops removing scripts. -/
def restore
    [Console]
    (world : World)
    (handles : List String) :
    DeskAction Unit :=
  changeScripts world Catalog.restore handles
    "Przywrócono" "Brak w katalogu dequeued"

/-- Forgets discovered scripts. -/
def forget
    [Console]
    (world : World)
    (handles : List String) :
    DeskAction Unit := do
  connect world
  let gone ← closing do
    settleCatalog (← inCatalogs world (Catalog.forget (handleList handles)))
  print ("[green]Usunięto " ++ toString gone.length ++ " wpis(ów) z [bold]found[/bold][/green]")
  printDone

/-! ## Clearing -/

/-- Clears one catalog.  Whatever goes wrong is told, the printing included. -/
def clearCatalog
    [Console]
    (world : World)
    (name : CatalogName) :
    DeskAction Unit := do
  settle "czyszczenia" (fun _ => true) (← inCatalogs world (Catalog.drop name))
  printOrFail "czyszczenia" (fun _ => true) ("[green]Wyczyszczono katalog [bold]" ++ name.label ++ "[/bold] (" ++ name.option
    ++ ")[/green]")

/-- Clears catalogs. -/
def reset
    [Console]
    (world : World)
    (names : List CatalogName) :
    DeskAction Unit := do
  connect world
  closing (names.forM (clearCatalog world))
  printDone

end Desk
end PageScripts
