import PageScripts.Command.RuleSets
import PageScripts.Command.Usage

/-!
# Commands on manual scripts

Adding, editing and taking out manual scripts.  A bad number in a style tag counts as one in
the data, and so does a text that the terminal cannot encode.
-/

namespace PageScripts
namespace Desk

/-- Takes the result of work on manual scripts. -/
def settleManual
    [Console]
    {α : Type}
    (result : Except Fault α) :
    DeskAction α :=
  settleChecked "skryptu" "skryptu ręcznego"
    (fun fault => fault.isUnknownHandle || fault.isBadValue) result

/-- The handle of a script, which may stand without a word. -/
def givenHandle (handle : Wording) : DeskAction String :=
  expect
    (match handle with
      | some handle => .ok handle
      | none => .error .noHandle)

/-- Tells of a change to manual scripts. -/
def printChange
    [Console]
    (text : String) :
    DeskAction Unit :=
  printOrFail "skryptu ręcznego" Fault.isBadValue text

/-- Adds a manual script; it has to have an address. -/
def addManual
    [Console]
    (world : World)
    (handle : Wording)
    (data : ManualData) :
    DeskAction Unit := do
  connect world
  closing do
    if !data.hasSource then
      fail "argumentów" "--src jest wymagane przy dodawaniu"
    else do
      let handle ← givenHandle handle
      let fields := ("handle", .str handle) :: data.fields
      let handle ← settleManual
        (← inCatalogs world (Catalog.registerManual (.obj fields) none world.now))
      printChange ("[green]Dodano skrypt ręczny:[/green] [bold]" ++ handle
        ++ "[/bold] (ładowany zawsze, dopóki nie ustawisz reguł)")
  printDone

/-- Edits a manual script. -/
def updateManual
    [Console]
    (world : World)
    (handle : Wording)
    (data : ManualData) :
    DeskAction Unit := do
  connect world
  closing do
    let handle ← givenHandle handle
    let record ← settleManual
      (← inCatalogs world (Catalog.updateManual handle data.fields world.now))
    printChange ("[green]Zaktualizowano:[/green] [bold]" ++ handle ++ "[/bold] → "
      ++ (Record.field "src" record).display)
  printDone

/-- Takes manual scripts out. -/
def removeManual
    [Console]
    (world : World)
    (handles : List String) :
    DeskAction Unit := do
  connect world
  closing do
    let gone ← settleManual (← inCatalogs world (Catalog.removeManual (handleList handles)))
    printChange ("[green]Usunięto " ++ toString gone.length ++ " skrypt(ów) ręcznych[/green]")
  printDone

end Desk
end PageScripts
