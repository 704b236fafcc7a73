import PageScripts.Command.Catalogs
import PageScripts.Command.Usage

/-!
# Commands on rules

Showing, setting and clearing the rules of a script, and the report on rules or data that are
not valid.
-/

namespace PageScripts
namespace Desk

open Table (Column Cell)

/-! ## Reports -/

/-- The columns of a report. -/
def flawColumns : List Column :=
  [⟨"KOD", none⟩, ⟨"ŚCIEŻKA", none⟩, ⟨"KOMUNIKAT", some 60⟩, ⟨"NAPRAWA", some 50⟩]

/-- The row of a flaw. -/
def flawRow (flaw : Flaw) : List Cell :=
  [.styled flaw.code, .styled flaw.path, .styled flaw.message, .styled flaw.remedy]

/-- Prints the flaws and warnings of a report. -/
def printReport
    [Console]
    (report : Report) :
    DeskAction Unit := do
  if !report.isValid then
    printTable flawColumns (report.flaws.map flawRow)
  report.warnings.forM fun warning =>
    print ("[yellow]Ostrzeżenie:[/yellow] " ++ warning.message)

/-- Takes the result of work that checks data; those that are not valid are reported, and other
faults of the expected sort are told. -/
def settleChecked
    [Console]
    {α : Type}
    (subject what : String)
    (expected : Fault → Bool)
    (result : Except Fault α) :
    DeskAction α :=
  match result with
  | .error (.invalidData report) => do
      printReport report
      fail ("walidacji " ++ subject) (toString report.flaws.length ++ " błąd(ów)")
  | other => settle what expected other

/-! ## Rules -/

/-- Takes the result of work on rules. -/
def settleRules
    [Console]
    {α : Type}
    (result : Except Fault α) :
    DeskAction α :=
  settleChecked "reguł" "katalogu"
    (fun fault => fault.isUnknownHandle || fault.isCorruptCatalog) result

/-- Prints the rules of a script, in words and as they are stored. -/
def printRules
    [Console]
    (handle : String) :
    Option RuleSet → DeskAction Unit
  | none => print ("[bold]" ++ handle ++ "[/bold]: [dim]brak reguł — werdykt domyślny[/dim]")
  | some rules => do
      let words :=
        if rules.describe = "" then "(puste — nigdy nie pasuje)" else rules.describe
      print ("[bold]" ++ handle ++ "[/bold]: [magenta]" ++ words ++ "[/magenta]")
      printLiteral (Json.obj rules.wire).indented

/-- The catalog of a script; without a word there is none. -/
def requireCatalog (target : RuleTarget) : DeskAction CatalogName :=
  expect
    (match target.catalog with
      | some name => .ok name
      | none => .error (.unknownCatalog (.arr [])))

/-- The handle of a script.  That it stands without a word only shows once the catalog has been
read. -/
def requireHandle
    [Console]
    (world : World)
    (name : CatalogName)
    (target : RuleTarget) :
    DeskAction String :=
  match target.handle with
  | some handle => return handle
  | none => do
      let _ ← settleRules (← inCatalogs world (Catalog.raw name))
      throw (.fault (.wrongKind .arr))

/-- Shows the rules of a script. -/
def showRules
    [Console]
    (world : World)
    (target : RuleTarget) :
    DeskAction Unit := do
  let name ← requireCatalog target
  connect world
  closing do
    let handle ← requireHandle world name target
    let rules ← settleRules (← inCatalogs world (Catalog.getRules name handle))
    printRules handle rules

/-- The rules given on the command line: in a file, or else as a text. -/
def givenRules
    [Console]
    (world : World)
    (text : Option Wording)
    (file : Option String) :
    DeskAction Json :=
  match file, text with
  | some file, _ => readJson world "pliku reguł" file
  | none, none => fail "argumentów" "podaj --json lub --file"
  | none, some wording => do
      settle "JSON" Fault.isMalformedJson (Json.read (← requireWord wording))

/-- Sets the rules of a script. -/
def setRules
    [Console]
    (world : World)
    (target : RuleTarget)
    (text : Option Wording)
    (file : Option String) :
    DeskAction Unit := do
  let name ← requireCatalog target
  let payload ← givenRules world text file
  connect world
  closing do
    let handle ← requireHandle world name target
    let rules ← settleRules
      (← inCatalogs world (Catalog.setRules Vocabulary.registry name handle payload))
    print ("[green]Zapisano reguły:[/green] " ++ rules.describe)
    printReport (checkRules Vocabulary.registry payload)

/-- Clears the rules of a script. -/
def clearRules
    [Console]
    (world : World)
    (target : RuleTarget) :
    DeskAction Unit := do
  let name ← requireCatalog target
  connect world
  closing do
    let handle ← requireHandle world name target
    settleRules (← inCatalogs world (Catalog.clearRules name handle))
    print ("[green]Usunięto reguły[/green] [bold]" ++ handle ++ "[/bold] — werdykt domyślny")

end Desk
end PageScripts
