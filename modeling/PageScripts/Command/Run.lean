import PageScripts.Command.Evaluation
import PageScripts.Command.ManualScripts
import PageScripts.Command.Rehearsal
import PageScripts.Command.Visit

/-!
# Carrying out commands

`Command.outcome` reads a command line and carries the command out: how it ended, and the desk
after it.  Arguments that are wrong end it with status two before it begins.
-/

namespace PageScripts
namespace Desk

/-- Carries out the statements that set the database up, at once and outside a transaction. -/
def executeSchema (statements : String) : DeskAction (Except Fault Unit) := do
  modify (withConnection fun connection =>
    { connection with
      immediate := true
      statements := connection.statements ++ [statements] })
  let broken := (← get).connection.any fun connection =>
    connection.session.medium == .brokenTable
  return if broken then .error .statement else .ok ()

/-- Sets the database up by the statements in a file. -/
def applySchema
    [Console]
    (world : World)
    (file : Wording) :
    DeskAction Unit := do
  let file ← requireWord file
  let statements ← settle "odczytu schematu" Fault.isFileError (world.text file)
  connect world
  closing do settle "wykonania schematu" (fun _ => true) (← executeSchema statements)
  print ("[green]Schemat zastosowany:[/green] " ++ (FilePath.ofText file).text)

end Desk

namespace Command

/-- The steps of a command. -/
def steps
    [Console]
    (world : World) :
    Command → DeskAction Unit
  | scripts catalog inFooter => Desk.listScripts world catalog inFooter
  | dequeue handles => Desk.dequeue world handles
  | restore handles => Desk.restore world handles
  | forget handles => Desk.forget world handles
  | reset catalogs => Desk.reset world catalogs
  | showRules target => Desk.showRules world target
  | setRules target text file => Desk.setRules world target text file
  | clearRules target => Desk.clearRules world target
  | addManual handle data => Desk.addManual world handle data
  | updateManual handle data => Desk.updateManual world handle data
  | removeManual handles => Desk.removeManual world handles
  | evaluate context rules purpose exitCode =>
      Desk.evaluate world context rules purpose exitCode
  | simulate queue context state persist discover =>
      Desk.simulate world queue context state persist discover
  | crawl url trial siteUrl => Desk.crawl world url trial siteUrl
  | predicates arities search => Desk.listPredicates arities search
  | applySchema file => Desk.applySchema world file

/-- The files that a command reads. -/
def inputFiles : Command → List String
  | setRules _ _ file => file.toList
  | evaluate context rules _ _ => context.toList ++ rules.toList
  | simulate queue context state _ _ => queue.toList ++ context.toList ++ state.toList
  | applySchema file => file.toList
  | _ => []

/-- The name and version of the program. -/
def versionText : String := "psa 0.1.0"

/-- What happens when the arguments ask for no command. -/
def Stop.steps : Stop → DeskAction Unit
  | usage => throw (.exit 2)
  | version => Desk.printLines [versionText]
  | help => Desk.printLines ("psa <komenda>" :: grammars.keys)

/-- How a command line is carried out. -/
def outcome
    [Console]
    (world : World)
    (arguments : List String) :
    Except Ending Unit × Desk :=
  let action :=
    match parse arguments with
    | .ok command => steps world command
    | .error stop => stop.steps
  action.run {}

/-- The exit status of an ending; a fault that went through has none of its own, and neither has
something that was not shown. -/
def status? : Except Ending Unit → Option Nat
  | .ok () => some 0
  | .error (.exit status) => some status
  | .error (.fault _) => none
  | .error (.unshown _ _) => none

end Command
end PageScripts
