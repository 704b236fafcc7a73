import PageScripts.Command.Catalogs
import PageScripts.Command.Usage
import PageScripts.Rule.Purpose

/-!
# Commands without a catalog

The verdict of rules on a request that a file describes, and the list of predicates.
-/

namespace PageScripts
namespace Desk

open Table (Column Cell)

/-! ## Verdicts -/

/-- The columns of the conditions. -/
def conditionColumns : List Column :=
  [⟨"WARUNEK", none⟩, ⟨"ARGUMENT", none⟩, ⟨"WYNIK", none⟩]

/-- The result of a condition in words. -/
def resultWord : Option Bool → String
  | none => "nieznany"
  | some true => "PRAWDA"
  | some false => "FAŁSZ"

/-- The rows of the conditions, each with its own result. -/
def conditionRows
    (request : Request)
    (rules : RuleSet) :
    List (List Cell) :=
  let results := conditionResults Vocabulary.registry request rules
  (rules.conditions.zip results).map fun (condition, result) =>
    [ .styled condition.1.display,
      .styled condition.2.compact,
      .literal (resultWord (result.2.map Id.run)) ]

/-- Prints rules and, one by one, their conditions. -/
def printConditions
    [Console]
    (purpose : String)
    (request : Request) :
    Option RuleSet → DeskAction Unit
  | none => print ("Reguły: [dim]brak — werdykt domyślny (" ++ purpose ++ ")[/dim]")
  | some rules => do
      let words := if rules.describe = "" then "(puste)" else rules.describe
      print ("Reguły: [magenta]" ++ words ++ "[/magenta]")
      if !rules.isEmpty then
        printTable conditionColumns (conditionRows request rules)

/-- What rules are for, as it was given. -/
def purposeText (purpose : Option Purpose) : String :=
  (Wording.value (purpose.map Purpose.word)).display

/-- Prints the verdict of rules on a request; rules of which it is not said what they are for add
scripts.  If the exit status is wanted, it tells of a verdict against. -/
def evaluate
    [Console]
    (world : World)
    (context : Wording)
    (rules : Option String)
    (purpose : Option Purpose)
    (exitCode : Bool) :
    DeskAction Unit := do
  let request ← settleInput (world.request (← requireWord context))
  let rules ← match rules with
    | some file => settleInput (world.rules file)
    | none => pure none
  let holds := (purpose.getD .addition).verdict Vocabulary.registry rules request
  printConditions (purposeText purpose) request rules
  print
    (if holds then "Werdykt: [green bold]PASUJE[/green bold]"
      else "Werdykt: [red bold]NIE PASUJE[/red bold]")
  if exitCode && !holds then
    throw (.exit 2)

/-! ## Predicates -/

/-- The columns of the predicates. -/
def predicateColumns : List Column :=
  [⟨"PRED", none⟩, ⟨"ARITY", none⟩, ⟨"MAX", none⟩, ⟨"ARGUMENT", none⟩, ⟨"MEANING", some 50⟩]

/-- Arguments that a predicate of an arity takes. -/
def exampleArguments : Arity → String
  | .nullary => "true"
  | .unary => "true | \"post\""
  | .variadic => "true | \"x\" | [\"a\", \"b\"]"

/-- The row of a predicate. -/
def predicateRow (word : Vocabulary.Word) : List Cell :=
  [ .styled word.name,
    .literal word.arity.word,
    .styled (if word.arity = .nullary then "-" else toString word.maxArgs),
    .styled (exampleArguments word.arity),
    .styled (word.meaning.getD "") ]

/-- Whether a text is in another one. -/
def occursIn (needle : List Char) : List Char → Bool
  | [] => needle.isEmpty
  | c :: cs => needle.isPrefixOf (c :: cs) || occursIn needle cs

/-- Whether a text is in the name or the meaning of a predicate, regardless of capitals. -/
def mentions
    (needle : String)
    (word : Vocabulary.Word) :
    Bool :=
  let needle := (Text.lower needle).toList
  occursIn needle (Text.lower word.name).toList
    || occursIn needle (Text.lower (word.meaning.getD "")).toList

/-- Whether a predicate is listed before another one: those without arguments first, and then
by their names. -/
def listedBefore (a b : Vocabulary.Word) : Bool :=
  let takes (word : Vocabulary.Word) : Bool := word.arity != .nullary
  if takes a == takes b then decide (a.name ≤ b.name) else takes b

/-- Lists the predicates of some arities that mention a text. -/
def listPredicates
    [Console]
    (arities : List Arity)
    (search : String) :
    DeskAction Unit := do
  let found := Vocabulary.words.filter fun word =>
    (arities.isEmpty || arities.contains word.arity) && mentions search word
  if found.isEmpty then
    print "[yellow]Brak predykatów spełniających kryteria.[/yellow]"
  else do
    printLiteral ""
    printTable predicateColumns ((found.mergeSort listedBefore).map predicateRow)
    print ("  [dim]" ++ toString found.length
      ++ " predykat(ów) · negacja: klucz \"__neg:<nazwa>\"[/dim]\n")

end Desk
end PageScripts
