import PageScripts.Catalog.Name
import PageScripts.Command.Arguments
import PageScripts.Predicate
import PageScripts.Rule.Purpose
import PageScripts.Script.Strategy

/-!
# The commands

What an operator can ask for, and how it is written on the command line.
-/

namespace PageScripts

/-- What an argument says: a word, or nothing where it stands without one. -/
abbrev Wording := Option String

/-- What an argument says as a value. -/
def Wording.value : Wording → Json
  | some word => .str word
  | none => .arr []

/-- The data of a manual script that are given on the command line. -/
structure ManualData where
  src : Option Wording := none
  version : Option Wording := none
  deps : Option Wording := none
  strategy : Option Wording := none
  inFooter : Option Bool := none
  deriving DecidableEq, Repr

/-- The fields that are given. -/
def ManualData.fields (data : ManualData) : Fields :=
  let field (name : String) (wording : Option Wording) : Fields :=
    (wording.map fun wording => (name, wording.value)).toList
  field "src" data.src ++ field "ver" data.version ++ field "deps" data.deps
    ++ field "strategy" data.strategy
    ++ (data.inFooter.map fun b => ("in_footer", Json.bool b)).toList

/-- Whether an address is given. -/
def ManualData.hasSource (data : ManualData) : Bool :=
  data.src.any fun wording => wording.value.truth

/-- The script whose rules a command is about.  Either part may stand without a word. -/
structure RuleTarget where
  catalog : Option CatalogName
  handle : Wording
  deriving DecidableEq, Repr

/-- What an operator asks for. -/
inductive Command
  | scripts (catalog : CatalogName) (inFooter : Option Bool)
  | dequeue (handles : List String)
  | restore (handles : List String)
  | forget (handles : List String)
  | reset (catalogs : List CatalogName)
  | showRules (target : RuleTarget)
  | setRules (target : RuleTarget) (text : Option Wording) (file : Option String)
  | clearRules (target : RuleTarget)
  | addManual (handle : Wording) (data : ManualData)
  | updateManual (handle : Wording) (data : ManualData)
  | removeManual (handles : List String)
  | evaluate (context : Wording) (rules : Option String) (purpose : Option Purpose)
      (exitCode : Bool)
  | simulate (queue context : Wording) (state : Option String) (persist discover : Bool)
  | crawl (url : String) (dryRun : Bool) (siteUrl : Option String)
  | predicates (arities : List Arity) (search : String)
  | applySchema (file : Wording)
  deriving DecidableEq, Repr

namespace Command

/-! ## Grammars -/

/-- The option that asks for help. -/
def helpOption : OptionSpec :=
  { key := "help", names := ["-h", "--help"], kind := .stop .help }

/-- A grammar in which one can ask for help. -/
def grammar
    (options : List OptionSpec)
    (operands : List Operand) :
    Grammar :=
  { options := helpOption :: options, operands }

/-- A flag. -/
def flag
    (key : String)
    (names : List String) :
    OptionSpec :=
  { key, names, kind := .flag }

/-- An option with a value. -/
def option
    (key : String)
    (names : List String) :
    OptionSpec :=
  { key, names, kind := .value }

/-- An option with a value, which has to be there. -/
def requiredOption
    (key : String)
    (names : List String) :
    OptionSpec :=
  { key, names, kind := .value, required := true }

/-- An option with one of some values. -/
def choice
    (key : String)
    (names choices : List String) :
    OptionSpec :=
  { key, names, kind := .value, choices }

/-- The handles of scripts. -/
def handlesOperand : Operand :=
  { key := "handles", kind := .many }

/-- The labels of some catalogs. -/
def labels (catalogs : List CatalogName) : List String :=
  catalogs.map CatalogName.label

/-- The catalogs with rules. -/
def ruledCatalogs : List CatalogName :=
  [.removed, .manual]

/-- The options of the command that edits manual scripts. -/
def manualOptions : List OptionSpec :=
  [ option "src" ["--src"], option "ver" ["--ver"], option "deps" ["--deps"],
    choice "strategy" ["--strategy"] (LoadStrategy.all.map LoadStrategy.word),
    { key := "footer", names := ["--footer"], kind := .flag, rivals := ["header"] },
    { key := "header", names := ["--header"], kind := .flag, rivals := ["footer"] } ]

/-- The grammar of each command, under its name. -/
def grammars : Listing String Grammar :=
  [ ("scripts", grammar [choice "pos" ["--pos"] ["header", "footer"]]
      [{ key := "catalog", kind := .optional CatalogName.discovered.label,
         choices := labels CatalogName.all }]),
    ("dequeue", grammar [] [handlesOperand]),
    ("restore", grammar [] [handlesOperand]),
    ("forget", grammar [] [handlesOperand]),
    ("reset", grammar []
      [{ key := "target", kind := .one, choices := labels CatalogName.all ++ ["all"] }]),
    ("rules", grammar [option "json" ["--json"], option "file" ["--file", "-f"]]
      [ { key := "action", kind := .one, choices := ["show", "set", "clear"] },
        { key := "catalog", kind := .one, choices := labels ruledCatalogs },
        { key := "handle", kind := .one } ]),
    ("manual", grammar manualOptions
      [ { key := "action", kind := .one, choices := ["add", "update", "remove"] },
        handlesOperand ]),
    ("evaluate", grammar
      [ option "rules" ["--rules", "-r"], requiredOption "context" ["--context", "-c"],
        choice "default" ["--default"] (Purpose.all.map Purpose.word),
        flag "exit-code" ["--exit-code"] ]
      []),
    ("simulate", grammar
      [ requiredOption "queue" ["--queue", "-q"], requiredOption "context" ["--context", "-c"],
        option "state" ["--state", "-s"], flag "persist" ["--persist"],
        flag "no-discover" ["--no-discover"] ]
      []),
    ("crawl", grammar [flag "dry-run" ["--dry-run"], option "site-url" ["--site-url"]]
      [{ key := "url", kind := .one }]),
    ("predicates", grammar
      [ { key := "arity", names := ["--arity", "-a"], kind := .values,
          choices := Arity.all.map Arity.word },
        option "search" ["--search", "-s"] ]
      []),
    ("apply-schema", grammar [option "schema" ["--schema"]] []) ]

/-- The grammar of the program itself. -/
def mainGrammar : Grammar :=
  grammar
    [ { key := "version", names := ["--version"], kind := .stop .version },
      flag "verbose" ["--verbose", "-v"] ]
    [{ key := "command", kind := .command, choices := grammars.keys }]

/-! ## From values to commands -/

/-- What is given under a key. -/
def wording?
    (values : Values)
    (key : String) :
    Option Wording :=
  (values.value? key).map List.head?

/-- The word given under a key. -/
def word?
    (values : Values)
    (key : String) :
    Wording :=
  (wording? values key).getD none

/-- The word given under a key, the empty text counting as none. -/
def filled?
    (values : Values)
    (key : String) :
    Option String :=
  (word? values key).filter (· != "")

/-- The word given under a key, or the empty text. -/
def word
    (values : Values)
    (key : String) :
    String :=
  (word? values key).getD ""

/-- The catalog given under a key. -/
def catalogOf?
    (values : Values)
    (key : String) :
    Option CatalogName :=
  (word? values key).bind CatalogName.ofLabel?

/-- The data of a manual script. -/
def manualDataOf (values : Values) : ManualData :=
  { src := wording? values "src"
    version := wording? values "ver"
    deps := wording? values "deps"
    strategy := wording? values "strategy"
    inFooter :=
      if values.has "footer" then some true
      else if values.has "header" then some false
      else none }

/-- Where the schema is, unless another file is named. -/
def defaultSchema : String := "db/schema.sql"

/-- What rules are for, if that is not said in a word. -/
def purposeOf (values : Values) : Option Purpose :=
  match wording? values "default" with
  | none => some .removal
  | some wording => wording.bind Purpose.ofWord?

/-- The command of a name, with the values given for it. -/
def ofValues
    (name : String)
    (values : Values) :
    Except Stop Command :=
  let handles := (values.value? "handles").getD []
  let target : RuleTarget :=
    { catalog := catalogOf? values "catalog", handle := word? values "handle" }
  match name, word values "action" with
  | "scripts", _ =>
      .ok (.scripts (target.catalog.getD .discovered) ((word? values "pos").map (· == "footer")))
  | "dequeue", _ => .ok (.dequeue handles)
  | "restore", _ => .ok (.restore handles)
  | "forget", _ => .ok (.forget handles)
  | "reset", _ =>
      .ok (.reset
        (match CatalogName.ofLabel? (word values "target") with
          | some catalog => [catalog]
          | none => CatalogName.all))
  | "rules", "show" => .ok (.showRules target)
  | "rules", "set" =>
      .ok (.setRules target (wording? values "json") (filled? values "file"))
  | "rules", _ => .ok (.clearRules target)
  | "manual", "add" => .ok (.addManual handles.head? (manualDataOf values))
  | "manual", "update" => .ok (.updateManual handles.head? (manualDataOf values))
  | "manual", _ => .ok (.removeManual handles)
  | "evaluate", _ =>
      .ok (.evaluate (word? values "context") (filled? values "rules") (purposeOf values)
        (values.has "exit-code"))
  | "simulate", _ =>
      .ok (.simulate (word? values "queue") (word? values "context") (filled? values "state")
        (values.has "persist") (!values.has "no-discover"))
  | "crawl", _ => .ok (.crawl (word values "url") (values.has "dry-run") (filled? values "site-url"))
  | "predicates", _ =>
      .ok (.predicates (((values.value? "arity").getD []).filterMap Arity.ofWord?)
        (word values "search"))
  | "apply-schema", _ => .ok (.applySchema ((wording? values "schema").getD (some defaultSchema)))
  | _, _ => .error .usage

/-- Reads a command line. -/
def parse (arguments : List String) : Except Stop Command := do
  let (values, extras) ← readArguments mainGrammar arguments
  match (values.value? "command").getD [] with
  | [] => throw .usage
  | name :: rest =>
      let (values, more) ← readArguments ((grammars.value? name).getD {}) rest
      if extras.isEmpty && more.isEmpty then
        ofValues name values
      else
        throw .usage

end Command
end PageScripts
