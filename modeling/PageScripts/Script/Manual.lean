import PageScripts.Name
import PageScripts.Rule.Report
import PageScripts.Fault
import PageScripts.Script.Strategy
import PageScripts.Text.Case
import PageScripts.Url.Address

/-!
# Manual scripts: normal form and validation

The data of a script that an operator adds by hand are trimmed and completed, and then
checked: the handle, the source address, the dependencies and the strategy, in this order,
each with at most one flaw.
-/

namespace PageScripts
namespace Manual

/-- Trims the text under a key. -/
def trimField
    (data : Fields)
    (key : String) :
    Fields :=
  match data.value? key with
  | some (.str s) => data.put key (.str (Text.trim s))
  | _ => data

/-- Writes a value under a key that is missing. -/
def withDefault
    (key : String)
    (value : Json)
    (data : Fields) :
    Fields :=
  if data.has key then data else data.put key value

/-- The strategy in lower case; an empty one is plain. -/
def normalStrategy (data : Fields) : Fields :=
  match data.value? "strategy" with
  | some (.str s) =>
      let word := Text.lower (Text.trim s)
      data.put "strategy" (.str (if word = "" then LoadStrategy.plain.word else word))
  | _ => data

/-- An empty version is none. -/
def normalVersion (data : Fields) : Fields :=
  if data.value? "ver" = some (.str "") then data.put "ver" .null else data

/-- The normal form of the data. -/
def normalFields (data : Fields) : Fields :=
  let data := ["handle", "src", "ver", "deps"].foldl trimField data
  let data := withDefault "deps" (.str "") data
  let data := withDefault "in_footer" (.bool false) data
  let data := withDefault "strategy" (.str LoadStrategy.plain.word) data
  normalVersion (normalStrategy data)

/-- The normal form of data that should be an object. -/
def normalForm : Json → Except Fault Fields
  | .obj data => .ok (normalFields data)
  | other => .error (.noMembers other.kind)

/-- Whether a value names a script. -/
def isHandleValue : Json → Bool
  | .str s => isHandle s
  | _ => false

/-- Whether a value is the full address of a page script. -/
def isSourceValue : Json → Bool
  | .str s => Url.isSourceUrl s
  | _ => false

/-- Whether a value lists dependencies: a text, or a list of texts. -/
def isDependencyValue : Json → Bool
  | .str _ => true
  | .arr items => items.all fun item => item.text?.isSome
  | _ => false

/-- Whether a value is the word for a strategy. -/
def isStrategyValue : Json → Bool
  | .str word => (LoadStrategy.ofWord? word).isSome
  | _ => false

/-- The flaws of data in normal form. -/
def flaws (data : Fields) : List Flaw :=
  let get (key : String) : Json := (data.value? key).getD .null
  (if isHandleValue (get "handle") then [] else [.handle (get "handle")])
    ++ (if isSourceValue (get "src") then [] else [.source (get "src")])
    ++ (if isDependencyValue (get "deps") then [] else [.dependencies])
    ++ (if isStrategyValue (get "strategy") then [] else [.strategy (get "strategy")])

/-- The report on the data of a manual script.  A strategy that is a list or an object cannot
be looked up at all. -/
def check : Json → Except Fault Report
  | .obj data =>
      let record := normalFields data
      let strategy := (record.value? "strategy").getD .null
      if strategy.isHashable then
        .ok { flaws := flaws record, normalized := some record }
      else
        .error (.wrongKind strategy.kind)
  | _ => .ok { flaws := [.dataNotObject] }

end Manual
end PageScripts
