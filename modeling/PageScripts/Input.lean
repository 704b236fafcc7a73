import PageScripts.Request
import PageScripts.Rule.RuleSet
import PageScripts.Text.Utf8

/-!
# Input files

Input files hold JSON in UTF-8.  Lines may end in a line feed, a carriage return, or both; each
counts as one line feed.
-/

namespace PageScripts
namespace Input

/-- The text of a file. -/
def text (octets : List UInt8) : Except Fault String :=
  match Text.decodeStrict octets with
  | some cs => .ok (String.ofList (Text.unifyLineEnds cs))
  | none => .error .malformedText

/-- The JSON value in a file. -/
def value (octets : List UInt8) : Except Fault Json := do
  Json.read (← text octets)

/-- The request that a file of the given name describes. -/
def request
    (name : String) :
    Json → Except Fault Request
  | .obj fields => Request.ofFields fields
  | _ => .error (.contextNotObject name)

/-- The rules in a file; null means that there are none. -/
def rules : Json → Except Fault (Option RuleSet)
  | .null => .ok none
  | value => do
      return some (← RuleSet.ofJson value)

end Input
end PageScripts
