import PageScripts.Rule.RuleSet
import PageScripts.Text.Case

/-!
# Rule sets in words

A rule set is described by its conditions, each as a call with its arguments, between bars,
and by its mode in capitals if it is stored.  A text among the arguments is quoted when it is
empty or holds a comma.
-/

namespace PageScripts

/-- One argument of a condition. -/
def describeScalar (value : Json) : String :=
  match value with
  | .str s => if s = "" ∨ s.toList.contains ',' then "\"" ++ s ++ "\"" else s
  | other => other.display

/-- The arguments of a condition. -/
def describeArgument (argument : Json) : String :=
  match argument with
  | .bool true => ""
  | .null => ""
  | .arr items => ", ".intercalate (items.map describeScalar)
  | other => if other.isScalar then describeScalar other else other.literal

/-- A condition as a call. -/
def describeCondition
    (key : ConditionKey)
    (argument : Json) :
    String :=
  key.display ++ "(" ++ describeArgument argument ++ ")"

namespace RuleSet

/-- The rule set in words. -/
def describe (rules : RuleSet) : String :=
  let text :=
    " | ".intercalate (rules.conditions.map fun entry => describeCondition entry.1 entry.2)
  if rules.explicitMode then
    let mode := "(Mode: " ++ Text.upper rules.mode.toJson.display ++ ")"
    if text = "" then mode else text ++ " " ++ mode
  else
    text

end RuleSet

end PageScripts
