import PageScripts.Fault

/-!
# Rule sets

A rule set is an ordered listing of conditions with a mode that says whether any or all of
them have to hold.  Its wire format is a JSON object: each condition under its key, and the
mode under `__mode`, which comes last and only if it was there before.

* `ofFields` and `wire` read and write the wire format.
* `withCondition` and `withoutCondition` are the two edits.
* `sameAs` compares the meaning of two rule sets, not the order of their conditions.
-/

namespace PageScripts

/-- The key of the mode in the wire format. -/
def modeKey : String := "__mode"

/-- How the conditions of a rule set are joined. -/
inductive Mode
  | any
  | all
  | other (value : Json)
  deriving DecidableEq

namespace Mode

/-- The mode that a stored value means. -/
def ofJson : Json → Mode
  | .str "any" => any
  | .str "all" => all
  | value => other value

/-- The stored value of a mode. -/
def toJson : Mode → Json
  | any => .str "any"
  | all => .str "all"
  | other value => value

/-- Whether the mode says how conditions are joined. -/
def isKnown : Mode → Bool
  | any => true
  | all => true
  | other _ => false

@[simp]
theorem toJson_ofJson (value : Json) :
    (ofJson value).toJson = value := by
  unfold ofJson
  split <;> rfl

end Mode

/-- The conditions under which something is done to one script. -/
structure RuleSet where
  conditions : Listing ConditionKey Json := []
  mode : Mode := .any
  explicitMode : Bool := true
  deriving DecidableEq

/-- What a record says about rules. -/
inductive RuleState
  | absent
  | empty
  | nonEmpty
  deriving DecidableEq, Repr

/-- The word for a rule state. -/
def RuleState.word : RuleState → String
  | absent => "absent"
  | empty => "empty"
  | nonEmpty => "non_empty"

namespace RuleSet

/-- Whether there are no conditions. -/
def isEmpty (rules : RuleSet) : Bool :=
  rules.conditions.isEmpty

/-- What a record with these rules, or without any, says. -/
def stateOf : Option RuleSet → RuleState
  | none => .absent
  | some rules => if rules.isEmpty then .empty else .nonEmpty

/-- Adds a condition; one with the same predicate and negation gets the new argument. -/
def withCondition
    (key : ConditionKey)
    (argument : Json)
    (rules : RuleSet) :
    RuleSet :=
  { rules with conditions := rules.conditions.put key argument }

/-- Leaves a condition out. -/
def withoutCondition
    (key : ConditionKey)
    (rules : RuleSet) :
    RuleSet :=
  { rules with conditions := rules.conditions.without key }

/-- The entries of a wire object that are conditions. -/
def conditionEntries (fields : Fields) : List (ConditionKey × Json) :=
  (fields.filter fun entry => entry.1 != modeKey).map fun entry =>
    (ConditionKey.parse entry.1, entry.2)

/-- Reads a wire object; without a mode, any condition will do. -/
def ofFields (fields : Fields) : RuleSet :=
  let stored := Listing.value? modeKey fields
  { conditions := Listing.ofEntries (conditionEntries fields)
    mode := (stored.map Mode.ofJson).getD .any
    explicitMode := stored.isSome }

/-- Reads the wire format. -/
def ofJson : Json → Except Fault RuleSet
  | .obj fields => .ok (ofFields fields)
  | other => .error (.rulesNotObject other.kind)

/-- The wire object. -/
def wire (rules : RuleSet) : Fields :=
  let conditions :=
    Listing.ofEntries (rules.conditions.map fun entry => (entry.1.wire, entry.2))
  if rules.explicitMode then
    conditions.put modeKey rules.mode.toJson
  else
    conditions

/-- Whether every condition on the left has an argument of the same meaning on the right. -/
def conditionsWithin
    (left right : Listing ConditionKey Json) :
    Bool :=
  left.all fun entry =>
    match right.value? entry.1 with
    | some argument => entry.2.sameAs argument
    | none => false

/-- Whether two rule sets have the same conditions in any order and the same mode. -/
def sameAs (left right : RuleSet) : Bool :=
  left.conditions.length == right.conditions.length
    && conditionsWithin left.conditions right.conditions
    && left.mode.toJson.sameAs right.mode.toJson

end RuleSet
end PageScripts
