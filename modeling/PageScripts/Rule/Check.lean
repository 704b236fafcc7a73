import PageScripts.Request
import PageScripts.Registry
import PageScripts.Rule.Normal

/-!
# Validating rule sets

Rules are checked before they are stored: the mode has to be known, and each condition needs a
name, a predicate that the registry knows, and an argument that the predicate takes.  Flaws
come in the order of the normal form, the mode's first, and no more than twenty are listed.
Contradictions and rules without conditions are warned of.
-/

namespace PageScripts

variable {m : Type → Type}
variable {γ : Type}

/-- The most flaws that a report lists. -/
def maxFlaws : Nat := 20

/-- Whether an argument is true, null, a scalar or a list of scalars. -/
def isArgumentShape : Json → Bool
  | .bool true => true
  | .null => true
  | .arr items => items.all Json.isScalar
  | other => other.isScalar

/-- The flaw of the mode, if there is one. -/
def modeFlaw? (rules : Fields) : Option Flaw :=
  match rules.value? modeKey with
  | none => none
  | some mode => if (Mode.ofJson mode).isKnown then none else some (.mode mode)

/-- The flaw of a condition, if there is one. -/
def conditionFlaw?
    (registry : Registry m γ)
    (raw : String)
    (argument : Json) :
    Option Flaw :=
  let key := ConditionKey.parse raw
  if key.predicate = "" then
    some (.emptyKey key)
  else
    match registry.resolve? key.predicate with
    | none => some (.unknownPredicate key)
    | some predicate =>
        if !isArgumentShape argument then
          some (.argumentShape key argument.kind)
        else if (predicate.positional? argument).isNone then
          let limit := if predicate.arity = .variadic then predicate.maxArgs else 1
          some (.arity key predicate.arity limit argument)
        else
          none

/-- Goes on with the conditions until the list of flaws is full; says whether a condition was
left out. -/
def collectFlaws
    (registry : Registry m γ)
    (flaws : List Flaw) :
    List (String × Json) → List Flaw × Bool
  | [] => (flaws, false)
  | (raw, argument) :: rest =>
      if maxFlaws ≤ flaws.length then
        (flaws, true)
      else
        collectFlaws registry (flaws ++ (conditionFlaw? registry raw argument).toList) rest

/-- The conditions of a wire object. -/
def wireConditions (rules : Fields) : List (String × Json) :=
  rules.filter fun entry => entry.1 != modeKey

/-- The predicates that occur both plain and negated, in the order of their names. -/
def contradictions (rules : Fields) : List String :=
  let keys := (wireConditions rules).map fun entry => ConditionKey.parse entry.1
  let negated := (keys.filter (·.negated)).map (·.predicate)
  sortTexts (negated.eraseDups.filter fun name => keys.contains ⟨name, false⟩)

/-- The report on a wire object. -/
def checkFields
    (registry : Registry m γ)
    (fields : Fields) :
    Report :=
  let rules := normalRules fields
  let conditions := wireConditions rules
  let (flaws, truncated) := collectFlaws registry (modeFlaw? rules).toList conditions
  let warnings :=
    (if truncated then [.truncated maxFlaws] else [])
      ++ (contradictions rules).map Warning.contradiction
      ++ (if conditions.isEmpty then [.noConditions] else [])
  { flaws, warnings, normalized := some rules }

/-- The report on a payload that should be a rule set. -/
def checkRules
    (registry : Registry m γ)
    (payload : Json) :
    Report :=
  match payload with
  | .obj fields => checkFields registry fields
  | other => { flaws := [.rulesNotObject other.kind] }

end PageScripts
