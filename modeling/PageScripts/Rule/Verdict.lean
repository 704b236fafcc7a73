import PageScripts.Registry
import PageScripts.Rule.RuleSet

/-!
# Verdicts

Whether the rules of a script hold for a request.  Without rules a default decides, and rules
without conditions never hold.  In mode `any` the first condition that holds settles the
verdict and unknown predicates are passed over; in mode `all` the first one that does not
hold settles it, and an unknown predicate does not hold.  No other mode ever holds.

A condition whose argument the predicate does not take does not hold, negated or not.
-/

namespace PageScripts

variable {m : Type → Type} [Monad m]
variable {γ : Type}

/-- Asks one condition. -/
def Predicate.condition
    (predicate : Predicate m γ)
    (negated : Bool)
    (argument : Json)
    (context : γ) :
    m Bool :=
  match predicate.positional? argument with
  | none => pure false
  | some arguments => do
      let result ← predicate.ask context arguments
      pure (result != negated)

/-- Asks one after another until one condition holds. -/
def anyHolds
    (registry : Registry m γ)
    (context : γ) :
    List (ConditionKey × Json) → m Bool
  | [] => pure false
  | (key, argument) :: rest =>
      match registry.resolve? key.predicate with
      | none => anyHolds registry context rest
      | some predicate => do
          let result ← predicate.condition key.negated argument context
          if result then
            pure true
          else
            anyHolds registry context rest

/-- Asks one after another until one condition does not hold. -/
def allHold
    (registry : Registry m γ)
    (context : γ) :
    List (ConditionKey × Json) → m Bool
  | [] => pure true
  | (key, argument) :: rest =>
      match registry.resolve? key.predicate with
      | none => pure false
      | some predicate => do
          let result ← predicate.condition key.negated argument context
          if result then
            allHold registry context rest
          else
            pure false

/-- The verdict of rules, or of none, on a request. -/
def verdict
    (registry : Registry m γ)
    (absent : γ → Bool)
    (context : γ) :
    Option RuleSet → m Bool
  | none => pure (absent context)
  | some rules =>
      if rules.isEmpty then
        pure false
      else
        match rules.mode with
        | .any => anyHolds registry context rules.conditions
        | .all => allHold registry context rules.conditions
        | .other _ => pure false

/-- The result of every condition, one by one; nothing where the predicate is unknown. -/
def conditionResults
    (registry : Registry m γ)
    (context : γ)
    (rules : RuleSet) :
    List (ConditionKey × Option (m Bool)) :=
  rules.conditions.map fun entry =>
    (entry.1, (registry.resolve? entry.1.predicate).map fun predicate =>
      predicate.condition entry.1.negated entry.2 context)

end PageScripts
