import PageScripts.Fault
import PageScripts.Name

/-!
# The registry of predicates

A registry binds names to predicates.  Names follow the grammar of predicate names and are
bound once; a frozen registry takes no more predicates.  A refused registration leaves the
registry as it was.
-/

namespace PageScripts

variable {m : Type → Type}
variable {γ : Type}

/-- Predicates under their names, in the order of registration. -/
structure Registry (m : Type → Type) (γ : Type) where
  entries : Listing String (Predicate m γ) := []
  frozen : Bool := false

/-- What is offered as the question of a predicate. -/
inductive Body (m : Type → Type) (γ : Type)
  | function (ask : γ → List Json → m Bool)
  | value (kind : Kind)

namespace Registry

/-- The names, in the order of registration. -/
def names (registry : Registry m γ) : List String :=
  registry.entries.keys

/-- The predicates, in the order of registration. -/
def predicates (registry : Registry m γ) : List (Predicate m γ) :=
  registry.entries.values

/-- The predicate of a name. -/
def resolve?
    (registry : Registry m γ)
    (name : String) :
    Option (Predicate m γ) :=
  registry.entries.value? name

/-- Takes no more predicates. -/
def freeze (registry : Registry m γ) : Registry m γ :=
  { registry with frozen := true }

/-- Adds a predicate under its name. -/
def add
    (registry : Registry m γ)
    (predicate : Predicate m γ) :
    Except Fault (Registry m γ) :=
  if registry.frozen then
    .error (.registryFrozen predicate.name)
  else if !isPredicateName predicate.name then
    .error (.predicateName predicate.name)
  else if registry.entries.has predicate.name then
    .error (.predicateTaken predicate.name)
  else
    .ok { registry with entries := registry.entries.put predicate.name predicate }

/-- A registry with the given predicates. -/
def ofPredicates (predicates : List (Predicate m γ)) : Except Fault (Registry m γ) :=
  predicates.foldlM add {}

/-- Reads an arity from its word. -/
def readArity (word : Json) : Except Fault Arity :=
  match word.text?.bind Arity.ofWord? with
  | some arity => .ok arity
  | none => .error .unknownArity

/-- Builds a predicate and adds it: the body has to be a function and the arity a known one;
without a limit the arity's own applies. -/
def register
    (registry : Registry m γ)
    (name : String)
    (arity : Json)
    (body : Body m γ)
    (limit : Option Int)
    (meaning : Option String) :
    Except Fault (Registry m γ × Predicate m γ) :=
  match body with
  | .value kind => .error (.notFunction name kind)
  | .function ask => do
      let arity ← readArity arity
      let predicate : Predicate m γ :=
        { name, arity, ask, maxArgs := limit.getD arity.defaultLimit, meaning }
      let registry ← registry.add predicate
      return (registry, predicate)

end Registry
end PageScripts
