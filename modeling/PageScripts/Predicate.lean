import PageScripts.Json.Value

/-!
# Predicates

A predicate is a named question about a request.  Its arity says which stored arguments it
takes: none at all, one scalar, or a list of scalars up to a limit; every predicate may be
asked without arguments.

Predicates are asked in a monad, so that a question may have effects; the predicates of the
vocabulary have none.
-/

namespace PageScripts

/-- The shape of the arguments that a predicate takes. -/
inductive Arity
  | nullary
  | unary
  | variadic
  deriving DecidableEq, Repr

namespace Arity

/-- The arities. -/
def all : List Arity :=
  [nullary, unary, variadic]

/-- The word for an arity. -/
def word : Arity → String
  | nullary => "none"
  | unary => "one"
  | variadic => "many"

/-- The arity of a word. -/
def ofWord? (word : String) : Option Arity :=
  all.find? fun arity => arity.word == word

/-- The most arguments, unless a predicate says otherwise. -/
def defaultLimit : Arity → Int
  | variadic => 2
  | _ => 1

/-- The arguments that a stored argument stands for, if a predicate of this arity takes
them. -/
def positional?
    (arity : Arity)
    (limit : Int)
    (argument : Json) :
    Option (List Json) :=
  match argument with
  | .bool true => some []
  | .null => some []
  | .arr items =>
      if arity = variadic ∧ (items.length : Int) ≤ limit ∧ items.all Json.isScalar then
        some items
      else
        none
  | scalar =>
      if scalar.isScalar ∧ arity ≠ nullary then some [scalar] else none

end Arity

/-- A named question about a request. -/
structure Predicate (m : Type → Type) (γ : Type) where
  name : String
  arity : Arity
  ask : γ → List Json → m Bool
  maxArgs : Int := 2
  meaning : Option String := none

/-- The arguments that a stored argument stands for, if the predicate takes them. -/
def Predicate.positional?
    {m : Type → Type}
    {γ : Type}
    (p : Predicate m γ)
    (argument : Json) :
    Option (List Json) :=
  p.arity.positional? p.maxArgs argument

end PageScripts
