import PageScripts.Json.Value
import PageScripts.Number.Shortest
import PageScripts.Text.Quoted

/-!
# Values in messages and descriptions

In messages and rule descriptions a text stands as it is, and any other value in its literal
form: `None`, `True`, `False`, a number, a list in brackets, an object in braces, with the
texts inside in quotes.
-/

namespace PageScripts
namespace Json

/-- The literal form of a truth value. -/
def boolLiteral (b : Bool) : String :=
  if b then "True" else "False"

mutual

/-- The literal form of a value. -/
def literal : Json → String
  | null => "None"
  | bool b => boolLiteral b
  | int n => toString n
  | float x => x.text
  | str s => Text.quote s
  | arr items => "[" ++ ", ".intercalate (literalItems items) ++ "]"
  | obj fields => "\x7b" ++ ", ".intercalate (literalMembers fields) ++ "\x7d"

/-- The literal forms of the items of a list. -/
def literalItems : List Json → List String
  | [] => []
  | x :: xs => literal x :: literalItems xs

/-- The literal forms of the members of an object. -/
def literalMembers : List (String × Json) → List String
  | [] => []
  | (k, x) :: rest => (Text.quote k ++ ": " ++ literal x) :: literalMembers rest

end

/-- A value as a text: a text is itself, any other value is its literal form. -/
def display : Json → String
  | str s => s
  | other => literal other

@[simp]
theorem display_str (s : String) :
    display (str s) = s :=
  rfl

end Json
end PageScripts
