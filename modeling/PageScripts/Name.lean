import PageScripts.Text.Slug

/-!
# Names of scripts and predicates

A handle names a script: ASCII letters, digits, dashes and underscores.  A predicate name
starts with a lower-case letter or an underscore and goes on with lower-case letters, digits
and underscores.  In both, one line feed at the very end does not count.
-/

namespace PageScripts

/-- A text without the line feed at its end. -/
def chomp (cs : List Char) : List Char :=
  if cs.getLast? = some '\n' then cs.dropLast else cs

/-- Whether a character may stand in a handle. -/
def isHandleChar (c : Char) : Bool :=
  Text.isAlnum c || c == '_' || c == '-'

/-- Whether a text names a script. -/
def isHandle (s : String) : Bool :=
  let body := chomp s.toList
  !body.isEmpty && body.all isHandleChar

/-- Whether a predicate name may start with a character. -/
def startsPredicateName (c : Char) : Bool :=
  ('a' ≤ c && c ≤ 'z') || c == '_'

/-- Whether a predicate name may go on with a character. -/
def isPredicateChar (c : Char) : Bool :=
  startsPredicateName c || ('0' ≤ c && c ≤ '9')

/-- Whether a text names a predicate. -/
def isPredicateName (s : String) : Bool :=
  match chomp s.toList with
  | [] => false
  | c :: rest => startsPredicateName c && rest.all isPredicateChar

end PageScripts
